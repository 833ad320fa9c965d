import CsrfGuard.Session.Basic

/-!
# The store of live sessions

A session store numbers the sessions it creates from zero and keeps every one of them, because who
got hold of a session may go on using it. Of these it *holds* the ones that can still be looked up:
`held` lists their identifiers, each with the number of its session, in the order in which they are
given up. That order is the order of last use as far as the store knows: a session goes to the end
when it is looked up, and a new one starts there. Only sessions that have been idle for longer than
the limit are given up, from the front of the list up to the first that has not (`purge`); so a
session out of order may be held for longer, but no lookup ever returns one that is stale.
-/

namespace CsrfGuard

/-- The sessions a server has created, and those it still holds. -/
structure SessionStore (α : Type) where
  /-- For how long, in milliseconds, a session may be idle. May be negative. -/
  idleLimit : Int
  sessions : List (Session α)
  /-- The identifiers held, with the number of the session each stands for, next to go first. -/
  held : List (String × Nat)
  deriving Repr, DecidableEq

namespace SessionStore

variable {α : Type}

def empty (idleLimit : Int) : SessionStore α := ⟨idleLimit, [], []⟩

def size (store : SessionStore α) : Nat := store.held.length

/-- The identifiers held, next to go first. -/
def heldIds (store : SessionStore α) : List String := store.held.map (·.1)

def session? (store : SessionStore α) (number : Nat) : Option (Session α) := store.sessions[number]?

/-- The number of the session held under an identifier. -/
def numberOf? (store : SessionStore α) (id : String) : Option Nat := store.held.lookup id

/-- Whether a session has been idle for longer than the limit. The clock is read in whole
milliseconds, and the limit is a whole number of them: a clock with fractions that are rounded may
decide otherwise for a session that has been idle for exactly the limit. -/
def isStale (store : SessionStore α) (now : Int) (number : Nat) : Bool :=
  (store.session? number).any fun session =>
    decide (store.idleLimit < now - session.lastAccessed)

/-- Gives up the stale sessions at the front, up to the first that is not. -/
def purge (store : SessionStore α) (now : Int) : SessionStore α :=
  { store with held := store.held.dropWhile fun entry => store.isStale now entry.2 }

/-- Gives up the session held under an identifier, if there is one. -/
def invalidate (store : SessionStore α) (id : String) : SessionStore α :=
  { store with held := store.held.filter (·.1 ≠ id) }

/-- Changes the session of a number, held or not. -/
def modify (store : SessionStore α) (number : Nat) (change : Session α → Session α) :
    SessionStore α :=
  { store with sessions := store.sessions.modify number change }

/-- Marks a session as used at a time, without a change to the order. -/
def touch (store : SessionStore α) (number : Nat) (time : Int) : SessionStore α :=
  store.modify number (·.touch time)

def moveToEnd (store : SessionStore α) (id : String) (number : Nat) : SessionStore α :=
  { store with held := (store.invalidate id).held ++ [(id, number)] }

/-- Looks up the session of an identifier. Stale sessions at the front are given up first; the one
looked up is given up too if it is stale, and is otherwise marked as used and put at the end. A
missing or empty identifier finds nothing and changes nothing. -/
def get (store : SessionStore α) (now : Int) (id : Option String) : Option Nat × SessionStore α :=
  match id with
  | none => (none, store)
  | some id =>
      if id = "" then (none, store)
      else
        let purged := store.purge now
        match purged.numberOf? id with
        | none => (none, purged)
        | some number =>
            if purged.isStale now number then (none, purged.invalidate id)
            else (some number, (purged.touch number now).moveToEnd id number)

/-- The order of the identifiers once a number is held under an identifier: in the place of the
identifier if it is held already, and else at the end. -/
def hold (held : List (String × Nat)) (id : String) (number : Nat) : List (String × Nat) :=
  if held.any (·.1 = id) then held.map fun entry => if entry.1 = id then (id, number) else entry
  else held ++ [(id, number)]

/-- Creates a session under an identifier, after stale sessions at the front have been given up. -/
def create (store : SessionStore α) (now : Int) (id : String) : Nat × SessionStore α :=
  let purged := store.purge now
  let number := store.sessions.length
  (number,
    { purged with
      sessions := store.sessions ++ [Session.create id now]
      held := hold purged.held id number })

/-! ## Sessions after a change -/

@[simp] theorem session?_modify (store : SessionStore α) (number other : Nat)
    (change : Session α → Session α) :
    (store.modify number change).session? other =
      if number = other then (store.session? other).map change else store.session? other := by
  rw [session?, modify, List.getElem?_modify]
  by_cases hnumber : number = other
  · simp [hnumber, session?]
  · simp [hnumber, session?]

end SessionStore

end CsrfGuard
