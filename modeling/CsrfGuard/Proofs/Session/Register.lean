import CsrfGuard.Proofs.Session.Held
import Mathlib.Logic.Function.Basic

/-!
# A store that never gives a session up

A session store gives sessions up: stale ones at the front whenever it is used, and a stale one that
is looked up. A *register* does nothing of the kind. It is a plain map from identifiers to the
latest session created under each, and a lookup finds a session exactly if it has not been idle for
too long. The main statement is that nobody who only creates, looks up and ends sessions can tell
the two apart, as long as the clock is not set back (`answers_store_eq_answers_register`).

## Strategy

The simulation is `Agrees`: both know the same sessions, and whatever the register has for an
identifier the store either holds too, or the session is stale. A stale session stays stale, since
time only goes on and neither side touches it again; so what the store has given up is nothing that
the register would still find. The order in which the store holds its sessions plays no part, and an
identifier that is created a second time replaces its session on both sides.
-/

namespace CsrfGuard

variable {α : Type}

/-- All sessions, and the latest session created under each identifier unless it has been ended. What
is done to a session is spelled out in the operations below, field by field. -/
structure SessionRegister (α : Type) where
  /-- For how long, in milliseconds, a session may be idle. May be negative. -/
  idleLimit : Int
  sessions : List (Session α)
  latest : String → Option Nat

namespace SessionRegister

def empty (idleLimit : Int) : SessionRegister α := ⟨idleLimit, [], fun _ => none⟩

def isFresh (register : SessionRegister α) (now : Int) (number : Nat) : Bool :=
  (register.sessions[number]?).any fun session =>
    decide (now - session.lastAccessed ≤ register.idleLimit)

def create (register : SessionRegister α) (now : Int) (id : String) : Nat × SessionRegister α :=
  let number := register.sessions.length
  (number,
    { register with
      sessions := register.sessions ++
        [{ id := id, createdAt := now, lastAccessed := now, attributes := [] }]
      latest := Function.update register.latest id (some number) })

/-- Looks up the session of an identifier that is not empty. It is found, and marked as used,
exactly if it is fresh. -/
def get (register : SessionRegister α) (now : Int) (id : Option String) :
    Option Nat × SessionRegister α :=
  match id with
  | none => (none, register)
  | some id =>
      if id = "" then (none, register)
      else
        match register.latest id with
        | none => (none, register)
        | some number =>
            if register.isFresh now number then
              (some number,
                { register with
                  sessions := register.sessions.modify number fun session =>
                    { session with lastAccessed := now } })
            else (none, register)

def invalidate (register : SessionRegister α) (id : String) : SessionRegister α :=
  { register with latest := Function.update register.latest id none }

theorem get_eq_none {register : SessionRegister α} {now : Int} {id : String}
    (hlatest : ∀ number, register.latest id = some number →
      register.isFresh now number = false) :
    register.get now (some id) = (none, register) := by
  cases hnumber : register.latest id with
  | none => simp [get, hnumber]
  | some number => simp [get, hnumber, hlatest number hnumber]

theorem get_eq_some {register : SessionRegister α} {now : Int} {id : String} {number : Nat}
    (hid : id ≠ "") (hlatest : register.latest id = some number)
    (hfresh : register.isFresh now number = true) :
    register.get now (some id) =
      (some number,
        { register with
          sessions := register.sessions.modify number fun session =>
            { session with lastAccessed := now } }) := by
  simp [get, hid, hlatest, hfresh]

end SessionRegister

/-! ## The simulation -/

/-- A store and a register at a time: the same sessions, and the register has nothing to find that
the store does not hold. -/
structure Agrees (now : Int) (store : SessionStore α) (register : SessionRegister α) : Prop where
  idleLimit_eq : register.idleLimit = store.idleLimit
  sessions_eq : register.sessions = store.sessions
  held_once : store.heldIds.Nodup
  latest_of_held : ∀ id number, (id, number) ∈ store.held → register.latest id = some number
  /-- What the store has given up is stale. -/
  held_or_stale : ∀ id number, register.latest id = some number →
    (id, number) ∈ store.held ∨ store.isStale now number = true
  /-- A session is registered under the identifier it was created with. -/
  id_of_latest : ∀ id number, register.latest id = some number →
    ∃ session, store.session? number = some session ∧ session.id = id

theorem exists_of_stamp {sessions others : List (Session α)} {number : Nat} {session : Session α}
    (hstamp : (others[number]?).map Session.stamp = (sessions[number]?).map Session.stamp)
    (hsession : sessions[number]? = some session) :
    ∃ other, others[number]? = some other ∧ other.id = session.id ∧
      other.lastAccessed = session.lastAccessed := by
  rw [hsession, Option.map_some, Option.map_eq_some_iff] at hstamp
  obtain ⟨other, hother, hsame⟩ := hstamp
  simp only [Session.stamp, Prod.mk.injEq] at hsame
  exact ⟨other, hother, hsame.1, hsame.2.2⟩

namespace Agrees

variable {now : Int} {store : SessionStore α} {register : SessionRegister α}

theorem empty (now idleLimit : Int) :
    Agrees now (SessionStore.empty idleLimit : SessionStore α) (.empty idleLimit) where
  idleLimit_eq := rfl
  sessions_eq := rfl
  held_once := List.nodup_nil
  latest_of_held := by simp [SessionStore.empty]
  held_or_stale := by simp [SessionRegister.empty]
  id_of_latest := by simp [SessionRegister.empty]

theorem later {time : Int} (agrees : Agrees now store register) (hle : now ≤ time) :
    Agrees time store register where
  idleLimit_eq := agrees.idleLimit_eq
  sessions_eq := agrees.sessions_eq
  held_once := agrees.held_once
  latest_of_held := agrees.latest_of_held
  held_or_stale := fun id number hlatest =>
    (agrees.held_or_stale id number hlatest).imp_right (SessionStore.isStale_of_le hle)
  id_of_latest := agrees.id_of_latest

theorem isFresh_eq (agrees : Agrees now store register) {id : String} {number : Nat}
    (hlatest : register.latest id = some number) (time : Int) :
    register.isFresh time number = !store.isStale time number := by
  obtain ⟨session, hsession, -⟩ := agrees.id_of_latest id number hlatest
  have hregister : register.sessions[number]? = some session := by
    rw [agrees.sessions_eq]
    exact hsession
  rw [SessionRegister.isFresh, SessionStore.isStale, hsession, hregister, Option.any_some,
    Option.any_some, agrees.idleLimit_eq, ← decide_not, decide_eq_decide]
  exact Int.not_lt.symm

/-- Giving up stale sessions cannot be seen from the register. -/
theorem purge (agrees : Agrees now store register) : Agrees now (store.purge now) register where
  idleLimit_eq := agrees.idleLimit_eq
  sessions_eq := agrees.sessions_eq
  held_once := SessionStore.nodup_purge agrees.held_once
  latest_of_held := fun id number hheld =>
    agrees.latest_of_held id number ((SessionStore.held_purge_suffix store now).subset hheld)
  held_or_stale := by
    intro id number hlatest
    rcases agrees.held_or_stale id number hlatest with hheld | hstale
    · cases hfresh : store.isStale now number with
      | true => exact Or.inr hfresh
      | false => exact Or.inl (SessionStore.mem_purge_of_not_stale hheld hfresh)
    · exact Or.inr hstale
  id_of_latest := agrees.id_of_latest

/-- Nor can giving up a stale session that is looked up. -/
theorem giveUp (agrees : Agrees now store register) {id : String} {number : Nat}
    (hheld : (id, number) ∈ store.held) (hstale : store.isStale now number = true) :
    Agrees now (store.invalidate id) register where
  idleLimit_eq := agrees.idleLimit_eq
  sessions_eq := agrees.sessions_eq
  held_once := SessionStore.nodup_invalidate agrees.held_once
  latest_of_held := fun other found hfound =>
    agrees.latest_of_held other found (SessionStore.mem_invalidate.mp hfound).1
  held_or_stale := by
    intro other found hlatest
    rcases eq_or_ne other id with rfl | hne
    · have hsame := hlatest.symm.trans (agrees.latest_of_held other number hheld)
      rw [Option.some_inj.mp hsame]
      exact Or.inr hstale
    · exact (agrees.held_or_stale other found hlatest).imp_left fun hfound =>
        SessionStore.mem_invalidate.mpr ⟨hfound, hne⟩
  id_of_latest := agrees.id_of_latest

theorem use (agrees : Agrees now store register) {id : String} {number : Nat}
    (hheld : (id, number) ∈ store.held) (time : Int) :
    Agrees now ((store.touch number time).moveToEnd id number)
      { register with
        sessions := register.sessions.modify number fun session =>
          { session with lastAccessed := time } } where
  idleLimit_eq := agrees.idleLimit_eq
  sessions_eq := by
    rw [agrees.sessions_eq]
    rfl
  held_once := SessionStore.nodup_moveToEnd agrees.held_once
  latest_of_held := by
    intro other found hfound
    rcases SessionStore.mem_moveToEnd.mp hfound with ⟨hmem, -⟩ | hsame
    · exact agrees.latest_of_held other found hmem
    · cases hsame
      exact agrees.latest_of_held id number hheld
  held_or_stale := by
    intro other found hlatest
    rcases eq_or_ne other id with rfl | hne
    · have hsame := hlatest.symm.trans (agrees.latest_of_held other number hheld)
      rw [Option.some_inj.mp hsame]
      exact Or.inl (SessionStore.mem_moveToEnd.mpr (Or.inr rfl))
    · rcases agrees.held_or_stale other found hlatest with hmem | hstale
      · exact Or.inl (SessionStore.mem_moveToEnd.mpr (Or.inl ⟨hmem, hne⟩))
      · -- The session found is not the one marked: that one belongs to another identifier.
        obtain ⟨session, hsession, hid⟩ := agrees.id_of_latest other found hlatest
        obtain ⟨marked, hmarked, hmarkedId⟩ :=
          agrees.id_of_latest id number (agrees.latest_of_held id number hheld)
        have hother : number ≠ found := by
          rintro rfl
          rw [hsession, Option.some_inj] at hmarked
          subst hmarked
          exact hne (hid.symm.trans hmarkedId)
        refine Or.inr ?_
        exact (SessionStore.isStale_touch_of_ne hother).trans hstale
  id_of_latest := by
    intro other found hlatest
    obtain ⟨session, hsession, hid⟩ := agrees.id_of_latest other found hlatest
    change ∃ session, (store.touch number time).session? found = some session ∧ _
    rw [SessionStore.touch, SessionStore.session?_modify, hsession]
    split
    · exact ⟨session.touch time, rfl, hid⟩
    · exact ⟨session, rfl, hid⟩

/-- Neither side looks at attributes. -/
theorem withSessions (agrees : Agrees now store register) {sessions : List (Session α)}
    (hstamp : ∀ number : Nat, (sessions[number]?).map Session.stamp =
      (store.sessions[number]?).map Session.stamp) :
    Agrees now { store with sessions } { register with sessions } where
  idleLimit_eq := agrees.idleLimit_eq
  sessions_eq := rfl
  held_once := agrees.held_once
  latest_of_held := agrees.latest_of_held
  held_or_stale := by
    intro id number hlatest
    refine (agrees.held_or_stale id number hlatest).imp_right fun hstale => ?_
    obtain ⟨session, hsession, -⟩ := agrees.id_of_latest id number hlatest
    obtain ⟨other, hother, hsame⟩ := exists_of_stamp (hstamp number) hsession
    have hnew : SessionStore.session? { store with sessions } number = some other := hother
    rw [SessionStore.isStale_iff hsession] at hstale
    rw [SessionStore.isStale_iff hnew, hsame.2]
    exact hstale
  id_of_latest := by
    intro id number hlatest
    obtain ⟨session, hsession, hid⟩ := agrees.id_of_latest id number hlatest
    obtain ⟨other, hother, hsame⟩ := exists_of_stamp (hstamp number) hsession
    exact ⟨other, hother, hsame.1.trans hid⟩

/-! ### One operation -/

theorem get (agrees : Agrees now store register) (id : Option String) :
    (store.get now id).1 = (register.get now id).1 ∧
      Agrees now (store.get now id).2 (register.get now id).2 := by
  rcases id with _ | id
  · exact ⟨rfl, agrees⟩
  rcases eq_or_ne id "" with rfl | hid
  · exact ⟨rfl, agrees⟩
  have hpurged := agrees.purge
  rcases SessionStore.get_cases store now hid with
    ⟨hnone, hget⟩ | ⟨number, hnumber, ⟨hstale, hget⟩ | ⟨hfresh, hget⟩⟩
  · -- The store holds nothing, so that what the register may have is stale.
    have hlatest : ∀ number, register.latest id = some number →
        register.isFresh now number = false := by
      intro number hlatest
      rw [hpurged.isFresh_eq hlatest]
      rcases hpurged.held_or_stale id number hlatest with hheld | hstale
      · rw [← SessionStore.numberOf?_eq_some_iff hpurged.held_once, hnone] at hheld
        cases hheld
      · rw [hstale, Bool.not_true]
    rw [hget, SessionRegister.get_eq_none hlatest]
    exact ⟨rfl, hpurged⟩
  · -- The store holds a stale session, and the register has the same.
    have hheld := (SessionStore.numberOf?_eq_some_iff hpurged.held_once).mp hnumber
    have hlatest : ∀ found, register.latest id = some found →
        register.isFresh now found = false := by
      intro found hfound
      have hsame := hfound.symm.trans (hpurged.latest_of_held id number hheld)
      rw [hpurged.isFresh_eq hfound, Option.some_inj.mp hsame, hstale, Bool.not_true]
    rw [hget, SessionRegister.get_eq_none hlatest]
    exact ⟨rfl, hpurged.giveUp hheld hstale⟩
  · have hheld := (SessionStore.numberOf?_eq_some_iff hpurged.held_once).mp hnumber
    have hlatest := hpurged.latest_of_held id number hheld
    have hregister : register.isFresh now number = true := by
      rw [hpurged.isFresh_eq hlatest, hfresh, Bool.not_false]
    rw [hget, SessionRegister.get_eq_some hid hlatest hregister]
    exact ⟨rfl, hpurged.use hheld now⟩

/-- A new session is registered under its identifier on both sides, also if there was one. -/
theorem create (agrees : Agrees now store register) (id : String) :
    (store.create now id).1 = (register.create now id).1 ∧
      Agrees now (store.create now id).2 (register.create now id).2 := by
  have hpurged := agrees.purge
  have hlength : register.sessions.length = store.sessions.length := by rw [agrees.sessions_eq]
  -- A session that was there before is where it was.
  have hold : ∀ {number : Nat} {session : Session α}, store.session? number = some session →
      (store.create now id).2.session? number = some session := by
    intro number session hsession
    have hlt := (List.getElem?_eq_some_iff.mp hsession).1
    exact (List.getElem?_append_left hlt).trans hsession
  have hstale : ∀ {number : Nat} {session : Session α}, store.session? number = some session →
      (store.create now id).2.isStale now number = store.isStale now number := by
    intro number session hsession
    rw [SessionStore.isStale, SessionStore.isStale, hold hsession, hsession]
    rfl
  refine ⟨hlength.symm, ?_⟩
  constructor
  · exact agrees.idleLimit_eq
  · change register.sessions ++ [Session.create id now] = store.sessions ++ [Session.create id now]
    rw [agrees.sessions_eq]
  · exact SessionStore.nodup_hold hpurged.held_once
  · intro other number hheld
    change Function.update register.latest id (some register.sessions.length) other = some number
    rcases SessionStore.mem_hold.mp hheld with ⟨hmem, hne⟩ | hsame
    · rw [Function.update_of_ne hne]
      exact hpurged.latest_of_held other number hmem
    · cases hsame
      rw [Function.update_self, hlength]
  · intro other number hlatest
    change Function.update register.latest id (some register.sessions.length) other = some number
      at hlatest
    change (other, number) ∈ SessionStore.hold (store.purge now).held id store.sessions.length ∨ _
    -- The session created now is held; any other is held, or stale, as it was before.
    rcases eq_or_ne other id with rfl | hne
    · rw [Function.update_self, Option.some_inj] at hlatest
      exact Or.inl (SessionStore.mem_hold.mpr (Or.inr (by rw [← hlatest, hlength])))
    · rw [Function.update_of_ne hne] at hlatest
      obtain ⟨session, hsession, -⟩ := agrees.id_of_latest other number hlatest
      rw [hstale hsession]
      exact (hpurged.held_or_stale other number hlatest).imp_left fun hmem =>
        SessionStore.mem_hold.mpr (Or.inl ⟨hmem, hne⟩)
  · intro other number hlatest
    change Function.update register.latest id (some register.sessions.length) other = some number
      at hlatest
    rcases eq_or_ne other id with rfl | hne
    · rw [Function.update_self, Option.some_inj, hlength] at hlatest
      subst hlatest
      exact ⟨.create other now, List.getElem?_concat_length, rfl⟩
    · rw [Function.update_of_ne hne] at hlatest
      obtain ⟨session, hsession, hid⟩ := agrees.id_of_latest other number hlatest
      exact ⟨session, hold hsession, hid⟩

theorem invalidate (agrees : Agrees now store register) (id : String) :
    Agrees now (store.invalidate id) (register.invalidate id) := by
  have hkept : ∀ {other : String} {number : Nat},
      Function.update register.latest id none other = some number ↔
        register.latest other = some number ∧ other ≠ id := by
    intro other number
    rcases eq_or_ne other id with rfl | hne
    · simp
    · simp [hne]
  refine ⟨agrees.idleLimit_eq, agrees.sessions_eq,
    SessionStore.nodup_invalidate agrees.held_once, ?_, ?_, ?_⟩
  · intro other number hheld
    obtain ⟨hmem, hne⟩ := SessionStore.mem_invalidate.mp hheld
    exact hkept.mpr ⟨agrees.latest_of_held other number hmem, hne⟩
  · intro other number hlatest
    obtain ⟨hlatest, hne⟩ := hkept.mp hlatest
    exact (agrees.held_or_stale other number hlatest).imp_left fun hmem =>
      SessionStore.mem_invalidate.mpr ⟨hmem, hne⟩
  · intro other number hlatest
    exact agrees.id_of_latest other number (hkept.mp hlatest).1

end Agrees

/-! ## Runs -/

inductive SessionRequest where
  /-- A session is created under an identifier, which may be in use already. -/
  | create (id : String)
  | get (id : Option String)
  | invalidate (id : String)
  deriving Repr, DecidableEq

/-- The answers to requests that come one after the other, each some milliseconds after the one
before it, under a way `perform` of answering one at a time. -/
def SessionRequest.answers {State Answer : Type}
    (perform : State → Int → SessionRequest → Answer × State) (state : State) (now : Int) :
    List (Nat × SessionRequest) → List Answer
  | [] => []
  | (elapsed, request) :: rest =>
      let (answer, next) := perform state (now + elapsed) request
      answer :: answers perform next (now + elapsed) rest

/-- How a store answers: with the number of the session created or found, and the session as it is
then, with its times. -/
def SessionStore.perform (store : SessionStore α) (now : Int) :
    SessionRequest → Option (Nat × Session α) × SessionStore α
  | .create id =>
      let (number, next) := store.create now id
      ((next.sessions[number]?).map (number, ·), next)
  | .get id =>
      let (found, next) := store.get now id
      (found.bind fun number => (next.sessions[number]?).map (number, ·), next)
  | .invalidate id => (none, store.invalidate id)

/-- How a register answers, in the same form. -/
def SessionRegister.perform (register : SessionRegister α) (now : Int) :
    SessionRequest → Option (Nat × Session α) × SessionRegister α
  | .create id =>
      let (number, next) := register.create now id
      ((next.sessions[number]?).map (number, ·), next)
  | .get id =>
      let (found, next) := register.get now id
      (found.bind fun number => (next.sessions[number]?).map (number, ·), next)
  | .invalidate id => (none, register.invalidate id)

/-- One request is answered alike, and leaves the two in agreement. -/
theorem Agrees.perform {now : Int} {store : SessionStore α} {register : SessionRegister α}
    (agrees : Agrees now store register) (request : SessionRequest) :
    (store.perform now request).1 = (register.perform now request).1 ∧
      Agrees now (store.perform now request).2 (register.perform now request).2 := by
  cases request with
  | create id =>
      obtain ⟨hnumber, hnext⟩ := agrees.create id
      refine ⟨?_, hnext⟩
      simp only [SessionStore.perform, SessionRegister.perform, hnumber, hnext.sessions_eq]
  | get id =>
      obtain ⟨hfound, hnext⟩ := agrees.get id
      refine ⟨?_, hnext⟩
      simp only [SessionStore.perform, SessionRegister.perform, hfound, hnext.sessions_eq]
  | invalidate id => exact ⟨rfl, agrees.invalidate id⟩

theorem Agrees.answers_eq {now : Int} {store : SessionStore α} {register : SessionRegister α}
    (agrees : Agrees now store register) (requests : List (Nat × SessionRequest)) :
    SessionRequest.answers SessionStore.perform store now requests =
      SessionRequest.answers SessionRegister.perform register now requests := by
  induction requests generalizing now store register with
  | nil => rfl
  | cons first rest ih =>
      obtain ⟨elapsed, request⟩ := first
      have hlater : Agrees (now + elapsed) store register := agrees.later (by omega)
      obtain ⟨hanswer, hnext⟩ := hlater.perform request
      simp only [SessionRequest.answers, hanswer, ih hnext]

/-- A store that gives stale sessions up cannot be told from a register, which gives up none: every
request is answered by the same session with the same times. -/
theorem answers_store_eq_answers_register (idleLimit now : Int)
    (requests : List (Nat × SessionRequest)) :
    SessionRequest.answers SessionStore.perform (.empty idleLimit : SessionStore α) now requests =
      SessionRequest.answers SessionRegister.perform (.empty idleLimit : SessionRegister α) now
        requests :=
  (Agrees.empty now idleLimit).answers_eq requests

end CsrfGuard
