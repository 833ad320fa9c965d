/-!
# Sessions

A session is what the server keeps of one visitor: an identifier, the time at which it was created,
the time at which it was last used, and attributes by name. Times are in milliseconds on a clock
that may be set back. An attribute that is set to nothing is the same as one that was never set.
-/

namespace CsrfGuard

/-- The name of an attribute. The attribute without a name is one like any other. -/
abbrev AttributeName := Option String

/-- A session whose attributes have values in `α`. -/
structure Session (α : Type) where
  /-- The identifier, which the client keeps. -/
  id : String
  createdAt : Int
  lastAccessed : Int
  /-- The attributes that are set, each name once. -/
  attributes : List (AttributeName × α)
  deriving Repr, DecidableEq

namespace Session

variable {α : Type}

def create (id : String) (now : Int) : Session α := ⟨id, now, now, []⟩

/-- The value of an attribute, if it is set. -/
def get? (session : Session α) (name : AttributeName) : Option α := session.attributes.lookup name

def remove (session : Session α) (name : AttributeName) : Session α :=
  { session with attributes := session.attributes.filter (·.1 ≠ name) }

/-- The session with an attribute set to a value, or unset if there is no value. -/
def set (session : Session α) (name : AttributeName) : Option α → Session α
  | none => session.remove name
  | some value =>
      { session with attributes := (name, value) :: (session.remove name).attributes }

/-- The value of an attribute and the session unchanged; or, where the attribute is not set, the
value it is given then, the session with it, and the note that it was made. -/
def getOrSet (session : Session α) (name : AttributeName) (value : Option α) :
    Option α × Bool × Session α :=
  match session.get? name with
  | some found => (some found, false, session)
  | none => (value, true, session.set name value)

theorem getOrSet_of_get?_eq_none {session : Session α} {name : AttributeName}
    (hnone : session.get? name = none) (value : Option α) :
    session.getOrSet name value = (value, true, session.set name value) := by
  simp only [getOrSet, hnone]

def touch (session : Session α) (time : Int) : Session α := { session with lastAccessed := time }

/-- What a session is apart from its attributes: its identifier and its times. -/
def stamp (session : Session α) : String × Int × Int :=
  (session.id, session.createdAt, session.lastAccessed)

@[simp] theorem stamp_set (session : Session α) (name : AttributeName) (value : Option α) :
    (session.set name value).stamp = session.stamp := by
  cases value <;> rfl

/-! ## Attributes after a change -/

theorem lookup_filter_ne {attributes : List (AttributeName × α)}
    {name other : AttributeName} :
    (attributes.filter (·.1 ≠ name)).lookup other =
      if other = name then none else attributes.lookup other := by
  induction attributes with
  | nil => simp
  | cons entry rest ih =>
      obtain ⟨key, value⟩ := entry
      by_cases hkey : key = name
      · subst hkey
        by_cases hother : other = key
        · subst hother
          simpa using ih
        · have hbeq : (other == key) = false := by simpa using hother
          simpa [hother, List.lookup_cons, hbeq] using ih
      · by_cases hother : other = key
        · subst hother
          simp [hkey]
        · have hbeq : (other == key) = false := by simpa using hother
          simpa [hkey, List.lookup_cons, hbeq] using ih

@[simp] theorem get?_remove (session : Session α) (name other : AttributeName) :
    (session.remove name).get? other = if other = name then none else session.get? other :=
  lookup_filter_ne

@[simp] theorem get?_set (session : Session α) (name other : AttributeName) (value : Option α) :
    (session.set name value).get? other = if other = name then value else session.get? other := by
  cases value with
  | none => exact get?_remove session name other
  | some value =>
      by_cases hother : other = name
      · subst hother
        simp [set, get?]
      · have hbeq : (other == name) = false := by simpa using hother
        have hremove := get?_remove session name other
        rw [get?, if_neg hother] at hremove
        simp only [set, get?, List.lookup_cons, hbeq, if_neg hother]
        exact hremove

@[simp] theorem get?_touch (session : Session α) (time : Int) (name : AttributeName) :
    (session.touch time).get? name = session.get? name := rfl

@[simp] theorem get?_create (id : String) (name : AttributeName) (now : Int) :
    (create id now : Session α).get? name = none := rfl

end Session

end CsrfGuard
