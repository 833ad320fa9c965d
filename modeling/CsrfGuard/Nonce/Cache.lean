import CsrfGuard.Error

/-!
# The nonces that are still valid

A nonce cache holds the nonces of one session, the newest last, at most as many as its capacity. A
nonce that is added goes to the newest place, whether it was there before or not, and the oldest
nonces go when there are too many. Looking a nonce up changes nothing: a nonce is valid until newer
ones push it out, so that pages open side by side do not spoil each other's nonces.
-/

namespace CsrfGuard

/-- How many nonces there is room for: at least one. -/
structure Capacity where
  size : Nat
  size_pos : 0 < size := by decide
  deriving Repr, DecidableEq

/-- The capacity of a size that was asked for. -/
def Capacity.ofInt (size : Int) : Except GuardError Capacity :=
  if hpos : 0 < size.toNat then .ok ⟨size.toNat, hpos⟩ else .error .capacityTooSmall

/-- The nonces of a session that are still valid. -/
structure NonceCache where
  capacity : Capacity
  entries : List String
  deriving Repr, DecidableEq

namespace NonceCache

def empty (capacity : Capacity) : NonceCache := ⟨capacity, []⟩

/-- An empty cache for a number of nonces, which must be at least one. -/
def ofCapacity (size : Int) : Except GuardError NonceCache := (Capacity.ofInt size).map empty

/-- The last entries of a list, `count` of them at most. -/
def lastEntries (count : Nat) (entries : List String) : List String :=
  entries.drop (entries.length - count)

def add (cache : NonceCache) (nonce : String) : NonceCache :=
  { cache with entries := lastEntries cache.capacity.size (cache.entries.erase nonce ++ [nonce]) }

/-- Whether a supplied nonce is valid. A missing or empty one never is. -/
def contains (cache : NonceCache) : Option String → Bool
  | none => false
  | some nonce => nonce ≠ "" && cache.entries.contains nonce

/-- The cache after a list of nonces has been added, from left to right. -/
def addAll (cache : NonceCache) (nonces : List String) : NonceCache := nonces.foldl add cache

@[simp] theorem entries_add (cache : NonceCache) (nonce : String) :
    (cache.add nonce).entries =
      lastEntries cache.capacity.size (cache.entries.erase nonce ++ [nonce]) := rfl

@[simp] theorem contains_none (cache : NonceCache) : cache.contains none = false := rfl

theorem contains_some (cache : NonceCache) (nonce : String) :
    cache.contains (some nonce) = true ↔ nonce ≠ "" ∧ nonce ∈ cache.entries := by
  simp [contains]

end NonceCache

end CsrfGuard
