import CsrfGuard.Nonce.Slot
import CsrfGuard.Proofs.Nonce.Window
import Mathlib.Logic.Function.Basic

/-!
# What the caches of sessions tell about their past

The past of a session in a slot is nothing while the session has no cache, and else the list of all
strings added to its cache since the cache was attached. `Remembers` ties a vault to the pasts of
its sessions: a session without a past has no cache, one with a past has the cache that its
additions make of an empty one, and no two sessions share a cache. The last part is what keeps an
addition to one session out of the past of every other.

Each operation on a vault has one lemma that says whose past it changes, and how.
-/

namespace CsrfGuard

/-- The past of a session: the strings added to its cache, oldest first, if it has a cache. -/
abbrev Past := Option (List String)

/-- Whether a session with a past lets a supplied nonce pass: any, while it has no cache, and else
the last `window` distinct strings added, except for the empty one. -/
def Past.Admits (past : Past) (window : Nat) (supplied : Option String) : Prop :=
  past = none ∨
    ∃ added, past = some added ∧
      ∃ nonce, supplied = some nonce ∧ nonce ≠ "" ∧ nonce ∈ NonceCache.recent window added

instance (past : Past) (window : Nat) (supplied : Option String) :
    Decidable (past.Admits window supplied) :=
  decidable_of_iff
    (past.all fun added => supplied.any fun nonce =>
      nonce ≠ "" ∧ nonce ∈ NonceCache.recent window added)
    (by cases past <;> simp [Past.Admits, Option.any_eq_true])

def Vault.attribute? (vault : Vault) (session : Nat) (name : AttributeName) : Option CacheNumber :=
  vault.sessions[session]?.bind (·.get? name)

/-- A change to one session reaches no attribute of another. -/
theorem Vault.attribute?_modify (vault : Vault) (caches : List NonceCache) (session other : Nat)
    (name : AttributeName) (change : Session CacheNumber → Session CacheNumber) :
    Vault.attribute? ⟨vault.sessions.modify session change, caches⟩ other name =
      if session = other then (vault.sessions[other]?.map change).bind (·.get? name)
      else vault.attribute? other name := by
  rw [attribute?, List.getElem?_modify]
  split <;> simp [attribute?]

namespace CacheSlot

variable {slot : CacheSlot} {vault : Vault} {past : Nat → Past} {session number : Nat}

/-! ## What an operation leaves alone -/

theorem find?_modify (slot : CacheSlot) (vault : Vault) (caches : List NonceCache)
    (session other : Nat) (change : Session CacheNumber → Session CacheNumber) :
    slot.find? ⟨vault.sessions.modify session change, caches⟩ other =
      if session = other then
        (vault.sessions[other]?.map change).bind (·.get? slot.attributeName)
      else slot.find? vault other :=
  Vault.attribute?_modify vault caches session other slot.attributeName change

theorem find?_touch (slot : CacheSlot) (vault : Vault) (session other : Nat) (time : Int) :
    slot.find? ⟨vault.sessions.modify session (·.touch time), vault.caches⟩ other =
      slot.find? vault other := by
  rw [find?_modify]
  split
  · cases hfound : vault.sessions[other]? <;> simp [find?, hfound]
  · rfl

theorem find?_create (slot : CacheSlot) (vault : Vault) (id : String) (now : Int) (other : Nat) :
    slot.find? ⟨vault.sessions ++ [Session.create id now], vault.caches⟩ other =
      slot.find? vault other := by
  rcases Nat.lt_trichotomy other vault.sessions.length with hlt | rfl | hgt
  · simp [find?, List.getElem?_append_left hlt]
  · simp [find?]
  · have hold : vault.sessions[other]? = none := List.getElem?_eq_none hgt.le
    have hnew : (vault.sessions ++ [Session.create id now])[other]? = none := by
      rw [List.getElem?_eq_none_iff, List.length_append, List.length_singleton]
      omega
    simp [find?, hold, hnew]

theorem find?_detach (slot : CacheSlot) (vault : Vault) (session other : Nat) :
    slot.find? (vault.detach session slot.attributeName) other =
      if session = other then none else slot.find? vault other := by
  rw [Vault.detach, find?_modify]
  split
  · cases vault.sessions[other]? <;> simp
  · rfl

theorem obtain_of_find?_eq_some (hfind : slot.find? vault session = some number) :
    slot.obtain vault session = (number, vault, []) := by
  simp only [obtain, hfind]

theorem obtain_of_find?_eq_none (hfind : slot.find? vault session = none) :
    slot.obtain vault session =
      (vault.caches.length,
        ⟨vault.sessions.modify session (·.set slot.attributeName (some vault.caches.length)),
          vault.caches ++ [NonceCache.empty slot.capacity]⟩,
        [slot.creationRecord]) := by
  -- The attribute is looked at once more when it is set, and still has no value.
  have hattach : vault.sessions.modify session
      (fun found => (found.getOrSet slot.attributeName (some vault.caches.length)).2.2) =
        vault.sessions.modify session (·.set slot.attributeName (some vault.caches.length)) := by
    refine List.ext_getElem? fun other => ?_
    rw [List.getElem?_modify, List.getElem?_modify]
    split
    · next hother =>
        subst hother
        cases hfound : vault.sessions[session]? with
        | none => rfl
        | some found =>
            have hnone : found.get? slot.attributeName = none := by
              rw [find?, hfound] at hfind
              exact hfind
            exact congrArg (fun outcome => some outcome.2.2)
              (Session.getOrSet_of_get?_eq_none hnone _)
    · rfl
  simp only [obtain, hfind, hattach]

@[simp] theorem length_sessions_obtain (slot : CacheSlot) (vault : Vault) (session : Nat) :
    (slot.obtain vault session).2.1.sessions.length = vault.sessions.length := by
  cases hfind : slot.find? vault session with
  | some number => rw [obtain_of_find?_eq_some hfind]
  | none => simp [obtain_of_find?_eq_none hfind]

@[simp] theorem length_sessions_addNonce (vault : Vault) (number : CacheNumber) (nonce : String) :
    (vault.addNonce number nonce).sessions.length = vault.sessions.length := rfl

@[simp] theorem length_sessions_detach (vault : Vault) (session : Nat) (name : AttributeName) :
    (vault.detach session name).sessions.length = vault.sessions.length := by
  simp [Vault.detach]

/-- An attribute changes only where a cache is made: at the session that had none. -/
theorem attribute?_obtain {name : AttributeName} {other : Nat}
    (hother : ¬ (other = session ∧ name = slot.attributeName ∧ slot.find? vault session = none)) :
    (slot.obtain vault session).2.1.attribute? other name = vault.attribute? other name := by
  cases hfind : slot.find? vault session with
  | some number => rw [obtain_of_find?_eq_some hfind]
  | none =>
      rw [obtain_of_find?_eq_none hfind, Vault.attribute?_modify]
      by_cases hsession : session = other
      · have hname : name ≠ slot.attributeName := fun hname =>
          hother ⟨hsession.symm, hname, hfind⟩
        cases hfound : vault.sessions[other]? <;>
          simp [hsession, hname, hfound, Vault.attribute?]
      · rw [if_neg hsession]

theorem stamp_obtain (slot : CacheSlot) (vault : Vault) (session other : Nat) :
    ((slot.obtain vault session).2.1.sessions[other]?).map Session.stamp =
      (vault.sessions[other]?).map Session.stamp := by
  cases hfind : slot.find? vault session with
  | some number => rw [obtain_of_find?_eq_some hfind]
  | none =>
      rw [obtain_of_find?_eq_none hfind, List.getElem?_modify]
      cases vault.sessions[other]? with
      | none => rfl
      | some found =>
          by_cases hsession : session = other
          · simp [hsession]
          · simp [hsession]

theorem getElem?_caches_obtain {cache : NonceCache} (hcache : vault.caches[number]? = some cache) :
    (slot.obtain vault session).2.1.caches[number]? = some cache := by
  cases hfind : slot.find? vault session with
  | some found => rwa [obtain_of_find?_eq_some hfind]
  | none =>
      rw [obtain_of_find?_eq_none hfind]
      simp only
      rw [List.getElem?_append_left (List.getElem?_eq_some_iff.mp hcache).1, hcache]

theorem find?_obtain_self (slot : CacheSlot) (hsession : session < vault.sessions.length) :
    slot.find? (slot.obtain vault session).2.1 session = some (slot.obtain vault session).1 := by
  cases hfind : slot.find? vault session with
  | some number => rw [obtain_of_find?_eq_some hfind, hfind]
  | none =>
      rw [obtain_of_find?_eq_none hfind, find?_modify, if_pos rfl,
        List.getElem?_eq_getElem hsession]
      simp

theorem cache?_obtain_self (hfind : slot.find? vault session = none)
    (hsession : session < vault.sessions.length) :
    slot.cache? (slot.obtain vault session).2.1 session =
      some (NonceCache.empty slot.capacity) := by
  rw [cache?, find?_obtain_self slot hsession, obtain_of_find?_eq_none hfind]
  simp

theorem find?_obtain_of_ne (slot : CacheSlot) (vault : Vault) {other : Nat}
    (hother : session ≠ other) :
    slot.find? (slot.obtain vault session).2.1 other = slot.find? vault other := by
  cases hfind : slot.find? vault session with
  | some number => rw [obtain_of_find?_eq_some hfind]
  | none => rw [obtain_of_find?_eq_none hfind, find?_modify, if_neg hother]

/-! ## A vault that remembers -/

/-- The vault holds, in a slot, exactly what the pasts of the sessions call for. -/
structure Remembers (slot : CacheSlot) (vault : Vault) (past : Nat → Past) : Prop where
  vacant : ∀ session, past session = none → slot.find? vault session = none
  /-- A session with a past has the cache that its additions make of an empty one. -/
  attached : ∀ session added, past session = some added →
    ∃ number, slot.find? vault session = some number ∧
      vault.caches[number]? = some ((NonceCache.empty slot.capacity).addAll added)
  apart : ∀ first second number, slot.find? vault first = some number →
    slot.find? vault second = some number → first = second

/-- What is remembered hangs on what is found and on the caches only. -/
theorem Remembers.congr {other : Vault} (remembers : slot.Remembers vault past)
    (hfind : ∀ session, slot.find? other session = slot.find? vault session)
    (hcaches : other.caches = vault.caches) : slot.Remembers other past where
  vacant := fun session hpast => (hfind session).trans (remembers.vacant session hpast)
  attached := by simpa only [hfind, hcaches] using remembers.attached
  apart := by simpa only [hfind] using remembers.apart

/-- A vault none of whose sessions has a cache remembers that nothing has happened yet. -/
theorem remembers_of_vacant (hvacant : ∀ session, slot.find? vault session = none) :
    slot.Remembers vault fun _ => none where
  vacant := fun session _ => hvacant session
  attached := fun _ _ hpast => nomatch hpast
  apart := fun first _ _ hfirst => by simp [hvacant first] at hfirst

namespace Remembers

theorem cache?_eq (remembers : slot.Remembers vault past) (session : Nat) :
    slot.cache? vault session = (past session).map (NonceCache.empty slot.capacity).addAll := by
  cases hpast : past session with
  | none => simp [cache?, remembers.vacant session hpast]
  | some added =>
      obtain ⟨number, hfind, hcache⟩ := remembers.attached session added hpast
      simp [cache?, hfind, hcache]

/-- A nonce is let pass by the cache of a session, or by its having none, as the past says. -/
theorem all_contains_iff (remembers : slot.Remembers vault past) (session : Nat)
    (supplied : Option String) :
    (slot.cache? vault session).all (·.contains supplied) = true ↔
      (past session).Admits slot.capacity.size supplied := by
  rw [remembers.cache?_eq, Past.Admits]
  cases past session with
  | none => simp
  | some added => simp [NonceCache.contains_addAll]

/-- Every cache that a session has is there, so that the next cache made is a new one. -/
theorem number_lt (remembers : slot.Remembers vault past)
    (hfind : slot.find? vault session = some number) : number < vault.caches.length := by
  cases hpast : past session with
  | none => simp [remembers.vacant session hpast] at hfind
  | some added =>
      obtain ⟨found, hfound, hcache⟩ := remembers.attached session added hpast
      rw [hfind, Option.some_inj] at hfound
      subst hfound
      exact (List.getElem?_eq_some_iff.mp hcache).1

theorem lt_of_past {added : List String} (remembers : slot.Remembers vault past)
    (hpast : past session = some added) : session < vault.sessions.length := by
  obtain ⟨number, hfind, -⟩ := remembers.attached session added hpast
  obtain ⟨found, hfound, -⟩ := Option.bind_eq_some_iff.mp hfind
  exact (List.getElem?_eq_some_iff.mp hfound).1

/-- A session whose cache is asked for has a past from then on, if only an empty one. -/
theorem obtain (remembers : slot.Remembers vault past)
    (hsession : session < vault.sessions.length) :
    slot.Remembers (slot.obtain vault session).2.1
      (Function.update past session (some ((past session).getD []))) := by
  cases hpast : past session with
  | some added =>
      obtain ⟨number, hfind, -⟩ := remembers.attached session added hpast
      rw [obtain_of_find?_eq_some hfind, Option.getD_some, ← hpast, Function.update_eq_self]
      exact remembers
  | none =>
      have hfind := remembers.vacant session hpast
      have hself := find?_obtain_self slot hsession
      have hother : ∀ other, session ≠ other → _ := fun other => find?_obtain_of_ne slot vault
      rw [obtain_of_find?_eq_none hfind] at hself hother ⊢
      refine ⟨?_, ?_, ?_⟩
      · intro other hnone
        rcases eq_or_ne other session with rfl | hne
        · simp at hnone
        · rw [Function.update_of_ne hne] at hnone
          rw [hother other hne.symm]
          exact remembers.vacant other hnone
      · intro other added hadded
        rcases eq_or_ne other session with rfl | hne
        · rw [Function.update_self, Option.some_inj] at hadded
          exact ⟨_, hself, by simp [← hadded, NonceCache.addAll]⟩
        · rw [Function.update_of_ne hne] at hadded
          obtain ⟨number, hnumber, hcache⟩ := remembers.attached other added hadded
          refine ⟨number, by rw [hother other hne.symm, hnumber], ?_⟩
          rw [List.getElem?_append_left (remembers.number_lt hnumber), hcache]
      · -- A number found before is too small to be that of the new cache.
        intro first second number hfirst hsecond
        rcases eq_or_ne session first with rfl | hnefirst
        · rcases eq_or_ne session second with rfl | hnesecond
          · rfl
          · rw [hself, Option.some_inj] at hfirst
            rw [hother second hnesecond] at hsecond
            exact absurd hfirst.symm (remembers.number_lt hsecond).ne
        · rw [hother first hnefirst] at hfirst
          rcases eq_or_ne session second with rfl | hnesecond
          · rw [hself, Option.some_inj] at hsecond
            exact absurd hsecond.symm (remembers.number_lt hfirst).ne
          · rw [hother second hnesecond] at hsecond
            exact remembers.apart first second number hfirst hsecond

/-- An addition goes to the past of the session whose cache it is made to. -/
theorem addNonce {added : List String} (remembers : slot.Remembers vault past)
    (hfind : slot.find? vault session = some number) (hpast : past session = some added)
    (nonce : String) :
    slot.Remembers (vault.addNonce number nonce)
      (Function.update past session (some (added ++ [nonce]))) := by
  refine ⟨?_, ?_, fun first second found => remembers.apart first second found⟩
  · intro other hnone
    rcases eq_or_ne other session with rfl | hne
    · simp at hnone
    · rw [Function.update_of_ne hne] at hnone
      exact remembers.vacant other hnone
  · intro other before hbefore
    rcases eq_or_ne other session with rfl | hne
    · rw [Function.update_self, Option.some_inj] at hbefore
      obtain ⟨found, hfound, hcache⟩ := remembers.attached other added hpast
      obtain rfl : found = number := Option.some_inj.mp (hfound.symm.trans hfind)
      refine ⟨found, hfound, ?_⟩
      rw [Vault.addNonce, List.getElem?_modify, hcache, ← hbefore, ← NonceCache.add_addAll]
      simp
    · rw [Function.update_of_ne hne] at hbefore
      obtain ⟨found, hfound, hcache⟩ := remembers.attached other before hbefore
      -- Another session has another cache, which the addition does not reach.
      have hapart : number ≠ found := by
        rintro rfl
        exact hne (remembers.apart other session number hfound hfind)
      refine ⟨found, hfound, ?_⟩
      rw [Vault.addNonce, List.getElem?_modify, hcache]
      simp [hapart]

theorem obtain_addNonce (remembers : slot.Remembers vault past)
    (hsession : session < vault.sessions.length) (nonce : String) :
    slot.Remembers ((slot.obtain vault session).2.1.addNonce (slot.obtain vault session).1 nonce)
      (Function.update past session (some ((past session).getD [] ++ [nonce]))) := by
  have hobtained := remembers.obtain hsession
  have hself := find?_obtain_self slot hsession
  have hadded := hobtained.addNonce hself (Function.update_self ..) nonce
  rwa [Function.update_idem] at hadded

theorem detach (remembers : slot.Remembers vault past) (session : Nat) :
    slot.Remembers (vault.detach session slot.attributeName)
      (Function.update past session none) := by
  refine ⟨?_, ?_, ?_⟩
  · intro other hnone
    rw [find?_detach]
    split
    · rfl
    · next hne =>
        rw [Function.update_of_ne (Ne.symm hne)] at hnone
        exact remembers.vacant other hnone
  · intro other added hadded
    rcases eq_or_ne other session with rfl | hne
    · simp at hadded
    · rw [Function.update_of_ne hne] at hadded
      rw [find?_detach, if_neg hne.symm]
      exact remembers.attached other added hadded
  · intro first second number hfirst hsecond
    rw [find?_detach] at hfirst hsecond
    split at hfirst
    · cases hfirst
    · split at hsecond
      · cases hsecond
      · exact remembers.apart first second number hfirst hsecond

end Remembers

end CacheSlot

end CsrfGuard
