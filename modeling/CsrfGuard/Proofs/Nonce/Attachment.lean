import CsrfGuard.Proofs.Nonce.Past

/-!
# Which slots share a cache

Several slots may look at the same sessions, and at the same attribute of them. What they share is
settled by the place alone, that is by session and attribute: slots that look at the same place find
the same cache, whichever of them made it, and a cache is never found at two places, so that nothing
done at one place is noticed at another (`one_cache_per_place`). All of this holds after any run of
`CacheAct`s, among them that attributes are emptied and removed.

## Strategy

Two equations say all that an act can do: what is attached after it (`attached_perform`), and what
becomes of the caches that were there before it (`getElem?_caches_perform`). That caches stay apart
follows from the first, because a cache that is made gets a number which no cache has had.
-/

namespace CsrfGuard

/-- Where a session keeps a cache. -/
structure CachePlace where
  session : Nat
  attributeName : AttributeName
  deriving Repr, DecidableEq

/-- What can be done with the caches of sessions. -/
inductive CacheAct where
  | get (slot : CacheSlot) (session : Nat)
  /-- The session gets a cache if it has none. -/
  | obtain (slot : CacheSlot) (session : Nat)
  /-- A nonce is added to the cache of the session, which gets one first if it has none. -/
  | add (slot : CacheSlot) (session : Nat) (nonce : String)
  /-- An attribute is set to nothing. -/
  | unset (session : Nat) (attributeName : AttributeName)
  | remove (session : Nat) (attributeName : AttributeName)
  deriving Repr, DecidableEq

namespace CacheAct

def place : CacheAct → CachePlace
  | get slot session => ⟨session, slot.attributeName⟩
  | obtain slot session => ⟨session, slot.attributeName⟩
  | add slot session _ => ⟨session, slot.attributeName⟩
  | unset session attributeName => ⟨session, attributeName⟩
  | remove session attributeName => ⟨session, attributeName⟩

/-- The slot that makes a cache in an act if there is none. -/
def maker? : CacheAct → Option CacheSlot
  | obtain slot _ => some slot
  | add slot _ _ => some slot
  | _ => none

/-- Whether nothing is attached any more after an act. -/
def detaches : CacheAct → Bool
  | unset _ _ => true
  | remove _ _ => true
  | _ => false

/-- What becomes of the cache at the place of an act. -/
def change : CacheAct → NonceCache → NonceCache
  | add _ _ nonce => (·.add nonce)
  | _ => id

@[simp] theorem capacity_change (act : CacheAct) (cache : NonceCache) :
    (act.change cache).capacity = cache.capacity := by
  cases act <;> rfl

end CacheAct

namespace Vault

/-- The number of the cache that is attached at a place. -/
def attached (vault : Vault) (place : CachePlace) : Option CacheNumber :=
  vault.attribute? place.session place.attributeName

/-- Carries out an act and answers with the number of the cache found, made or added to. -/
def perform (vault : Vault) : CacheAct → Option CacheNumber × Vault
  | .get slot session => (slot.find? vault session, vault)
  | .obtain slot session =>
      let (number, next, _) := slot.obtain vault session
      (some number, next)
  | .add slot session nonce =>
      let (number, next, _) := slot.obtain vault session
      (some number, next.addNonce number nonce)
  | .unset session attributeName =>
      (none, { vault with sessions := vault.sessions.modify session (·.set attributeName none) })
  | .remove session attributeName => (none, vault.detach session attributeName)

def after (vault : Vault) : List CacheAct → Vault
  | [] => vault
  | act :: rest => (vault.perform act).2.after rest

/-- The answers to acts that are carried out one after the other. -/
def answers (vault : Vault) : List CacheAct → List (Option CacheNumber)
  | [] => []
  | act :: rest => (vault.perform act).1 :: (vault.perform act).2.answers rest

variable {vault : Vault} {act : CacheAct} {place : CachePlace} {number : Nat}

/-! ## One act -/

theorem attached_detach (vault : Vault) (session : Nat) (name : AttributeName) :
    (vault.detach session name).attached =
      Function.update vault.attached ⟨session, name⟩ none := by
  funext place
  obtain ⟨other, attributeName⟩ := place
  simp only [attached, detach, attribute?_modify, Function.update_apply, CachePlace.mk.injEq]
  by_cases hsession : session = other
  · subst hsession
    cases hfound : vault.sessions[session]? with
    | none => simp [attribute?, hfound]
    | some found => simp [attribute?, hfound, Session.get?_remove]
  · have hother : ¬ other = session := fun heq => hsession heq.symm
    simp [hsession, hother]

/-- A slot attaches what it obtains, which is new if there was nothing. -/
theorem attached_obtain (slot : CacheSlot) {session : Nat}
    (hsession : session < vault.sessions.length) :
    (slot.obtain vault session).2.1.attached =
      Function.update vault.attached ⟨session, slot.attributeName⟩
        (some ((vault.attached ⟨session, slot.attributeName⟩).getD vault.caches.length)) := by
  funext place
  by_cases hplace : place = ⟨session, slot.attributeName⟩
  · subst hplace
    have hself : (slot.obtain vault session).2.1.attached ⟨session, slot.attributeName⟩ =
        some (slot.obtain vault session).1 := CacheSlot.find?_obtain_self slot hsession
    rw [Function.update_self, hself]
    cases hfind : slot.find? vault session with
    | some number =>
        have hattached : vault.attached ⟨session, slot.attributeName⟩ = some number := hfind
        rw [CacheSlot.obtain_of_find?_eq_some hfind, hattached, Option.getD_some]
    | none =>
        have hattached : vault.attached ⟨session, slot.attributeName⟩ = none := hfind
        rw [CacheSlot.obtain_of_find?_eq_none hfind, hattached, Option.getD_none]
  · rw [Function.update_of_ne hplace]
    apply CacheSlot.attribute?_obtain
    rintro ⟨hsame, hname, -⟩
    apply hplace
    rw [← hsame, ← hname]

/-- What is attached at the place of an act after it. -/
def attachedBy (vault : Vault) (act : CacheAct) : Option CacheNumber :=
  if act.detaches then none
  else
    match act.maker? with
    | some _ => some ((vault.attached act.place).getD vault.caches.length)
    | none => vault.attached act.place

/-- What is attached after an act was attached before, or has been made in it. -/
theorem attachedBy_cases (hattached : vault.attachedBy act = some number) :
    vault.attached act.place = some number ∨
      vault.attached act.place = none ∧ number = vault.caches.length ∧
        ∃ slot, act.maker? = some slot := by
  unfold attachedBy at hattached
  split at hattached
  · cases hattached
  · split at hattached
    · next slot hmaker =>
        cases hold : vault.attached act.place with
        | some found =>
            rw [hold, Option.getD_some] at hattached
            exact Or.inl hattached
        | none =>
            rw [hold, Option.getD_none, Option.some_inj] at hattached
            exact Or.inr ⟨rfl, hattached.symm, slot, hmaker⟩
    · exact Or.inl hattached

/-- An act attaches or detaches at its own place only. -/
theorem attached_perform (hsession : act.place.session < vault.sessions.length) :
    (vault.perform act).2.attached =
      Function.update vault.attached act.place (vault.attachedBy act) := by
  cases act with
  | get slot session => exact (Function.update_eq_self ..).symm
  | obtain slot session => exact attached_obtain slot hsession
  | add slot session nonce => exact attached_obtain slot hsession
  | unset session attributeName => exact attached_detach vault session attributeName
  | remove session attributeName => exact attached_detach vault session attributeName

/-- The caches made in an act: one if a cache is asked for where there is none. -/
def made (vault : Vault) (act : CacheAct) : List NonceCache :=
  match act.maker? with
  | some slot => if vault.attached act.place = none then [NonceCache.empty slot.capacity] else []
  | none => []

theorem number_obtain (slot : CacheSlot) (vault : Vault) (session : Nat) :
    (slot.obtain vault session).1 =
      (vault.attached ⟨session, slot.attributeName⟩).getD vault.caches.length := by
  have hattached : vault.attached ⟨session, slot.attributeName⟩ = slot.find? vault session := rfl
  rw [hattached]
  cases hfind : slot.find? vault session with
  | some number => rw [CacheSlot.obtain_of_find?_eq_some hfind, Option.getD_some]
  | none => rw [CacheSlot.obtain_of_find?_eq_none hfind, Option.getD_none]

theorem caches_obtain (slot : CacheSlot) (vault : Vault) (session : Nat) :
    (slot.obtain vault session).2.1.caches = vault.caches ++ vault.made (.obtain slot session) := by
  have hattached : vault.attached ⟨session, slot.attributeName⟩ = slot.find? vault session := rfl
  simp only [made, CacheAct.maker?, CacheAct.place, hattached]
  cases hfind : slot.find? vault session with
  | some number => simp [CacheSlot.obtain_of_find?_eq_some hfind]
  | none => simp [CacheSlot.obtain_of_find?_eq_none hfind]

/-- An act changes the cache at its own place only, which may have been made in it. -/
theorem caches_perform (vault : Vault) (act : CacheAct) :
    (vault.perform act).2.caches =
      (vault.caches ++ vault.made act).modify
        ((vault.attached act.place).getD vault.caches.length) act.change := by
  cases act with
  | get slot session => simp [perform, made, CacheAct.maker?, CacheAct.change]
  | obtain slot session =>
      simp only [perform, CacheAct.change, List.modify_id]
      exact caches_obtain slot vault session
  | add slot session nonce =>
      simp only [perform, addNonce, number_obtain, caches_obtain]
      rfl
  | unset session attributeName => simp [perform, made, CacheAct.maker?, CacheAct.change]
  | remove session attributeName =>
      simp [perform, made, CacheAct.maker?, CacheAct.change, detach]

/-- The answer to an act is what is attached after it. -/
theorem answer_perform (vault : Vault) (act : CacheAct) :
    (vault.perform act).1 = vault.attachedBy act := by
  cases act with
  | get slot session => rfl
  | obtain slot session => exact congrArg some (number_obtain slot vault session)
  | add slot session nonce => exact congrArg some (number_obtain slot vault session)
  | unset session attributeName => rfl
  | remove session attributeName => rfl

/-- A cache that was there before an act is as it was, unless it is attached where the act is. -/
theorem getElem?_caches_perform (hnumber : number < vault.caches.length) :
    (vault.perform act).2.caches[number]? =
      if vault.attached act.place = some number then (vault.caches[number]?).map act.change
      else vault.caches[number]? := by
  rw [caches_perform, List.getElem?_modify, List.getElem?_append_left hnumber]
  cases hattached : vault.attached act.place with
  | none =>
      have hne : ¬ vault.caches.length = number := by omega
      simp [hne]
  | some found => by_cases hfound : found = number <;> simp [hfound]

theorem getElem?_caches_made {slot : CacheSlot} (hmaker : act.maker? = some slot)
    (hnone : vault.attached act.place = none) :
    (vault.perform act).2.caches[vault.caches.length]? =
      some (act.change (.empty slot.capacity)) := by
  rw [caches_perform, List.getElem?_modify, hnone]
  simp [made, hmaker, hnone]

theorem length_caches_le_perform (vault : Vault) (act : CacheAct) :
    vault.caches.length ≤ (vault.perform act).2.caches.length := by
  rw [caches_perform, List.length_modify, List.length_append]
  omega

theorem length_sessions_perform (vault : Vault) (act : CacheAct) :
    (vault.perform act).2.sessions.length = vault.sessions.length := by
  cases act with
  | get slot session => rfl
  | obtain slot session => exact CacheSlot.length_sessions_obtain slot vault session
  | add slot session nonce => exact CacheSlot.length_sessions_obtain slot vault session
  | unset session attributeName => exact List.length_modify ..
  | remove session attributeName => exact List.length_modify ..

/-! ## Caches stay apart -/

/-- No cache is attached at two places, and every cache that is attached is there. -/
structure Separate (vault : Vault) : Prop where
  apart : ∀ first second number, vault.attached first = some number →
    vault.attached second = some number → first = second
  lt_length : ∀ place number, vault.attached place = some number → number < vault.caches.length

theorem separate_of_vacant (hvacant : ∀ place, vault.attached place = none) :
    vault.Separate where
  apart first _ _ hfirst := by simp [hvacant first] at hfirst
  lt_length place _ hplace := by simp [hvacant place] at hplace

namespace Separate

/-- What an act attaches was attached nowhere else. -/
theorem attachedBy_ne (separate : vault.Separate) (hplace : place ≠ act.place)
    (hnumber : vault.attached place = some number) : vault.attachedBy act ≠ some number := by
  intro hattached
  rcases attachedBy_cases hattached with hold | ⟨-, hnew, -⟩
  · exact hplace (separate.apart place act.place number hnumber hold)
  · -- A cache made in the act has a number that no cache had before.
    exact (separate.lt_length place number hnumber).ne hnew

theorem lt_length_attachedBy (separate : vault.Separate)
    (hattached : vault.attachedBy act = some number) :
    number < (vault.perform act).2.caches.length := by
  rcases attachedBy_cases hattached with hold | ⟨hnone, hnew, slot, hmaker⟩
  · exact (separate.lt_length act.place number hold).trans_le (length_caches_le_perform vault act)
  · rw [hnew]
    exact (List.getElem?_eq_some_iff.mp (getElem?_caches_made hmaker hnone)).1

theorem perform (separate : vault.Separate)
    (hsession : act.place.session < vault.sessions.length) :
    (vault.perform act).2.Separate := by
  constructor
  · intro first second number hfirst hsecond
    rw [attached_perform hsession] at hfirst hsecond
    by_cases hfirstPlace : first = act.place
    · by_cases hsecondPlace : second = act.place
      · rw [hfirstPlace, hsecondPlace]
      · rw [hfirstPlace, Function.update_self] at hfirst
        rw [Function.update_of_ne hsecondPlace] at hsecond
        exact absurd hfirst (separate.attachedBy_ne hsecondPlace hsecond)
    · rw [Function.update_of_ne hfirstPlace] at hfirst
      by_cases hsecondPlace : second = act.place
      · rw [hsecondPlace, Function.update_self] at hsecond
        exact absurd hsecond (separate.attachedBy_ne hfirstPlace hfirst)
      · rw [Function.update_of_ne hsecondPlace] at hsecond
        exact separate.apart first second number hfirst hsecond
  · intro place number hplace
    rw [attached_perform hsession] at hplace
    by_cases hsame : place = act.place
    · rw [hsame, Function.update_self] at hplace
      exact separate.lt_length_attachedBy hplace
    · rw [Function.update_of_ne hsame] at hplace
      exact (separate.lt_length place number hplace).trans_le (length_caches_le_perform vault act)

end Separate

/-! ## Acts in a row -/

/-- Whether all acts are done to sessions that are there. -/
def Admits (vault : Vault) (acts : List CacheAct) : Prop :=
  ∀ act ∈ acts, act.place.session < vault.sessions.length

theorem Admits.tail {rest : List CacheAct} (hadmits : vault.Admits (act :: rest)) :
    (vault.perform act).2.Admits rest := by
  intro next hnext
  rw [length_sessions_perform]
  exact hadmits next (List.mem_cons_of_mem act hnext)

theorem Admits.of_length_eq {other : Vault} {acts : List CacheAct} (hadmits : other.Admits acts)
    (hlength : vault.sessions.length = other.sessions.length) : vault.Admits acts :=
  fun act hact => (hadmits act hact).trans_eq hlength.symm

theorem Admits.head {rest : List CacheAct} (hadmits : vault.Admits (act :: rest)) :
    act.place.session < vault.sessions.length :=
  hadmits act List.mem_cons_self

theorem length_sessions_after (vault : Vault) (acts : List CacheAct) :
    (vault.after acts).sessions.length = vault.sessions.length := by
  induction acts generalizing vault with
  | nil => rfl
  | cons act rest ih => exact (ih (vault.perform act).2).trans (length_sessions_perform vault act)

theorem length_caches_le_after (vault : Vault) (acts : List CacheAct) :
    vault.caches.length ≤ (vault.after acts).caches.length := by
  induction acts generalizing vault with
  | nil => exact le_rfl
  | cons act rest ih => exact (length_caches_le_perform vault act).trans (ih _)

theorem Separate.after (separate : vault.Separate) {acts : List CacheAct}
    (hadmits : vault.Admits acts) : (vault.after acts).Separate := by
  induction acts generalizing vault with
  | nil => exact separate
  | cons act rest ih => exact ih (separate.perform hadmits.head) hadmits.tail

/-- Every number in an answer is that of a cache that is there by then. -/
theorem lt_length_of_mem_answers (separate : vault.Separate) {acts : List CacheAct}
    (hadmits : vault.Admits acts) (hmem : some number ∈ vault.answers acts) :
    number < (vault.after acts).caches.length := by
  induction acts generalizing vault with
  | nil => cases hmem
  | cons act rest ih =>
      rcases List.mem_cons.mp hmem with hfirst | hrest
      · have hlt := separate.lt_length_attachedBy (hfirst.trans (answer_perform vault act)).symm
        exact hlt.trans_le (length_caches_le_after _ rest)
      · exact ih (separate.perform hadmits.head) hadmits.tail hrest

/-- The capacity of a cache never changes. -/
theorem capacity_after {capacity : Capacity} (vault : Vault) (acts : List CacheAct)
    (hcapacity : (vault.caches[number]?).map (·.capacity) = some capacity) :
    ((vault.after acts).caches[number]?).map (·.capacity) = some capacity := by
  induction acts generalizing vault with
  | nil => exact hcapacity
  | cons act rest ih =>
      apply ih
      obtain ⟨cache, hcache, rfl⟩ := Option.map_eq_some_iff.mp hcapacity
      rw [getElem?_caches_perform (List.getElem?_eq_some_iff.mp hcache).1, hcache]
      split
      · simp
      · rfl

/-- What is found at a place, be it nothing, is found there after acts each of which keeps it. -/
theorem attached_after_of_kept {acts : List CacheAct} {found : Option CacheNumber}
    (hadmits : vault.Admits acts) (hplace : vault.attached place = found)
    (hkept : ∀ act ∈ acts, act.place = place →
      ∀ earlier : Vault, earlier.attached place = found → earlier.attachedBy act = found) :
    (vault.after acts).attached place = found := by
  induction acts generalizing vault with
  | nil => exact hplace
  | cons act rest ih =>
      refine ih hadmits.tail ?_ fun next hnext => hkept next (List.mem_cons_of_mem act hnext)
      rw [attached_perform hadmits.head]
      by_cases hsame : act.place = place
      · rw [hsame, Function.update_self]
        exact hkept act List.mem_cons_self hsame vault hplace
      · rwa [Function.update_of_ne (Ne.symm hsame)]

/-- What is attached stays attached until an act at its place detaches it. -/
theorem attached_after_of_attached {acts : List CacheAct} (hadmits : vault.Admits acts)
    (hplace : vault.attached place = some number)
    (hkept : ∀ act ∈ acts, act.place = place → act.detaches = false) :
    (vault.after acts).attached place = some number := by
  refine attached_after_of_kept hadmits hplace ?_
  rintro act hact rfl earlier hearlier
  rw [attachedBy, hkept act hact rfl, hearlier]
  cases act.maker? <;> rfl

/-- Where nothing is attached, nothing is until an act at the place asks for a cache. -/
theorem attached_after_of_vacant {acts : List CacheAct} (hadmits : vault.Admits acts)
    (hplace : vault.attached place = none)
    (hkept : ∀ act ∈ acts, act.place = place → act.maker? = none) :
    (vault.after acts).attached place = none := by
  refine attached_after_of_kept hadmits hplace ?_
  rintro act hact rfl earlier hearlier
  rw [attachedBy, hkept act hact rfl, hearlier]
  exact ite_self none

/-! ## Who made a cache -/

/-- In a run of acts, a cache was made by a slot that was asked for it at a place without one. -/
def MadeBy (vault : Vault) (acts : List CacheAct) (place : CachePlace) (number : CacheNumber)
    (slot : CacheSlot) : Prop :=
  ∃ earlier act rest, acts = earlier ++ act :: rest ∧ act.maker? = some slot ∧ act.place = place ∧
    (vault.after earlier).attached place = none ∧
    ((vault.after earlier).perform act).1 = some number

theorem MadeBy.cons {acts : List CacheAct} {slot : CacheSlot}
    (hmade : (vault.perform act).2.MadeBy acts place number slot) :
    vault.MadeBy (act :: acts) place number slot := by
  obtain ⟨earlier, maker, rest, rfl, hmaker, hplace, hnone, hanswer⟩ := hmade
  exact ⟨act :: earlier, maker, rest, rfl, hmaker, hplace, hnone, hanswer⟩

/-- A cache that was attached in a run was made in it, with the capacity of the slot it was made
for. -/
theorem attached_or_madeBy {acts : List CacheAct} (hadmits : vault.Admits acts)
    (hplace : (vault.after acts).attached place = some number) :
    vault.attached place = some number ∨
      ∃ slot, vault.MadeBy acts place number slot ∧
        ((vault.after acts).caches[number]?).map (·.capacity) = some slot.capacity := by
  induction acts generalizing vault with
  | nil => exact Or.inl hplace
  | cons act rest ih =>
      rcases ih hadmits.tail hplace with hnext | ⟨slot, hmade, hcapacity⟩
      · rw [attached_perform hadmits.head] at hnext
        by_cases hsame : place = act.place
        · subst hsame
          rw [Function.update_self] at hnext
          have hanswer := (answer_perform vault act).trans hnext
          rcases attachedBy_cases hnext with hold | ⟨hnone, hnew, slot, hmaker⟩
          · exact Or.inl hold
          · refine Or.inr ⟨slot, ⟨[], act, rest, rfl, hmaker, rfl, hnone, hanswer⟩, ?_⟩
            refine capacity_after (vault.perform act).2 rest ?_
            rw [hnew, getElem?_caches_made hmaker hnone, Option.map_some, CacheAct.capacity_change]
            rfl
        · rw [Function.update_of_ne hsame] at hnext
          exact Or.inl hnext
      · exact Or.inr ⟨slot, hmade.cons, hcapacity⟩

/-! ## One act more -/

/-- A slot that is asked for a cache where there is one answers with it and changes nothing. -/
theorem perform_obtain_of_attached {slot : CacheSlot} {session : Nat}
    (hnumber : vault.attached ⟨session, slot.attributeName⟩ = some number) :
    vault.perform (.obtain slot session) = (some number, vault) := by
  have hobtain := CacheSlot.obtain_of_find?_eq_some
    (show slot.find? vault session = some number from hnumber)
  simp only [perform, hobtain]

/-- A slot that is asked for a cache where there is none attaches a new one. -/
theorem perform_obtain_of_vacant {slot : CacheSlot} {session : Nat}
    (hsession : session < vault.sessions.length)
    (hnone : vault.attached ⟨session, slot.attributeName⟩ = none) :
    let outcome := vault.perform (.obtain slot session)
    outcome.1 = some vault.caches.length ∧
      outcome.2.attached ⟨session, slot.attributeName⟩ = some vault.caches.length ∧
      outcome.2.caches[vault.caches.length]? = some (.empty slot.capacity) := by
  intro outcome
  have hanswer : vault.attachedBy (.obtain slot session) = some vault.caches.length := by
    simp only [attachedBy, CacheAct.detaches, CacheAct.maker?, CacheAct.place, hnone]
    rfl
  have hattached : outcome.2.attached = _ := attached_perform hsession
  have hmaker : (CacheAct.obtain slot session).maker? = some slot := rfl
  refine ⟨(answer_perform vault _).trans hanswer, ?_, getElem?_caches_made hmaker hnone⟩
  rw [hattached, hanswer]
  exact Function.update_self ..

/-- What is attached elsewhere is not touched, nor is the cache there. -/
theorem Separate.perform_elsewhere (separate : vault.Separate)
    (hsession : act.place.session < vault.sessions.length) {other : CachePlace}
    (hother : other ≠ act.place) :
    (vault.perform act).2.attached other = vault.attached other ∧
      ∀ number, vault.attached other = some number →
        (vault.perform act).2.caches[number]? = vault.caches[number]? := by
  constructor
  · rw [attached_perform hsession]
    exact Function.update_of_ne hother ..
  · intro number hnumber
    have hapart : vault.attached act.place ≠ some number := fun hsame =>
      hother (separate.apart other act.place number hnumber hsame)
    rw [getElem?_caches_perform (separate.lt_length other number hnumber), if_neg hapart]

/-- Every slot that looks at a place finds what is attached there, be it nothing. -/
theorem perform_get (vault : Vault) (place : CachePlace) {slot : CacheSlot}
    (hslot : slot.attributeName = place.attributeName) :
    vault.perform (.get slot place.session) = (vault.attached place, vault) := by
  have hfind : slot.find? vault place.session = vault.attached place := by
    rw [attached, ← hslot]
    rfl
  rw [perform, hfind]

/-- An attribute that is set to nothing or removed holds no cache, and no cache has changed. -/
theorem perform_of_detaches (hdetaches : act.detaches = true)
    (hsession : act.place.session < vault.sessions.length) :
    (vault.perform act).2.attached act.place = none ∧
      (vault.perform act).2.caches = vault.caches := by
  constructor
  · rw [attached_perform hsession, Function.update_self, attachedBy, if_pos hdetaches]
  · cases act with
    | get => cases hdetaches
    | obtain => cases hdetaches
    | add => cases hdetaches
    | unset session attributeName => rfl
    | remove session attributeName => rfl

/-- After an attribute has been set to nothing or removed, every slot that looks at it finds nothing
until a cache is asked for there. -/
theorem perform_get_of_detaches (hdetaches : act.detaches = true)
    (hsession : act.place.session < vault.sessions.length) {later : List CacheAct}
    (hadmits : vault.Admits later)
    (hkept : ∀ other ∈ later, other.place = act.place → other.maker? = none)
    {slot : CacheSlot} (hslot : slot.attributeName = act.place.attributeName) :
    (((vault.perform act).2.after later).perform (.get slot act.place.session)).1 = none := by
  have hadmits : (vault.perform act).2.Admits later :=
    hadmits.of_length_eq (length_sessions_perform vault act)
  have hnone := (perform_of_detaches hdetaches hsession).1
  rw [perform_get _ act.place hslot]
  exact attached_after_of_vacant hadmits hnone hkept

/-! ## Any run -/

/-- After any run of acts on sessions that had no caches:
no cache is attached at two places;
a slot that is asked for a cache answers with the one attached at its place, changing nothing, and
that cache has the capacity of the slot that made it; if there is none, it attaches a new empty
cache of its own capacity, with a number that has not been answered before;
a slot that only looks finds what is attached at its place, or nothing, and changes nothing;
a cache that is attached is found by every slot that looks at its place until an act detaches it
there;
setting an attribute to nothing and removing it detach the cache there and change no cache, and no
slot that looks at the place finds a cache until one is asked for there again;
and an act leaves alone what is attached at other places, the caches there, and the caches that are
attached nowhere. -/
theorem one_cache_per_place (start : Vault) (hvacant : ∀ place, start.attached place = none)
    (before : List CacheAct) (hbefore : start.Admits before) :
    let vault := start.after before
    (∀ first second number, vault.attached first = some number →
      vault.attached second = some number → first = second) ∧
    (∀ slot session, session < start.sessions.length →
      let place : CachePlace := ⟨session, slot.attributeName⟩
      let outcome := vault.perform (.obtain slot session)
      (∀ number, vault.attached place = some number →
        outcome = (some number, vault) ∧
          ∃ maker, start.MadeBy before place number maker ∧
            (vault.caches[number]?).map (·.capacity) = some maker.capacity) ∧
      (vault.attached place = none →
        ∃ number, outcome.1 = some number ∧ some number ∉ start.answers before ∧
          (∀ other, vault.attached other ≠ some number) ∧
          outcome.2.attached place = some number ∧
          outcome.2.caches[number]? = some (.empty slot.capacity))) ∧
    (∀ slot session, vault.perform (.get slot session) =
      (vault.attached ⟨session, slot.attributeName⟩, vault)) ∧
    (∀ place number, vault.attached place = some number →
      ∀ later, start.Admits later →
        (∀ act ∈ later, act.place = place → act.detaches = false) →
        ∀ slot : CacheSlot, slot.attributeName = place.attributeName →
          ((vault.after later).perform (.get slot place.session)).1 = some number) ∧
    (∀ session name, session < start.sessions.length →
      ∀ act ∈ [CacheAct.unset session name, .remove session name],
        let next := (vault.perform act).2
        next.attached ⟨session, name⟩ = none ∧ next.caches = vault.caches ∧
          ∀ later, start.Admits later →
            (∀ act ∈ later, act.place = ⟨session, name⟩ → act.maker? = none) →
            ∀ slot : CacheSlot, slot.attributeName = name →
              ((next.after later).perform (.get slot session)).1 = none) ∧
    (∀ act, act.place.session < start.sessions.length →
      let next := (vault.perform act).2
      (∀ other, other ≠ act.place →
        next.attached other = vault.attached other ∧
          ∀ number, vault.attached other = some number →
            next.caches[number]? = vault.caches[number]?) ∧
      ∀ number < vault.caches.length, (∀ place, vault.attached place ≠ some number) →
        next.caches[number]? = vault.caches[number]?) := by
  intro vault
  have hlength : vault.sessions.length = start.sessions.length :=
    length_sessions_after start before
  have separate : vault.Separate := (separate_of_vacant hvacant).after hbefore
  refine ⟨separate.apart, ?_, fun slot session => perform_get vault ⟨session, _⟩ rfl, ?_, ?_, ?_⟩
  · intro slot session hsession place outcome
    constructor
    · intro number hnumber
      obtain ⟨maker, hmade, hcapacity⟩ :=
        (attached_or_madeBy hbefore hnumber).resolve_left (by simp [hvacant])
      exact ⟨perform_obtain_of_attached hnumber, maker, hmade, hcapacity⟩
    · intro hnone
      obtain ⟨hanswer, hattached, hempty⟩ :=
        perform_obtain_of_vacant (hsession.trans_eq hlength.symm) hnone
      refine ⟨vault.caches.length, hanswer, ?_, ?_, hattached, hempty⟩
      · intro hmem
        exact (lt_length_of_mem_answers (separate_of_vacant hvacant) hbefore hmem).ne rfl
      · intro other hother
        exact (separate.lt_length other _ hother).ne rfl
  · intro place number hnumber later hlater hkept slot hslot
    have hadmits : vault.Admits later := hlater.of_length_eq hlength
    rw [perform_get _ place hslot, attached_after_of_attached hadmits hnumber hkept]
  · intro session name hsession act hact next
    obtain ⟨hdetaches, hplace⟩ : act.detaches = true ∧ act.place = ⟨session, name⟩ := by
      simp only [List.mem_cons, List.not_mem_nil, or_false] at hact
      rcases hact with rfl | rfl <;> exact ⟨rfl, rfl⟩
    rw [← hplace]
    have hthere : act.place.session < vault.sessions.length := by
      rw [hplace, hlength]
      exact hsession
    obtain ⟨hnone, hcaches⟩ := perform_of_detaches hdetaches hthere
    refine ⟨hnone, hcaches, fun later hlater hkept slot hslot => ?_⟩
    have hget := perform_get_of_detaches hdetaches hthere (hlater.of_length_eq hlength) hkept
      (hslot.trans (congrArg CachePlace.attributeName hplace).symm)
    rwa [hplace] at hget
  · intro act hsession next
    constructor
    · intro other hother
      exact separate.perform_elsewhere (hsession.trans_eq hlength.symm) hother
    · intro number hlt hdetached
      rw [getElem?_caches_perform hlt, if_neg (hdetached act.place)]

/-- The cache of a small slot is found by a large one that looks at the same place, where an earlier
cache of the large slot has been detached. Once it has been removed, the large slot finds nothing
there, and gets a cache that has not been answered before. -/
theorem one_cache_per_place_two_slots :
    let large : CacheSlot := ⟨⟨3, by decide⟩, some "nonces"⟩
    let small : CacheSlot := ⟨⟨1, by decide⟩, some "nonces"⟩
    let start : Vault := ⟨[.create "a" 0, .create "b" 0], []⟩
    let before : List CacheAct :=
      [.add large 0 "01", .unset 0 (some "nonces"), .add small 0 "02"]
    let removed := before ++ [.remove 0 (some "nonces")]
    (∀ place, start.attached place = none) ∧ start.Admits before ∧ start.Admits removed ∧
      (start.after before).perform (.obtain large 0) = (some 1, start.after before) ∧
      (∃ maker, start.MadeBy before ⟨0, some "nonces"⟩ 1 maker ∧
        maker.capacity = small.capacity) ∧
      ((((start.after before).perform (.remove 0 (some "nonces"))).2.after
        [.add large 1 "03"]).perform (.get large 0)).1 = none ∧
      ∃ number, ((start.after removed).perform (.obtain large 0)).1 = some number ∧
        some number ∉ start.answers removed := by
  intro large small start before removed
  have hvacant : ∀ place, start.attached place = none := by
    rintro ⟨_ | _ | session, name⟩ <;> rfl
  have hbefore : start.Admits before := by
    simp [Admits, before, start, CacheAct.place]
  have hremoved : start.Admits removed := by
    simp [Admits, removed, before, start, CacheAct.place]
  obtain ⟨-, hasked, -, -, hdetached, -⟩ := one_cache_per_place start hvacant before hbefore
  obtain ⟨hsame, maker, hmade, hcapacity⟩ := (hasked large 0 (by decide)).1 1 (by decide +kernel)
  have hsmall : ((start.after before).caches[1]?).map (·.capacity) = some small.capacity := by
    decide +kernel
  refine ⟨hvacant, hbefore, hremoved, hsame, ⟨maker, hmade, ?_⟩, ?_, ?_⟩
  · exact Option.some_inj.mp (hcapacity.symm.trans hsmall)
  · obtain ⟨-, -, hnone⟩ := hdetached 0 (some "nonces") (by decide) (.remove 0 (some "nonces"))
      (by simp)
    refine hnone [.add large 1 "03"] ?_ ?_ large rfl
    · simp [Admits, start, CacheAct.place]
    · simp [CacheAct.place]
  · obtain ⟨-, hasked, -⟩ := one_cache_per_place start hvacant removed hremoved
    obtain ⟨number, hanswer, hnew, -⟩ := (hasked large 0 (by decide)).2 (by decide +kernel)
    exact ⟨number, hanswer, hnew⟩

end Vault

end CsrfGuard
