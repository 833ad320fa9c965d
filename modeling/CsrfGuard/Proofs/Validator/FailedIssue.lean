import CsrfGuard.Proofs.Validator.History

/-!
# What a request leaves behind for which no nonce could be made

A request that passes gets a nonce, but the random source may fail to give one. The cache of the
session is asked for before the nonce, so that such a request has already done what attaching a
cache does, and nothing else (`memory_of_source_failure`). On a session with a cache that is nothing
at all. On a session without one it is an empty cache, and an empty cache rejects every request that
is not for an entry point: a failed first request does leave a trace
(`failed_first_request_leaves_cache`). It stays until the cache is filled or dropped.

## Strategy

What later steps report is compared between two runs: one after the failed request, and one in which
it was never made and the random source never gave the failing answer (`RandomSource.without`). The
second is one call behind the first from then on (`GuardMemory.oneCallLater`), and a step keeps it
so (`step_oneCallLater`).

That the cache stays empty needs that no other session has it, since an addition there would fill it
as well. `OwnEmptyCache` says both, and only the steps named by `FillsOrDrops` can end it
(`ownEmptyCache_step`).
-/

namespace CsrfGuard

/-- The source as it would be without its answer to one call: later answers come a call earlier. -/
def RandomSource.without (source : RandomSource) (call : Nat) : RandomSource where
  answer number bytes := source.answer (if number < call then number else number + 1) bytes

/-- The same memory after one more call of the random source. -/
def GuardMemory.oneCallLater (memory : GuardMemory) : GuardMemory :=
  { memory with calls := memory.calls + 1 }

/-- What can be seen of an outcome: the result and the records written. -/
def Outcome.report {α : Type} (outcome : Outcome α) : Except GuardError α × List Record :=
  (outcome.result, outcome.records)

/-- The outcome with the memory after one more call of the random source. -/
def Outcome.oneCallLater {α : Type} (outcome : Outcome α) : Outcome α :=
  { outcome with memory := outcome.memory.oneCallLater }

namespace Validator

variable {validator : Validator} {source : RandomSource} {memory : GuardMemory}
  {request : GuardedRequest}

/-! ## Leaving an answer out -/

theorem generate_without (generator : NonceGenerator) (source : RandomSource) {skipped calls : Nat}
    (hcalls : skipped ≤ calls) :
    generator.generate (source.without (skipped + 1)) calls =
      generator.generate source (calls + 1) := by
  -- The next call comes after the one that is left out, and so gets the answer to the one after it.
  have hlate : ¬ calls + 1 < skipped + 1 := by omega
  simp only [NonceGenerator.generate, RandomSource.without, if_neg hlate]

theorem issue_oneCallLater (validator : Validator) (source : RandomSource) {skipped : Nat}
    (hcalls : skipped ≤ memory.calls) (decision : Decision) (request : GuardedRequest)
    (session : Nat) :
    validator.issue source memory.oneCallLater decision request session =
      (validator.issue (source.without (skipped + 1)) memory decision request
        session).oneCallLater := by
  have hgenerate := generate_without validator.generator source hcalls
  cases hmade : validator.generator.generate source (memory.calls + 1) with
  | error cause =>
      rw [issue_of_error (hgenerate.trans hmade), issue_of_error hmade]
      rfl
  | ok nonce =>
      rw [issue_of_ok (hgenerate.trans hmade), issue_of_ok hmade]
      rfl

theorem process_oneCallLater (validator : Validator) (source : RandomSource) {skipped : Nat}
    (hcalls : skipped ≤ memory.calls) (request : GuardedRequest) (session : Option Nat) :
    validator.process source memory.oneCallLater request session =
      (validator.process (source.without (skipped + 1)) memory request session).oneCallLater := by
  -- A decision looks at the vault only.
  have hsame : validator.decide memory.oneCallLater.vault request session =
      validator.decide memory.vault request session := rfl
  by_cases hdecide : validator.decide memory.vault request session = .rejected
  · rw [process_of_rejected hdecide, process_of_rejected (hsame.trans hdecide)]
    rfl
  · have hlater : validator.decide memory.oneCallLater.vault request session ≠ .rejected := hdecide
    cases session with
    | none =>
        rw [process_none_of_ne_rejected hdecide, process_none_of_ne_rejected hlater]
        rfl
    | some session =>
        rw [process_of_ne_rejected hdecide, process_of_ne_rejected hlater,
          issue_oneCallLater validator source hcalls]
        rfl

theorem step_oneCallLater (validator : Validator) (source : RandomSource) {skipped : Nat}
    (hcalls : skipped ≤ memory.calls) (next : Step) :
    validator.step source memory.oneCallLater next =
      (validator.step (source.without (skipped + 1)) memory next).oneCallLater := by
  obtain ⟨session, action⟩ := next
  cases action with
  | process request =>
      simp only [step, process_oneCallLater validator source hcalls]
      rfl
  | check request => rfl
  | askEntryPoint request => rfl
  | attach => cases session <;> rfl
  | add nonce => cases session <;> rfl
  | reset => cases session <;> rfl

theorem calls_le_step (validator : Validator) (source : RandomSource) (memory : GuardMemory)
    (next : Step) : memory.calls ≤ (validator.step source memory next).memory.calls := by
  obtain ⟨session, action⟩ := next
  cases session with
  | none => rw [memory_step_of_no_session]
  | some session =>
      cases action with
      | process request =>
          by_cases hdecide : validator.decide memory.vault request (some session) = .rejected
          · simp [step, process_of_rejected hdecide]
          · simp only [step, process_of_ne_rejected hdecide]
            cases hmade : validator.generator.generate source memory.calls with
            | error cause => simp [issue_of_error hmade]
            | ok nonce => simp [issue_of_ok hmade]
      | _ => exact le_rfl

/-- Steps report the same one call later. -/
theorem run_oneCallLater (validator : Validator) (source : RandomSource) {skipped : Nat}
    (hcalls : skipped ≤ memory.calls) (steps : List Step) :
    (validator.run source memory.oneCallLater steps).map Outcome.report =
      (validator.run (source.without (skipped + 1)) memory steps).map Outcome.report := by
  induction steps generalizing memory with
  | nil => rfl
  | cons first rest ih =>
      simp only [run, List.map_cons, step_oneCallLater validator source hcalls]
      refine congrArg₂ List.cons rfl (ih ?_)
      exact hcalls.trans (calls_le_step ..)

/-! ## The failed request -/

/-- The memory after a cache has been attached to a session that has none. -/
def attachedMemory (validator : Validator) (memory : GuardMemory) (session : Nat) : GuardMemory :=
  { memory with vault := (validator.slot.obtain memory.vault session).2.1 }

/-- A request for which the source gave no nonce has attached a cache and called the source. -/
theorem memory_of_source_failure {session : Option Nat} {cause : GuardError}
    (hresult : (validator.process source memory request session).result = .error cause)
    (hcause : cause.IsSourceFailure) :
    ∃ number, session = some number ∧
      (validator.process source memory request session).memory =
        (validator.attachedMemory memory number).oneCallLater := by
  by_cases hdecide : validator.decide memory.vault request session = .rejected
  · rw [process_of_rejected hdecide] at hresult
    cases hresult
    exact hcause.elim
  · cases session with
    | none =>
        rw [process_none_of_ne_rejected hdecide] at hresult
        cases hresult
        exact hcause.elim
    | some number =>
        refine ⟨number, rfl, ?_⟩
        rw [process_of_ne_rejected hdecide] at hresult ⊢
        cases hmade : validator.generator.generate source memory.calls with
        | error cause => rw [issue_of_error hmade]; rfl
        | ok nonce =>
            rw [issue_of_ok hmade] at hresult
            cases hresult

/-- A session with an empty cache has every request rejected that is not for an entry point. -/
theorem decide_of_cache_empty {vault : Vault} {session : Nat} {capacity : Capacity}
    (hcache : validator.slot.cache? vault session = some (.empty capacity))
    (hentry : validator.isEntryPoint request = false) :
    validator.decide vault request (some session) = .rejected := by
  rw [decide_of_not_entryPoint hentry, cache?, Option.bind_some, hcache]
  cases hnonce : request.nonce <;> simp [NonceCache.contains, NonceCache.empty]

/-! ## A cache that stays empty -/

end Validator

namespace CacheSlot

/-- A session has an empty cache, with a number that no other session has. -/
structure OwnEmptyCache (slot : CacheSlot) (vault : Vault) (session : Nat)
    (number : CacheNumber) : Prop where
  found : slot.find? vault session = some number
  empty : vault.caches[number]? = some (.empty slot.capacity)
  own : ∀ other, slot.find? vault other = some number → other = session

namespace OwnEmptyCache

variable {slot : CacheSlot} {vault : Vault} {session other : Nat} {number : CacheNumber}

theorem cache?_eq (hown : slot.OwnEmptyCache vault session number) :
    slot.cache? vault session = some (.empty slot.capacity) := by
  rw [cache?, hown.found, Option.bind_some, hown.empty]

theorem number_lt (hown : slot.OwnEmptyCache vault session number) :
    number < vault.caches.length :=
  (List.getElem?_eq_some_iff.mp hown.empty).1

/-- What another session gets when it asks for its cache is another cache. -/
theorem ne_obtain (hown : slot.OwnEmptyCache vault session number) (hother : other ≠ session) :
    (slot.obtain vault other).1 ≠ number := by
  cases hfind : slot.find? vault other with
  | some found =>
      rw [obtain_of_find?_eq_some hfind]
      rintro rfl
      exact hother (hown.own other hfind)
  | none =>
      rw [obtain_of_find?_eq_none hfind]
      exact hown.number_lt.ne'

theorem obtain (hown : slot.OwnEmptyCache vault session number) (asking : Nat) :
    slot.OwnEmptyCache (slot.obtain vault asking).2.1 session number := by
  rcases eq_or_ne asking session with rfl | hasking
  · rw [obtain_of_find?_eq_some hown.found]
    exact hown
  · refine ⟨?_, getElem?_caches_obtain hown.empty, fun other hfind => ?_⟩
    · rw [find?_obtain_of_ne slot vault hasking, hown.found]
    · rcases eq_or_ne asking other with rfl | hother
      · -- A session that is not there finds nothing, also after it has asked.
        by_cases hthere : asking < vault.sessions.length
        · rw [find?_obtain_self slot hthere, Option.some_inj] at hfind
          exact absurd hfind (hown.ne_obtain hasking)
        · rw [find?, List.getElem?_eq_none (by simpa using hthere)] at hfind
          cases hfind
      · rw [find?_obtain_of_ne slot vault hother] at hfind
        exact hown.own other hfind

theorem addNonce (hown : slot.OwnEmptyCache vault session number) {place : CacheNumber}
    (hplace : place ≠ number) (nonce : String) :
    slot.OwnEmptyCache (vault.addNonce place nonce) session number where
  found := hown.found
  empty := by
    rw [Vault.addNonce, List.getElem?_modify, hown.empty]
    simp [hplace]
  own := hown.own

theorem detach (hown : slot.OwnEmptyCache vault session number) (hother : other ≠ session) :
    slot.OwnEmptyCache (vault.detach other slot.attributeName) session number where
  found := by rw [find?_detach, if_neg hother, hown.found]
  empty := hown.empty
  own := by
    intro holder hfind
    rw [find?_detach] at hfind
    split at hfind
    · cases hfind
    · exact hown.own holder hfind

end OwnEmptyCache

/-- A cache that is made for a session is its own, if no session had its number before. -/
theorem ownEmptyCache_obtain {slot : CacheSlot} {vault : Vault} {session : Nat}
    (hnone : slot.find? vault session = none) (hsession : session < vault.sessions.length)
    (hnew : ∀ holder, slot.find? vault holder ≠ some vault.caches.length) :
    slot.OwnEmptyCache (slot.obtain vault session).2.1 session vault.caches.length where
  found := by rw [find?_obtain_self slot hsession, obtain_of_find?_eq_none hnone]
  empty := by simp [obtain_of_find?_eq_none hnone]
  own := by
    intro other hfind
    by_contra hother
    rw [find?_obtain_of_ne slot vault (Ne.symm hother)] at hfind
    exact hnew other hfind

end CacheSlot

namespace Validator

variable {validator : Validator} {source : RandomSource} {memory : GuardMemory}
  {request : GuardedRequest}

/-- The actions, with their results, after which the cache of the session is not what it was: it has
one nonce more, or it is the session's no longer. -/
inductive FillsOrDrops : Action → Except GuardError Answer → Prop
  | passed (request : GuardedRequest) (answer : Answer) :
      FillsOrDrops (.process request) (.ok answer)
  | added (nonce : String) (result : Except GuardError Answer) : FillsOrDrops (.add nonce) result
  | reset (result : Except GuardError Answer) : FillsOrDrops .reset result

theorem ownEmptyCache_step {session : Nat} {number : CacheNumber}
    (hown : validator.slot.OwnEmptyCache memory.vault session number) (source : RandomSource)
    (next : Step)
    (hnext : next.session = some session →
      ¬ FillsOrDrops next.action (validator.step source memory next).result) :
    validator.slot.OwnEmptyCache (validator.step source memory next).memory.vault session
      number := by
  obtain ⟨holder, action⟩ := next
  cases holder with
  | none => rwa [memory_step_of_no_session]
  | some holder =>
      -- What fills or drops a cache was done to the cache of another session.
      have hother : FillsOrDrops action
          (validator.step source memory ⟨some holder, action⟩).result → holder ≠ session := by
        rintro hends rfl
        exact hnext rfl hends
      cases action with
      | process request =>
          by_cases hdecide : validator.decide memory.vault request (some holder) = .rejected
          · simpa only [step, process_of_rejected hdecide] using hown
          · simp only [step, process_of_ne_rejected hdecide] at hother ⊢
            cases hmade : validator.generator.generate source memory.calls with
            | error cause =>
                rw [issue_of_error hmade]
                exact hown.obtain holder
            | ok nonce =>
                rw [issue_of_ok hmade] at hother ⊢
                have hcache := hown.ne_obtain (hother (.passed ..))
                exact (hown.obtain holder).addNonce hcache nonce
      | check request => exact hown
      | askEntryPoint request => exact hown
      | attach => exact hown.obtain holder
      | add nonce =>
          have hcache := hown.ne_obtain (hother (.added ..))
          exact (hown.obtain holder).addNonce hcache nonce
      | reset => exact hown.detach (hother (.reset _))

theorem ownEmptyCache_memoryAfter {session : Nat} {number : CacheNumber}
    (hown : validator.slot.OwnEmptyCache memory.vault session number) (source : RandomSource)
    (steps : List Step)
    (hsteps : ∀ entry ∈ steps.zip (validator.run source memory steps),
      entry.1.session = some session → ¬ FillsOrDrops entry.1.action entry.2.result) :
    validator.slot.OwnEmptyCache (validator.memoryAfter source memory steps).vault session
      number := by
  induction steps generalizing memory with
  | nil => exact hown
  | cons first rest ih =>
      rw [run, List.zip_cons_cons, List.forall_mem_cons] at hsteps
      exact ih (ownEmptyCache_step hown source first hsteps.1) hsteps.2

/-- The number of the next cache is no session's as long as every cache was made by a step. -/
theorem find?_memoryAfter_ne_length
    (hvacant : ∀ session, validator.slot.find? memory.vault session = none)
    (source : RandomSource) (steps : List Step)
    (hthere : ∀ step ∈ steps, ∀ session, step.session = some session →
      session < memory.vault.sessions.length) (holder : Nat) :
    validator.slot.find? (validator.memoryAfter source memory steps).vault holder ≠
      some (validator.memoryAfter source memory steps).vault.caches.length := by
  intro hfind
  have remembers :=
    remembers_memoryAfter (CacheSlot.remembers_of_vacant hvacant) source steps hthere
  exact (remembers.number_lt hfind).false

/-! ## The trace -/

/-- If no nonce could be made for a request, then no attribute and no cache has changed, except that
a session that had no cache has an empty one now. Later steps are reported on as if the failed
request had not been made, or, where the session had no cache, as if a cache had been attached to it
instead; and until a step of the session fills or drops that cache, all its requests are rejected
that are not for an entry point. For the last part the number of the next cache must be new, as it
is in all memories that steps lead to (`find?_memoryAfter_ne_length`). -/
theorem trace_of_source_failure (validator : Validator) (source : RandomSource)
    (memory : GuardMemory) (request : GuardedRequest) (session : Option Nat) (cause : GuardError)
    (hresult : (validator.process source memory request session).result = .error cause)
    (hcause : cause.IsSourceFailure) :
    let after := (validator.process source memory request session).memory
    let spared := source.without (memory.calls + 1)
    ∃ number, session = some number ∧
      (∀ holder name,
        ¬ (holder = number ∧ name = validator.slot.attributeName ∧
          validator.slot.find? memory.vault number = none) →
        after.vault.attribute? holder name = memory.vault.attribute? holder name) ∧
      (∀ (place : CacheNumber) cache, memory.vault.caches[place]? = some cache →
        after.vault.caches[place]? = some cache) ∧
      ((validator.slot.find? memory.vault number).isSome →
        after.vault = memory.vault ∧
        ∀ later, (validator.run source after later).map Outcome.report =
          (validator.run spared memory later).map Outcome.report) ∧
      (validator.slot.find? memory.vault number = none →
        number < memory.vault.sessions.length →
        validator.slot.cache? after.vault number = some (.empty validator.slot.capacity) ∧
        ((∀ holder, validator.slot.find? memory.vault holder ≠ some memory.vault.caches.length) →
          ∀ later : List Step,
            (∀ entry ∈ later.zip (validator.run source after later),
              entry.1.session = session → ¬ FillsOrDrops entry.1.action entry.2.result) →
            ∀ other, validator.isEntryPoint other = false →
              validator.decide (validator.memoryAfter source after later).vault other session =
                .rejected) ∧
        ∀ later, (validator.run source after later).map Outcome.report =
          (validator.run spared (validator.step spared memory ⟨session, .attach⟩).memory
            later).map Outcome.report) := by
  intro after spared
  obtain ⟨number, rfl, hafter⟩ := memory_of_source_failure hresult hcause
  have hvault : after.vault = (validator.slot.obtain memory.vault number).2.1 :=
    congrArg GuardMemory.vault hafter
  have hlater : ∀ later, (validator.run source after later).map Outcome.report =
      (validator.run spared (validator.attachedMemory memory number) later).map
        Outcome.report := by
    intro later
    rw [show after = (validator.attachedMemory memory number).oneCallLater from hafter]
    exact run_oneCallLater validator source le_rfl later
  refine ⟨number, rfl, ?_, ?_, ?_, ?_⟩
  · intro holder name hplace
    rw [hvault]
    exact CacheSlot.attribute?_obtain hplace
  · intro place cache hcache
    rw [hvault]
    exact CacheSlot.getElem?_caches_obtain hcache
  · intro hsome
    obtain ⟨found, hfind⟩ := Option.isSome_iff_exists.mp hsome
    have hsame : (validator.slot.obtain memory.vault number).2.1 = memory.vault := by
      rw [CacheSlot.obtain_of_find?_eq_some hfind]
    refine ⟨hvault.trans hsame, fun later => ?_⟩
    rw [hlater, attachedMemory, hsame]
  · intro hnone hnumber
    have hempty : validator.slot.cache? after.vault number =
        some (.empty validator.slot.capacity) := by
      rw [hvault]
      exact CacheSlot.cache?_obtain_self hnone hnumber
    refine ⟨hempty, fun hnew later hsteps other hentry => ?_, hlater⟩
    have hown := CacheSlot.ownEmptyCache_obtain hnone hnumber hnew
    rw [← hvault] at hown
    exact decide_of_cache_empty (ownEmptyCache_memoryAfter hown source later hsteps).cache?_eq
      hentry

/-- The failure of the second call of the source, in a request of the first session: even when the
second session has got a nonce after that, the first is still rejected with it. -/
theorem trace_of_source_failure_second_call :
    let memory := sample.memoryAfter sampleSource sampleStart
      [⟨some 1, .process ⟨"GET", "/", none, none⟩⟩]
    let pay : GuardedRequest := ⟨"POST", "/pay", none, some "03"⟩
    let failed := sample.process sampleSource memory pay (some 0)
    let later : List Step :=
      [⟨some 1, .process ⟨"GET", "/", none, none⟩⟩, ⟨some 0, .process pay⟩, ⟨some 0, .attach⟩]
    failed.result = .error (.sourceFailed "no entropy") ∧
      (GuardError.sourceFailed "no entropy").IsSourceFailure ∧
      (∀ holder, sample.slot.find? memory.vault holder ≠ some memory.vault.caches.length) ∧
      sample.decide (sample.memoryAfter sampleSource failed.memory later).vault pay (some 0) =
        .rejected := by
  intro memory pay failed later
  have hresult : failed.result = .error (.sourceFailed "no entropy") := by decide +kernel
  have hnew : ∀ holder,
      sample.slot.find? memory.vault holder ≠ some memory.vault.caches.length :=
    find?_memoryAfter_ne_length find?_sampleStart sampleSource _ (by simp [sampleStart])
  refine ⟨hresult, trivial, hnew, ?_⟩
  obtain ⟨number, hnumber, -, -, -, hnone⟩ :=
    trace_of_source_failure sample sampleSource memory pay (some 0) _ hresult trivial
  obtain rfl : 0 = number := Option.some_inj.mp hnumber
  refine (hnone (by decide +kernel) (by decide +kernel)).2.1 hnew later ?_ pay (by decide +kernel)
  have hrejected : (sample.run sampleSource failed.memory later)[1]?.map (·.result) =
      some (.error (.rejected "/pay" 403)) := by decide +kernel
  intro entry hentry hsession hends
  simp only [later, run, List.zip_cons_cons, List.mem_cons] at hentry hrejected
  obtain rfl | rfl | rfl | hentry := hentry
  · cases hsession
  · have hfails : FillsOrDrops (.process pay) (.error (.rejected "/pay" 403)) := by
      rw [← Option.some_inj.mp hrejected]
      exact hends
    cases hfails
  · cases hends
  · cases hentry

/-- A failed first request leaves a cache on its session, and the same request is rejected
afterwards that would have been accepted before. -/
theorem failed_first_request_leaves_cache :
    let memory := sample.memoryAfter sampleSource sampleStart
      [⟨some 1, .process ⟨"GET", "/", none, none⟩⟩]
    let pay : GuardedRequest := ⟨"POST", "/pay", none, none⟩
    let failed := sample.process sampleSource memory pay (some 0)
    failed.result = .error (.sourceFailed "no entropy") ∧
      sample.slot.cache? memory.vault 0 = none ∧
      sample.slot.cache? failed.memory.vault 0 = some (.empty sample.slot.capacity) ∧
      sample.decide memory.vault pay (some 0) = .accepted ∧
      sample.decide failed.memory.vault pay (some 0) = .rejected := by
  decide +kernel

end Validator

end CsrfGuard
