import CsrfGuard.Proofs.Validator.Run

/-!
# Decisions follow from the history of the session

The validator decides by the cache it finds. This file says the same from outside, by what was done
and reported before: the past of a session is read off the steps made with it and the reports on
them (`pastOf`), and that past alone settles how the next request of the session is decided
(`decision_of_history`). No clause of `pastOf` ever takes a string out of a past, so a nonce that
was let pass is let pass again until enough other strings have been added; and a step made with one
session leaves the past of every other alone.

## Strategy

One step keeps the vault in agreement with the pasts (`remembers_step`), hence so does a run
(`remembers_memoryAfter`). In a vault that agrees with the pasts, a decision can be read off the
past of the session (`decide_eq_accepted_iff`).
-/

namespace CsrfGuard

/-- The past of a session after an action with a result. Whatever gets as far as asking for a cache
leaves the session with one, also if no nonce could be made then. -/
def Past.afterAction (past : Past) (action : Validator.Action)
    (result : Except GuardError Validator.Answer) : Past :=
  match action, result with
  | .process _, .ok (.passed passed) => some (past.getD [] ++ [passed.nonce])
  | .process _, .error (.rejected _ _) => past
  | .process _, .error _ => some (past.getD [])
  | .attach, _ => some (past.getD [])
  | .add nonce, _ => some (past.getD [] ++ [nonce])
  | .reset, _ => none
  | _, _ => past

namespace Validator

/-- The past of a session after steps and the reports on them, from an earlier past on. Only the
steps made with the session count. -/
def pastOf (session : Nat) (past : Past) : List (Step × Outcome Answer) → Past
  | [] => past
  | (step, report) :: rest =>
      pastOf session
        (if step.session = some session then past.afterAction step.action report.result else past)
        rest

variable {validator : Validator} {source : RandomSource} {memory : GuardMemory}
  {request : GuardedRequest} {past : Nat → Past}

/-! ## One step -/

theorem afterAction_of_sourceFailure {cause : GuardError} (hcause : cause.IsSourceFailure)
    (past : Past) (request : GuardedRequest) :
    past.afterAction (.process request) (.error cause) = some (past.getD []) := by
  cases cause with
  | rejected path status => exact hcause.elim
  | _ => rfl

theorem remembers_issue (remembers : validator.slot.Remembers memory.vault past)
    (source : RandomSource) (decision : Decision) {session : Nat}
    (hsession : session < memory.vault.sessions.length) :
    validator.slot.Remembers
      (validator.issue source memory decision request session).memory.vault
      (Function.update past session
        ((past session).afterAction (.process request)
          ((validator.issue source memory decision request session).result.map .passed))) := by
  cases hgenerate : validator.generator.generate source memory.calls with
  | ok nonce =>
      rw [issue_of_ok hgenerate]
      exact remembers.obtain_addNonce hsession nonce
  | error cause =>
      have hcause := NonceGenerator.isSourceFailure_of_generate hgenerate
      rw [issue_of_error hgenerate, Except.map, afterAction_of_sourceFailure hcause]
      exact remembers.obtain hsession

/-- A step with a session changes the past of that session only, as its report tells. -/
theorem remembers_step_update (remembers : validator.slot.Remembers memory.vault past)
    (source : RandomSource) {session : Nat} (hsession : session < memory.vault.sessions.length)
    (action : Action) :
    validator.slot.Remembers
      (validator.step source memory ⟨some session, action⟩).memory.vault
      (Function.update past session
        ((past session).afterAction action
          (validator.step source memory ⟨some session, action⟩).result)) := by
  cases action with
  | process request =>
      by_cases hdecide : validator.decide memory.vault request (some session) = .rejected
      · simpa [step, process_of_rejected hdecide, Past.afterAction, Except.map] using remembers
      · simp only [step, process_of_ne_rejected hdecide]
        exact remembers_issue remembers source _ hsession
  | check request => simpa [step, Past.afterAction] using remembers
  | askEntryPoint request => simpa [step, Past.afterAction] using remembers
  | attach => exact remembers.obtain hsession
  | add nonce => exact remembers.obtain_addNonce hsession nonce
  | reset => exact remembers.detach session

theorem remembers_step (remembers : validator.slot.Remembers memory.vault past)
    (source : RandomSource) (next : Step)
    (hthere : ∀ session, next.session = some session → session < memory.vault.sessions.length) :
    validator.slot.Remembers (validator.step source memory next).memory.vault fun session =>
      if next.session = some session then
        (past session).afterAction next.action (validator.step source memory next).result
      else past session := by
  obtain ⟨session, action⟩ := next
  cases session with
  | none =>
      simp only [memory_step_of_no_session]
      exact remembers
  | some session =>
      convert remembers_step_update remembers source (hthere session rfl) action using 1
      funext other
      by_cases hother : session = other
      · subst hother
        simp
      · simp [hother, Ne.symm hother]

/-! ## A run -/

/-- A run keeps the vault in agreement with the pasts that can be read off its reports. -/
theorem remembers_memoryAfter (remembers : validator.slot.Remembers memory.vault past)
    (source : RandomSource) (steps : List Step)
    (hthere : ∀ step ∈ steps, ∀ session, step.session = some session →
      session < memory.vault.sessions.length) :
    validator.slot.Remembers (validator.memoryAfter source memory steps).vault fun session =>
      pastOf session (past session) (steps.zip (validator.run source memory steps)) := by
  induction steps generalizing memory past with
  | nil => exact remembers
  | cons first rest ih =>
      have hfirst := remembers_step remembers source first
        (hthere first (List.mem_cons_self ..))
      refine ih hfirst fun step hstep session hsession => ?_
      rw [length_sessions_step]
      exact hthere step (List.mem_cons_of_mem _ hstep) session hsession

/-! ## Decisions -/

/-- Requests for entry points, and no others, are decided without a look at the session. -/
theorem decide_eq_bypass_iff (validator : Validator) (vault : Vault) (request : GuardedRequest)
    (session : Option Nat) :
    validator.decide vault request session = .entryPointBypass ↔
      validator.isEntryPoint request = true := by
  cases hentry : validator.isEntryPoint request with
  | true => simp [Validator.decide, hentry]
  | false =>
      rw [decide_of_not_entryPoint hentry]
      split <;> simp

/-- Any other request is accepted exactly if the past of its session lets its nonce pass. -/
theorem decide_eq_accepted_iff {vault : Vault} (remembers : validator.slot.Remembers vault past)
    (hentry : validator.isEntryPoint request = false) (session : Nat) :
    validator.decide vault request (some session) = .accepted ↔
      (past session).Admits validator.slot.capacity.size request.nonce := by
  rw [decide_of_not_entryPoint hentry, ← remembers.all_contains_iff, cache?, Option.bind_some]
  split <;> simp_all

theorem decide_eq_rejected_iff {vault : Vault} (remembers : validator.slot.Remembers vault past)
    (hentry : validator.isEntryPoint request = false) (session : Nat) :
    validator.decide vault request (some session) = .rejected ↔
      ¬ (past session).Admits validator.slot.capacity.size request.nonce := by
  rw [← decide_eq_accepted_iff remembers hentry, decide_of_not_entryPoint hentry]
  split <;> simp

/-- The history of a session settles how its next request is decided, be it asked about or
processed, after any steps with any sessions and whatever comes later. -/
theorem decision_of_history (validator : Validator) (source : RandomSource) (start : GuardMemory)
    (hvacant : ∀ session, validator.slot.find? start.vault session = none)
    (before after : List Step)
    (hthere : ∀ step ∈ before, ∀ session, step.session = some session →
      session < start.vault.sessions.length)
    (session : Nat) (request : GuardedRequest) :
    let past := pastOf session none (before.zip (validator.run source start before))
    let calls := (validator.memoryAfter source start before).calls
    let report (action : Action) :=
      (validator.run source start (before ++ ⟨some session, action⟩ :: after))[before.length]?.map
        (·.result)
    let forEntryPoint :=
      request.method = "GET" ∧ request.base ++ request.rest.getD "" ∈ validator.entryPoints
    ∃ decision : Decision,
      report (.check request) = some (.ok (.decided decision)) ∧
      report (.process request) =
        some (if decision = .rejected then .error (.rejected request.path validator.denyStatus)
          else (validator.generator.generate source calls).map fun nonce =>
            .passed ⟨decision, nonce⟩) ∧
      (decision = .entryPointBypass ↔ forEntryPoint) ∧
      (¬ forEntryPoint →
        (decision = .accepted ↔ past.Admits validator.slot.capacity.size request.nonce) ∧
        (decision = .rejected ↔ ¬ past.Admits validator.slot.capacity.size request.nonce)) := by
  intro past calls report forEntryPoint
  have remembers :=
    remembers_memoryAfter (CacheSlot.remembers_of_vacant hvacant) source before hthere
  refine ⟨validator.decide (validator.memoryAfter source start before).vault request (some session),
    ?_, ?_, ?_, ?_⟩
  · simp only [report, getElem?_run, Option.map_some, step]
  · simp only [report, getElem?_run, Option.map_some, step, result_process]
    split
    · rfl
    · cases validator.generator.generate source calls <;> rfl
  · rw [decide_eq_bypass_iff, isEntryPoint_iff]
  · intro hnot
    have hentry : validator.isEntryPoint request = false := by
      rw [← Bool.not_eq_true, isEntryPoint_iff]
      exact hnot
    exact ⟨decide_eq_accepted_iff remembers hentry session,
      decide_eq_rejected_iff remembers hentry session⟩

/-- The second session got as far as a cache before its request failed, so that a request with the
nonce of the first session is now rejected. -/
theorem decision_of_history_foreign_nonce :
    (∀ session, sample.slot.find? sampleStart.vault session = none) ∧
      (∀ step ∈ [Step.mk (some 0) (.process ⟨"GET", "/", none, none⟩),
          ⟨some 1, .process ⟨"POST", "/pay", none, none⟩⟩],
        ∀ session, step.session = some session → session < sampleStart.vault.sessions.length) ∧
      (sample.run sampleSource sampleStart
        [⟨some 0, .process ⟨"GET", "/", none, none⟩⟩,
          ⟨some 1, .process ⟨"POST", "/pay", none, none⟩⟩,
          ⟨some 1, .check ⟨"POST", "/pay", none, some "01"⟩⟩])[2]?.map (·.result) =
        some (.ok (.decided .rejected)) := by
  have hthere : ∀ step ∈ [Step.mk (some 0) (.process ⟨"GET", "/", none, none⟩),
      ⟨some 1, .process ⟨"POST", "/pay", none, none⟩⟩],
      ∀ session, step.session = some session → session < sampleStart.vault.sessions.length := by
    simp [sampleStart]
  refine ⟨find?_sampleStart, hthere, ?_⟩
  obtain ⟨decision, hcheck, -, -, hother⟩ := decision_of_history sample sampleSource sampleStart
    find?_sampleStart _ [] hthere 1 ⟨"POST", "/pay", none, some "01"⟩
  have hrejected := (hother (by decide)).2.mpr (by decide +kernel)
  rw [← hrejected]
  exact hcheck

end Validator

end CsrfGuard
