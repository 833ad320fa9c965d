import CsrfGuard.Proofs.Validator.Run

/-!
# Rejected requests leave no trace

Who has no valid nonce can send any number of requests, and nobody will notice from the outcome of
any other: if the rejected requests of a run are left out, or some of them, then all other steps
come to the same results, write the same records and leave the same memory behind
(`run_remaining_eq`). In particular a rejected request pushes no nonce out of a cache and moves none
in it, attaches no cache, and takes no answer of the random source away from a later request. The
same goes for steps that only ask.

The run is taken apart step by step: a step that is left out has changed nothing
(`memory_of_leavesNoTrace`), so that what follows it starts from the same memory without it.
-/

namespace CsrfGuard

/-- The items of a list that are not at a deleted place. -/
def remaining {α : Type} (deleted : Nat → Bool) : List α → List α
  | [] => []
  | first :: rest =>
      let others := remaining (fun place => deleted (place + 1)) rest
      if deleted 0 then others else first :: others

namespace Validator

variable {validator : Validator} {source : RandomSource} {memory : GuardMemory}

/-- The steps, with their results, that may be left out of a run: rejected requests and steps that
only ask. -/
inductive LeavesNoTrace : Action → Except GuardError Answer → Prop where
  | rejected (request : GuardedRequest) (path : String) (status : Int) :
      LeavesNoTrace (.process request) (.error (.rejected path status))
  | checked (request : GuardedRequest) (result : Except GuardError Answer) :
      LeavesNoTrace (.check request) result
  | askedEntryPoint (request : GuardedRequest) (result : Except GuardError Answer) :
      LeavesNoTrace (.askEntryPoint request) result

theorem memory_of_leavesNoTrace {next : Step}
    (htraceless : LeavesNoTrace next.action (validator.step source memory next).result) :
    (validator.step source memory next).memory = memory := by
  obtain ⟨session, action⟩ := next
  cases action with
  | process request =>
      simp only [step] at htraceless ⊢
      cases hresult : (validator.process source memory request session).result with
      | ok passed =>
          rw [hresult] at htraceless
          cases htraceless
      | error cause =>
          rw [hresult] at htraceless
          cases htraceless with
          | rejected _ path status => rw [process_of_rejected (decide_of_result_rejected hresult)]
  | check request => rfl
  | askEntryPoint request => rfl
  | attach => cases htraceless
  | add nonce => cases htraceless
  | reset => cases htraceless

/-- Steps that leave no trace can be left out of a run, any of them: every other step has the same
outcome, and the run ends in the same memory, with the same nonces in every cache in the same order
and as many calls of the random source. -/
theorem run_remaining_eq (validator : Validator) (source : RandomSource) (memory : GuardMemory)
    (steps : List Step) (deleted : Nat → Bool)
    (hdeleted : ∀ place step outcome, deleted place = true →
      (steps.zip (validator.run source memory steps))[place]? = some (step, outcome) →
      LeavesNoTrace step.action outcome.result) :
    validator.run source memory (remaining deleted steps) =
        remaining deleted (validator.run source memory steps) ∧
      validator.memoryAfter source memory (remaining deleted steps) =
        validator.memoryAfter source memory steps := by
  induction steps generalizing memory deleted with
  | nil => exact ⟨rfl, rfl⟩
  | cons first rest ih =>
      obtain ⟨hrun, hmemory⟩ := ih (validator.step source memory first).memory
        (fun place => deleted (place + 1)) fun place step outcome hplace hat =>
          hdeleted (place + 1) step outcome hplace hat
      cases hfirst : deleted 0 with
      | true =>
          have hsame : (validator.step source memory first).memory = memory :=
            memory_of_leavesNoTrace (hdeleted 0 first _ hfirst rfl)
          rw [hsame] at hrun hmemory
          simp only [remaining, run, memoryAfter, hfirst, if_true, hsame]
          exact ⟨hrun, hmemory⟩
      | false =>
          simp only [remaining, run, memoryAfter, hfirst, Bool.false_eq_true, if_false]
          exact ⟨congrArg _ hrun, hmemory⟩

/-- A forged request and a question about it are left out of a run whose last request would have
passed if the source had not failed. -/
theorem run_remaining_eq_forged_request :
    let steps : List Step :=
      [⟨some 0, .process ⟨"GET", "/", none, none⟩⟩,
        ⟨some 0, .process ⟨"POST", "/pay", none, some "FF"⟩⟩,
        ⟨some 0, .check ⟨"POST", "/pay", none, some "FF"⟩⟩,
        ⟨some 0, .process ⟨"POST", "/pay", none, some "01"⟩⟩]
    let deleted (place : Nat) : Bool := place = 1 ∨ place = 2
    (∀ place step outcome, deleted place = true →
      (steps.zip (sample.run sampleSource sampleStart steps))[place]? = some (step, outcome) →
      LeavesNoTrace step.action outcome.result) ∧
    (sample.run sampleSource sampleStart (remaining deleted steps)).map (·.result) =
      [.ok (.passed ⟨.entryPointBypass, "01"⟩), .error (.sourceFailed "no entropy")] ∧
    sample.memoryAfter sampleSource sampleStart (remaining deleted steps) =
      sample.memoryAfter sampleSource sampleStart steps := by
  intro steps deleted
  have hdeleted : ∀ place step outcome, deleted place = true →
      (steps.zip (sample.run sampleSource sampleStart steps))[place]? = some (step, outcome) →
      LeavesNoTrace step.action outcome.result := by
    intro place step outcome hplace hat
    rcases of_decide_eq_true hplace with rfl | rfl
    · cases hat
      exact .rejected _ _ _
    · cases hat
      exact .checked _ _
  obtain ⟨hrun, hmemory⟩ :=
    run_remaining_eq sample sampleSource sampleStart steps deleted hdeleted
  refine ⟨hdeleted, ?_, hmemory⟩
  rw [hrun]
  decide +kernel

end Validator

end CsrfGuard
