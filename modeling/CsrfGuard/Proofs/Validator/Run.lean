import CsrfGuard.Proofs.Nonce.Past
import CsrfGuard.Validator

/-!
# Runs of a validator

What later files need to know of a validator without opening it again: one equation for each way in
which a request can be processed, and the memory in which a run of steps ends, by which a run can be
cut in two (`run_append`).
-/

namespace CsrfGuard

/-- Whether a failure is due to the random source: it failed itself or answered with the wrong
number of bytes. -/
def GuardError.IsSourceFailure : GuardError → Prop
  | .sourceFailed _ => True
  | .wrongNonceLength _ _ => True
  | _ => False

theorem NonceGenerator.isSourceFailure_of_generate {generator : NonceGenerator}
    {source : RandomSource} {calls : Nat} {cause : GuardError}
    (hgenerate : generator.generate source calls = .error cause) : cause.IsSourceFailure := by
  unfold NonceGenerator.generate NonceGenerator.ofAnswer at hgenerate
  split at hgenerate
  · cases hgenerate
    trivial
  · split at hgenerate
    · cases hgenerate
    · cases hgenerate
      trivial

namespace Validator

variable {validator : Validator} {source : RandomSource} {memory : GuardMemory}
  {request : GuardedRequest}

/-! ## One request -/

theorem path_eq (request : GuardedRequest) :
    request.path = request.base ++ request.rest.getD "" := by
  cases hrest : request.rest <;> simp [GuardedRequest.path, hrest]

theorem isEntryPoint_iff (validator : Validator) (request : GuardedRequest) :
    validator.isEntryPoint request = true ↔
      request.method = "GET" ∧ request.base ++ request.rest.getD "" ∈ validator.entryPoints := by
  rw [isEntryPoint, decide_eq_true_eq, path_eq]

/-- A request that is no entry point is decided by the cache of its session, if there is one. -/
theorem decide_of_not_entryPoint {vault : Vault} {session : Option Nat}
    (hentry : validator.isEntryPoint request = false) :
    validator.decide vault request session =
      if (validator.cache? vault session).all (·.contains request.nonce) then .accepted
      else .rejected := by
  rw [Validator.decide, hentry]
  cases validator.cache? vault session with
  | none => simp
  | some cache => cases hcontains : cache.contains request.nonce <;> simp [hcontains]

theorem process_of_rejected {session : Option Nat}
    (hdecide : validator.decide memory.vault request session = .rejected) :
    validator.process source memory request session =
      ⟨.error (.rejected request.path validator.denyStatus), memory,
        [rejectionRecord request]⟩ := by
  simp only [process, hdecide]

theorem process_of_ne_rejected {session : Nat}
    (hdecide : validator.decide memory.vault request (some session) ≠ .rejected) :
    validator.process source memory request (some session) =
      validator.issue source memory (validator.decide memory.vault request (some session)) request
        session := by
  unfold process
  split
  · contradiction
  · rfl

theorem process_none_of_ne_rejected
    (hdecide : validator.decide memory.vault request none ≠ .rejected) :
    validator.process source memory request none = ⟨.error .sessionMissing, memory, []⟩ := by
  unfold process
  split
  · contradiction
  · rfl

theorem issue_of_error {decision : Decision} {session : Nat} {cause : GuardError}
    (hgenerate : validator.generator.generate source memory.calls = .error cause) :
    validator.issue source memory decision request session =
      ⟨.error cause, ⟨(validator.slot.obtain memory.vault session).2.1, memory.calls + 1⟩,
        (validator.slot.obtain memory.vault session).2.2⟩ := by
  simp only [issue, hgenerate]

theorem issue_of_ok {decision : Decision} {session : Nat} {nonce : String}
    (hgenerate : validator.generator.generate source memory.calls = .ok nonce) :
    validator.issue source memory decision request session =
      ⟨.ok ⟨decision, nonce⟩,
        ⟨(validator.slot.obtain memory.vault session).2.1.addNonce
          (validator.slot.obtain memory.vault session).1 nonce, memory.calls + 1⟩,
        (validator.slot.obtain memory.vault session).2.2 ++ [issueRecord decision request]⟩ := by
  simp only [issue, hgenerate]

/-- The result of processing a request: a rejection, or the outcome of making a nonce. -/
theorem result_process (validator : Validator) (source : RandomSource) (memory : GuardMemory)
    (request : GuardedRequest) (session : Nat) :
    (validator.process source memory request (some session)).result =
      if validator.decide memory.vault request (some session) = .rejected then
        .error (.rejected request.path validator.denyStatus)
      else
        (validator.generator.generate source memory.calls).map fun nonce =>
          ⟨validator.decide memory.vault request (some session), nonce⟩ := by
  split
  · next hdecide => rw [process_of_rejected hdecide]
  · next hdecide =>
      rw [process_of_ne_rejected hdecide]
      cases hgenerate : validator.generator.generate source memory.calls with
      | error cause => rw [issue_of_error hgenerate]; rfl
      | ok nonce => rw [issue_of_ok hgenerate]; rfl

/-- The nonce of a request that passes is the one that was made for it. -/
theorem generate_of_result_ok {session : Option Nat} {passed : Passed}
    (hresult : (validator.process source memory request session).result = .ok passed) :
    validator.generator.generate source memory.calls = .ok passed.nonce := by
  by_cases hdecide : validator.decide memory.vault request session = .rejected
  · rw [process_of_rejected hdecide] at hresult
    cases hresult
  cases session with
  | none =>
      rw [process_none_of_ne_rejected hdecide] at hresult
      cases hresult
  | some session =>
      rw [result_process, if_neg hdecide] at hresult
      cases hgenerate : validator.generator.generate source memory.calls with
      | error cause =>
          rw [hgenerate] at hresult
          cases hresult
      | ok nonce =>
          rw [hgenerate] at hresult
          cases hresult
          rfl

/-- A request that ends in a rejection was decided to be rejected: no other failure is one. -/
theorem decide_of_result_rejected {session : Option Nat} {path : String} {status : Int}
    (hresult : (validator.process source memory request session).result =
      .error (.rejected path status)) :
    validator.decide memory.vault request session = .rejected := by
  by_contra hdecide
  cases session with
  | none =>
      rw [process_none_of_ne_rejected hdecide] at hresult
      cases hresult
  | some session =>
      -- What is left are failures of the source, and a rejection is none.
      rw [result_process, if_neg hdecide] at hresult
      cases hgenerate : validator.generator.generate source memory.calls with
      | ok nonce =>
          rw [hgenerate] at hresult
          cases hresult
      | error cause =>
          rw [hgenerate] at hresult
          cases hresult
          exact (NonceGenerator.isSourceFailure_of_generate hgenerate).elim

/-- A rejection names the path of the request and the status that was set. -/
theorem eq_of_rejected {session : Option Nat} {path : String} {status : Int}
    (hresult : (validator.process source memory request session).result =
      .error (.rejected path status)) :
    path = request.path ∧ status = validator.denyStatus := by
  rw [process_of_rejected (decide_of_result_rejected hresult)] at hresult
  cases hresult
  exact ⟨rfl, rfl⟩

/-! ## Steps in a row -/

/-- The memory after steps. -/
def memoryAfter (validator : Validator) (source : RandomSource) (memory : GuardMemory) :
    List Step → GuardMemory
  | [] => memory
  | first :: rest => validator.memoryAfter source (validator.step source memory first).memory rest

theorem length_run (validator : Validator) (source : RandomSource) (memory : GuardMemory)
    (steps : List Step) : (validator.run source memory steps).length = steps.length := by
  induction steps generalizing memory with
  | nil => rfl
  | cons first rest ih => simp [run, ih]

/-- What is reported on later steps depends on earlier ones only by the memory they leave. -/
theorem run_append (validator : Validator) (source : RandomSource) (memory : GuardMemory)
    (before after : List Step) :
    validator.run source memory (before ++ after) =
      validator.run source memory before ++
        validator.run source (validator.memoryAfter source memory before) after := by
  induction before generalizing memory with
  | nil => rfl
  | cons first rest ih => simp [run, memoryAfter, ih]

theorem getElem?_run (validator : Validator) (source : RandomSource) (memory : GuardMemory)
    (before : List Step) (next : Step) (after : List Step) :
    (validator.run source memory (before ++ next :: after))[before.length]? =
      some (validator.step source (validator.memoryAfter source memory before) next) := by
  rw [run_append, List.getElem?_append_right (length_run ..).le, length_run, Nat.sub_self, run]
  rfl

/-! ## What a step leaves alone -/

theorem memory_step_of_no_session (action : Action) :
    (validator.step source memory ⟨none, action⟩).memory = memory := by
  cases action with
  | process request =>
      by_cases hdecide : validator.decide memory.vault request none = .rejected
      · simp only [step, process_of_rejected hdecide]
      · simp only [step, process_none_of_ne_rejected hdecide]
  | _ => rfl

theorem length_sessions_issue (decision : Decision) (session : Nat) :
    (validator.issue source memory decision request session).memory.vault.sessions.length =
      memory.vault.sessions.length := by
  cases hgenerate : validator.generator.generate source memory.calls with
  | error cause => simp [issue_of_error hgenerate]
  | ok nonce => simp [issue_of_ok hgenerate]

/-- No step makes or drops a session. -/
theorem length_sessions_step (validator : Validator) (source : RandomSource)
    (memory : GuardMemory) (next : Step) :
    (validator.step source memory next).memory.vault.sessions.length =
      memory.vault.sessions.length := by
  obtain ⟨session, action⟩ := next
  cases session with
  | none => rw [memory_step_of_no_session]
  | some session =>
      cases action with
      | process request =>
          by_cases hdecide : validator.decide memory.vault request (some session) = .rejected
          · simp only [step, process_of_rejected hdecide]
          · simp only [step, process_of_ne_rejected hdecide, length_sessions_issue]
      | check request => rfl
      | askEntryPoint request => rfl
      | attach => simp [step, withSession]
      | add nonce => simp [step, withSession]
      | reset => simp [step, withSession]

/-! ## A small validator

Statements with hypotheses are tried on a validator with room for one nonce of one byte, two fresh
sessions, and a random source whose second call fails. -/

/-- A validator whose caches have room for one nonce. -/
def sample : Validator where
  slot := ⟨⟨1, by decide⟩, some "nonces"⟩
  entryPoints := ⟨["/"]⟩
  generator := ⟨1, by decide⟩
  nonceParam := some "nonce"
  denyStatus := 403

/-- A source that answers with the number of the call, except that its second call fails. -/
def sampleSource : RandomSource where
  answer call bytes :=
    if call = 2 then .error "no entropy" else .ok (List.replicate bytes (UInt8.ofNat call))

def sampleStart : GuardMemory := ⟨⟨[.create "a" 0, .create "b" 0], []⟩, 0⟩

theorem find?_sampleStart (session : Nat) :
    sample.slot.find? sampleStart.vault session = none := by
  rcases session with _ | _ | session <;> rfl

end Validator

end CsrfGuard
