import CsrfGuard.EntryPoints
import CsrfGuard.Nonce.Generator
import CsrfGuard.Nonce.Slot

/-!
# Deciding on requests

A validator decides whether a request may pass. A request for an entry point always may, if its
method is `GET`. Any other request may if its session has no nonce cache yet, and else only if the
nonce it carries is in the cache. A request that passes gets a new nonce, which goes into the cache;
one that is rejected changes nothing. The supplied nonce stays valid either way.

A *visit history* is a list of steps on one validator and any number of sessions; `Validator.run`
gives the report on each step. A step that fails may have made a cache before it failed.
-/

namespace CsrfGuard

/-- What the validator looks at in a request. -/
structure GuardedRequest where
  method : String
  /-- The path, or its first part. -/
  base : String
  /-- The rest of the path, if it is given apart. -/
  rest : Option String
  nonce : Option String
  deriving Repr, DecidableEq

namespace GuardedRequest

def path (request : GuardedRequest) : String :=
  match request.rest with
  | some rest => request.base ++ rest
  | none => request.base

end GuardedRequest

inductive Decision where
  /-- The request is for an entry point and passes without a look at its nonce. -/
  | entryPointBypass
  | accepted
  | rejected
  deriving Repr, DecidableEq

namespace Decision

def name : Decision → String
  | entryPointBypass => "entry_point_bypass"
  | accepted => "accepted"
  | rejected => "rejected"

end Decision

/-- What decides on requests, and what a request that passes is given. -/
structure Validator where
  slot : CacheSlot
  entryPoints : EntryPoints
  generator : NonceGenerator
  /-- The request parameter that carries the nonce. Without a name no request carries one. -/
  nonceParam : Option String
  denyStatus : Int
  deriving Repr, DecidableEq

/-- A passed request: the decision on it and the nonce it was given. -/
structure Passed where
  decision : Decision
  nonce : String
  deriving Repr, DecidableEq

/-- The vault and how often the random source has been called. -/
structure GuardMemory where
  vault : Vault
  calls : Nat
  deriving Repr, DecidableEq

/-- The outcome of an operation of type `α`, the memory after it, and the records written. -/
structure Outcome (α : Type) where
  result : Except GuardError α
  memory : GuardMemory
  records : List Record

namespace Validator

/-- The name under which the journal knows the validator. -/
def loggerName : String := "nonceguard.validator"

/-- Whether a request is for an entry point: by the method `GET`, in exactly this spelling. -/
def isEntryPoint (validator : Validator) (request : GuardedRequest) : Bool :=
  request.method = "GET" ∧ request.path ∈ validator.entryPoints

def cache? (validator : Validator) (vault : Vault) (session : Option Nat) : Option NonceCache :=
  session.bind (validator.slot.cache? vault)

def decide (validator : Validator) (vault : Vault) (request : GuardedRequest)
    (session : Option Nat) : Decision :=
  if validator.isEntryPoint request then .entryPointBypass
  else
    match validator.cache? vault session with
    | some cache => if cache.contains request.nonce then .accepted else .rejected
    | none => .accepted

def rejectionRecord (request : GuardedRequest) : Record :=
  { level := .warning
    logger := loggerName
    message := "csrf nonce rejected method=" ++ request.method ++ " path=" ++ request.path }

def issueRecord (decision : Decision) (request : GuardedRequest) : Record :=
  { level := .debug
    logger := loggerName
    message := "issued nonce state=" ++ decision.name ++ " path=" ++ request.path }

/-- Issues a nonce to a session: a cache is obtained first, then a nonce is made and put into it.
The cache stays if no nonce can be made. -/
def issue (validator : Validator) (source : RandomSource) (memory : GuardMemory)
    (decision : Decision) (request : GuardedRequest) (session : Nat) : Outcome Passed :=
  let (number, vault, made) := validator.slot.obtain memory.vault session
  match validator.generator.generate source memory.calls with
  | .error cause => ⟨.error cause, ⟨vault, memory.calls + 1⟩, made⟩
  | .ok nonce =>
      ⟨.ok ⟨decision, nonce⟩, ⟨vault.addNonce number nonce, memory.calls + 1⟩,
        made ++ [issueRecord decision request]⟩

/-- Decides on a request and issues a nonce if it passes. -/
def process (validator : Validator) (source : RandomSource) (memory : GuardMemory)
    (request : GuardedRequest) (session : Option Nat) : Outcome Passed :=
  match validator.decide memory.vault request session with
  | .rejected =>
      ⟨.error (.rejected request.path validator.denyStatus), memory, [rejectionRecord request]⟩
  | decision =>
      match session with
      | none => ⟨.error .sessionMissing, memory, []⟩
      | some session => validator.issue source memory decision request session

/-! ## Histories -/

/-- What can be done with a validator and a session. -/
inductive Action where
  /-- A request is decided on and, if it passes, given a nonce. -/
  | process (request : GuardedRequest)
  | check (request : GuardedRequest)
  | askEntryPoint (request : GuardedRequest)
  /-- The session is given a cache if it has none. -/
  | attach
  /-- A nonce from elsewhere is put into the cache of the session. -/
  | add (nonce : String)
  | reset
  deriving Repr, DecidableEq

/-- One step: an action on a session, which may be missing. -/
structure Step where
  session : Option Nat
  action : Action
  deriving Repr, DecidableEq

/-- What a step answers. -/
inductive Answer where
  | passed (passed : Passed)
  | decided (decision : Decision)
  /-- Whether the path of a request may be asked for without a nonce. -/
  | entryPoint (holds : Bool) (path : String)
  | done
  deriving Repr, DecidableEq

/-- Does something to a session that has to be there. -/
def withSession (session : Option Nat) (memory : GuardMemory)
    (act : Nat → Vault × List Record) : Outcome Answer :=
  match session with
  | none => ⟨.error .sessionMissing, memory, []⟩
  | some session =>
      let (vault, records) := act session
      ⟨.ok .done, { memory with vault }, records⟩

def step (validator : Validator) (source : RandomSource) (memory : GuardMemory) (step : Step) :
    Outcome Answer :=
  match step.action with
  | .process request =>
      let outcome := validator.process source memory request step.session
      ⟨outcome.result.map .passed, outcome.memory, outcome.records⟩
  | .check request =>
      ⟨.ok (.decided (validator.decide memory.vault request step.session)), memory, []⟩
  | .askEntryPoint request =>
      ⟨.ok (.entryPoint (validator.isEntryPoint request) request.path), memory, []⟩
  | .attach =>
      withSession step.session memory fun session =>
        let (_, vault, made) := validator.slot.obtain memory.vault session
        (vault, made)
  | .add nonce =>
      withSession step.session memory fun session =>
        let (number, vault, made) := validator.slot.obtain memory.vault session
        (vault.addNonce number nonce, made)
  | .reset =>
      withSession step.session memory fun session =>
        (memory.vault.detach session validator.slot.attributeName, [])

/-- Carries out steps one after the other and reports on each. -/
def run (validator : Validator) (source : RandomSource) (memory : GuardMemory) :
    List Step → List (Outcome Answer)
  | [] => []
  | first :: rest =>
      let outcome := validator.step source memory first
      outcome :: validator.run source outcome.memory rest

end Validator

end CsrfGuard
