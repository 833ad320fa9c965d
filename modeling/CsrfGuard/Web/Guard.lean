import CsrfGuard.Session.Store
import CsrfGuard.Settings
import CsrfGuard.Validator
import CsrfGuard.Web.Request

/-!
# The guard of a site

The guard stands before everything else a site does. It finds the session of the client, or creates
one and writes its identifier into the client's cookie, and lets the validator decide. What a site
leaves open when it installs a guard is taken from its configuration, and what that leaves open from
the settings.
-/

namespace CsrfGuard.Web

/-! ## Options -/

/-- A value given where an integer is expected. -/
inductive NumberOption where
  | number (value : Int)
  | text (written : String)
  | other
  deriving Repr, DecidableEq

namespace NumberOption

/-- Whether a value counts as not given: the number zero and the empty text do. -/
def isBlank : NumberOption → Bool
  | number value => value = 0
  | text written => written = ""
  | other => false

def read : NumberOption → Except GuardError Int
  | number value => .ok value
  | text written => Text.Numeral.read written
  | other => .error .notANumber

end NumberOption

/-- What may be said about a guard when it is made. -/
structure GuardOptions where
  entryPoints : Option EntryListing := none
  cacheSize : Option NumberOption := none
  nonceParam : Option String := none
  sessionAttribute : Option String := none
  denyStatus : Option NumberOption := none
  deriving Repr, DecidableEq

/-- What the configuration of a site may say about its guard and about the site itself. -/
structure SiteConfig where
  /-- The entry points; the listing may be configured to be missing. -/
  entryPoints : Option (Option EntryListing) := none
  cacheSize : Option NumberOption := none
  /-- The request parameter; it may be configured to have no name. -/
  nonceParam : Option (Option String) := none
  /-- The session attribute; it may be configured to have no name. -/
  sessionAttribute : Option AttributeName := none
  denyStatus : Option NumberOption := none
  secretKey : Option String := none
  deriving Repr, DecidableEq

/-- An option that was really given: not missing and not blank. -/
def given {α : Type} (isBlank : α → Bool) (option : Option α) : Option α :=
  option.filter fun value => !isBlank value

namespace GuardOptions

/-- The capacity of nonce caches: from the options unless blank, else from the configuration, else
from the settings. -/
def cacheSizeIn (options : GuardOptions) (config : SiteConfig) (settings : Settings) :
    NumberOption :=
  ((given NumberOption.isBlank options.cacheSize).or config.cacheSize).getD
    (.number settings.cacheSize)

/-- The status of the answer to a rejected request, looked for in the same order. -/
def denyStatusIn (options : GuardOptions) (config : SiteConfig) (settings : Settings) :
    NumberOption :=
  ((given NumberOption.isBlank options.denyStatus).or config.denyStatus).getD
    (.number settings.denyStatus)

/-- The request parameter that carries the nonce, looked for in the same order. -/
def nonceParamIn (options : GuardOptions) (config : SiteConfig) (settings : Settings) :
    Option String :=
  match given (· = "") options.nonceParam with
  | some name => some name
  | none => config.nonceParam.getD (some settings.nonceParam)

/-- The session attribute that holds the nonces, looked for in the same order. -/
def sessionAttributeIn (options : GuardOptions) (config : SiteConfig) (settings : Settings) :
    AttributeName :=
  match given (· = "") options.sessionAttribute with
  | some name => some name
  | none => config.sessionAttribute.getD (some settings.sessionAttribute)

/-- The entry points, looked for in the same order; here an empty listing is one that was given. -/
def entryPointsIn (options : GuardOptions) (config : SiteConfig) (settings : Settings) :
    EntryPoints :=
  EntryPoints.ofListing? <|
    match options.entryPoints with
    | some listing => some listing
    | none => config.entryPoints.getD (some (.text settings.entryPoints))

/-- The validator that options, configuration and settings call for. The capacity is read and tested
before the status is read. -/
def validator (options : GuardOptions) (config : SiteConfig) (settings : Settings)
    (generator : NonceGenerator) : Except GuardError Validator := do
  let capacity ← (options.cacheSizeIn config settings).read
  let slot ← CacheSlot.ofCapacity capacity (options.sessionAttributeIn config settings)
  let denyStatus ← (options.denyStatusIn config settings).read
  return {
    slot
    generator
    denyStatus
    entryPoints := options.entryPointsIn config settings
    nonceParam := options.nonceParamIn config settings }

end GuardOptions

/-! ## Statuses -/

/-- The status of an answer that is due to a failure of the site. -/
def failureStatus : Int := 500

/-- The statuses with which a request can be refused. Which they are is settled by the server that a
site runs on; they are statuses of errors, and that of a failure is one of them. -/
structure Refusals where
  statuses : List Int
  le_of_mem : ∀ status ∈ statuses, 400 ≤ status
  failure_mem : failureStatus ∈ statuses

namespace Refusals

instance : Membership Int Refusals where
  mem refusals status := status ∈ refusals.statuses

instance (status : Int) (refusals : Refusals) : Decidable (status ∈ refusals) :=
  inferInstanceAs (Decidable (status ∈ refusals.statuses))

/-- The statuses of the errors that are in use, as a server has them by default. -/
def common : Refusals where
  statuses :=
    [400, 401, 403, 404, 405, 406, 408, 409, 410, 411, 412, 413, 414, 415, 416, 417, 418, 421, 422,
      423, 424, 428, 429, 431, 451, 500, 501, 502, 503, 504, 505]
  le_of_mem := by decide
  failure_mem := by decide

/-- The status of the answer to a request that ended in an error: a rejected request has the status
that was configured, if requests can be refused with it, and everything else is a failure. -/
def errorStatus (refusals : Refusals) : GuardError → Int
  | .rejected _ status => if status ∈ refusals then status else failureStatus
  | _ => failureStatus

/-- A request that ended in an error is answered with the status of a refusal. -/
theorem errorStatus_mem (refusals : Refusals) (cause : GuardError) :
    refusals.errorStatus cause ∈ refusals := by
  unfold errorStatus
  split
  · split
    · next hmem => exact hmem
    · exact refusals.failure_mem
  · exact refusals.failure_mem

theorem errorStatus_ne_of_lt (refusals : Refusals) (cause : GuardError) {status : Int}
    (hstatus : status < 400) : refusals.errorStatus cause ≠ status := by
  have hle : 400 ≤ refusals.errorStatus cause :=
    refusals.le_of_mem _ (refusals.errorStatus_mem cause)
  omega

end Refusals

/-! ## State -/

/-- What lies outside the program: where random bytes come from, the identifier that the session of
each number gets, and the statuses that requests can be refused with. -/
structure Surroundings where
  source : RandomSource
  sessionId : Nat → String
  refusals : Refusals := .common

/-- What the guard keeps between requests. -/
structure GuardState where
  store : SessionStore CacheNumber
  caches : List NonceCache
  calls : Nat
  deriving Repr, DecidableEq

namespace GuardState

/-- The state over a session store in which no session has a nonce yet. -/
def ofStore (store : SessionStore CacheNumber) : GuardState := ⟨store, [], 0⟩

/-- The part of the state that the validator works on. -/
def memory (state : GuardState) : GuardMemory := ⟨⟨state.store.sessions, state.caches⟩, state.calls⟩

def withMemory (state : GuardState) (memory : GuardMemory) : GuardState :=
  { store := { state.store with sessions := memory.vault.sessions }
    caches := memory.vault.caches
    calls := memory.calls }

end GuardState

/-- The store that a guard works with: the one it was handed, if that holds a session, and else a
new one with the idle time of the settings. -/
def storeFor (settings : Settings) (handed : Option (SessionStore CacheNumber)) :
    SessionStore CacheNumber :=
  (handed.filter fun store => store.size ≠ 0).getD (.empty settings.idleMilliseconds)

/-- The client's cookie and the guard's state while a request is handled. -/
structure Exchange where
  cookie : Cookie
  state : GuardState
  deriving Repr, DecidableEq

namespace Exchange

/-- The session of the client, created if there is none and `create` says so. A new one is written
into the cookie; if that cannot be done, the session has been created all the same. -/
def currentSession (exchange : Exchange) (surroundings : Surroundings) (cookieWritable : Bool)
    (now : Int) (create : Bool) : Except GuardError (Option Nat) × Exchange :=
  let (found, store) := exchange.state.store.get now exchange.cookie.sessionId
  let looked : Exchange := { exchange with state := { exchange.state with store } }
  match found with
  | some number => (.ok (some number), looked)
  | none =>
      if !create then (.ok none, looked)
      else
        let id := surroundings.sessionId store.sessions.length
        let (number, store) := store.create now id
        let created : Exchange := { looked with state := { looked.state with store } }
        if cookieWritable then
          let cookie := { created.cookie with sessionId := some id }
          (.ok (some number), { created with cookie })
        else (.error .cookieNotWritable, created)

end Exchange

/-! ## Requests -/

/-- The part of a request that the validator looks at. -/
def guardedRequest (request : Request) (nonceParam : Option String) : GuardedRequest where
  method := request.method
  base := request.path
  rest := none
  nonce := nonceParam.bind request.parameter?

/-- What became of a request at the guard. -/
structure Screening where
  /-- The nonce it was given, or why it did not pass. -/
  result : Except GuardError Passed
  exchange : Exchange
  records : List Record

/-- Stops a request at the guard or lets it pass. The session is found first, and is there
afterwards whatever the decision is. -/
def screen (validator : Validator) (surroundings : Surroundings) (cookieWritable : Bool) (now : Int)
    (request : Request) (exchange : Exchange) : Screening :=
  match exchange.currentSession surroundings cookieWritable now true with
  | (.error cause, exchange) => ⟨.error cause, exchange, []⟩
  | (.ok session, exchange) =>
      let outcome := validator.process surroundings.source exchange.state.memory
        (guardedRequest request validator.nonceParam) session
      ⟨outcome.result,
        { exchange with state := exchange.state.withMemory outcome.memory }, outcome.records⟩

end CsrfGuard.Web
