import CsrfGuard.Web.Visit

/-!
# A site and its clients

A site has endpoints and possibly a guard. Its clients are numbered; each keeps its own cookie. What
happens to a site is a request of a client, which goes through the guard to a view, or one of the
acts of `ClientAct`: time goes by, a client loses its cookie or writes a session identifier into it,
or the session of a client ends on the server.
-/

namespace CsrfGuard.Web

structure Site where
  guard : Option Validator
  /-- Whether the cookies of clients can be written. -/
  cookieWritable : Bool
  endpoints : List Endpoint

/-- The state of a site and its clients. -/
structure SiteState where
  now : Int
  guardState : GuardState
  cookies : Nat → Cookie

namespace SiteState

def initial (now : Int) (store : SessionStore CacheNumber) : SiteState :=
  ⟨now, .ofStore store, fun _ => .empty⟩

/-- The state with the cookie of a client replaced. -/
def setCookie (state : SiteState) (client : Nat) (cookie : Cookie) : SiteState :=
  { state with
    cookies := fun other => if other = client then cookie else state.cookies other }

def sessionId (state : SiteState) (client : Nat) : Option String :=
  (state.cookies client).sessionId

/-- The nonce cache of a client, found without a look at the clock and without a change. -/
def cache? (state : SiteState) (slot : CacheSlot) (client : Nat) : Option NonceCache := do
  let id ← state.sessionId client
  let number ← state.guardState.store.numberOf? id
  slot.cache? state.guardState.memory.vault number

end SiteState

/-- What can happen to a site besides requests. -/
inductive ClientAct where
  /-- Time goes by, in milliseconds; the clock may also be set back. -/
  | advance (milliseconds : Int)
  | forget (client : Nat)
  /-- A client has a session identifier of its choice in its cookie. -/
  | setSessionId (client : Nat) (id : Option String)
  | invalidate (client : Nat)
  deriving Repr, DecidableEq

namespace SiteState

def act (state : SiteState) : ClientAct → SiteState
  | .advance milliseconds => { state with now := state.now + milliseconds }
  | .forget client => state.setCookie client .empty
  | .setSessionId client id =>
      state.setCookie client { state.cookies client with sessionId := id }
  | .invalidate client =>
      match state.sessionId client with
      | some id =>
          { state with
            guardState :=
              { state.guardState with store := state.guardState.store.invalidate id } }
      | none => state

end SiteState

/-- A view: what it makes of a visit, which may be an error, and the visit afterwards. -/
abbrev View (α : Type) := Visit → Except GuardError α × Visit

/-- What a request came to: the answer of the view or why there is none, and the records written. -/
structure Response (α : Type) where
  result : Except GuardError α
  records : List Record

namespace Site

/-- Sets up a guard on a site that has none, as options, configuration and settings call for. If no
such guard can be made, the site stays without one. -/
def install (site : Site) (options : GuardOptions) (config : SiteConfig) (settings : Settings)
    (generator : NonceGenerator) : Except GuardError Unit × Site :=
  match options.validator config settings generator with
  | .ok validator => (.ok (), { site with guard := some validator })
  | .error cause => (.error cause, site)

/-- The guard's part in answering a request: the visit that a view may answer, or the error in which
the request ended; with the exchange and the records after it. A site without a guard lets every
request pass. -/
def enter (site : Site) (surroundings : Surroundings) (now : Int) (request : Request)
    (exchange : Exchange) : Except GuardError (Option IssuedNonce) × Exchange × List Record :=
  match site.guard with
  | none => (.ok none, exchange, [])
  | some validator =>
      let screening := screen validator surroundings site.cookieWritable now request exchange
      (screening.result.map fun passed => some ⟨passed.nonce, validator.nonceParam⟩,
        screening.exchange, screening.records)

/-- Answers a request of a client by a view. The client gets its cookie back in any case, also when
the request ends in an error. -/
def receive {α : Type} (site : Site) (surroundings : Surroundings) (view : View α)
    (state : SiteState) (client : Nat) (request : Request) : Response α × SiteState :=
  let leave (exchange : Exchange) : SiteState :=
    { state.setCookie client exchange.cookie with guardState := exchange.state }
  match site.enter surroundings state.now request ⟨state.cookies client, state.guardState⟩ with
  | (.error cause, exchange, records) => (⟨.error cause, records⟩, leave exchange)
  | (.ok issued, exchange, records) =>
      let (result, visit) := view ⟨request, issued, exchange, records⟩
      (⟨result, visit.records⟩, leave visit.exchange)

/-- The session of the client as a view gets it. -/
def currentSession (site : Site) (surroundings : Surroundings) (now : Int) (visit : Visit)
    (create : Bool) : Except GuardError (Option Nat) × Visit :=
  let (found, exchange) :=
    visit.exchange.currentSession surroundings site.cookieWritable now create
  (found, { visit with exchange })

end Site

end CsrfGuard.Web
