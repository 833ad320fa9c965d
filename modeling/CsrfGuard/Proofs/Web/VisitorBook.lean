import CsrfGuard.Proofs.Nonce.Past
import CsrfGuard.Validator
import CsrfGuard.Web.Request

/-!
# A visitor book

Seen from outside, a guarded site treats every client by itself. The *visitor book* is the simplest
machine that does so: for each client it has either nothing or the time of the client's last request
and all nonces the client has been issued. It knows no sessions, no identifiers, no order in which
anything is given up, and it forgets nothing but what a client's own absence makes it forget.
-/

namespace CsrfGuard.Web

inductive Verdict where
  | denied
  | passed (nonce : String)
  deriving Repr, DecidableEq

/-- What happens to a site when its clients only make requests and lose their cookies, and the clock
is not set back. -/
inductive VisitEvent where
  | request (client : Nat) (request : Request)
  | wait (milliseconds : Nat)
  | forget (client : Nat)
  deriving Repr, DecidableEq

/-- By what a site judges requests. -/
structure HouseRules where
  /-- For how long, in milliseconds, a client may stay away. May be negative. -/
  idleLimit : Int
  entryPoints : EntryPoints
  nonceParam : Option String
  /-- How many distinct nonces of a client are valid. -/
  window : Nat
  /-- The nonces in the order in which they are issued, counted from one. -/
  nonce : Nat → String

/-- Whether a request passes, given the nonces issued to its client, if the client is known. -/
def HouseRules.Passes (rules : HouseRules) (past : Past) (request : Request) : Prop :=
  (request.method = "GET" ∧ request.path ∈ rules.entryPoints) ∨
    past.Admits rules.window (rules.nonceParam.bind request.parameter?)

instance (rules : HouseRules) (past : Past) (request : Request) :
    Decidable (rules.Passes past request) :=
  inferInstanceAs (Decidable (_ ∨ _))

structure Visitor where
  lastSeen : Int
  nonces : List String
  deriving Repr, DecidableEq

structure VisitorBook where
  now : Int
  /-- How many nonces have been issued to all clients together. -/
  issued : Nat
  visitors : Nat → Option Visitor

namespace VisitorBook

def empty (now : Int) : VisitorBook := ⟨now, 0, fun _ => none⟩

/-- The nonces issued to a client, unless the client has never come or has stayed away for too
long. -/
def pastOf (book : VisitorBook) (rules : HouseRules) (client : Nat) : Past :=
  match book.visitors client with
  | none => none
  | some visitor =>
      if book.now - visitor.lastSeen ≤ rules.idleLimit then some visitor.nonces else none

/-- The book after a client has been seen, with the nonces that the client then has. -/
def enter (book : VisitorBook) (client : Nat) (nonces : List String) : VisitorBook :=
  { book with visitors := Function.update book.visitors client (some ⟨book.now, nonces⟩) }

/-- Judges a request, and issues a nonce if it passes. -/
def receive (book : VisitorBook) (rules : HouseRules) (client : Nat) (request : Request) :
    Verdict × VisitorBook :=
  let past := book.pastOf rules client
  if rules.Passes past request then
    let nonce := rules.nonce (book.issued + 1)
    (.passed nonce,
      { book.enter client (past.getD [] ++ [nonce]) with issued := book.issued + 1 })
  else (.denied, book.enter client (past.getD []))

def forget (book : VisitorBook) (client : Nat) : VisitorBook :=
  { book with visitors := Function.update book.visitors client none }

/-- The verdicts on the requests among a list of events. -/
def verdicts (book : VisitorBook) (rules : HouseRules) : List VisitEvent → List Verdict
  | [] => []
  | .request client request :: rest =>
      let (verdict, next) := book.receive rules client request
      verdict :: next.verdicts rules rest
  | .wait milliseconds :: rest =>
      { book with now := book.now + milliseconds }.verdicts rules rest
  | .forget client :: rest => (book.forget client).verdicts rules rest

end VisitorBook

end CsrfGuard.Web
