import CsrfGuard.Link.Encoder
import CsrfGuard.Web.Address
import CsrfGuard.Web.Guard

/-!
# What a view can do

Once the guard has let a request pass, a view of the site answers it. The view can ask for the nonce
that was issued, put it on links and redirects, and get at the session of the client. On a site
without a guard there is no nonce, and links stay as they are.
-/

namespace CsrfGuard.Web

/-- A nonce that was issued, and the parameter it goes by. -/
structure IssuedNonce where
  nonce : String
  param : Option String
  deriving Repr, DecidableEq

structure Visit where
  request : Request
  /-- The nonce issued to the request; none if no guard is installed. -/
  issued : Option IssuedNonce
  exchange : Exchange
  records : List Record

/-- A redirect: its status and the URL it leads to. -/
structure Redirect where
  status : Int
  location : String
  deriving Repr, DecidableEq

/-- How the status of a redirect is given. -/
inductive StatusChoice where
  | number (status : Int)
  /-- A number, possibly with words behind it, or words only. -/
  | text (written : String)
  /-- Not at all: the status is that of an ordinary answer. -/
  | unset
  deriving Repr, DecidableEq

namespace StatusChoice

def ordinary : Int := 200

/-- The status that a choice stands for. Of a text the first word counts; words without a number
stand for zero. -/
def status : StatusChoice → Except GuardError Int
  | number status => .ok status
  | unset => .ok ordinary
  | text written =>
      let shown := Text.trim written
      if shown = "" then .error .statusEmpty
      else
        match Text.Numeral.read (String.ofList (shown.toList.takeWhile (· ≠ ' '))) with
        | .ok status => .ok status
        | .error _ => .ok 0

end StatusChoice

/-- The names under which templates find the nonce and the two ways to put it on a link, sorted. -/
def templateNames : List String := ["csrf_nonce", "encode_url", "nonce_url_for"]

namespace Visit

def currentNonce (visit : Visit) : Option String := visit.issued.map (·.nonce)

def encoder (visit : Visit) : Encoder Empty :=
  match visit.issued with
  | some issued => Encoder.plain.withNonce (some issued.nonce) issued.param
  | none => .plain

/-- A URL as it goes into a link or form. -/
def encodeUrl (visit : Visit) (url : Option String) : Except GuardError (Option String) :=
  visit.encoder.encodeUrl url

/-- A URL as it goes into a redirect. -/
def encodeRedirectUrl (visit : Visit) (url : Option String) : Except GuardError (Option String) :=
  visit.encoder.encodeRedirectUrl url

/-- A URL that is there, as it goes into a link or form. -/
def linkTo (visit : Visit) (url : String) : Except GuardError String := do
  return (← visit.encodeUrl (some url)).getD url

/-- The address of an endpoint, as it goes into a link or form. -/
def nonceUrlFor (visit : Visit) (endpoints : List Endpoint) (name : String)
    (values : Address.Values) : Except GuardError String := do
  visit.linkTo (← Address.build endpoints visit.request.host name values)

/-- Whether a text can be sent in a header: it has no line break. -/
def fitsHeader (text : String) : Bool :=
  !text.toList.any fun c => c == '\r' || c == '\n'

/-- What stands in a header for a URL that is missing. -/
def missingText : String := "None"

/-- A redirect to a URL with the nonce on it. -/
def nonceRedirect (visit : Visit) (location : Option String) (choice : StatusChoice) :
    Except GuardError Redirect := do
  let encoded := (← visit.encodeRedirectUrl location).getD missingText
  let status ← choice.status
  if fitsHeader encoded then return ⟨status, encoded⟩ else throw .lineBreakInHeader

end Visit

end CsrfGuard.Web
