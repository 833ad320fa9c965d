import CsrfGuard.Demo.Page
import CsrfGuard.Demo.Route
import CsrfGuard.Text.Numeral
import CsrfGuard.Web.Site

/-!
# The demonstration site

The demonstration site takes transfers of amounts. Its front page holds the form, a transfer is
posted to `/transfer` and leads on to `/done`, and `/history` lists the transfers of the client,
which are kept in the client's cookie. `/health` tells machines that the site is up. A guard stands
before all of them, also before answers that there is nothing at a path or that a method is not
allowed there.
-/

namespace CsrfGuard.Demo

open Web

/-! ## Replies -/

/-- What a reply shows. -/
inductive Content where
  | page (shown : Page)
  | text (shown : String)
  | nothing
  deriving Repr, DecidableEq

namespace Content

def body : Content → Option String
  | page shown => some shown.render
  | text shown => some shown
  | nothing => none

end Content

structure Reply where
  status : Int
  content : Content
  /-- The header that leads the client on. -/
  location : Option String
  deriving Repr, DecidableEq

namespace Reply

def ok (content : Content) : Reply := ⟨200, content, none⟩

def bare (status : Int) : Reply := ⟨status, .nothing, none⟩

/-- The reply without what it shows, as for a client that asks for the head only. -/
def headOnly (reply : Reply) : Reply :=
  match reply.content with
  | .nothing => reply
  | _ => { reply with content := .text "" }

end Reply

/-! ## Views -/

/-- The name under which the journal knows the site. -/
def loggerName : String := "nonceguard.webapp"

def amountKey : String := "amount"

def transferRecord (amount : String) : Record :=
  { level := .info
    logger := loggerName
    message := "transfer accepted amount=" ++ amount }

/-- Whether a text is an amount: one digit at least, and digits only. -/
def isAmount (amount : String) : Bool :=
  amount ≠ "" && amount.toList.all Text.isDigit

/-- The amount posted with a request, blanks around it taken off. -/
def postedAmount (request : Request) : String :=
  Text.trim ((request.form.lookup amountKey).getD "")

def indexView (visit : Visit) : Except GuardError Reply := do
  let transferUrl ← visit.nonceUrlFor endpoints "transfer" []
  let historyUrl ← visit.nonceUrlFor endpoints "history" []
  return .ok (.page (.index transferUrl historyUrl))

/-- The view of the page after a transfer. The amount is the one that the address names. -/
def doneView (visit : Visit) : Except GuardError Reply := do
  let backUrl ← visit.nonceUrlFor endpoints "index" []
  return .ok (.page (.done ((visit.request.query.lookup amountKey).getD "") backUrl))

def historyView (visit : Visit) : Except GuardError Reply := do
  let frontUrl ← Address.build endpoints visit.request.host "index" []
  let backUrl ← visit.linkTo (frontUrl ++ "#top")
  return .ok (.page (.history visit.exchange.cookie.transfers backUrl))

def healthReply : Reply := .ok (.text "\x7b\"status\":\"ok\"\x7d\n")

/-- The visit after a transfer: the number goes to the end of the client's list. -/
def recordTransfer (visit : Visit) (amount : String) (number : Nat) : Visit :=
  let cookie := visit.exchange.cookie
  { visit with
    exchange :=
      { visit.exchange with cookie := { cookie with transfers := cookie.transfers ++ [number] } }
    records := visit.records ++ [transferRecord amount] }

def doneRedirect (visit : Visit) (amount : String) : Except GuardError Reply := do
  let address ← Address.build endpoints visit.request.host "done" [(amountKey, some (.text amount))]
  let redirect ← visit.nonceRedirect (some address) (.number 302)
  let location := String.ofList (Text.Percent.escapeReference redirect.location.toList)
  return ⟨redirect.status, .nothing, some location⟩

/-- The view of a transfer. What is no amount is refused. An amount is read as a number, which may
fail although all its characters are digits; only then is it put on the client's list. -/
def transferView : View Reply := fun visit =>
  let amount := postedAmount visit.request
  if !isAmount amount then (.ok ⟨400, .text "Invalid amount", none⟩, visit)
  else
    match Text.Numeral.read amount with
    | .error cause => (.error cause, visit)
    | .ok number =>
        let visit := recordTransfer visit amount number.toNat
        (doneRedirect visit amount, visit)

def viewOf : Route → View Reply
  | .index => fun visit => (indexView visit, visit)
  | .done => fun visit => (doneView visit, visit)
  | .history => fun visit => (historyView visit, visit)
  | .health => fun visit => (.ok healthReply, visit)
  | .staticFile => fun visit => (.ok (.bare 404), visit)
  | .transfer => transferView

/-- The answer to a request for a route. Which methods a route answers is told without its view, and
who wants no body gets none. -/
def routeView (route : Route) : View Reply := fun visit =>
  if visit.request.method = "OPTIONS" then (.ok (.ok (.text "")), visit)
  else
    let (reply, visit) := viewOf route visit
    if visit.request.wantsHeadOnly then (reply.map Reply.headOnly, visit) else (reply, visit)

/-- The view of the whole site: what is found decides. A client that is sent elsewhere takes its
query along. -/
def siteView : View Reply := fun visit =>
  match Finding.find visit.request.routedPath visit.request.method with
  | .route route => routeView route visit
  | .methodNotAllowed => (.ok (.bare 405), visit)
  | .nothing => (.ok (.bare 404), visit)
  | .elsewhere path =>
      let location := Address.onHost visit.request.host path visit.request.query
      (.ok ⟨308, .nothing, some location⟩, visit)

/-! ## The application -/

/-- The demonstration site with everything settled. -/
structure App where
  validator : Validator
  cookieWritable : Bool
  journal : Journal
  deriving Repr, DecidableEq

namespace App

/-- The entry points of the site where none are set. -/
def defaultEntryPoints : String := "/,/health"

/-- The configuration of the site, its own entry points filled in where none are configured. -/
def completed (config : SiteConfig) (settings : Settings) : SiteConfig :=
  let ownEntryPoints :=
    if settings.entryPoints = "" then defaultEntryPoints else settings.entryPoints
  { config with
    entryPoints := some (config.entryPoints.getD (some (.text ownEntryPoints))) }

/-- Settles everything: the journal is set up first, then the guard is made. -/
def build (settings : Settings) (config : SiteConfig) : Except GuardError App := do
  let (outcome, journal) := Journal.initial.setUp settings.logLevel none
  outcome
  let generator ← NonceGenerator.ofNumBytes settings.nonceBytes
  let validator ← GuardOptions.validator {} (completed config settings) settings generator
  return {
    validator
    journal
    cookieWritable := config.secretKey.getD settings.secretKey ≠ "" }

def site (app : App) : Site where
  guard := some app.validator
  cookieWritable := app.cookieWritable
  endpoints := endpoints

def start (settings : Settings) (now : Int) : SiteState :=
  .initial now (storeFor settings none)

/-- The records that the journal of an application lets through. -/
def written (app : App) (records : List Record) : List Record := records.filter app.journal.passes

/-- The reply to a request that ended in an error. -/
def errorReply (refusals : Refusals) (cause : GuardError) : Reply :=
  .bare (refusals.errorStatus cause)

def respond (app : App) (surroundings : Surroundings) (state : SiteState) (client : Nat)
    (request : Request) : Reply × List Record × SiteState :=
  let (response, state) := app.site.receive surroundings siteView state client request
  let reply :=
    match response.result with
    | .ok reply => reply
    | .error cause => errorReply surroundings.refusals cause
  (reply, app.written response.records, state)

end App

end CsrfGuard.Demo
