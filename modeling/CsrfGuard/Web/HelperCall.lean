import CsrfGuard.Web.Site

/-!
# Calls of the helpers

Everything that the guard offers to views can be written down as a helper call, so that a view can
be given as a list of calls. `callView` is that view: it carries the calls out in order, and one
that fails does not keep the others from being carried out.
-/

namespace CsrfGuard.Web

inductive HelperCall where
  | encodeUrl (url : Option String)
  | encodeRedirectUrl (url : Option String)
  | currentNonce
  | nonceUrlFor (endpoint : String) (values : Address.Values)
  | nonceRedirect (location : Option String) (status : StatusChoice)
  | currentSession (create : Bool)
  /-- What a template finds, and a URL as it puts it into a link. -/
  | template (url : Option String)
  /-- Whether the guard that is asked is the one installed on the site. -/
  | isInstalled
  deriving Repr, DecidableEq

/-- What a helper call answers. -/
inductive HelperAnswer where
  /-- A text, or that there is none. -/
  | text (value : Option String)
  | redirect (redirect : Redirect)
  | template (names : List String) (nonce url : Option String)
  | flag (holds : Bool)
  deriving Repr, DecidableEq

namespace HelperCall

def perform (site : Site) (surroundings : Surroundings) (now : Int) (visit : Visit) :
    HelperCall → Except GuardError HelperAnswer × Visit
  | encodeUrl url => ((visit.encodeUrl url).map .text, visit)
  | encodeRedirectUrl url => ((visit.encodeRedirectUrl url).map .text, visit)
  | currentNonce => (.ok (.text visit.currentNonce), visit)
  | nonceUrlFor endpoint values =>
      ((visit.nonceUrlFor site.endpoints endpoint values).map fun url => .text (some url), visit)
  | nonceRedirect location status => ((visit.nonceRedirect location status).map .redirect, visit)
  | currentSession create =>
      let (found, visit) := site.currentSession surroundings now visit create
      let idOf (number : Nat) : Option String :=
        (visit.exchange.state.store.session? number).map (·.id)
      (found.map fun session => .text (session.bind idOf), visit)
  | template url =>
      ((visit.encodeUrl url).map fun url => .template templateNames visit.currentNonce url, visit)
  | isInstalled =>
      (if site.guard.isSome then .ok (.flag true) else .error .guardMissing, visit)

/-- Carries calls out one after the other. -/
def performAll (site : Site) (surroundings : Surroundings) (now : Int) (visit : Visit) :
    List HelperCall → List (Except GuardError HelperAnswer) × Visit
  | [] => ([], visit)
  | call :: rest =>
      let (answer, visit) := call.perform site surroundings now visit
      let (answers, visit) := performAll site surroundings now visit rest
      (answer :: answers, visit)

end HelperCall

/-- The view that answers every request by carrying out the calls. -/
def callView (site : Site) (surroundings : Surroundings) (now : Int) (calls : List HelperCall) :
    View (List (Except GuardError HelperAnswer)) :=
  fun visit =>
    let (answers, visit) := HelperCall.performAll site surroundings now visit calls
    (.ok answers, visit)

end CsrfGuard.Web
