import CsrfGuard.Text.Markup

/-!
# The pages of the demonstration site

The demonstration site has three pages with links in them. A page is given by what goes into its
template; `render` fills the template in, and `targets` lists the links and the form of the page
with the method by which the client follows them.
-/

namespace CsrfGuard.Demo

/-- A page of the demonstration site. -/
inductive Page where
  /-- The page with the transfer form and a link to the list of transfers. -/
  | index (transferUrl historyUrl : String)
  /-- The page after a transfer, with the amount and a link back. -/
  | done (amount backUrl : String)
  /-- The list of transfers, with a link back. -/
  | history (amounts : List Nat) (backUrl : String)
  deriving Repr, DecidableEq

namespace Page

/-- The lines that every page starts with. -/
def opening : String := "\n<!doctype html>\n<title>nonceguard</title>\n"

def listEntry (amount : Nat) : String := "<li>" ++ toString amount ++ "</li>"

def anchor (url caption : String) : String :=
  "<a href=\"" ++ Text.Markup.escape url ++ "\">" ++ caption ++ "</a>"

def render : Page → String
  | index transferUrl historyUrl =>
      opening ++ "<h1>Transfer</h1>\n<form method=\"post\" action=\"" ++
        Text.Markup.escape transferUrl ++
        "\">\n  <input name=\"amount\" value=\"10\">\n  <button type=\"submit\">Send</button>\n" ++
        "</form>\n" ++ anchor historyUrl "History"
  | done amount backUrl =>
      opening ++ "<p>Sent " ++ Text.Markup.escape amount ++ ".</p>\n" ++ anchor backUrl "Back"
  | history amounts backUrl =>
      opening ++ "<ul>\n" ++ String.join (amounts.map listEntry) ++ "\n</ul>\n" ++
        anchor backUrl "Back"

/-- Where a page leads to: methods and URLs. -/
def targets : Page → List (String × String)
  | index transferUrl historyUrl => [("POST", transferUrl), ("GET", historyUrl)]
  | done _ backUrl => [("GET", backUrl)]
  | history _ backUrl => [("GET", backUrl)]

end Page

end CsrfGuard.Demo
