/-!
# Text inside markup

Text that is put into a page has the five characters with a meaning in markup replaced by character
references, so that it can stand between tags and inside an attribute in quotation marks.
-/

namespace CsrfGuard.Text.Markup

/-- A character as it is written inside markup. -/
def escapeChar : Char → List Char
  | '&' => "&amp;".toList
  | '<' => "&lt;".toList
  | '>' => "&gt;".toList
  | '\'' => "&#39;".toList
  | '"' => "&#34;".toList
  | c => [c]

/-- A text as it is written inside markup. -/
def escape (text : String) : String :=
  String.ofList (text.toList.flatMap escapeChar)

end CsrfGuard.Text.Markup
