import CsrfGuard.Text.Hex

/-!
# Percent-encoding

Where a URL may hold only some characters, the others are written as their UTF-8 bytes, each as a
percent sign and two capital hexadecimal digits. Which characters stand for themselves depends on
the part of the URL.
-/

namespace CsrfGuard.Text.Percent

/-- Letters, digits and the four marks that stand for themselves in every part of a URL. -/
def isUnreserved (c : Char) : Bool :=
  c.isAlphanum || c == '_' || c == '.' || c == '-' || c == '~'

/-- The percent-escapes of the UTF-8 bytes of a character. -/
def escapeChar (c : Char) : List Char :=
  (String.utf8EncodeChar c).flatMap fun byte => '%' :: Hex.ofByte byte

/-- A text in which every character that is neither unreserved nor one of `allowed` is escaped. -/
def escape (allowed : List Char) (chars : List Char) : List Char :=
  chars.flatMap fun c => if isUnreserved c || allowed.contains c then [c] else escapeChar c

/-- The further characters that stand for themselves in a name or value of a built query. -/
def queryMarks : List Char := "!$'()*,/:;?@".toList

/-- The further characters that stand for themselves in a path segment. -/
def pathMarks : List Char := "!$&'()*+,/:;=@".toList

/-- The further characters that stand for themselves in an anchor; a percent sign is taken to start
an escape already written. -/
def anchorMarks : List Char := "%!#$&'()*+,/:;=?@".toList

/-- A name or value of a query: as `escape`, with each space written as a plus sign. -/
def escapeQuery (allowed : List Char) (chars : List Char) : List Char :=
  chars.flatMap fun c => if c = ' ' then ['+'] else escape allowed [c]

/-- Names and values as a query: an equals sign between a name and its value, an ampersand between
two pairs. -/
def query (allowed : List Char) (pairs : List (String × String)) : List Char :=
  ['&'].intercalate <| pairs.map fun pair =>
    escapeQuery allowed pair.1.toList ++ '=' :: escapeQuery allowed pair.2.toList

/-- A relative reference as it is sent in a header: its path, query and anchor are escaped each by
its own rule, escapes already written are kept, tabs are left out, and an anchor mark with nothing
behind it goes, as does a question mark with nothing behind it. -/
def escapeReference (chars : List Char) : List Char :=
  let plain := chars.filter (· ≠ '\t')
  let beforeAnchor := plain.takeWhile (· ≠ '#')
  let anchor := (plain.dropWhile (· ≠ '#')).drop 1
  let path := beforeAnchor.takeWhile (· ≠ '?')
  let query := (beforeAnchor.dropWhile (· ≠ '?')).drop 1
  escape ('%' :: pathMarks) path ++
    (if query = [] then [] else '?' :: escape ('%' :: '?' :: pathMarks) query) ++
    (if anchor = [] then [] else '#' :: escape anchorMarks anchor)

end CsrfGuard.Text.Percent
