import CsrfGuard.Text.Hex
import CsrfGuard.Text.Printable

/-!
# Quoted text in messages

A text shown inside a message stands in quotation marks. Single marks are used, unless the text
holds a single mark and no double one. The mark in use and the backslash are escaped by a backslash;
tab, line feed and carriage return have short escapes; every other character without a printed form
is given by its code point in small hexadecimal digits, two, four or eight of them.
-/

namespace CsrfGuard.Text

/-- The mark that encloses a quoted text. -/
def quotationMark (chars : List Char) : Char :=
  if chars.contains '\'' && !chars.contains '"' then '"' else '\''

/-- One character between quotation marks. -/
def quotedChar (mark c : Char) : List Char :=
  if c = mark ∨ c = '\\' then ['\\', c]
  else if c = '\t' then ['\\', 't']
  else if c = '\n' then ['\\', 'n']
  else if c = '\r' then ['\\', 'r']
  else if isPrintable c then [c]
  else if c.toNat < 0x100 then '\\' :: 'x' :: Hex.lowerDigits 2 c.toNat
  else if c.toNat < 0x10000 then '\\' :: 'u' :: Hex.lowerDigits 4 c.toNat
  else '\\' :: 'U' :: Hex.lowerDigits 8 c.toNat

def quoted (text : String) : String :=
  let chars := text.toList
  let mark := quotationMark chars
  String.ofList (mark :: chars.flatMap (quotedChar mark) ++ [mark])

/-- The first `limit` characters of a text in quotation marks, the marks counted. A longer one loses
its closing mark. -/
def quotedUpTo (limit : Nat) (text : String) : String :=
  String.ofList ((quoted text).toList.take limit)

end CsrfGuard.Text
