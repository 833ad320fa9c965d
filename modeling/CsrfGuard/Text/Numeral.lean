import CsrfGuard.Error
import CsrfGuard.Text.Blank
import CsrfGuard.Text.Digit

/-!
# Integers written as text

An integer is written with the decimal digits of any scripts, an optional sign in front, blanks
around the whole, and at most one underscore between two digits. More than `maxDigits` digits,
leading zeros counted, are not read. A text that breaks two rules is reported for its digits first:
too many of them outweigh what follows them, but not a misplaced underscore among them.
-/

namespace CsrfGuard.Text.Numeral

/-- The greatest number of digits that is read. -/
def maxDigits : Nat := 4300

/-- The blanks that may stand around an integer: all but the four information separators. -/
def isPadding (c : Char) : Bool :=
  isBlank c && !(0x1C ≤ c.toNat && c.toNat ≤ 0x1F)

/-- The values of the digits at the front of a text, single underscores between them skipped, and
what follows them; nothing if an underscore is not followed by a digit. -/
def leadingDigits : List Char → Option (List Nat × List Char)
  | [] => some ([], [])
  | c :: rest =>
      match digitValue? c with
      | some value => (leadingDigits rest).map fun found => (value :: found.1, found.2)
      | none =>
          if c = '_' then
            if (rest.head?.bind digitValue?).isSome then leadingDigits rest else none
          else some ([], c :: rest)

/-- The number that a row of digit values stands for in base ten. -/
def ofDigits (digits : List Nat) : Nat :=
  digits.foldl (fun number digit => number * 10 + digit) 0

/-- The sign in front of an integer, and what follows it. -/
def takeSign : List Char → Bool × List Char
  | '-' :: rest => (true, rest)
  | '+' :: rest => (false, rest)
  | chars => (false, chars)

def read (text : String) : Except GuardError Int :=
  let (negative, body) := takeSign (dropWhileEnd isPadding (text.toList.dropWhile isPadding))
  if (body.head?.bind digitValue?).isNone then .error (.notAnInteger text)
  else
    match leadingDigits body with
    | none => .error (.notAnInteger text)
    | some (digits, rest) =>
        if maxDigits < digits.length then .error .integerTooLong
        else if rest ≠ [] then .error (.notAnInteger text)
        else .ok (if negative then -(ofDigits digits : Int) else ofDigits digits)

end CsrfGuard.Text.Numeral
