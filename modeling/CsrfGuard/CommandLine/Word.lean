import CsrfGuard.Text.Digit

/-!
# The words of a command line

A command takes options and arguments. Which words of a line are options is decided for each word by
itself: a word that starts with a dash is one, unless it is a lone dash, looks like a negative
number, or holds a space. An option may be shortened as long as it stays unique, and may bring its
value along: behind an equals sign, or directly if it is spelled with one dash. The word `--` ends
the options; only the first one does.
-/

namespace CsrfGuard.CommandLine

/-- What an option wants. -/
inductive OptionKind where
  /-- No value: it asks for help. -/
  | help
  | text
  | integer
  deriving Repr, DecidableEq

structure OptionSpec where
  /-- Its spellings, with their dashes. -/
  spellings : List String
  kind : OptionKind
  deriving Repr, DecidableEq

namespace OptionSpec

/-- The name of an option in messages. -/
def name (spec : OptionSpec) : String := "/".intercalate spec.spellings

end OptionSpec

/-- What an option brings along in its own word. -/
inductive Attached where
  | nothing
  /-- A text behind an equals sign. -/
  | joined (value : String)
  /-- A text directly behind a spelling with one dash; it is not empty. -/
  | glued (value : String)
  deriving Repr, DecidableEq

/-- Whether an option is spelled with one dash. -/
def isShort (spelling : String) : Bool := spelling.toList[1]? ≠ some '-'

/-- An option as it was found in a word. -/
structure FoundOption where
  spec : OptionSpec
  /-- The spelling that the word stands for. -/
  spelling : String
  attached : Attached
  deriving Repr, DecidableEq

/-- A word of a command line. -/
inductive Word where
  | plain (text : String)
  | known (text : String) (option : FoundOption)
  | unknown (text : String)
  | separator
  deriving Repr, DecidableEq

/-- The word that ends the options. -/
def separatorText : String := "--"

namespace Word

def text : Word → String
  | plain text | known text _ | unknown text => text
  | separator => separatorText

end Word

/-- A text cut at its first equals sign. -/
def cutAtEquals (text : String) : String × Option String :=
  let chars := text.toList
  (String.ofList (chars.takeWhile (· ≠ '=')),
    ((chars.dropWhile (· ≠ '=')).tail?).map String.ofList)

def spelled? (specs : List OptionSpec) (spelling : String) : Option OptionSpec :=
  specs.find? (·.spellings.contains spelling)

/-- All spellings of all options, each with its option. -/
def allSpellings (specs : List OptionSpec) : List (OptionSpec × String) :=
  specs.flatMap fun spec => spec.spellings.map fun spelling => (spec, spelling)

/-- A text behind an equals sign, if there is one. -/
def joinedOrNothing : Option String → Attached
  | some value => .joined value
  | none => .nothing

/-- What a word that starts with one dash can stand for by a spelling: by its first two characters
with the rest as a value, or as a shortened form. -/
def shortReading (text : String) (spec : OptionSpec) (spelling : String) : Option FoundOption :=
  if spelling.toList = text.toList.take 2 then
    some ⟨spec, spelling, .glued (String.ofList (text.toList.drop 2))⟩
  else if text.toList.isPrefixOf spelling.toList then some ⟨spec, spelling, .nothing⟩
  else none

/-- What a word that starts with two dashes can stand for by a spelling: as a shortened form of it,
its value behind an equals sign. -/
def longReading (text : String) (spec : OptionSpec) (spelling : String) : Option FoundOption :=
  let (shortened, value) := cutAtEquals text
  if shortened.toList.isPrefixOf spelling.toList then
    some ⟨spec, spelling, joinedOrNothing value⟩
  else none

/-- All that a word can stand for without being spelled out. -/
def readings (specs : List OptionSpec) (text : String) : List FoundOption :=
  let reading := if isShort text then shortReading text else longReading text
  (allSpellings specs).filterMap fun (spec, spelling) => reading spec spelling

/-- Whether a text is a negative number, written with decimal digits and at most one point. A line
feed at the very end does not count. -/
def looksNegative (text : String) : Bool :=
  match text.toList with
  | '-' :: rest =>
      let number := if rest.getLast? = some '\n' then rest.dropLast else rest
      let isDecimal (c : Char) : Bool := (Text.digitValue? c).isSome
      let fraction := number.dropWhile isDecimal
      match fraction with
      | [] => number ≠ []
      | '.' :: decimals => decimals ≠ [] && decimals.all isDecimal
      | _ => false
  | _ => false

/-- A word that can stand for several options. -/
structure AmbiguousOption where
  text : String
  spellings : List String
  deriving Repr, DecidableEq

/-- Decides what a word is that is not the end of the options. -/
def classify (specs : List OptionSpec) (text : String) : Except AmbiguousOption Word :=
  if text.toList.head? ≠ some '-' then .ok (.plain text)
  else
    match spelled? specs text with
    | some spec => .ok (.known text ⟨spec, text, .nothing⟩)
    | none =>
        if text = "-" then .ok (.plain text)
        else
          let (spelling, value) := cutAtEquals text
          match spelled? specs spelling, value with
          | some spec, some value => .ok (.known text ⟨spec, spelling, .joined value⟩)
          | _, _ =>
              match readings specs text with
              | [option] => .ok (.known text option)
              | [] =>
                  if looksNegative text || text.toList.contains ' ' then .ok (.plain text)
                  else .ok (.unknown text)
              | several => .error ⟨text, several.map (·.spelling)⟩

/-- Decides for all words of a line. Behind the end of the options every word is an argument. -/
def classifyAll (specs : List OptionSpec) : List String → Except AmbiguousOption (List Word)
  | [] => .ok []
  | text :: rest =>
      if text = separatorText then .ok (.separator :: rest.map .plain)
      else do
        let word ← classify specs text
        return word :: (← classifyAll specs rest)

end CsrfGuard.CommandLine
