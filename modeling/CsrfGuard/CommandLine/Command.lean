import CsrfGuard.CommandLine.Word
import CsrfGuard.EntryPoints
import CsrfGuard.Text.Numeral

/-!
# Commands and their reading

The program has three commands. A command line names one of them, after options of the program and
before the options and arguments of the command. `readCommandLine` reads a whole line; it ends in a
request, or early: because help was asked for, or because the line is wrong.
-/

namespace CsrfGuard.CommandLine

inductive Command where
  | serve
  | nonce
  | tag
  deriving Repr, DecidableEq

namespace Command

/-- All commands, in the order in which they are listed. -/
def all : List Command := [serve, nonce, tag]

def name : Command → String
  | serve => "serve"
  | nonce => "nonce"
  | tag => "rewrite"

end Command

/-- Who reads words: the program as a whole or a command of it. -/
inductive Reader where
  | program
  | command (command : Command)
  deriving Repr, DecidableEq

/-- What is wrong with a command line. -/
inductive Misuse where
  | ambiguous (option : AmbiguousOption)
  | valueMissing (option : OptionSpec)
  | valueNotWanted (option : OptionSpec) (value : String)
  | notAnInteger (option : OptionSpec) (value : String)
  | unknownCommand (name : String)
  | argumentsMissing (names : List String)
  | unrecognized (words : List String)
  deriving Repr, DecidableEq

/-- Why the reading of a line ended early. -/
inductive Stop where
  | help (reader : Reader)
  | misuse (reader : Reader) (misuse : Misuse)
  deriving Repr, DecidableEq

/-- A value that was given to an option. -/
inductive OptionValue where
  | text (value : String)
  | integer (value : Int)
  /-- No value at all: that is what the word stands for that ends the options. -/
  | nothing
  deriving Repr, DecidableEq

/-! ## Options -/

def helpOption : OptionSpec := ⟨["-h", "--help"], .help⟩

def hostOption : OptionSpec := ⟨["--host"], .text⟩

def portOption : OptionSpec := ⟨["--port"], .integer⟩

def entryPointsOption : OptionSpec := ⟨["--entry-points"], .text⟩

namespace Reader

/-- The options a reader knows, in the order in which they are listed. -/
def options : Reader → List OptionSpec
  | command .serve => [helpOption, hostOption, portOption, entryPointsOption]
  | _ => [helpOption]

/-- The names of the arguments that a reader wants. -/
def arguments : Reader → List String
  | command .tag => ["url", "nonce"]
  | _ => []

/-- The words of a line, as a reader takes them. -/
def words (reader : Reader) (line : List String) : Except Stop (List Word) :=
  match classifyAll reader.options line with
  | .ok words => .ok words
  | .error option => .error (.misuse reader (.ambiguous option))

/-- What letters behind `-h` come to: they may go on asking for help, but everything else is a
value, and help takes none. -/
def helpLetters (reader : Reader) : List Char → Stop
  | [] => .help reader
  | 'h' :: rest => helpLetters reader rest
  | value => .misuse reader (.valueNotWanted helpOption (String.ofList value))

/-- What an option that asks for help comes to. Behind an equals sign there may be letters too, if
the option is spelled with one dash. -/
def askHelp (reader : Reader) (found : FoundOption) : Stop :=
  match found.attached with
  | .nothing => .help reader
  | .glued letters => reader.helpLetters letters.toList
  | .joined value =>
      if isShort found.spelling && value ≠ "" then reader.helpLetters value.toList
      else .misuse reader (.valueNotWanted helpOption value)

/-- The value that a text is for an option. -/
def optionValue (reader : Reader) (option : OptionSpec) (value : String) :
    Except Stop OptionValue :=
  if value = separatorText then .ok .nothing
  else match option.kind with
  | .integer =>
      match Text.Numeral.read value with
      | .ok number => .ok (.integer number)
      | .error _ => .error (.misuse reader (.notAnInteger option value))
  | _ => .ok (.text value)

end Reader

/-! ## The words of a command -/

/-- What has been read of the words of a command. -/
structure Progress where
  values : List (OptionSpec × OptionValue) := []
  given : List String := []
  /-- The names of the arguments that are still wanted. -/
  wanted : List String
  /-- The words that nothing wants. -/
  leftOver : List String := []
  /-- Whether the last word was taken as an argument. -/
  tookArgument : Bool := false
  deriving Repr, DecidableEq

namespace Progress

/-- Takes an argument, if one is wanted. -/
def take (progress : Progress) (text : String) : Progress :=
  match progress.wanted with
  | [] => { progress with leftOver := progress.leftOver ++ [text], tookArgument := false }
  | _ :: wanted =>
      { progress with given := progress.given ++ [text], wanted, tookArgument := true }

/-- Takes an argument behind the end of the options. There the word that ends options is an argument
without a text. -/
def takeLate (progress : Progress) (text : String) : Progress :=
  match progress.wanted with
  | [] => progress.take text
  | _ => progress.take (if text = separatorText then "" else text)

/-- Sets a word aside that nothing wants. -/
def setAside (progress : Progress) (text : String) : Progress :=
  { progress with leftOver := progress.leftOver ++ [text], tookArgument := false }

/-- Takes the words behind the end of the options, which belongs to the argument before it or else
to the one behind it, and is left over if there is neither. -/
def takeRest (progress : Progress) (rest : List String) : Progress :=
  if progress.tookArgument then rest.foldl takeLate progress
  else
    match progress.wanted, rest with
    | _ :: _, first :: others => others.foldl takeLate (progress.take first)
    | _, _ => rest.foldl take (progress.setAside separatorText)

def note (progress : Progress) (option : OptionSpec) (value : OptionValue) : Progress :=
  { progress with values := progress.values ++ [(option, value)], tookArgument := false }

def value? (progress : Progress) (option : OptionSpec) : Option OptionValue :=
  progress.values.reverse.lookup option

/-- The text given to an option, or the one that holds if the option is not given. -/
def textOr (progress : Progress) (option : OptionSpec) (fallback : String) : Option String :=
  match progress.value? option with
  | none => some fallback
  | some (.text value) => some value
  | some _ => none

/-- The integer given to an option, or the one that holds if the option is not given. -/
def integerOr (progress : Progress) (option : OptionSpec) (fallback : Int) : Option Int :=
  match progress.value? option with
  | none => some fallback
  | some (.integer value) => some value
  | some _ => none

/-- The listing given to an option, if any; without a value it lists nothing. -/
def listing? (progress : Progress) (option : OptionSpec) : Option EntryListing :=
  (progress.value? option).map fun value =>
    match value with
    | .text entries => .text entries
    | _ => .list []

end Progress

/-- Reads the words of a command one after the other. An option takes its value from its own word or
else from the next, which must then be an argument. -/
def readWords (reader : Reader) (progress : Progress) : List Word → Except Stop Progress
  | [] => .ok progress
  | .plain text :: rest => readWords reader (progress.take text) rest
  | .unknown text :: rest => readWords reader (progress.setAside text) rest
  | .separator :: rest => .ok (progress.takeRest (rest.map Word.text))
  | .known _ ⟨option, spelling, attached⟩ :: rest =>
      if option.kind = .help then .error (reader.askHelp ⟨option, spelling, attached⟩)
      else
        match attached, rest with
        | .joined text, rest | .glued text, rest => do
            readWords reader (progress.note option (← reader.optionValue option text)) rest
        | .nothing, .plain text :: rest => do
            readWords reader (progress.note option (← reader.optionValue option text)) rest
        | .nothing, _ => .error (.misuse reader (.valueMissing option))

/-- Reads the line of a command; all arguments it wants must be there. -/
def readArguments (reader : Reader) (line : List String) : Except Stop Progress := do
  let words ← reader.words line
  let progress ← readWords reader { wanted := reader.arguments } words
  if progress.wanted ≠ [] then throw (.misuse reader (.argumentsMissing progress.wanted))
  return progress

/-! ## The whole line -/

/-- What a command line asks for. -/
inductive Ask where
  /-- To serve the demonstration site. Host and port number are missing if their options are given
  without a value. -/
  | serve (host : Option String) (portNumber : Option Int) (entryPoints : Option EntryListing)
  | nonce
  | tag (url nonce : String)
  | nothing
  deriving Repr, DecidableEq

def defaultHost : String := "127.0.0.1"

def defaultPortNumber : Int := 5000

/-- What a command that was read asks for. -/
def Progress.ask (progress : Progress) : Command → Ask
  | .serve =>
      .serve (progress.textOr hostOption defaultHost)
        (progress.integerOr portOption defaultPortNumber) (progress.listing? entryPointsOption)
  | .nonce => .nonce
  | .tag => .tag (progress.given[0]?.getD "") (progress.given[1]?.getD "")

/-- Reads the words of the program up to the name of a command, which reads what follows it. The
result is what is asked for, and the words that nothing wants. -/
def readProgram (leftOver : List String) : List Word → Except Stop (Ask × List String)
  | [] => .ok (.nothing, leftOver)
  | .unknown text :: rest => readProgram (leftOver ++ [text]) rest
  | .known _ option :: _ => .error (Reader.program.askHelp option)
  | .separator :: [] => .ok (.nothing, leftOver ++ [separatorText])
  | .separator :: _ :: _ => .error (.misuse .program (.unknownCommand separatorText))
  | .plain text :: rest =>
      match Command.all.find? (·.name = text) with
      | none => .error (.misuse .program (.unknownCommand text))
      | some command => do
          let progress ← readArguments (.command command) (rest.map Word.text)
          return (progress.ask command, leftOver ++ progress.leftOver)

/-- Reads a command line. A word that nothing wants is an error of the program as a whole, found
only after everything else. -/
def readCommandLine (line : List String) : Except Stop Ask := do
  let (ask, leftOver) ← readProgram [] (← Reader.program.words line)
  if leftOver ≠ [] then throw (.misuse .program (.unrecognized leftOver))
  return ask

end CsrfGuard.CommandLine
