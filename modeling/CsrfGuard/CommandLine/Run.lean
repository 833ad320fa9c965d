import CsrfGuard.CommandLine.Command
import CsrfGuard.Demo.App

/-!
# Carrying out a command line

What a command line prints, with which status the program ends, and which site it would serve. Help
goes to the standard output; what is wrong with a line goes to the standard error behind a reminder
of how the command is used.
-/

namespace CsrfGuard.CommandLine

/-! ## Texts -/

namespace Reader

/-- The name under which a reader appears in messages. -/
def title : Reader → String
  | program => "nonceguard"
  | command chosen => "nonceguard " ++ chosen.name

def usage : Reader → String
  | program => "usage: nonceguard [-h] \x7bserve,nonce,rewrite\x7d ...\n"
  | command .serve =>
      "usage: nonceguard serve [-h] [--host HOST] [--port PORT]\n" ++
        "                        [--entry-points ENTRY_POINTS]\n"
  | command .nonce => "usage: nonceguard nonce [-h]\n"
  | command .tag => "usage: nonceguard rewrite [-h] url nonce\n"

/-- What the help says about arguments and options. -/
def details : Reader → String
  | program =>
      "\npositional arguments:\n  \x7bserve,nonce,rewrite\x7d\n\noptions:\n" ++
        "  -h, --help            show this help message and exit\n"
  | command .serve =>
      "\noptions:\n  -h, --help            show this help message and exit\n  --host HOST\n" ++
        "  --port PORT\n  --entry-points ENTRY_POINTS\n"
  | command .nonce => "\noptions:\n  -h, --help  show this help message and exit\n"
  | command .tag =>
      "\npositional arguments:\n  url\n  nonce\n\noptions:\n" ++
        "  -h, --help  show this help message and exit\n"

def help (reader : Reader) : String := reader.usage ++ reader.details

end Reader

/-- The commands to choose from, each in quotation marks. -/
def choices : String :=
  ", ".intercalate (Command.all.map fun command => Text.quoted command.name)

def aboutOption (option : OptionSpec) (message : String) : String :=
  "argument " ++ option.name ++ ": " ++ message

namespace Misuse

/-- What is wrong with a command line, in words. -/
def message : Misuse → String
  | ambiguous option =>
      "ambiguous option: " ++ option.text ++ " could match " ++ ", ".intercalate option.spellings
  | valueMissing option => aboutOption option "expected one argument"
  | valueNotWanted option value =>
      aboutOption option ("ignored explicit argument " ++ Text.quoted value)
  | notAnInteger option value => aboutOption option ("invalid int value: " ++ Text.quoted value)
  | unknownCommand name =>
      "argument command: invalid choice: " ++ Text.quoted name ++ " (choose from " ++ choices ++ ")"
  | argumentsMissing names =>
      "the following arguments are required: " ++ ", ".intercalate names
  | unrecognized words => "unrecognized arguments: " ++ " ".intercalate words

end Misuse

/-! ## Outcomes -/

structure Service where
  host : Option String
  portNumber : Option Int
  app : Demo.App
  deriving Repr, DecidableEq

/-- What a command line comes to. -/
structure Effect where
  /-- The status with which the program ends early, if it does. -/
  exitStatus : Option Nat := none
  output : String := ""
  errors : String := ""
  service : Option Service := none
  deriving Repr, DecidableEq

namespace Stop

/-- What a line comes to whose reading ended early. -/
def effect : Stop → Effect
  | help reader => { exitStatus := some 0, output := reader.help }
  | misuse reader cause =>
      { exitStatus := some 2
        errors := reader.usage ++ reader.title ++ ": error: " ++ cause.message ++ "\n" }

end Stop

namespace Ask

def effect (settings : Settings) (source : RandomSource) : Ask → Except GuardError Effect
  | serve host portNumber entryPoints => do
      let config : Web.SiteConfig :=
        { entryPoints := entryPoints.map some }
      let app ← Demo.App.build settings config
      return { service := some ⟨host, portNumber, app⟩ }
  | nonce => do
      let generator ← NonceGenerator.ofNumBytes settings.nonceBytes
      return { output := (← generator.generate source 0) ++ "\n" }
  | tag url value =>
      .ok { output := (Link.tag settings.nonceParam (some value) (some url)).getD url ++ "\n" }
  | nothing => .ok { output := Reader.program.help }

end Ask

/-- Carries out a command line. -/
def run (settings : Settings) (source : RandomSource) (line : List String) :
    Except GuardError Effect :=
  match readCommandLine line with
  | .ok ask => ask.effect settings source
  | .error stop => .ok stop.effect

end CsrfGuard.CommandLine
