import CsrfGuard.CommandLine.Run

/-!
# The program

The outer layer: it fetches the environment and the random bytes that a command may need, hands them
to `CommandLine.run`, and prints what comes of it.
-/

namespace CsrfGuard.Program

/-- The variables of the environment that settings are read from. -/
def readEnvironment : IO (String → Option String) := do
  let found ← Settings.variableNames.mapM fun name => do
    return (name, ← IO.getEnv name)
  return fun name => (found.lookup name).join

/-- A random source for one call, which answers with bytes of the system. -/
def systemSource (settings : Settings) : IO RandomSource := do
  let drawn ← IO.getRandomBytes settings.nonceBytes.toNat.toUSize
  return ⟨fun _ _ => .ok drawn.toList⟩

/-- Prints what a command line came to; the result is the status of the program. -/
def report (effect : CommandLine.Effect) : IO UInt32 := do
  IO.print effect.output
  IO.eprint effect.errors
  if let some service := effect.service then
    let portText := (service.portNumber.map toString).getD "no port"
    IO.println ("the site is configured for " ++ service.host.getD "no host" ++ " at " ++ portText)
  return (effect.exitStatus.getD 0).toUInt32

def reportFailure (cause : GuardError) : IO UInt32 := do
  IO.eprintln (cause.message.getD (toString (repr cause)))
  return 1

/-- Runs the program on a command line; the result is its status. -/
def execute (line : List String) : IO UInt32 := do
  match Settings.load (← readEnvironment) with
  | .error cause => reportFailure cause
  | .ok settings =>
      match CommandLine.run settings (← systemSource settings) line with
      | .ok effect => report effect
      | .error cause => reportFailure cause

end CsrfGuard.Program

def main (args : List String) : IO UInt32 := CsrfGuard.Program.execute args
