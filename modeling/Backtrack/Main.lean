import Backtrack.Console.Transcript

/-!
# The console as a program

The only part that touches the world.  It reads a line, prints the answer and goes on until the
input ends; what the answers are is decided by `Console.response`.
-/

set_option autoImplicit false

namespace Backtrack

namespace Console

/-- Whether the terminal shows colors. -/
def showsColors : IO Bool := do
  let terminal ← IO.getEnv "TERM"
  let refused ← IO.getEnv "NO_COLOR"
  return terminal.any (· != "dumb") && refused.isNone

/-- Answer lines until the input ends. -/
partial def answerLines (colors : Bool) (o : Options) (input output : IO.FS.Stream) :
    IO Unit := do
  output.putStr (prompt o)
  output.flush
  let line ← input.getLine
  if line.isEmpty then output.putStr "\n"
  else
    output.putStr (response colors o (stripEnding line.toList))
    answerLines colors o input output

/-- Do what the arguments ask for, and yield the exit code. -/
def start (args : List String) : IO UInt32 := do
  let output ← IO.getStdout
  match request args with
  | .run o =>
    output.putStr (banner o)
    answerLines (← showsColors) o (← IO.getStdin) output
    return 0
  | .version =>
    output.putStr versionText
    return 0
  | .help =>
    output.putStr helpText
    return 0
  | .invalid =>
    (← IO.getStderr).putStr "error: invalid arguments\n"
    return 2

end Console

end Backtrack

/-- The program: the arguments choose what is read from the standard input. -/
def main (args : List String) : IO UInt32 := Backtrack.Console.start args
