import CmakeDriver.Run.Whole
import CmakeDriver.World.Scenario

/-!
# The command line

The program reads a scenario from standard input, runs its arguments in the world that the scenario
describes, and writes and ends as that run does. A text that is no scenario ends it with the
status 2.
-/

namespace CmakeDriver

/-- All lines that a stream still has. -/
partial def readLines (input : IO.FS.Stream) (sofar : String) : IO String := do
  let line ← input.getLine
  if line.isEmpty then return sofar else readLines input (sofar ++ line)

end CmakeDriver

/-- Runs the arguments in the world that standard input describes. -/
def main (args : List String) : IO UInt32 := do
  let text ← CmakeDriver.readLines (← IO.getStdin) ""
  match CmakeDriver.Scenario.parse text with
  | .error fault =>
    IO.eprintln fault.message
    return 2
  | .ok w =>
    IO.print (w.stdoutOf args)
    IO.eprint (w.stderrOf args)
    return UInt32.ofNat (w.run args).result
