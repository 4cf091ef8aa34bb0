import CmakeDriver.World.Environment
import CmakeDriver.World.Fault

/-!
# Executing a program

A request names a program with its arguments and, if it is not to inherit the ambient environment,
the variables it gets. It ends in an outcome or in an execution fault; a checked request treats an
unsuccessful outcome as a fault.

Results:
* `success_iff`: an outcome is a success exactly for the exit code zero.
-/

namespace CmakeDriver

namespace Execution

/-- A program to be executed: its name first, then its arguments. -/
structure Request where
  argv : List String
  /-- The variables of its environment; without them, or with none, it inherits the ambient one. -/
  environment : Option TextBindings := none

/-- The outcome of a program that was started and has ended. -/
structure Outcome where
  /-- The exit code, or nothing if a signal ended the program. -/
  code : Option Int
  deriving DecidableEq, Repr, Inhabited

namespace Outcome

/-- Whether the program ended with the exit code zero. -/
def success (o : Outcome) : Bool :=
  o.code == some 0

theorem success_iff (o : Outcome) : o.success = true ↔ o.code = some 0 := by
  simp [success]

end Outcome

/-- Why an execution failed. -/
inductive Fault where
  /-- The request names no program. -/
  | emptyCommand
  /-- The program could not be started. -/
  | spawn (program : String) (cause : IoFault)
  /-- The program was to succeed and did not. -/
  | failed (program : String) (code : Option Int)
  deriving DecidableEq, Repr, Inhabited

namespace Fault

/-- A fault as messages show it. -/
def message : Fault → String
  | emptyCommand => "empty command line"
  | spawn program cause => "failed to spawn " ++ program ++ ": " ++ cause.message
  | failed program (some code) => program ++ " failed with exit status " ++ toString code
  | failed program none => program ++ " failed with no exit status (terminated by signal)"

/-- The fault that lies behind this one. -/
def cause? : Fault → Option IoFault
  | spawn _ cause => some cause
  | _ => none

/-- The messages of a fault and of what lies behind it. -/
def chain (f : Fault) : List String :=
  f.message :: (f.cause?.map IoFault.message).toList

end Fault

end Execution

end CmakeDriver
