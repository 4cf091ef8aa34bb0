import CmakeDriver.Execution.Host
import CmakeDriver.World.Resolve

/-!
# CMake steps

The two steps that a driver takes: configuring a build tree and building it. Each has one command
line, whose parts stand in a fixed order; values are put into it exactly as they are given.
Performing a step on a host is one note and one checked request.

Results:
* `request_environment_build`: a build never has an environment of its own.
-/

namespace CmakeDriver

/-- What a configure step is told. -/
structure ConfigureStep where
  configuration : String
  buildFolder : String
  toolchain : String
  verbose : Bool := false
  /-- The variables of its environment; without them, or with none, it inherits the ambient one. -/
  environment : Option TextBindings := none

/-- What a build step is told. -/
structure BuildStep where
  buildFolder : String
  verbose : Bool := false

/-- A step that cmake takes. -/
inductive Step where
  | configure (step : ConfigureStep)
  | build (step : BuildStep)

/-- A cmake executable, by the name under which it is started. -/
structure Cmake where
  executable : String := "cmake"
  deriving DecidableEq, Repr

namespace ConfigureStep

/-- The flags that make cmake say more, in front of the source directory. -/
def verboseFlags (verbose : Bool) : List String :=
  if verbose then ["--log-level=TRACE", "-Wdev"] else []

/-- The arguments of a configure step. The source directory is the current one. -/
def args (s : ConfigureStep) : List String :=
  ["-DCMAKE_EXPORT_COMPILE_COMMANDS=ON",
    "-DCMAKE_TOOLCHAIN_FILE=" ++ s.toolchain,
    "-DENABLE_TESTING=ON",
    "-DCMAKE_BUILD_TYPE=" ++ s.configuration]
  ++ verboseFlags s.verbose
  ++ ["-S", ".", "-B", s.buildFolder]

end ConfigureStep

namespace BuildStep

/-- The arguments of a build step. -/
def args (s : BuildStep) : List String :=
  ["--build", s.buildFolder] ++ if s.verbose then ["--verbose"] else []

end BuildStep

namespace Step

/-- The arguments of a step. -/
def args : Step → List String
  | configure s => s.args
  | build s => s.args

/-- The variables of a step's environment. -/
def environment : Step → Option TextBindings
  | configure s => s.environment
  | build _ => none

/-- What is noted before a step is taken. -/
def note : Step → Log.Note
  | configure s => .configuringTree s.buildFolder s.configuration
  | build s => .buildingTree s.buildFolder

end Step

namespace Cmake

/-- The command line of a step. -/
def argv (c : Cmake) (s : Step) : List String :=
  c.executable :: s.args

/-- The request that takes a step. -/
def request (c : Cmake) (s : Step) : Execution.Request where
  argv := c.argv s
  environment := s.environment

/-- Takes a step on a host. The step has to succeed. -/
def perform {m : Type → Type} [Monad m] (c : Cmake) (h : Host m) (s : Step) :
    m (Except Execution.Fault Unit) := do
  h.note s.note
  let answer ← h.execute (c.request s) true
  pure (answer.map fun _ => ())

/-- Takes steps on a host, one after the other, whatever becomes of each. -/
def performAll {m : Type → Type} [Monad m] (c : Cmake) (h : Host m) :
    List Step → m (List (Except Execution.Fault Unit))
  | [] => pure []
  | s :: rest => do
    let answer ← c.perform h s
    let answers ← c.performAll h rest
    pure (answer :: answers)

/-- The path at which the executable is found, if there is one. -/
def resolve (c : Cmake) (w : World) : Option String :=
  (w.resolve (Bytes.ofString c.executable)).map Bytes.decodeLossy

theorem request_environment_build (c : Cmake) (s : BuildStep) :
    (c.request (.build s)).environment = none := rfl

end Cmake

end CmakeDriver
