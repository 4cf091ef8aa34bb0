import CmakeDriver.Execution.Trace
import CmakeDriver.World.Start

/-!
# Hosts

A host is what a driver needs of its surroundings: a place for notes and a way to execute requests.
`World.host` starts programs in a world and traces what happens. `Recording.host` starts nothing:
it writes each request down and answers from a script.

Out of scope: what a program that was started does to the files or reads from its input, and two
programs at the same time. A program is its texts and its ending, and it is waited for.

Results:
* `startedBy_of_nul`: a request with a NUL in it starts nothing.
-/

namespace CmakeDriver

/-- What a driver needs of its surroundings. A checked request is one that has to succeed. -/
structure Host (m : Type → Type) where
  note : Log.Note → m Unit
  execute : Execution.Request → (checked : Bool) → m (Except Execution.Fault Execution.Outcome)

/-! ## Programs started in a world -/

namespace Execution

namespace Request

/-- The variables that replace the ambient environment: those of the request, if there are any. -/
def ownEnvironment? (r : Request) : Option TextBindings :=
  r.environment.filter fun b => !b.isEmpty

/-- Whether a NUL stands in the command line or in a variable. -/
def hasNul (r : Request) : Bool :=
  let inText (s : String) : Bool := s.toList.contains '\x00'
  r.argv.any inText ||
    match r.environment with
    | some b => b.entries.any fun e => inText e.1 || inText e.2
    | none => false

end Request

namespace Outcome

/-- The outcome of a program that ended so. -/
def ofEnding : Ending → Outcome
  | .exited code => { code := some code.toNat }
  | .killed _ => { code := none }

end Outcome

end Execution

namespace World

open Execution

/-- The environment in which a request runs. -/
def environmentOf (w : World) (r : Request) : Environment :=
  match r.ownEnvironment? with
  | some b => Environment.ofText b
  | none => w.environment

/-- What a request comes to: the start of the program `name`, its arguments being `args`. A program
that is sought for an environment of its own may be a text for the shell. -/
def startedBy (w : World) (r : Request) (name : String) (args : List String) :
    Except IoFault Image :=
  if r.hasNul then .error .nulInRequest
  else
    (w.findProgram (w.environmentOf r) r.ownEnvironment?.isSome (Bytes.ofString name)
      (args.map Bytes.ofString)).mapError .os

/-- The path by which a program was started, as seen from the root directory. -/
def startPath (w : World) (p : Path) : Path :=
  if Path.isAbsolute p then p else w.absolute p

/-- Reports the call of a program that gets this environment. The shell is not reported. -/
def reportCall (w : World) (environment : Environment) (image : Image) : Traced Unit :=
  match image.call with
  | some (p, args) => Traced.emit (.started { program := w.startPath p, args, environment })
  | none => pure ()

/-- Executes a request: looks the program up, starts it and waits for its end. -/
def execute (w : World) (r : Request) (checked : Bool) : Traced (Except Fault Outcome) := do
  match r.argv with
  | [] => pure (.error .emptyCommand)
  | name :: args =>
    Traced.note (.starting r.argv r.ownEnvironment?.isSome)
    Traced.emit (.attempt r)
    match w.startedBy r name args with
    | .error fault =>
      Traced.note (.startFailed name fault)
      pure (.error (.spawn name fault))
    | .ok image =>
      w.reportCall (w.environmentOf r) image
      Traced.out image.program.stdout
      Traced.err image.program.stderr
      let outcome := Outcome.ofEnding image.program.ending
      if checked && !outcome.success then
        Traced.note (.endedBadly name image.program.ending)
        pure (.error (.failed name outcome.code))
      else pure (.ok outcome)

/-- The host that starts programs in a world. -/
def host (w : World) : Host Traced where
  note := Traced.note
  execute := w.execute

theorem startedBy_of_nul (w : World) {r : Request} (h : r.hasNul = true) (name : String)
    (args : List String) : w.startedBy r name args = .error .nulInRequest := by
  simp [startedBy, h]

end World

/-! ## Requests written down -/

/-- What a scripted host answers to a request. -/
inductive Response where
  | outcome (code : Option Int)
  | failed (code : Option Int)
  | spawn (text : String)
  | emptyCommand
  deriving DecidableEq, Repr

/-- A request that was written down, and whether it had to succeed. -/
structure Recorded where
  request : Execution.Request
  checked : Bool

/-- The requests written down so far, in order, and the script. -/
structure Recording where
  requests : List Recorded := []
  script : List Response

namespace Recording

/-- The response to the request number `n`, counted from zero: the last one repeats. -/
def answerTo (script : List Response) (n : Nat) : Response :=
  match script[n]? with
  | some r => r
  | none => script.getLast?.getD (.outcome none)

/-- The result that a response stands for; its faults name the program of the request. -/
def resultOf (r : Execution.Request) : Response → Except Execution.Fault Execution.Outcome
  | .outcome code => .ok { code }
  | .failed code => .error (.failed (r.argv.headD "") code)
  | .spawn text => .error (.spawn (r.argv.headD "") (.other text))
  | .emptyCommand => .error .emptyCommand

/-- The host that writes requests down and answers from the script. -/
def host : Host (StateM Recording) where
  note _ := pure ()
  execute r checked := fun s =>
    (resultOf r (answerTo s.script s.requests.length),
      { s with requests := s.requests ++ [{ request := r, checked }] })

end Recording

end CmakeDriver
