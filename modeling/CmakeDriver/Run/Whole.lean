import CmakeDriver.Run.Doctor

/-!
# Whole runs

A run first reads the log filter from the ambient environment. Then it is told by its arguments what
to do, loads the configuration and does it. It ends with an exit status: 0 for success, 1 for a
failure, which it reports, and 2 for arguments that make no sense. A run that does not get through
reading the filter is broken off with the status 101. The ambient environment also says whether help
and usage errors are coloured.

Out of scope: output that cannot be written, and a driver that is itself ended by a signal.

Results:
* `run_of_readsLogFilter`: a run that has read the filter does what its arguments say.
* `run_of_not_readsLogFilter`: one that does not get that far does nothing.
-/

namespace CmakeDriver

namespace World

open CommandLine (Command Refusal)

/-- Does what a command says. -/
def obey (w : World) (c : Config) : Command → Traced (Except Failure Unit)
  | .configure o => w.configure c o
  | .build o => w.build c o
  | .doctor => w.doctor c

/-- Ends a run with its exit status, reporting a failure. -/
def conclude : Except Failure Unit → Traced Nat
  | .ok () => pure 0
  | .error f => do
    Traced.err f.report
    pure 1

/-- Whether help and usage errors are printed with colours: only if they are forced and not
forbidden. -/
def showsColours (w : World) : Bool :=
  w.environment.isGiven Environment.forceColoursName
    && !w.environment.isGiven Environment.noColoursName

/-- Answers arguments that give no command. -/
def refuse (w : World) : Refusal → Traced Nat
  | .help page => do
    Traced.out (page.printed w.showsColours)
    pure 0
  | .version => do
    Traced.out CommandLine.versionText
    pure 0
  | .usage e => do
    Traced.err (e.printedHeadline w.showsColours ++ "\n")
    pure 2

/-- Runs a command with the configuration at a path. -/
def runCommand (w : World) (path : String) (command : Command) : Traced Nat := do
  match Config.loadOrDefault w path with
  | .error fault => conclude (.error (.config fault))
  | .ok c =>
    let result ← w.obey c command
    conclude result

/-- Does what a command line says. -/
def answer (w : World) (args : List String) : Traced Nat :=
  match CommandLine.parse args with
  | .error refusal => w.refuse refusal
  | .ok invocation =>
    match invocation.command with
    | none => do
      Traced.out CommandLine.overviewText
      pure 0
    | some command => w.runCommand invocation.config command

/-- The log filter for which the ambient environment asks, if reading it comes to an end. -/
def logFilter? (w : World) : Option Log.Filter :=
  Log.Filter.read? (w.environment.lookup Log.Filter.variableName)

/-- Reading the log filter comes to an end, be it with a filter or with none. -/
def ReadsLogFilter (w : World) : Prop :=
  w.logFilter?.isSome = true

instance (w : World) : Decidable w.ReadsLogFilter :=
  inferInstanceAs (Decidable (w.logFilter?.isSome = true))

/-- The exit status of a run that is broken off. -/
def brokenOffStatus : Nat := 101

/-- Runs a command line. The log is set up before the command line is looked at. -/
def run (w : World) (args : List String) : Traced Nat :=
  match w.logFilter? with
  | none => pure brokenOffStatus
  | some _ => w.answer args

/-- What a run writes to standard output. -/
def stdoutOf (w : World) (args : List String) : String :=
  Event.stdoutOf (w.run args).events

/-- What a run writes to standard error, the message of one that is broken off apart. -/
def stderrOf (w : World) (args : List String) : String :=
  match w.logFilter? with
  | none => ""
  | some f => Event.stderrOf f (w.run args).events

theorem run_of_readsLogFilter {w : World} (h : w.ReadsLogFilter) (args : List String) :
    w.run args = w.answer args := by
  obtain ⟨f, hf⟩ := Option.isSome_iff_exists.1 h
  rw [run, hf]

theorem run_of_not_readsLogFilter {w : World} (h : ¬ w.ReadsLogFilter) (args : List String) :
    w.run args = pure brokenOffStatus := by
  have hf : w.logFilter? = none := by simpa [ReadsLogFilter] using h
  rw [run, hf]

end World

end CmakeDriver
