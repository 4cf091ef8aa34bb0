import CmakeDriver.Text.Quoted
import CmakeDriver.World.FileTree

/-!
# Log notes

A note is one thing that a run has to say about itself: which level it has, from which part of the
program it comes, which fields it has, and its message. Notes are values; whether a note is shown
is decided when the log is written (`Log.Filter`). In a log line the characters that a terminal
obeys are spelt out, so that a name in a message cannot give it orders; blank ones stay.

Results:
* `spelledOut_of_isPrintable`: a printable character stands for itself.
-/

namespace CmakeDriver

namespace Log

/-- The levels, from the most urgent to the most talkative. -/
inductive Level where
  | error | warn | info | debug | trace
  deriving DecidableEq, Repr, Inhabited

namespace Level

/-- Levels count up from the most urgent. -/
def rank : Level → Nat
  | error => 1
  | warn => 2
  | info => 3
  | debug => 4
  | trace => 5

/-- The name of a level at the front of a log line. -/
def label : Level → String
  | error => "ERROR"
  | warn => "WARN"
  | info => "INFO"
  | debug => "DEBUG"
  | trace => "TRACE"

end Level

/-- The names of the signals that end a program. -/
def signalName : Nat → Option String
  | 1 => "SIGHUP"
  | 2 => "SIGINT"
  | 3 => "SIGQUIT"
  | 4 => "SIGILL"
  | 5 => "SIGTRAP"
  | 6 => "SIGABRT"
  | 7 => "SIGBUS"
  | 8 => "SIGFPE"
  | 9 => "SIGKILL"
  | 10 => "SIGUSR1"
  | 11 => "SIGSEGV"
  | 12 => "SIGUSR2"
  | 13 => "SIGPIPE"
  | 14 => "SIGALRM"
  | 15 => "SIGTERM"
  | 16 => "SIGSTKFLT"
  | 17 => "SIGCHLD"
  | 18 => "SIGCONT"
  | 19 => "SIGSTOP"
  | 20 => "SIGTSTP"
  | 21 => "SIGTTIN"
  | 22 => "SIGTTOU"
  | 23 => "SIGURG"
  | 24 => "SIGXCPU"
  | 25 => "SIGXFSZ"
  | 26 => "SIGVTALRM"
  | 27 => "SIGPROF"
  | 28 => "SIGWINCH"
  | 29 => "SIGIO"
  | 30 => "SIGPWR"
  | 31 => "SIGSYS"
  | _ => none

/-- How a program ended, in words. -/
def endingText : Ending → String
  | .exited code => "exit status: " ++ toString code.toNat
  | .killed signal =>
    match signalName signal with
    | some name => "signal: " ++ toString signal ++ " (" ++ name ++ ")"
    | none => "signal: " ++ toString signal

/-- Something that a run says about itself. -/
inductive Note where
  /-- A program is about to be started, with an environment of its own or the ambient one. -/
  | starting (argv : List String) (ownEnvironment : Bool)
  | startFailed (program : String) (fault : IoFault)
  /-- A program that was to succeed did not. -/
  | endedBadly (program : String) (ending : Ending)
  | configuringTree (folder configuration : String)
  | buildingTree (folder : String)
  | configureBegins (folder configuration toolchain : String)
  | configureDone (folder : String)
  /-- A tree that is to be built shows no sign of having been configured. -/
  | notConfigured (folder : String)
  | buildBegins (folder : String)
  | buildDone (folder : String)
  deriving DecidableEq, Repr, Inhabited

namespace Note

/-- The level of a note. -/
def level : Note → Level
  | starting .. | startFailed .. | endedBadly .. | configuringTree .. | buildingTree .. => .debug
  | configureBegins .. | configureDone .. | buildBegins .. | buildDone .. => .info
  | notConfigured .. => .warn

/-- The part of the program that a note comes from. -/
def target : Note → String
  | starting .. | startFailed .. | endedBadly .. => "cmakew_exec"
  | configuringTree .. | buildingTree .. => "cmakew_cmake"
  | configureBegins .. | configureDone .. => "cmakew::commands::configure"
  | notConfigured .. | buildBegins .. | buildDone .. => "cmakew::commands::build"

/-- The names of the fields that a note has. Every note has its message. -/
def fields : Note → List String
  | starting .. => ["message", "argv", "custom_env"]
  | _ => ["message"]

/-- What a note says. -/
def message : Note → String
  | starting argv own => "spawning argv=" ++ quotedList argv ++ " custom_env=" ++ toString own
  | startFailed program fault => "spawn of " ++ program ++ " failed: " ++ fault.message
  | endedBadly program ending => program ++ " exited with " ++ endingText ending
  | configuringTree folder configuration => "configuring " ++ folder ++ " (" ++ configuration ++ ")"
  | buildingTree folder => "building " ++ folder
  | configureBegins folder configuration toolchain =>
    "configuring " ++ folder ++ " (" ++ configuration ++ ") with toolchain " ++ toolchain
  | configureDone folder => "configured " ++ folder
  | notConfigured folder =>
    folder ++ " does not look configured; run `cmakew configure` first"
  | buildBegins folder => "building " ++ folder
  | buildDone folder => "built " ++ folder

/-- How a character stands in a log line. -/
def spelledOut (c : Char) : List Char :=
  if c = '\x1b' ∨ c = '\x07' ∨ c = '\x08' ∨ c = '\x0c' ∨ c = '\x7f' then
    ['\\', 'x', Nat.digitChar (c.toNat / 16), Nat.digitChar (c.toNat % 16)]
  else if 0x80 ≤ c.toNat ∧ c.toNat < 0xA0 then
    ['\\', 'u', '\x7b'] ++ Quoted.hex c.toNat ++ ['\x7d']
  else [c]

/-- The log line of a note. -/
def line (n : Note) : String :=
  n.level.label ++ " " ++ n.target ++ ": "
    ++ String.ofList (n.message.toList.flatMap spelledOut) ++ "\n"

theorem spelledOut_of_isPrintable {c : Char} (h : isPrintable c = true) : spelledOut c = [c] := by
  have h1 : ¬ (c = '\x1b' ∨ c = '\x07' ∨ c = '\x08' ∨ c = '\x0c' ∨ c = '\x7f') := by
    rintro (rfl | rfl | rfl | rfl | rfl) <;> exact absurd h (by decide)
  have h2 : ¬ (0x80 ≤ c.toNat ∧ c.toNat < 0xA0) := by
    rintro ⟨hlo, hhi⟩
    have hf : isPrintable c = false := by
      rw [isPrintable, if_neg (by omega), if_neg (by omega), Printable.hiddenRanges,
        inRanges_cons_of_mem (by omega) (by omega)]
      rfl
    exact absurd h (by simp [hf])
  rw [spelledOut, if_neg h1, if_neg h2]

end Note

end Log

end CmakeDriver
