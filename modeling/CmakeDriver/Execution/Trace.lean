import CmakeDriver.Execution.Basic
import CmakeDriver.Log.Filter

/-!
# Traces

A run in a world changes nothing in it; what it does is the list of its events, in order: notes for
the log, attempts to start a program, programs started, and text written. `Traced α` is a result
with the events on the way to it.

Out of scope: the time in a line of the log and its colours.

Results:
* `events_bind`, `result_bind`: the events of two runs in sequence follow one another.
* `callsOf_append`, `attemptsOf_append`: what is read off a trace is read off its parts.
-/

namespace CmakeDriver

/-- What a started program gets: the path by which it was started, its arguments and its
environment. -/
structure Call where
  program : Path
  args : List Bytes
  environment : Environment

/-- One thing that a run does. -/
inductive Event where
  | note (note : Log.Note)
  /-- A program is about to be looked up and started. -/
  | attempt (request : Execution.Request)
  /-- A program was started. -/
  | started (call : Call)
  | out (text : String)
  | err (text : String)

/-- A result and the events on the way to it. -/
structure Traced (α : Type) where
  events : List Event
  result : α

namespace Traced

variable {α β : Type}

instance : Monad Traced where
  pure a := { events := [], result := a }
  bind x f := { events := x.events ++ (f x.result).events, result := (f x.result).result }

/-- One event and nothing else. -/
def emit (e : Event) : Traced Unit :=
  { events := [e], result := () }

/-- Says a note. -/
def note (n : Log.Note) : Traced Unit :=
  emit (.note n)

/-- Writes to standard output. -/
def out (text : String) : Traced Unit :=
  emit (.out text)

/-- Writes to standard error. -/
def err (text : String) : Traced Unit :=
  emit (.err text)

@[simp] theorem events_pure (a : α) : (pure a : Traced α).events = [] := rfl

@[simp] theorem result_pure (a : α) : (pure a : Traced α).result = a := rfl

@[simp] theorem events_bind (x : Traced α) (f : α → Traced β) :
    (x >>= f).events = x.events ++ (f x.result).events := rfl

@[simp] theorem result_bind (x : Traced α) (f : α → Traced β) :
    (x >>= f).result = (f x.result).result := rfl

@[simp] theorem events_emit (e : Event) : (emit e).events = [e] := rfl

@[simp] theorem events_note (n : Log.Note) : (note n).events = [.note n] := rfl

@[simp] theorem events_out (text : String) : (out text).events = [.out text] := rfl

@[simp] theorem events_err (text : String) : (err text).events = [.err text] := rfl

end Traced

namespace Event

/-- What one event writes to standard output. -/
def stdoutText : Event → String
  | out text => text
  | _ => ""

/-- What one event writes to standard error under a log filter. -/
def stderrText (f : Log.Filter) : Event → String
  | err text => text
  | note n => if f.shows n then n.line else ""
  | _ => ""

/-- The call that an event reports. -/
def call? : Event → Option Call
  | started c => some c
  | _ => none

/-- The attempt that an event reports. -/
def attempt? : Event → Option Execution.Request
  | attempt r => some r
  | _ => none

/-- All that a trace writes to standard output. -/
def stdoutOf (events : List Event) : String :=
  String.join (events.map stdoutText)

/-- All that a trace writes to standard error under a log filter. -/
def stderrOf (f : Log.Filter) (events : List Event) : String :=
  String.join (events.map (stderrText f))

/-- The programs that were started, in order. -/
def callsOf (events : List Event) : List Call :=
  events.filterMap call?

/-- The attempts to start a program, in order. -/
def attemptsOf (events : List Event) : List Execution.Request :=
  events.filterMap attempt?

theorem callsOf_append (a b : List Event) : callsOf (a ++ b) = callsOf a ++ callsOf b :=
  List.filterMap_append

theorem attemptsOf_append (a b : List Event) :
    attemptsOf (a ++ b) = attemptsOf a ++ attemptsOf b :=
  List.filterMap_append

end Event

end CmakeDriver
