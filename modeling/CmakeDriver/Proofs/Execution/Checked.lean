import CmakeDriver.Proofs.Execution.Attempt
import Mathlib.Data.List.Forall2

/-!
# Requests that have to succeed

Whether a request has to succeed is not asked before its program has ended. So a checked request and
an unchecked one start the same, or fail to start for the same reason; they part only over an
outcome that is no success, which a checked request notes and takes for a fault. A request with no
variables of its own and one with none at all are executed alike.

Results:
* `execute_cases`: what executing a request comes to, whether it is checked or not.
* `events_checked`: a checked request does what an unchecked one does, and may add a note.
* `result_checked_of_outcome`: what becomes of an outcome.
* `executesAlike_of_noVariables`: no variables of its own are as good as none.
* `checked_agrees_with_unchecked`: all of this, in all worlds and for all requests.
-/

namespace CmakeDriver

open Execution

/-- The faults of a request that can come before its program has run. -/
inductive Execution.Fault.BeforeEnd : Fault → Prop
  | emptyCommand : BeforeEnd .emptyCommand
  | spawn (program : String) (cause : IoFault) : BeforeEnd (.spawn program cause)

theorem Traced.ext_of {α : Type} {x y : Traced α} (he : x.events = y.events)
    (hr : x.result = y.result) : x = y := by
  cases x
  cases y
  exact congrArg₂ Traced.mk he hr

namespace World

variable {w : World} {r r' : Request} {checked : Bool} {name : String} {args : List String}

/-! ## What executing a request comes to -/

/-- What is done before a program is looked up. -/
def opening (r : Request) : List Event :=
  [.note (.starting r.argv r.ownEnvironment?.isSome), .attempt r]

/-- What is done while a program runs. -/
def running (w : World) (r : Request) (image : Image) : List Event :=
  (w.reportCall (w.environmentOf r) image).events ++
    [.out image.program.stdout, .err image.program.stderr]

/-- The note of a checked request whose program did not end well. -/
def badEnd (checked : Bool) (name : String) (ending : Ending) : List Log.Note :=
  if checked && !(Outcome.ofEnding ending).success then [.endedBadly name ending] else []

theorem execute_of_error {cause : IoFault} (hargv : r.argv = name :: args)
    (hs : w.startedBy r name args = .error cause) :
    w.execute r checked =
      { events := opening r ++ [.note (.startFailed name cause)]
        result := .error (.spawn name cause) } := by
  simp only [execute, hargv, hs, opening]
  rfl

theorem execute_of_ok {image : Image} (hargv : r.argv = name :: args)
    (hs : w.startedBy r name args = .ok image) :
    w.execute r checked =
      { events := opening r ++ w.running r image ++
          (badEnd checked name image.program.ending).map .note
        result := resultOf checked name image.program.ending } := by
  simp only [execute, hargv, hs, resultOf, badEnd]
  -- Only the note of a bad end depends on whether the request is checked.
  cases checked && !(Outcome.ofEnding image.program.ending).success with
  | false => exact Traced.ext_of (by simp [opening, running, hargv]) rfl
  | true => exact Traced.ext_of (by simp [opening, running, hargv]) rfl

/-- **What executing a request comes to.** It names no program, its program is not started, or its
program runs to its end. Only then does it matter whether the request is checked. -/
inductive ComesTo (w : World) (r : Request) : Prop
  | nothing (hargv : r.argv = [])
      (h : ∀ checked, w.execute r checked = { events := [], result := .error .emptyCommand })
  | notStarted {name : String} {args : List String} {cause : IoFault} {events : List Event}
      (hargv : r.argv = name :: args)
      (h : ∀ checked, w.execute r checked = { events, result := .error (.spawn name cause) })
  | ended {name : String} {args : List String} {ending : Ending} {events : List Event}
      (hargv : r.argv = name :: args)
      (h : ∀ checked, w.execute r checked =
        { events := events ++ (badEnd checked name ending).map .note
          result := resultOf checked name ending })

theorem execute_cases (w : World) (r : Request) : w.ComesTo r := by
  cases hargv : r.argv with
  | nil =>
    refine .nothing hargv fun checked => ?_
    simp only [execute, hargv]
    rfl
  | cons name args =>
    cases hs : w.startedBy r name args with
    | error cause => exact .notStarted hargv fun _ => execute_of_error hargv hs
    | ok image => exact .ended hargv fun _ => execute_of_ok hargv hs

/-! ## Checked beside unchecked -/

theorem resultOf_unchecked (name : String) (ending : Ending) :
    resultOf false name ending = .ok (Outcome.ofEnding ending) := rfl

theorem resultOf_ne_beforeEnd {fault : Fault} (hf : fault.BeforeEnd) (ending : Ending) :
    resultOf checked name ending ≠ .error fault := by
  unfold resultOf
  split <;> cases hf <;> simp

/-- **A checked request does what an unchecked one does**, and may add a note. -/
theorem events_checked (w : World) (r : Request) :
    ∃ notes : List Log.Note,
      (w.execute r true).events = (w.execute r false).events ++ notes.map .note := by
  cases w.execute_cases r with
  | nothing _ h => exact ⟨[], by rw [h, h]; rfl⟩
  | notStarted _ h => exact ⟨[], by rw [h, h, List.map_nil, List.append_nil]⟩
  | @ended name _ ending events _ h =>
    have hquiet : badEnd false name ending = [] := rfl
    refine ⟨badEnd true name ending, ?_⟩
    rw [h, h, hquiet, List.map_nil, List.append_nil]

theorem calls_map_note (notes : List Log.Note) : Event.callsOf (notes.map .note) = [] := by
  simp [Event.callsOf, Event.call?, Function.comp_def]

theorem calls_checked (w : World) (r : Request) :
    (w.execute r true).calls = (w.execute r false).calls := by
  obtain ⟨notes, h⟩ := w.events_checked r
  rw [Traced.calls, h, Event.callsOf_append, calls_map_note, List.append_nil, Traced.calls]

theorem result_eq_beforeEnd_iff {fault : Fault} (hf : fault.BeforeEnd) (checked' : Bool) :
    (w.execute r checked).result = .error fault ↔ (w.execute r checked').result = .error fault := by
  cases w.execute_cases r with
  | nothing _ h => rw [h, h]
  | notStarted _ h => rw [h, h]
  | ended _ h =>
    rw [h, h]
    exact iff_of_false (resultOf_ne_beforeEnd hf _) (resultOf_ne_beforeEnd hf _)

theorem result_eq_emptyCommand_iff :
    (w.execute r checked).result = .error .emptyCommand ↔ r.argv = [] := by
  cases w.execute_cases r with
  | nothing hargv h =>
    rw [h]
    exact iff_of_true rfl hargv
  | notStarted hargv h => simp [h, hargv]
  | ended hargv h =>
    rw [h, hargv]
    exact iff_of_false (resultOf_ne_beforeEnd .emptyCommand _) (List.cons_ne_nil _ _)

theorem head?_argv_of_spawn {program : String} {cause : IoFault}
    (hr : (w.execute r checked).result = .error (.spawn program cause)) :
    r.argv.head? = some program := by
  cases w.execute_cases r with
  | nothing _ h =>
    rw [h] at hr
    exact absurd hr (by simp)
  | notStarted hargv h =>
    rw [h] at hr
    obtain ⟨rfl, -⟩ := Fault.spawn.inj (Except.error.inj hr)
    rw [hargv, List.head?_cons]
  | ended _ h =>
    rw [h] at hr
    exact absurd hr (resultOf_ne_beforeEnd (.spawn program cause) _)

theorem result_unchecked_ne_failed (program : String) (code : Option Int) :
    (w.execute r false).result ≠ .error (.failed program code) := by
  cases w.execute_cases r with
  | nothing _ h => simp [h]
  | notStarted _ h => simp [h]
  | ended _ h => simp [h, resultOf_unchecked]

/-- **What a checked request makes of an outcome**: it stays if it is a success, and is else a fault
of the program. -/
theorem result_checked_of_outcome {o : Outcome} (ho : (w.execute r false).result = .ok o) :
    ∃ program args, r.argv = program :: args ∧
      (o.code = some 0 → (w.execute r true).result = .ok o) ∧
      (o.code ≠ some 0 → (w.execute r true).result = .error (.failed program o.code)) := by
  cases w.execute_cases r with
  | nothing _ h =>
    rw [h] at ho
    exact absurd ho (by simp)
  | notStarted _ h =>
    rw [h] at ho
    exact absurd ho (by simp)
  | @ended name args ending _ hargv h =>
    rw [h] at ho
    obtain rfl : Outcome.ofEnding ending = o := Except.ok.inj ho
    refine ⟨name, args, hargv, fun hzero => ?_, fun hother => ?_⟩
    · have hsuccess := (Outcome.success_iff _).2 hzero
      simp [h, resultOf, hsuccess]
    · have hsuccess := Bool.eq_false_iff.2 (mt (Outcome.success_iff _).1 hother)
      simp [h, resultOf, hsuccess]

/-! ## No variables of its own -/

/-- The same event, where an attempt counts for its command line and the environment in which it
runs. -/
inductive SameEvent (w : World) : Event → Event → Prop
  | refl (e : Event) : SameEvent w e e
  | attempt {r r' : Request} (hargv : r.argv = r'.argv)
      (henvironment : w.environmentOf r = w.environmentOf r') :
      SameEvent w (.attempt r) (.attempt r')

/-- Two requests are executed alike: the same happens, and it ends in the same result. -/
structure ExecutesAlike (w : World) (checked : Bool) (r r' : Request) : Prop where
  result : (w.execute r checked).result = (w.execute r' checked).result
  calls : (w.execute r checked).calls = (w.execute r' checked).calls
  events : List.Forall₂ w.SameEvent (w.execute r checked).events (w.execute r' checked).events

theorem sameEvents_refl (w : World) (events : List Event) :
    List.Forall₂ w.SameEvent events events :=
  List.forall₂_same.2 fun e _ => .refl e

/-- A request is executed by its command line and the variables that it has of its own. -/
theorem executesAlike_of_own (hargv : r.argv = r'.argv) (hnul : r.hasNul = r'.hasNul)
    (hown : r.ownEnvironment? = r'.ownEnvironment?) : w.ExecutesAlike checked r r' := by
  have henvironment : w.environmentOf r = w.environmentOf r' := by
    unfold environmentOf
    rw [hown]
  have hstarted : ∀ name args, w.startedBy r name args = w.startedBy r' name args := by
    intro name args
    unfold startedBy
    rw [hnul, hown, henvironment]
  have hopening : List.Forall₂ w.SameEvent (opening r) (opening r') := by
    unfold opening
    rw [hargv, hown]
    exact .cons (.refl _) (.cons (.attempt hargv henvironment) .nil)
  cases ha : r.argv with
  | nil =>
    have hnothing : w.execute r checked = w.execute r' checked := by
      simp only [execute, ha, ← hargv]
    exact ⟨by rw [hnothing], by rw [hnothing], by rw [hnothing]; exact w.sameEvents_refl _⟩
  | cons name args =>
    have ha' : r'.argv = name :: args := hargv ▸ ha
    cases hs : w.startedBy r name args with
    | error cause =>
      have hs' := (hstarted name args).symm.trans hs
      refine ⟨?_, ?_, ?_⟩
      · rw [execute_of_error ha hs, execute_of_error ha' hs']
      · rw [callsOf_execute ha, callsOf_execute ha', hs, hs']
      · rw [execute_of_error ha hs, execute_of_error ha' hs']
        exact List.rel_append hopening (w.sameEvents_refl _)
    | ok image =>
      have hs' := (hstarted name args).symm.trans hs
      have hrunning : w.running r image = w.running r' image := by
        unfold running
        rw [henvironment]
      refine ⟨?_, ?_, ?_⟩
      · rw [execute_of_ok ha hs, execute_of_ok ha' hs']
      · rw [callsOf_execute ha, callsOf_execute ha', hs, hs', henvironment]
      · rw [execute_of_ok ha hs, execute_of_ok ha' hs', hrunning]
        simp only [List.append_assoc]
        exact List.rel_append hopening (w.sameEvents_refl _)

theorem executesAlike_of_noVariables (w : World) (argv : List String) (checked : Bool) :
    w.ExecutesAlike checked { argv, environment := some ∅ } { argv, environment := none } :=
  executesAlike_of_own rfl rfl rfl

/-- **Checked and unchecked requests agree** but on outcomes that are no success. What they do
differs in a note at the end at most, and they start the same. Either is refused for want of a
program, or because its program, the first word of its command line, cannot be started, exactly if
the other is. Of an outcome with the code zero both make the same, and of any other, death by a
signal included, the checked one makes a fault, which the unchecked one never has. To either, no
variables of its own are as good as none. -/
theorem checked_agrees_with_unchecked (w : World) (argv : List String)
    (environment : Option TextBindings) :
    let checked := w.execute { argv, environment } true
    let unchecked := w.execute { argv, environment } false
    (∃ notes : List Log.Note, checked.events = unchecked.events ++ notes.map .note) ∧
    checked.calls = unchecked.calls ∧
    (∀ fault : Fault, fault.BeforeEnd →
      (checked.result = .error fault ↔ unchecked.result = .error fault)) ∧
    (unchecked.result = .error .emptyCommand ↔ argv = []) ∧
    (∀ program cause, unchecked.result = .error (.spawn program cause) →
      argv.head? = some program) ∧
    (∀ o, unchecked.result = .ok o → ∃ program args, argv = program :: args ∧
      (o.code = some 0 → checked.result = .ok o) ∧
      (o.code ≠ some 0 → checked.result = .error (.failed program o.code))) ∧
    (∀ program code, unchecked.result ≠ .error (.failed program code)) ∧
    ∀ check, w.ExecutesAlike check { argv, environment := some ∅ } { argv, environment := none } :=
  ⟨w.events_checked _, w.calls_checked _, fun _ hf => result_eq_beforeEnd_iff hf _,
    result_eq_emptyCommand_iff, fun _ _ => head?_argv_of_spawn,
    fun _ => result_checked_of_outcome, result_unchecked_ne_failed,
    w.executesAlike_of_noVariables argv⟩

end World

end CmakeDriver
