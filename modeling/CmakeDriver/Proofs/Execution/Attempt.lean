import CmakeDriver.Cmake.Step

/-!
# What executing a request leaves in a trace

Executing a request that names a program is one attempt to start it, whatever becomes of that. It
calls a program only if the start succeeds, and then one at most: a text that goes to the shell is
no call of a program. Performing a step is executing its request.

Results:
* `attemptsOf_execute`: a request that names a program is attempted, once.
* `callsOf_execute`: the call is that of the image that the request comes to.
* `execute_checked_ok_iff`: a checked request succeeds exactly when its program is started and
  exits with the code zero.
* `perform_ok_iff`: a step succeeds exactly when its program does.
-/

namespace CmakeDriver

namespace Traced

variable {α β : Type}

/-- The attempts to start a program, in order. -/
def attempts (x : Traced α) : List Execution.Request :=
  Event.attemptsOf x.events

/-- The programs that were started, in order. -/
def calls (x : Traced α) : List Call :=
  Event.callsOf x.events

@[simp] theorem attempts_pure (a : α) : (pure a : Traced α).attempts = [] := rfl

@[simp] theorem calls_pure (a : α) : (pure a : Traced α).calls = [] := rfl

@[simp] theorem attempts_bind (x : Traced α) (f : α → Traced β) :
    (x >>= f).attempts = x.attempts ++ (f x.result).attempts := by
  simp only [attempts, events_bind, Event.attemptsOf_append]

@[simp] theorem calls_bind (x : Traced α) (f : α → Traced β) :
    (x >>= f).calls = x.calls ++ (f x.result).calls := by
  simp only [calls, events_bind, Event.callsOf_append]

@[simp] theorem attempts_note (n : Log.Note) : (note n).attempts = [] := rfl

@[simp] theorem calls_note (n : Log.Note) : (note n).calls = [] := rfl

@[simp] theorem attempts_out (text : String) : (out text).attempts = [] := rfl

@[simp] theorem calls_out (text : String) : (out text).calls = [] := rfl

@[simp] theorem attempts_err (text : String) : (err text).attempts = [] := rfl

@[simp] theorem calls_err (text : String) : (err text).calls = [] := rfl

@[simp] theorem attempts_attempt (r : Execution.Request) : (emit (.attempt r)).attempts = [r] := rfl

@[simp] theorem calls_attempt (r : Execution.Request) : (emit (.attempt r)).calls = [] := rfl

end Traced

namespace World

open Execution

/-- The call that an image is reported as: none for the shell. -/
def callOf (w : World) (environment : Environment) (image : Image) : Option Call :=
  image.call.map fun c => { program := w.startPath c.1, args := c.2, environment }

theorem attempts_reportCall (w : World) (e : Environment) (image : Image) :
    (w.reportCall e image).attempts = [] := by
  unfold reportCall
  cases image.call <;> rfl

theorem calls_reportCall (w : World) (e : Environment) (image : Image) :
    (w.reportCall e image).calls = (w.callOf e image).toList := by
  unfold reportCall callOf
  cases image.call <;> rfl

/-! ## One request -/

variable {w : World} {r : Request} {checked : Bool} {name : String} {args : List String}

/-- The result of a request whose program has ended. -/
def resultOf (checked : Bool) (name : String) (ending : Ending) : Except Fault Outcome :=
  if checked && !(Outcome.ofEnding ending).success then
    .error (.failed name (Outcome.ofEnding ending).code)
  else .ok (Outcome.ofEnding ending)

theorem attemptsOf_execute (h : r.argv = name :: args) :
    (w.execute r checked).attempts = [r] := by
  unfold execute
  rw [h]
  cases hs : w.startedBy r name args with
  | error fault => simp [hs]
  | ok image =>
    simp only [hs]
    split <;> simp [attempts_reportCall]

theorem callsOf_execute (h : r.argv = name :: args) :
    (w.execute r checked).calls =
      match w.startedBy r name args with
      | .error _ => []
      | .ok image => (w.callOf (w.environmentOf r) image).toList := by
  unfold execute
  rw [h]
  cases hs : w.startedBy r name args with
  | error fault => simp [hs]
  | ok image =>
    simp only [hs]
    split <;> simp [calls_reportCall]

theorem result_execute (h : r.argv = name :: args) :
    (w.execute r checked).result =
      match w.startedBy r name args with
      | .error fault => .error (.spawn name fault)
      | .ok image => resultOf checked name image.program.ending := by
  unfold execute
  rw [h]
  cases hs : w.startedBy r name args with
  | error fault => simp [hs]
  | ok image =>
    simp only [hs, resultOf]
    split <;> simp

/-- The program of a request is started and ends so. -/
def Runs (w : World) (r : Request) (ending : Ending) : Prop :=
  ∃ name args image, r.argv = name :: args ∧ w.startedBy r name args = .ok image ∧
    image.program.ending = ending

theorem success_ofEnding_iff (ending : Ending) :
    (Outcome.ofEnding ending).success = true ↔ ending = .exited 0 := by
  rw [Outcome.success_iff]
  cases ending with
  | killed signal => simp [Outcome.ofEnding]
  | exited code =>
    simp only [Outcome.ofEnding, Option.some.injEq, Ending.exited.injEq]
    constructor
    · intro h
      exact UInt8.toNat_inj.1 (by exact_mod_cast h)
    · rintro rfl
      rfl

theorem execute_checked_ok_iff :
    (∃ o, (w.execute r true).result = .ok o) ↔ w.Runs r (.exited 0) := by
  cases hr : r.argv with
  | nil =>
    have he : (w.execute r true).result = .error .emptyCommand := by
      unfold execute
      rw [hr]
      rfl
    constructor
    · rintro ⟨o, ho⟩
      rw [he] at ho
      exact absurd ho (by simp)
    · rintro ⟨name, args, image, ha, -, -⟩
      rw [hr] at ha
      exact absurd ha (by simp)
  | cons name args =>
    rw [result_execute hr]
    constructor
    · rintro ⟨o, ho⟩
      cases hs : w.startedBy r name args with
      | error fault => rw [hs] at ho; exact absurd ho (by simp)
      | ok image =>
        refine ⟨name, args, image, hr, hs, (success_ofEnding_iff _).1 ?_⟩
        rw [hs] at ho
        simp only [resultOf, Bool.true_and] at ho
        split at ho
        · exact absurd ho (by simp)
        · rename_i hn
          simpa using hn
    · rintro ⟨name', args', image, ha, hs, he⟩
      rw [hr] at ha
      obtain ⟨rfl, rfl⟩ := List.cons.inj ha
      rw [hs]
      simp [resultOf, he, (success_ofEnding_iff _).2 rfl]

end World

/-! ## One step -/

namespace Cmake

open Execution

variable (c : Cmake) (w : World) (s : Step)

theorem attempts_perform : (c.perform w.host s).attempts = [c.request s] := by
  have h : (w.execute (c.request s) true).attempts = [c.request s] :=
    World.attemptsOf_execute rfl
  simp only [perform, World.host, Traced.attempts_bind, Traced.attempts_note, h,
    Traced.attempts_pure, List.nil_append, List.append_nil]

theorem calls_perform :
    (c.perform w.host s).calls = (w.execute (c.request s) true).calls := by
  simp only [perform, World.host, Traced.calls_bind, Traced.calls_note, Traced.calls_pure,
    List.nil_append, List.append_nil]

theorem result_perform :
    (c.perform w.host s).result = (w.execute (c.request s) true).result.map fun _ => () := rfl

theorem perform_ok_iff :
    (c.perform w.host s).result = .ok () ↔ w.Runs (c.request s) (.exited 0) := by
  rw [result_perform, ← World.execute_checked_ok_iff]
  cases (w.execute (c.request s) true).result <;> simp [Except.map]

theorem length_calls_perform_le : (c.perform w.host s).calls.length ≤ 1 := by
  rw [calls_perform, World.callsOf_execute (w := w) (r := c.request s) rfl]
  split
  · exact Nat.zero_le 1
  · exact Option.length_toList_le

end Cmake

end CmakeDriver
