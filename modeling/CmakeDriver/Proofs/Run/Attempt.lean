import CmakeDriver.Proofs.Execution.Attempt
import CmakeDriver.Run.Whole

/-!
# What a command attempts

A command comes to one step at most: the doctor takes none, and a configure command none without a
toolchain. The step is performed once, and the command succeeds with it. Nothing else that a run
does (notes, reports, texts) is an attempt to start a program.

Results:
* `attempts_obey`, `calls_obey`: a command attempts the request of its step and nothing else.
* `obey_ok_iff`: a command succeeds exactly when it is the doctor or its program is started and
  exits with the code zero.
* `attempts_runCommand`, `result_runCommand`: the same for a command and the path of its
  configuration.
-/

namespace CmakeDriver

namespace World

open CommandLine (Command ConfigureOptions BuildOptions)

/-- The step that a command comes to, if it is one. -/
def stepOf? (w : World) (c : Config) : Command → Option Step
  | .configure o => (w.configureStep? c o).map .configure
  | .build o => some (.build (buildStep c o))
  | .doctor => none

variable (w : World) (c : Config)

/-! ## Configuring and building -/

theorem attempts_configure (o : ConfigureOptions) :
    (w.configure c o).attempts =
      ((w.configureStep? c o).map fun s => (cmakeOf c).request (.configure s)).toList := by
  unfold configure
  cases h : w.configureStep? c o with
  | none => rfl
  | some s =>
    simp only [Traced.attempts_bind, Traced.attempts_note, List.nil_append,
      Cmake.attempts_perform]
    split <;> simp

theorem calls_configure (o : ConfigureOptions) :
    (w.configure c o).calls =
      match w.configureStep? c o with
      | none => []
      | some s => ((cmakeOf c).perform w.host (.configure s)).calls := by
  unfold configure
  cases h : w.configureStep? c o with
  | none => rfl
  | some s =>
    simp only [Traced.calls_bind, Traced.calls_note, List.nil_append]
    split <;> simp

theorem configure_ok_iff (o : ConfigureOptions) :
    (w.configure c o).result = .ok () ↔
      ∃ s, w.configureStep? c o = some s ∧
        w.Runs ((cmakeOf c).request (.configure s)) (.exited 0) := by
  unfold configure
  cases h : w.configureStep? c o with
  | none => simp
  | some s =>
    simp only [Traced.result_bind, Option.some.injEq, exists_eq_left', ← Cmake.perform_ok_iff]
    cases hr : ((cmakeOf c).perform w.host (.configure s)).result with
    | error fault => simp
    | ok u => simp

theorem attempts_build (o : BuildOptions) :
    (w.build c o).attempts = [(cmakeOf c).request (.build (buildStep c o))] := by
  unfold build
  -- The warning about the build folder comes first, or does not come.
  simp only
  split <;>
    simp only [Traced.attempts_bind, Traced.attempts_note, List.nil_append,
      Cmake.attempts_perform] <;>
    split <;> simp

theorem calls_build (o : BuildOptions) :
    (w.build c o).calls = ((cmakeOf c).perform w.host (.build (buildStep c o))).calls := by
  unfold build
  simp only
  split <;>
    simp only [Traced.calls_bind, Traced.calls_note, List.nil_append] <;>
    split <;> simp

theorem build_ok_iff (o : BuildOptions) :
    (w.build c o).result = .ok () ↔
      w.Runs ((cmakeOf c).request (.build (buildStep c o))) (.exited 0) := by
  rw [← Cmake.perform_ok_iff]
  unfold build
  simp only
  split <;>
    simp only [Traced.result_bind] <;>
    cases ((cmakeOf c).perform w.host (.build (buildStep c o))).result <;> simp

/-! ## Any command -/

theorem attempts_obey (command : Command) :
    (w.obey c command).attempts =
      ((w.stepOf? c command).map (cmakeOf c).request).toList := by
  cases command with
  | configure o => simp only [obey, stepOf?, attempts_configure, Option.map_map]; rfl
  | build o => simp only [obey, stepOf?, attempts_build]; rfl
  | doctor => rfl

theorem calls_obey (command : Command) :
    (w.obey c command).calls =
      match w.stepOf? c command with
      | none => []
      | some s => ((cmakeOf c).perform w.host s).calls := by
  cases command with
  | configure o =>
    simp only [obey, stepOf?, calls_configure]
    cases w.configureStep? c o <;> rfl
  | build o => simp only [obey, stepOf?, calls_build]
  | doctor => rfl

theorem obey_ok_iff (command : Command) :
    (w.obey c command).result = .ok () ↔
      command = .doctor ∨
        ∃ s, w.stepOf? c command = some s ∧ w.Runs ((cmakeOf c).request s) (.exited 0) := by
  cases command with
  | configure o =>
    simp only [obey, stepOf?, configure_ok_iff]
    cases w.configureStep? c o <;> simp
  | build o =>
    simp only [obey, stepOf?, build_ok_iff]
    simp
  | doctor => simp [obey, result_doctor]

/-! ## A command with the path of its configuration -/

@[simp] theorem attempts_conclude (r : Except Failure Unit) : (conclude r).attempts = [] := by
  cases r <;> rfl

@[simp] theorem calls_conclude (r : Except Failure Unit) : (conclude r).calls = [] := by
  cases r <;> rfl

/-- The exit status of a command with this result. -/
def statusOf : Except Failure Unit → Nat
  | .ok () => 0
  | .error _ => 1

theorem statusOf_eq_zero_iff {r : Except Failure Unit} : statusOf r = 0 ↔ r = .ok () := by
  cases r <;> simp [statusOf]

theorem statusOf_le (r : Except Failure Unit) : statusOf r ≤ 1 := by
  cases r <;> simp [statusOf]

theorem result_conclude (r : Except Failure Unit) : (conclude r).result = statusOf r := by
  cases r <;> rfl

theorem attempts_runCommand (path : String) (command : Command) :
    (w.runCommand path command).attempts =
      match Config.loadOrDefault w path with
      | .error _ => []
      | .ok c => (w.obey c command).attempts := by
  unfold runCommand
  cases h : Config.loadOrDefault w path with
  | error fault => simp
  | ok c => simp

theorem calls_runCommand (path : String) (command : Command) :
    (w.runCommand path command).calls =
      match Config.loadOrDefault w path with
      | .error _ => []
      | .ok c => (w.obey c command).calls := by
  unfold runCommand
  cases h : Config.loadOrDefault w path with
  | error fault => simp
  | ok c => simp

theorem result_runCommand (path : String) (command : Command) :
    (w.runCommand path command).result =
      match Config.loadOrDefault w path with
      | .error _ => 1
      | .ok c => statusOf (w.obey c command).result := by
  unfold runCommand
  cases h : Config.loadOrDefault w path with
  | error fault => rfl
  | ok c => exact result_conclude _

theorem result_runCommand_le (path : String) (command : Command) :
    (w.runCommand path command).result ≤ 1 := by
  rw [result_runCommand]
  split
  · exact Nat.le_refl 1
  · exact statusOf_le _

end World

end CmakeDriver
