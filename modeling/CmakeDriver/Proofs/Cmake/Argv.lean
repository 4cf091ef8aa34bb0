import CmakeDriver.Cmake.Step

/-!
# Command lines and what they ask for

Values stand in a command line as they are given, without quotes, and may look like flags. Still
they cannot be taken for anything else: each has its place, counted from the front, and the number
of words tells whether the step is verbose. So a command line is that of one executable and of one
step, up to the environment, which is no part of it.

Results:
* `ConfigureStep.args_eq_iff`, `BuildStep.args_eq_iff`: the arguments of a step hold all it is told.
* `ConfigureStep.args_ne_args`: no step has arguments of the other kind.
* `argv_eq_argv_iff`: command lines are the same exactly if they ask for the same.
* `argv_determines`: this, and where the verbose flags stand.
-/

namespace CmakeDriver

/-! ## Arguments of configuring -/

namespace ConfigureStep

variable {s s' : ConfigureStep}

/-- What stands in front of the source directory, but for the verbose flags. -/
def settingArgs (s : ConfigureStep) : List String :=
  ["-DCMAKE_EXPORT_COMPILE_COMMANDS=ON",
    "-DCMAKE_TOOLCHAIN_FILE=" ++ s.toolchain,
    "-DENABLE_TESTING=ON",
    "-DCMAKE_BUILD_TYPE=" ++ s.configuration]

/-- The directories, the source directory first. -/
def folderArgs (s : ConfigureStep) : List String :=
  ["-S", ".", "-B", s.buildFolder]

theorem args_eq (s : ConfigureStep) :
    s.args = s.settingArgs ++ verboseFlags s.verbose ++ s.folderArgs := rfl

theorem length_verboseFlags (verbose : Bool) :
    (verboseFlags verbose).length = 2 * verbose.toNat := by
  cases verbose <;> rfl

theorem length_args (s : ConfigureStep) : s.args.length = 8 + 2 * s.verbose.toNat := by
  simp only [args_eq, List.length_append, length_verboseFlags, settingArgs, folderArgs,
    List.length_cons, List.length_nil]
  omega

/-- The number of arguments tells whether the step is verbose. -/
theorem verbose_eq_of_length_eq (h : s.args.length = s'.args.length) : s.verbose = s'.verbose := by
  rw [length_args, length_args] at h
  have hflag : s.verbose.toNat = s'.verbose.toNat := by omega
  cases hv : s.verbose <;> cases hv' : s'.verbose <;> simp [hv, hv'] at hflag ⊢

theorem settingArgs_eq_iff :
    s.settingArgs = s'.settingArgs ↔
      s.toolchain = s'.toolchain ∧ s.configuration = s'.configuration := by
  simp [settingArgs]

theorem folderArgs_eq_iff : s.folderArgs = s'.folderArgs ↔ s.buildFolder = s'.buildFolder := by
  simp [folderArgs]

/-- **The arguments hold all that the step is told**, its environment apart. -/
theorem args_eq_iff :
    s.args = s'.args ↔
      { s with environment := none } = { s' with environment := none } := by
  constructor
  · intro h
    have hverbose := verbose_eq_of_length_eq (congrArg List.length h)
    -- The flags are as many on both sides, so the parts around them are equal one by one.
    rw [args_eq, args_eq, hverbose] at h
    obtain ⟨hfront, hfolder⟩ := List.append_inj h (by simp [settingArgs])
    obtain ⟨hsetting, -⟩ := List.append_inj hfront (by simp [settingArgs])
    obtain ⟨htoolchain, hconfiguration⟩ := settingArgs_eq_iff.1 hsetting
    rw [mk.injEq]
    exact ⟨hconfiguration, folderArgs_eq_iff.1 hfolder, htoolchain, hverbose, rfl⟩
  · intro h
    have hargs : ∀ t : ConfigureStep, t.args = { t with environment := none }.args := fun _ => rfl
    rw [hargs s, hargs s', h]

end ConfigureStep

/-! ## Arguments of building -/

theorem BuildStep.args_eq_iff {s s' : BuildStep} : s.args = s'.args ↔ s = s' := by
  obtain ⟨folder, verbose⟩ := s
  obtain ⟨folder', verbose'⟩ := s'
  cases verbose <;> cases verbose' <;> simp [args]

/-- **No step has arguments of the other kind**: the first argument tells them apart. -/
theorem ConfigureStep.args_ne_args (s : ConfigureStep) (s' : BuildStep) : s.args ≠ s'.args := by
  intro h
  have hfirst : some "-DCMAKE_EXPORT_COMPILE_COMMANDS=ON" = some "--build" :=
    congrArg List.head? h
  exact absurd hfirst (by decide)

/-! ## Command lines -/

/-- What a step asks for, without the environment that it runs in. -/
def Step.asked : Step → Step
  | configure s => configure { s with environment := none }
  | build s => build s

theorem Step.args_eq_iff {s s' : Step} : s.args = s'.args ↔ s.asked = s'.asked := by
  cases s with
  | configure s =>
    cases s' with
    | configure s' => exact ConfigureStep.args_eq_iff.trans (by simp [asked])
    | build s' => exact iff_of_false (s.args_ne_args s') (by simp [asked])
  | build s =>
    cases s' with
    | configure s' => exact iff_of_false (s'.args_ne_args s).symm (by simp [asked])
    | build s' => exact BuildStep.args_eq_iff.trans (by simp [asked])

namespace Cmake

theorem argv_eq_argv_iff {c c' : Cmake} {s s' : Step} :
    c.argv s = c'.argv s' ↔ c = c' ∧ s.asked = s'.asked := by
  obtain ⟨executable⟩ := c
  obtain ⟨executable'⟩ := c'
  rw [argv, argv, List.cons.injEq, Step.args_eq_iff, mk.injEq]

/-- **A command line determines what it asks for**: two command lines are the same exactly if they
are for the same executable and for the same step, with the same values. A verbose configure step
differs from a quiet one in two words, which stand in front of the flag of the source directory,
four words from the end; a verbose build step has one word more, at the end. -/
theorem argv_determines :
    (∀ (c c' : Cmake) (s s' : Step),
      c.argv s = c'.argv s' ↔ c = c' ∧ s.asked = s'.asked) ∧
    (∀ (c : Cmake) (s : ConfigureStep), ∃ front,
      c.argv (.configure { s with verbose := false }) =
        front ++ ["-S", ".", "-B", s.buildFolder] ∧
      c.argv (.configure { s with verbose := true }) =
        front ++ ["--log-level=TRACE", "-Wdev"] ++ ["-S", ".", "-B", s.buildFolder]) ∧
    ∀ (c : Cmake) (s : BuildStep),
      c.argv (.build { s with verbose := true }) =
        c.argv (.build { s with verbose := false }) ++ ["--verbose"] := by
  refine ⟨fun _ _ _ _ => argv_eq_argv_iff, fun c s => ?_, fun _ _ => rfl⟩
  exact ⟨c.executable :: s.settingArgs, rfl, rfl⟩

/-- An executable and a build folder that look like flags keep their places. -/
example : argv { executable := "-S" } (.build { buildFolder := "--verbose" }) =
    ["-S", "--build", "--verbose"] := by
  decide

end Cmake

end CmakeDriver
