import CmakeDriver.Proofs.Config.Given
import CmakeDriver.Proofs.Execution.Called
import CmakeDriver.Proofs.Run.Attempt

/-!
# What a run comes to

A run attempts to start a program only for a configure or a build command whose configuration loads,
and a configure command also needs a toolchain. It attempts one start, with the command line that
the arguments, the configuration file and the defaults determine, in this order. Its exit status
tells senseless arguments (2), success (0) and failure (1) apart; the program's own exit code shows
only in whether it is zero.

Results:
* `attempts_answer`, `calls_answer`: a command line attempts one step, or none, and calls what the
  step calls.
* `mem_attempts_run_iff`: which requests a run attempts.
* `called_of_attempted`: whose ending a run takes for that of its program.
* `run_comes_to`: what a run starts and how it ends, for all arguments and for all worlds in which
  reading the log filter comes to an end. A run in another world does nothing and ends with a status
  of its own (`run_of_not_readsLogFilter`).
-/

namespace CmakeDriver

namespace World

open CommandLine (Command ConfigureOptions BuildOptions Refusal)

variable (w : World) (args : List String)

/-! ## Attempts -/

@[simp] theorem attempts_refuse (r : Refusal) : (w.refuse r).attempts = [] := by
  cases r <;> rfl

@[simp] theorem calls_refuse (r : Refusal) : (w.refuse r).calls = [] := by
  cases r <;> rfl

/-- The step that a command line comes to, if it is one, and the driver that takes it. -/
def stepOfLine? (w : World) (args : List String) : Option (Cmake × Step) :=
  match CommandLine.parse args with
  | .ok { config := path, command := some command } =>
    match Config.loadOrDefault w path with
    | .ok c => (w.stepOf? c command).map fun s => (cmakeOf c, s)
    | .error _ => none
  | _ => none

theorem stepOfLine?_eq_some_iff {cmake : Cmake} {s : Step} :
    w.stepOfLine? args = some (cmake, s) ↔
      ∃ path command c,
        CommandLine.parse args = .ok { config := path, command := some command } ∧
        Config.loadOrDefault w path = .ok c ∧ w.stepOf? c command = some s ∧
        cmake = cmakeOf c := by
  unfold stepOfLine?
  split
  · rename_i path command hp
    simp only [hp, Except.ok.injEq, CommandLine.Invocation.mk.injEq, Option.some.injEq]
    constructor
    · intro h
      split at h
      · rename_i c hc
        obtain ⟨s', hs, he⟩ := Option.map_eq_some_iff.1 h
        obtain ⟨rfl, rfl⟩ := Prod.mk.inj he
        exact ⟨path, command, c, ⟨rfl, rfl⟩, hc, hs, rfl⟩
      · exact absurd h (by simp)
    · rintro ⟨_, _, c, ⟨rfl, rfl⟩, hc, hs, rfl⟩
      simp only [hc, hs, Option.map_some]
  · rename_i hp
    constructor
    · intro h
      exact absurd h (by simp)
    · rintro ⟨path, command, c, h, -, -, -⟩
      exact absurd h (hp path command)

/-- **A command line attempts its step** and nothing else. -/
theorem attempts_answer :
    (w.answer args).attempts = ((w.stepOfLine? args).map fun p => p.1.request p.2).toList := by
  unfold answer stepOfLine?
  cases CommandLine.parse args with
  | error refusal => simp
  | ok invocation =>
    obtain ⟨path, command⟩ := invocation
    cases command with
    | none => simp
    | some command =>
      simp only [attempts_runCommand]
      cases Config.loadOrDefault w path with
      | error fault => rfl
      | ok c =>
        simp only [attempts_obey, Option.map_map]
        rfl

/-- **A command line calls what its step calls** and nothing else. -/
theorem calls_answer :
    (w.answer args).calls =
      match w.stepOfLine? args with
      | none => []
      | some (cmake, s) => (cmake.perform w.host s).calls := by
  unfold answer stepOfLine?
  cases CommandLine.parse args with
  | error refusal => simp
  | ok invocation =>
    obtain ⟨path, command⟩ := invocation
    cases command with
    | none => simp
    | some command =>
      simp only [calls_runCommand]
      cases Config.loadOrDefault w path with
      | error fault => rfl
      | ok c =>
        simp only [calls_obey]
        cases w.stepOf? c command <;> rfl

/-- A run that does anything has read the log filter. -/
theorem readsLogFilter_of_events (h : (w.run args).events ≠ []) : w.ReadsLogFilter := by
  by_contra hn
  rw [run_of_not_readsLogFilter hn] at h
  exact h rfl

theorem readsLogFilter_of_mem_attempts {r : Execution.Request}
    (h : r ∈ (w.run args).attempts) : w.ReadsLogFilter := by
  refine readsLogFilter_of_events w args fun he => ?_
  rw [Traced.attempts, he] at h
  exact absurd h List.not_mem_nil

theorem readsLogFilter_of_mem_calls {call : Call} (h : call ∈ (w.run args).calls) :
    w.ReadsLogFilter := by
  refine readsLogFilter_of_events w args fun he => ?_
  rw [Traced.calls, he] at h
  exact absurd h List.not_mem_nil

section Read

variable (h : w.ReadsLogFilter)

include h

theorem mem_attempts_run_iff {r : Execution.Request} :
    r ∈ (w.run args).attempts ↔
      ∃ path command c s,
        CommandLine.parse args = .ok { config := path, command := some command } ∧
        Config.loadOrDefault w path = .ok c ∧ w.stepOf? c command = some s ∧
        r = (cmakeOf c).request s := by
  rw [run_of_readsLogFilter h, attempts_answer, Option.mem_toList, Option.map_eq_some_iff]
  constructor
  · rintro ⟨⟨cmake, s⟩, h, rfl⟩
    obtain ⟨path, command, c, hp, hl, hs, rfl⟩ := (stepOfLine?_eq_some_iff w args).1 h
    exact ⟨path, command, c, s, hp, hl, hs, rfl⟩
  · rintro ⟨path, command, c, s, hp, hl, hs, rfl⟩
    exact ⟨_, (stepOfLine?_eq_some_iff w args).2 ⟨path, command, c, hp, hl, hs, rfl⟩, rfl⟩

theorem length_attempts_run_le : (w.run args).attempts.length ≤ 1 := by
  rw [run_of_readsLogFilter h, attempts_answer]
  exact Option.length_toList_le

theorem length_calls_run_le : (w.run args).calls.length ≤ (w.run args).attempts.length := by
  rw [run_of_readsLogFilter h, attempts_answer, calls_answer]
  split
  · exact Nat.zero_le _
  · rename_i cmake s hs
    rw [hs]
    exact Cmake.length_calls_perform_le cmake w s

/-- **The reported call is that of the program whose ending counts.** -/
theorem called_of_attempted {r : Execution.Request} {ending : Ending}
    (hr : r ∈ (w.run args).attempts) (hends : w.Runs r ending) :
    w.Called r ending (w.run args).calls := by
  rw [run_of_readsLogFilter h, attempts_answer, Option.mem_toList, Option.map_eq_some_iff] at hr
  obtain ⟨⟨cmake, s⟩, hs, rfl⟩ := hr
  rw [run_of_readsLogFilter h, calls_answer, hs]
  show w.Called _ ending (cmake.perform w.host s).calls
  rw [Cmake.calls_perform]
  exact called_of_runs hends true

end Read

/-! ## The command line that is attempted -/

/-- **The command line that a run is asked to execute.** A value of the arguments counts first, then
one that the configuration file gives, then the default; there is no default toolchain. -/
inductive Asks (w : World) (args : List String) : List String → Prop
  | configure {path toolchain : String} {o : ConfigureOptions} {g : Config.Given}
      (parsed : CommandLine.parse args = .ok { config := path, command := some (.configure o) })
      (loaded : Config.loadOrDefault w path = .ok (g.onto {}))
      (gives : Config.FileGives w path g)
      (named : (o.toolchain <|> g.toolchain) = some toolchain) :
      Asks w args (Cmake.argv { executable := g.cmakeBinary.getD "cmake" } (.configure
        { configuration := (o.configuration <|> g.configuration).getD "Debug"
          buildFolder := (o.buildFolder <|> g.buildFolder).getD "build"
          toolchain
          verbose := o.verbose }))
  | build {path : String} {o : BuildOptions} {g : Config.Given}
      (parsed : CommandLine.parse args = .ok { config := path, command := some (.build o) })
      (loaded : Config.loadOrDefault w path = .ok (g.onto {}))
      (gives : Config.FileGives w path g) :
      Asks w args (Cmake.argv { executable := g.cmakeBinary.getD "cmake" } (.build
        { buildFolder := (o.buildFolder <|> g.buildFolder).getD "build"
          verbose := o.verbose }))

theorem getD_orElse (a b : Option String) (d : String) : (a <|> b).getD d = a.getD (b.getD d) := by
  cases a <;> rfl

theorem asks_iff (h : w.ReadsLogFilter) {argv : List String} :
    (∃ r ∈ (w.run args).attempts, r.argv = argv) ↔ Asks w args argv := by
  constructor
  · rintro ⟨r, hr, rfl⟩
    obtain ⟨path, command, c, s, hp, hl, hs, rfl⟩ := (mem_attempts_run_iff w args h).1 hr
    obtain ⟨g, hg, rfl⟩ := Config.loadOrDefault_eq_ok_iff.1 hl
    cases command with
    | configure o =>
      simp only [stepOf?, configureStep?, Option.map_map, Option.map_eq_some_iff,
        Config.Given.toolchain_onto_default] at hs
      obtain ⟨toolchain, hn, rfl⟩ := hs
      have := Asks.configure hp hl hg hn
      simp only [getD_orElse] at this
      exact this
    | build o =>
      simp only [stepOf?, Option.some.injEq] at hs
      subst hs
      have := Asks.build hp hl hg
      simp only [getD_orElse] at this
      exact this
    | doctor => exact absurd hs (by simp [stepOf?])
  · intro hasks
    cases hasks with
    | @configure path toolchain o g hp hl hg hn =>
      have hs : w.stepOf? (g.onto {}) (.configure o) = some (.configure
          { configuration := o.configuration.getD (g.onto {}).configuration
            buildFolder := o.buildFolder.getD (g.onto {}).buildFolder
            toolchain
            verbose := o.verbose
            environment := w.stepEnvironment (g.onto {}).env o.env }) := by
        simp only [stepOf?, configureStep?, Config.Given.toolchain_onto_default, hn]
        rfl
      refine ⟨_, (mem_attempts_run_iff w args h).2 ⟨path, _, _, _, hp, hl, hs, rfl⟩, ?_⟩
      simp only [getD_orElse]
      rfl
    | @build path o g hp hl hg =>
      refine ⟨_, (mem_attempts_run_iff w args h).2 ⟨path, _, _, _, hp, hl, rfl, rfl⟩, ?_⟩
      simp only [getD_orElse]
      rfl

/-! ## The exit status -/

/-- **The ways in which a run succeeds.** -/
inductive Succeeds (w : World) (args : List String) : Prop
  | help {page : CommandLine.Page} (h : CommandLine.parse args = .error (.help page))
  | version (h : CommandLine.parse args = .error .version)
  | overview {path : String} (h : CommandLine.parse args = .ok { config := path, command := none })
  | doctor {path : String} {c : Config}
      (h : CommandLine.parse args = .ok { config := path, command := some .doctor })
      (loaded : Config.loadOrDefault w path = .ok c)
  | program {r : Execution.Request} (attempted : r ∈ (w.run args).attempts)
      (ended : w.Runs r (.exited 0))

section Read

variable (h : w.ReadsLogFilter)

include h

theorem result_run_eq_two_iff :
    (w.run args).result = 2 ↔ ∃ e, CommandLine.parse args = .error (.usage e) := by
  rw [run_of_readsLogFilter h, answer]
  cases hp : CommandLine.parse args with
  | error refusal => cases refusal <;> simp [refuse]
  | ok invocation =>
    obtain ⟨path, command⟩ := invocation
    cases command with
    | none => simp
    | some command =>
      simp only [reduceCtorEq, exists_false, iff_false]
      have := result_runCommand_le w path command
      omega

theorem result_run_le : (w.run args).result ≤ 2 := by
  rw [run_of_readsLogFilter h, answer]
  cases CommandLine.parse args with
  | error refusal => cases refusal <;> simp [refuse]
  | ok invocation =>
    obtain ⟨path, command⟩ := invocation
    cases command with
    | none => simp
    | some command => exact Nat.le_succ_of_le (result_runCommand_le w path command)

theorem result_run_eq_zero_iff : (w.run args).result = 0 ↔ Succeeds w args := by
  have hrun : w.run args = w.answer args := run_of_readsLogFilter h args
  constructor
  · intro hzero
    rw [hrun] at hzero
    cases hp : CommandLine.parse args with
    | error refusal =>
      cases refusal with
      | help page => exact .help hp
      | version => exact .version hp
      | usage e => simp [answer, hp, refuse] at hzero
    | ok invocation =>
      obtain ⟨path, command⟩ := invocation
      cases command with
      | none => exact .overview hp
      | some command =>
        simp only [answer, hp, result_runCommand] at hzero
        cases hl : Config.loadOrDefault w path with
        | error fault => simp [hl] at hzero
        | ok c =>
          simp only [hl, statusOf_eq_zero_iff, obey_ok_iff] at hzero
          rcases hzero with rfl | ⟨s, hs, hr⟩
          · exact .doctor hp hl
          · exact .program
              ((mem_attempts_run_iff w args h).2 ⟨path, command, c, s, hp, hl, hs, rfl⟩) hr
  · intro hsucceeds
    rw [hrun]
    cases hsucceeds with
    | help hp => simp [answer, hp, refuse]
    | version hp => simp [answer, hp, refuse]
    | overview hp => simp [answer, hp]
    | doctor hp hl =>
      simp only [answer, hp, result_runCommand, hl, statusOf_eq_zero_iff, obey_ok_iff]
      exact Or.inl trivial
    | program hr he =>
      obtain ⟨path, command, c, s, hp, hl, hs, rfl⟩ := (mem_attempts_run_iff w args h).1 hr
      simp only [answer, hp, result_runCommand, hl, statusOf_eq_zero_iff, obey_ok_iff]
      exact Or.inr ⟨s, hs, he⟩

end Read

/-- **A run starts at most one program**, for what it is asked to execute and for nothing else. Its
exit status is 2 exactly for senseless arguments, 0 exactly where it succeeds, and else 1. If it
attempted a program that was started and has ended, then that ending is the one of the program file
that was called, unless the shell took its place. All this under the condition that reading the log
filter, which a run does first, comes to an end. -/
theorem run_comes_to (w : World) (args : List String) (h : w.ReadsLogFilter) :
    (w.run args).calls.length ≤ (w.run args).attempts.length ∧
    (w.run args).attempts.length ≤ 1 ∧
    (∀ argv, (∃ r ∈ (w.run args).attempts, r.argv = argv) ↔ Asks w args argv) ∧
    ((w.run args).result = 2 ↔ ∃ e, CommandLine.parse args = .error (.usage e)) ∧
    ((w.run args).result = 0 ↔ Succeeds w args) ∧
    (w.run args).result ≤ 2 ∧
    ∀ r ∈ (w.run args).attempts, ∀ ending, w.Runs r ending →
      w.Called r ending (w.run args).calls :=
  ⟨length_calls_run_le w args h, length_attempts_run_le w args h, fun _ => asks_iff w args h,
    result_run_eq_two_iff w args h, result_run_eq_zero_iff w args h, result_run_le w args h,
    fun _ hr _ hends => called_of_attempted w args h hr hends⟩

/-- A world with cmake on the search path, in which the text for the log filter is none. -/
def bogusFilter : World where
  tree := { entries := [
    ([Bytes.ofString "opt"], .directory),
    ([Bytes.ofString "cmake", Bytes.ofString "opt"], .program {} true)] }
  environment :=
    { entries := [(Bytes.ofString "PATH", Bytes.ofString "/opt"),
        (Bytes.ofString "RUST_LOG", Bytes.ofString "cmakew=bogus")]
      distinct := by decide }

/-- Without a configuration file a build runs the program of the default one, and succeeds with
it. -/
theorem bogusFilter_comes_to :
    bogusFilter.ReadsLogFilter ∧ Asks bogusFilter ["build"] ["cmake", "--build", "build"] ∧
      Succeeds bogusFilter ["build"] ∧
      ∃ r ∈ (bogusFilter.run ["build"]).attempts,
        bogusFilter.Called r (.exited 0) (bogusFilter.run ["build"]).calls := by
  have hreads : bogusFilter.ReadsLogFilter := by decide +kernel
  have hargv : (bogusFilter.run ["build"]).attempts.map (·.argv) =
      [["cmake", "--build", "build"]] := by decide +kernel
  have hresult : (bogusFilter.run ["build"]).result = 0 := by decide +kernel
  obtain ⟨-, -, hasks, -, hzero, -, hcalled⟩ := run_comes_to bogusFilter ["build"] hreads
  obtain ⟨r, hr, hwords⟩ : ∃ r ∈ (bogusFilter.run ["build"]).attempts,
      r.argv = ["cmake", "--build", "build"] :=
    List.mem_map.1 (hargv ▸ List.mem_singleton_self _)
  have hsucceeds := hzero.1 hresult
  refine ⟨hreads, (hasks _).1 ⟨r, hr, hwords⟩, hsucceeds, ?_⟩
  have hparse : CommandLine.parse ["build"] =
      .ok { config := "cmakew.toml", command := some (.build {}) } := by decide
  cases hsucceeds with
  | program hr hends => exact ⟨_, hr, hcalled _ hr _ hends⟩
  | _ hp =>
    rw [hparse] at hp
    exact absurd hp (by simp)

end World

end CmakeDriver
