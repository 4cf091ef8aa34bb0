import CmakeDriver.Proofs.Bindings
import CmakeDriver.Proofs.Run.Attempt

/-!
# The environment that a step runs in

A step without variables of its own runs in the ambient environment. A configure step has variables
of its own as soon as the configuration or the command line adds one; then it sees those, and the
ambient variables that are text, and nothing else. A build step never has any.

Results:
* `environment_of_call`: a program that a step starts gets the environment of the step's request.
* `stepEnvironment_ne_empty`: variables of a step's own are never none at all, so that the empty
  environment, which counts as inheriting, is not given by accident.
* `seen_environment`: what programs started by configuring and by building see.
-/

namespace CmakeDriver

namespace World

open Execution
open CommandLine (ConfigureOptions BuildOptions)

variable {w : World}

/-! ## Requests and calls -/

/-- The environment in which a run attempts a start, or which a program that it starts gets. -/
def Seen (w : World) {α : Type} (x : Traced α) (e : Environment) : Prop :=
  (∃ r ∈ x.attempts, e = w.environmentOf r) ∨ ∃ call ∈ x.calls, e = call.environment

theorem environment_of_call {r : Request} {checked : Bool} {call : Call}
    (h : call ∈ (w.execute r checked).calls) : call.environment = w.environmentOf r := by
  cases ha : r.argv with
  | nil =>
    have hn : (w.execute r checked).calls = [] := by
      unfold execute
      rw [ha]
      rfl
    rw [hn] at h
    exact absurd h List.not_mem_nil
  | cons name args =>
    rw [callsOf_execute ha] at h
    split at h
    · exact absurd h List.not_mem_nil
    · obtain ⟨c, -, rfl⟩ := Option.map_eq_some_iff.1 (Option.mem_toList.1 h)
      rfl

theorem seen_perform {c : Cmake} {s : Step} {e : Environment} :
    w.Seen (c.perform w.host s) e ↔ e = w.environmentOf (c.request s) := by
  unfold Seen
  rw [Cmake.attempts_perform, Cmake.calls_perform]
  constructor
  · rintro (⟨r, hr, rfl⟩ | ⟨call, hc, rfl⟩)
    · rw [List.mem_singleton.1 hr]
    · exact environment_of_call hc
  · rintro rfl
    exact Or.inl ⟨_, List.mem_singleton.2 rfl, rfl⟩

theorem environmentOf_of_none {r : Request} (h : r.environment = none) :
    w.environmentOf r = w.environment := by
  simp [environmentOf, Request.ownEnvironment?, h]

theorem environmentOf_of_some {r : Request} {b : TextBindings} (h : r.environment = some b)
    (hb : b.isEmpty = false) : w.environmentOf r = Environment.ofText b := by
  have ho : r.ownEnvironment? = some b := by
    rw [Request.ownEnvironment?, h]
    simp only [Option.filter_some, hb, Bool.not_false, if_true]
  rw [environmentOf, ho]

/-! ## Variables of a configure step -/

/-- **Whose value of a variable counts** in an environment that is not inherited: the last pair of
the command line, else the configuration, else the ambient variable if its name and its value are
text. -/
inductive Overlaid (ambient : Environment) (config : TextBindings)
    (pairs : List (String × String)) (name value : String) : Prop
  | given (h : Bindings.LastPair pairs name value)
  | configured (hp : ∀ p ∈ pairs, p.1 ≠ name) (h : config.get? name = some value)
  | ambient (hp : ∀ p ∈ pairs, p.1 ≠ name) (hc : config.get? name = none)
      (h : ambient.get? (Bytes.ofString name) = some (Bytes.ofString value))

variable {config : TextBindings} {pairs : List (String × String)} {b : TextBindings}

/-- Only where nothing is added does the ambient environment matter. -/
theorem Overlaid.imp {e e' : Environment} {name value : String}
    (h : (∀ p ∈ pairs, p.1 ≠ name) → config.get? name = none →
      e.get? (Bytes.ofString name) = some (Bytes.ofString value) →
      e'.get? (Bytes.ofString name) = some (Bytes.ofString value))
    (ho : Overlaid e config pairs name value) : Overlaid e' config pairs name value := by
  cases ho with
  | given hg => exact .given hg
  | configured hp hc => exact .configured hp hc
  | ambient hp hc ha => exact .ambient hp hc (h hp hc ha)

theorem get?_stepEnvironment_eq_some_iff (h : w.stepEnvironment config pairs = some b)
    {name value : String} :
    b.get? name = some value ↔ Overlaid w.environment config pairs name value := by
  have hb : b = (w.textBindings.setAll config.entries).setAll pairs := by
    unfold stepEnvironment at h
    split at h
    · exact absurd h (by simp)
    · exact (Option.some.inj h).symm
  rw [hb, Bindings.get?_setAll_eq_some_iff, Bindings.get?_setAll_eq_some_iff,
    Bindings.lastPair_entries_iff, Bindings.forall_entries_ne_iff, get?_textBindings]
  constructor
  · rintro (hg | ⟨hp, hc | ⟨hc, ha⟩⟩)
    · exact .given hg
    · exact .configured hp hc
    · exact .ambient hp hc ha
  · rintro (hg | ⟨hp, hc⟩ | ⟨hp, hc, ha⟩)
    · exact Or.inl hg
    · exact Or.inr ⟨hp, Or.inl hc⟩
    · exact Or.inr ⟨hp, Or.inr ⟨hc, ha⟩⟩

theorem stepEnvironment_ne_empty (h : w.stepEnvironment config pairs = some b) :
    b.isEmpty = false := by
  cases hb : b.isEmpty with
  | false => rfl
  | true =>
    have hn : ∀ name value, ¬ Overlaid w.environment config pairs name value := by
      intro name value ho
      have hg := (get?_stepEnvironment_eq_some_iff h).2 ho
      rw [(Bindings.isEmpty_iff b).1 hb name] at hg
      exact absurd hg (by simp)
    have hp : pairs = [] := by
      refine List.eq_nil_iff_forall_not_mem.2 fun p hp => ?_
      cases hf : Bindings.find? p.1 pairs.reverse with
      | none => exact Bindings.find?_reverse_eq_none_iff.1 hf p hp rfl
      | some value => exact hn _ _ (.given (Bindings.find?_reverse_eq_some_iff.1 hf))
    have hc : config.isEmpty = true := by
      refine (Bindings.isEmpty_iff config).2 fun name => ?_
      cases hg : config.get? name with
      | none => rfl
      | some value => exact absurd (.configured (by simp [hp]) hg) (hn name value)
    rw [(stepEnvironment_eq_none_iff w config pairs).2 ⟨hc, hp⟩] at h
    exact absurd h (by simp)

theorem get?_ofText_eq_some_iff (b : TextBindings) {k v : Bytes} :
    (Environment.ofText b).get? k = some v ↔
      ∃ name value, k = Bytes.ofString name ∧ v = Bytes.ofString value ∧
        b.get? name = some value := by
  rw [← Bindings.mem_entries_iff]
  simp only [Environment.ofText, List.mem_map, Prod.exists, Prod.mk.injEq,
    Bindings.mem_entries_iff]
  constructor
  · rintro ⟨name, value, hg, rfl, rfl⟩
    exact ⟨name, value, rfl, rfl, hg⟩
  · rintro ⟨name, value, rfl, rfl, hg⟩
    exact ⟨name, value, hg, rfl, rfl⟩

/-! ## What the programs see -/

theorem mem_attempts_configure_iff {c : Config} {o : ConfigureOptions} {r : Request} :
    r ∈ (w.configure c o).attempts ↔
      ∃ s, w.configureStep? c o = some s ∧ r = (cmakeOf c).request (.configure s) := by
  rw [attempts_configure, Option.mem_toList, Option.map_eq_some_iff]
  simp only [eq_comm]

theorem environment_configureStep {c : Config} {o : ConfigureOptions} {s : ConfigureStep}
    (h : w.configureStep? c o = some s) : s.environment = w.stepEnvironment c.env o.env := by
  obtain ⟨toolchain, -, rfl⟩ := Option.map_eq_some_iff.1 h
  rfl

theorem seen_configure {c : Config} {o : ConfigureOptions} {e : Environment} :
    w.Seen (w.configure c o) e ↔ ∃ r ∈ (w.configure c o).attempts, e = w.environmentOf r := by
  constructor
  · rintro (hr | ⟨call, hc, rfl⟩)
    · exact hr
    · rw [calls_configure] at hc
      cases hs : w.configureStep? c o with
      | none =>
        rw [hs] at hc
        exact absurd hc List.not_mem_nil
      | some s =>
        rw [hs] at hc
        exact ⟨_, mem_attempts_configure_iff.2 ⟨s, hs, rfl⟩,
          seen_perform.1 (Or.inr ⟨call, hc, rfl⟩)⟩
  · exact Or.inl

/-- **The environment that cmake sees.** Configuring without added variables shows it the ambient
environment as it is. With any it sees, by text names alone, exactly the variables that count, and
the request never holds the empty environment. Building shows it the ambient environment as it
is, whatever the configuration adds. -/
theorem seen_environment (w : World) (c : Config) :
    (∀ o : ConfigureOptions, c.env.isEmpty = true ∧ o.env = [] →
      (∀ r ∈ (w.configure c o).attempts, r.environment = none) ∧
      ∀ e, w.Seen (w.configure c o) e → e = w.environment) ∧
    (∀ o : ConfigureOptions, ¬ (c.env.isEmpty = true ∧ o.env = []) →
      (∀ r ∈ (w.configure c o).attempts, ∃ b, r.environment = some b ∧ b.isEmpty = false) ∧
      ∀ e, w.Seen (w.configure c o) e → ∀ k v, e.get? k = some v ↔
        ∃ name value, k = Bytes.ofString name ∧ v = Bytes.ofString value ∧
          Overlaid w.environment c.env o.env name value) ∧
    ∀ (o : BuildOptions) (e : Environment), w.Seen (w.build c o) e → e = w.environment := by
  refine ⟨fun o ho => ?_, fun o ho => ?_, fun o e he => ?_⟩
  · have hnone : ∀ r ∈ (w.configure c o).attempts, r.environment = none := by
      intro r hr
      obtain ⟨s, hs, rfl⟩ := mem_attempts_configure_iff.1 hr
      exact (environment_configureStep hs).trans
        ((stepEnvironment_eq_none_iff w c.env o.env).2 ho)
    refine ⟨hnone, fun e he => ?_⟩
    obtain ⟨r, hr, rfl⟩ := seen_configure.1 he
    exact environmentOf_of_none (hnone r hr)
  · have hsome : ∀ r ∈ (w.configure c o).attempts, ∃ b,
        r.environment = some b ∧ w.stepEnvironment c.env o.env = some b := by
      intro r hr
      obtain ⟨s, hs, rfl⟩ := mem_attempts_configure_iff.1 hr
      have hne := mt (stepEnvironment_eq_none_iff w c.env o.env).1 ho
      obtain ⟨b, hb⟩ := Option.ne_none_iff_exists'.1 hne
      exact ⟨b, (environment_configureStep hs).trans hb, hb⟩
    refine ⟨fun r hr => ?_, fun e he k v => ?_⟩
    · obtain ⟨b, hb, hstep⟩ := hsome r hr
      exact ⟨b, hb, stepEnvironment_ne_empty hstep⟩
    · obtain ⟨r, hr, rfl⟩ := seen_configure.1 he
      obtain ⟨b, hb, hstep⟩ := hsome r hr
      rw [environmentOf_of_some hb (stepEnvironment_ne_empty hstep), get?_ofText_eq_some_iff]
      simp only [get?_stepEnvironment_eq_some_iff hstep]
  · have hs : w.Seen ((cmakeOf c).perform w.host (.build (buildStep c o))) e := by
      unfold Seen at he ⊢
      rwa [attempts_build, calls_build, ← Cmake.attempts_perform (cmakeOf c) w] at he
    exact (seen_perform.1 hs).trans (environmentOf_of_none rfl)

/-- A world with one program, a compiler named in the ambient environment and a variable there whose
name is not text. -/
def oneProgram : World where
  tree := { entries := [([Bytes.ofString "cmake"], .program {} true)] }
  environment :=
    { entries := [(Bytes.ofString "CC", Bytes.ofString "gcc"), ([0xFF], [0x31])]
      distinct := by decide }

/-- Of two pairs the last one counts and the variable that is not text is lost; without a pair both
variables stay as they are. -/
theorem seen_environment_of_two_pairs :
    let c : Config := { cmakeBinary := "/cmake", toolchain := some "host.cmake" }
    let o : ConfigureOptions := { env := [("CC", "clang"), ("CC", "icc")] }
    (∃ call ∈ (oneProgram.configure c o).calls,
      call.environment.get? (Bytes.ofString "CC") = some (Bytes.ofString "icc") ∧
      call.environment.get? [0xFF] = none) ∧
    (∃ call ∈ (oneProgram.configure c {}).calls, call.environment = oneProgram.environment) ∧
    ∃ call ∈ (oneProgram.build c {}).calls, call.environment = oneProgram.environment := by
  intro c o
  obtain ⟨hinherit, hown, hbuild⟩ := seen_environment oneProgram c
  refine ⟨?_, ?_, ?_⟩
  · obtain ⟨call, hm⟩ := List.exists_mem_of_length_pos
      (show 0 < (oneProgram.configure c o).calls.length by decide)
    have h := (hown o (by decide)).2 _ (Or.inr ⟨call, hm, rfl⟩)
    refine ⟨call, hm, ?_, ?_⟩
    · exact (h _ _).2 ⟨"CC", "icc", rfl, rfl, .given ⟨[("CC", "clang")], [], rfl, by simp⟩⟩
    · cases hg : call.environment.get? [0xFF] with
      | none => rfl
      | some v =>
        obtain ⟨name, _, hk, -⟩ := (h _ _).1 hg
        have hd : Bytes.decode? [0xFF] = some name := Bytes.decode?_eq_some_iff.2 hk
        exact absurd hd (by simp [show Bytes.decode? [0xFF] = none by decide])
  · obtain ⟨call, hm⟩ := List.exists_mem_of_length_pos
      (show 0 < (oneProgram.configure c {}).calls.length by decide)
    exact ⟨call, hm, (hinherit {} (by decide)).2 _ (Or.inr ⟨call, hm, rfl⟩)⟩
  · obtain ⟨call, hm⟩ := List.exists_mem_of_length_pos
      (show 0 < (oneProgram.build c {}).calls.length by decide)
    exact ⟨call, hm, hbuild {} _ (Or.inr ⟨call, hm, rfl⟩)⟩

end World

end CmakeDriver
