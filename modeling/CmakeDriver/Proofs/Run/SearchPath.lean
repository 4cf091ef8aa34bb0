import CmakeDriver.Proofs.Run.Environment
import CmakeDriver.Proofs.Text.Bytes
import CmakeDriver.Proofs.World.Lookup

/-!
# Configuring and building look alike

Building seeks its program in the ambient search path. Configuring seeks it in the search path of
the environment that it gives to the program, which may be made anew. As long as the added variables
leave the search path alone both look in the same directories, and so both find the same program or
fail with the same cause. The one exception is a text that names no interpreter: where variables are
added configuring takes it to the shell.

Results:
* `searchPath?_stepEnvironment`: an environment made anew has the ambient search path.
* `lookupFor_steps`: both steps look up the same.
* `failsToStart_configure_iff`, `failsToStart_build_iff`: a command fails to start its program
  exactly if the start of its step's request fails.
* `configure_looks_up_as_build`: what this comes to for the two commands.
-/

namespace CmakeDriver

namespace Failure

/-- What was wrong with the execution, if it was that. -/
def fault? : Failure → Option Execution.Fault
  | configure _ fault => some fault
  | build _ fault => some fault
  | _ => none

end Failure

namespace Environment

/-- What holds of every environment that a program can find itself in: a name ends at the first
equals sign behind its first byte, and no NUL stands anywhere. -/
structure Proper (e : Environment) : Prop where
  names : ∀ v ∈ e.entries, Bytes.equalsSign ∉ v.1.tail
  noNul : ∀ v ∈ e.entries, 0 ∉ v.1 ∧ 0 ∉ v.2

/-- No name goes on behind that of the search path and an equals sign. -/
theorem Proper.not_entryHead {e : Environment} (h : e.Proper) {v : Bytes × Bytes}
    (hv : v ∈ e.entries) : ¬ entryHead pathName <+: v.1 := by
  have hhead : Bytes.equalsSign ∈ (entryHead pathName).tail := by decide
  rintro ⟨rest, hr⟩
  refine h.names v hv ?_
  rw [← hr, List.tail_append_of_ne_nil (by decide)]
  exact List.mem_append_left _ hhead

theorem readBack?_eq_none {e : Environment} {name : String} (h : e.lookup name = none)
    (hno : ∀ v ∈ e.entries, ¬ entryHead name <+: v.1) : e.readBack? name = none := by
  have ho : (e.entries.filter fun entry => (entryHead name).isPrefixOf entry.1) = [] := by
    rw [List.filter_eq_nil_iff]
    intro v hv hp
    exact hno v hv (List.isPrefixOf_iff_prefix.1 hp)
  unfold readBack?
  rw [h]
  simp [ho]

end Environment

namespace World

open Execution CmakeDriver.Path
open CommandLine (ConfigureOptions BuildOptions)

variable {w : World} {c : Config} {o : ConfigureOptions} {o' : BuildOptions}
  {config : TextBindings} {pairs : List (String × String)} {b : TextBindings}

/-! ## The search path of an environment made anew -/

/-- **What is asked of added variables** so that they leave the search path alone: none of them
sets it, and its ambient value, if it has one, is text and so is carried over. If it has none, no
added name goes on behind an equals sign in such a way that its entry reads as one. -/
structure LeavesPath (ambient : Environment) (config : TextBindings)
    (pairs : List (String × String)) : Prop where
  unset : ∀ p ∈ config.entries ++ pairs, p.1 ≠ Environment.pathName
  text : ∀ v, ambient.lookup Environment.pathName = some v → ∃ t, v = Bytes.ofString t
  unread : ambient.lookup Environment.pathName = none → ∀ p ∈ config.entries ++ pairs,
    ¬ Environment.entryHead Environment.pathName <+: Bytes.ofString p.1

/-- A variable that counts is an added one or an ambient one. -/
theorem Overlaid.mem_or_ambient {ambient : Environment} {name value : String}
    (h : Overlaid ambient config pairs name value) :
    (name, value) ∈ config.entries ++ pairs ∨
      ambient.get? (Bytes.ofString name) = some (Bytes.ofString value) := by
  cases h with
  | given h =>
    obtain ⟨before, after, rfl, -⟩ := h
    left
    simp
  | configured _ h => exact Or.inl (List.mem_append_left _ ((Bindings.mem_entries_iff _).2 h))
  | ambient _ _ h => exact Or.inr h

/-- **An environment made anew has the ambient search path.** -/
theorem searchPath?_stepEnvironment (hw : w.environment.Proper)
    (hp : LeavesPath w.environment config pairs) (h : w.stepEnvironment config pairs = some b) :
    (Environment.ofText b).searchPath? = w.environment.searchPath? := by
  have hget : ∀ {name value : String}, b.get? name = some value ↔
      Overlaid w.environment config pairs name value := get?_stepEnvironment_eq_some_iff h
  have hpairs : ∀ p ∈ pairs, p.1 ≠ Environment.pathName := fun p hm =>
    hp.unset p (List.mem_append_right _ hm)
  have hconfig : config.get? Environment.pathName = none :=
    (Bindings.forall_entries_ne_iff config).1 fun p hm => hp.unset p (List.mem_append_left _ hm)
  unfold Environment.searchPath?
  congr 1
  cases ha : w.environment.lookup Environment.pathName with
  | some v =>
    -- The ambient value is carried over, and no added variable takes its place.
    obtain ⟨t, rfl⟩ := hp.text v ha
    have hb : b.get? Environment.pathName = some t := hget.2 (.ambient hpairs hconfig ha)
    rw [Environment.readBack?_of_lookup ha]
    refine Environment.readBack?_of_lookup ?_
    rw [Environment.lookup_ofText, hb]
    rfl
  | none =>
    have hb : b.get? Environment.pathName = none := by
      cases hg : b.get? Environment.pathName with
      | none => rfl
      | some value =>
        rcases (hget.1 hg).mem_or_ambient with hm | hm
        · exact absurd rfl (hp.unset _ hm)
        · exact absurd (ha.symm.trans hm) (by simp)
    -- Neither environment sets the variable, so only an entry that reads as one could matter.
    rw [Environment.readBack?_eq_none ha fun v hv => hw.not_entryHead hv]
    refine Environment.readBack?_eq_none (by rw [Environment.lookup_ofText, hb]; rfl) ?_
    intro entry hm hhead
    obtain ⟨name, value, hk, -, hg⟩ :=
      (get?_ofText_eq_some_iff b).1 ((Bindings.mem_entries_iff _).1 hm)
    rw [hk] at hhead
    rcases (hget.1 hg).mem_or_ambient with hadded | hambient
    · exact hp.unread ha _ hadded hhead
    · exact hw.not_entryHead ((Bindings.mem_entries_iff _).2 hambient) hhead

/-! ## The two requests -/

/-- The path that the start of a request's program opens, or why there is none. -/
def lookupFor (w : World) (r : Request) (name : String) : Except OsFault Path :=
  w.lookup (w.environmentOf r) r.ownEnvironment?.isSome (Bytes.ofString name)

/-- What is looked up for a request without a NUL is started. -/
theorem exists_startedBy_of_lookupFor {r : Request} (h : r.hasNul = false) {name : String}
    {p : Path} (hp : w.lookupFor r name = .ok p) (args : List String) :
    ∃ image, w.attempt (r.ownEnvironment?.isSome && !hasSlash (Bytes.ofString name)) p
        (args.map Bytes.ofString) = .ok image ∧ w.startedBy r name args = .ok image := by
  obtain ⟨image, hi, hfind⟩ := findProgram_of_lookup hp (args.map Bytes.ofString)
  refine ⟨image, hi, ?_⟩
  rw [startedBy, if_neg (by simp [h]), hfind]
  rfl

/-- **A request without a NUL cannot be started exactly if the look-up fails**, and for the same
cause. -/
theorem startedBy_eq_error_iff {r : Request} (h : r.hasNul = false) {name : String}
    {args : List String} {cause : IoFault} :
    w.startedBy r name args = .error cause ↔
      ∃ e, cause = .os e ∧ w.lookupFor r name = .error e := by
  cases hl : w.lookupFor r name with
  | error e =>
    rw [startedBy, if_neg (by simp [h]), findProgram_of_lookup_error hl]
    simp [Except.mapError, eq_comm]
  | ok p =>
    obtain ⟨image, -, hstart⟩ := exists_startedBy_of_lookupFor h hl args
    rw [hstart]
    simp

/-- What a started request has opened. -/
theorem exists_lookupFor_of_startedBy {r : Request} {name : String} {args : List String}
    {image : Image} (h : w.startedBy r name args = .ok image) :
    ∃ p, w.lookupFor r name = .ok p ∧
      w.attempt (r.ownEnvironment?.isSome && !hasSlash (Bytes.ofString name)) p
        (args.map Bytes.ofString) = .ok image := by
  cases hn : r.hasNul with
  | true =>
    rw [startedBy_of_nul w hn] at h
    exact absurd h (by simp)
  | false =>
    cases hl : w.lookupFor r name with
    | error e =>
      rw [(startedBy_eq_error_iff hn).2 ⟨e, rfl, hl⟩] at h
      exact absurd h (by simp)
    | ok p =>
      obtain ⟨found, hi, hstart⟩ := exists_startedBy_of_lookupFor hn hl args
      obtain rfl : found = image := Except.ok.inj (hstart.symm.trans h)
      exact ⟨p, rfl, hi⟩

/-- Configuring may turn to the shell: variables are added, and the executable is sought. -/
def MayUseShell (c : Config) (o : ConfigureOptions) : Prop :=
  ¬ (c.env.isEmpty = true ∧ o.env = []) ∧ hasSlash (Bytes.ofString c.cmakeBinary) = false

variable {s : ConfigureStep}

theorem ownEnvironment?_configureStep (hs : w.configureStep? c o = some s) :
    ((cmakeOf c).request (.configure s)).ownEnvironment? = w.stepEnvironment c.env o.env := by
  have he : ((cmakeOf c).request (.configure s)).environment = w.stepEnvironment c.env o.env :=
    environment_configureStep hs
  unfold Request.ownEnvironment?
  rw [he]
  cases hb : w.stepEnvironment c.env o.env with
  | none => rfl
  | some b => simp [stepEnvironment_ne_empty hb]

/-- **Both steps look up the same**, up to texts for the shell. -/
theorem lookupFor_steps (o' : BuildOptions) (hw : w.environment.Proper)
    (hs : w.configureStep? c o = some s) (hp : LeavesPath w.environment c.env o.env) :
    let r := (cmakeOf c).request (.configure s)
    let r' := (cmakeOf c).request (.build (buildStep c o'))
    w.lookupFor r c.cmakeBinary = w.lookupFor r' c.cmakeBinary ∨
      MayUseShell c o ∧ w.lookupFor r' c.cmakeBinary = .error .notRunnable ∧
        ∃ p, w.ForShell p ∧ w.lookupFor r c.cmakeBinary = .ok p := by
  intro r r'
  have hr' : w.lookupFor r' c.cmakeBinary =
      w.lookup w.environment false (Bytes.ofString c.cmakeBinary) := rfl
  have hown : r.ownEnvironment? = w.stepEnvironment c.env o.env := ownEnvironment?_configureStep hs
  cases hb : w.stepEnvironment c.env o.env with
  | none =>
    left
    rw [hr', lookupFor, environmentOf, hown, hb]
    rfl
  | some b =>
    -- The search path is the same, so the two differ in that one may turn to the shell.
    have hr : w.lookupFor r c.cmakeBinary =
        w.lookup w.environment true (Bytes.ofString c.cmakeBinary) := by
      rw [lookupFor, environmentOf, hown, hb]
      exact lookup_congr (searchPath?_stepEnvironment hw hp hb) true _
    rw [hr, hr']
    refine (lookup_shell w.environment (Bytes.ofString c.cmakeBinary)).imp_right ?_
    rintro ⟨hslash, hgivesUp, p, -, hp, hok⟩
    refine ⟨⟨fun hnone => ?_, hslash⟩, hgivesUp, p, hp, hok⟩
    rw [(stepEnvironment_eq_none_iff w c.env o.env).2 hnone] at hb
    exact absurd hb (by simp)

theorem lookupFor_ne_of_mayUseShell (hs : w.configureStep? c o = some s) (h : MayUseShell c o) :
    w.lookupFor ((cmakeOf c).request (.configure s)) c.cmakeBinary ≠ .error .notRunnable := by
  have hown := ownEnvironment?_configureStep hs
  cases hb : w.stepEnvironment c.env o.env with
  | none => exact absurd ((stepEnvironment_eq_none_iff w c.env o.env).1 hb) h.1
  | some b =>
    rw [lookupFor, hown, hb]
    exact lookup_ne_notRunnable _ h.2

/-- The look-up of configuring fails where that of building does, and for the same cause, except
for a text that it takes to the shell. -/
theorem lookupFor_configure_eq_error_iff (hw : w.environment.Proper)
    (hs : w.configureStep? c o = some s) (hp : LeavesPath w.environment c.env o.env)
    {e : OsFault} :
    w.lookupFor ((cmakeOf c).request (.configure s)) c.cmakeBinary = .error e ↔
      w.lookupFor ((cmakeOf c).request (.build (buildStep c o'))) c.cmakeBinary = .error e ∧
        ¬ (MayUseShell c o ∧ e = .notRunnable) := by
  have hsteps := lookupFor_steps o' hw hs hp
  constructor
  · intro he
    refine ⟨?_, ?_⟩
    · rcases hsteps with heq | ⟨-, -, p, -, hok⟩
      · rw [← heq, he]
      · exact absurd (he.symm.trans hok) (by simp)
    · rintro ⟨hshell, rfl⟩
      exact lookupFor_ne_of_mayUseShell hs hshell he
  · rintro ⟨he, hno⟩
    rcases hsteps with heq | ⟨hshell, hgivesUp, -⟩
    · rw [heq, he]
    · obtain rfl : e = .notRunnable := Except.error.inj (he.symm.trans hgivesUp)
      exact absurd ⟨hshell, rfl⟩ hno

/-! ## Starts that fail -/

/-- A command fails because its program could not be started. -/
def FailsToStart (x : Traced (Except Failure Unit)) (program : String) (cause : IoFault) : Prop :=
  ∃ failure, x.result = .error failure ∧ failure.fault? = some (.spawn program cause)

theorem result_perform_eq_spawn_iff {cmake : Cmake} {step : Step}
    (h : (cmake.request step).hasNul = false) {program : String} {cause : IoFault} :
    (cmake.perform w.host step).result = .error (.spawn program cause) ↔
      program = cmake.executable ∧
        ∃ e, cause = .os e ∧ w.lookupFor (cmake.request step) cmake.executable = .error e := by
  have hargv : (cmake.request step).argv = cmake.executable :: step.args := rfl
  rw [← startedBy_eq_error_iff h, Cmake.result_perform, result_execute hargv]
  cases w.startedBy (cmake.request step) cmake.executable step.args with
  | error e => simp [Except.map, eq_comm]
  | ok image =>
    simp only [resultOf]
    split <;> simp [Except.map]

/-- **Configuring fails to start its program exactly if it cannot be looked up.** -/
theorem failsToStart_configure_iff (hs : w.configureStep? c o = some s)
    (h : ((cmakeOf c).request (.configure s)).hasNul = false) {program : String}
    {cause : IoFault} :
    FailsToStart (w.configure c o) program cause ↔
      program = c.cmakeBinary ∧ ∃ e, cause = .os e ∧
        w.lookupFor ((cmakeOf c).request (.configure s)) c.cmakeBinary = .error e := by
  refine Iff.trans ?_ (result_perform_eq_spawn_iff (w := w) h)
  unfold FailsToStart configure
  rw [hs]
  simp only [Traced.result_bind]
  cases ((cmakeOf c).perform w.host (.configure s)).result with
  | error fault => simp [Failure.fault?]
  | ok u => simp

theorem failsToStart_build_iff
    (h : ((cmakeOf c).request (.build (buildStep c o'))).hasNul = false) {program : String}
    {cause : IoFault} :
    FailsToStart (w.build c o') program cause ↔
      program = c.cmakeBinary ∧ ∃ e, cause = .os e ∧
        w.lookupFor ((cmakeOf c).request (.build (buildStep c o'))) c.cmakeBinary = .error e := by
  refine Iff.trans ?_ (result_perform_eq_spawn_iff (w := w) h)
  unfold FailsToStart build
  simp only
  split <;>
    simp only [Traced.result_bind] <;>
    cases ((cmakeOf c).perform w.host (.build (buildStep c o'))).result <;> simp [Failure.fault?]

/-! ## Calls -/

/-- What the program of a call was started by. -/
theorem exists_attempt_of_call {cmake : Cmake} {step : Step} {call : Call}
    (h : call ∈ (cmake.perform w.host step).calls) :
    ∃ p image path, w.lookupFor (cmake.request step) cmake.executable = .ok p ∧
      w.attempt ((cmake.request step).ownEnvironment?.isSome &&
        !hasSlash (Bytes.ofString cmake.executable)) p (step.args.map Bytes.ofString) = .ok image ∧
      image.opened.2 = some path ∧ call.program = w.startPath path := by
  have hargv : (cmake.request step).argv = cmake.executable :: step.args := rfl
  rw [Cmake.calls_perform, callsOf_execute hargv] at h
  split at h
  · exact absurd h List.not_mem_nil
  · rename_i image hi
    obtain ⟨p, hp, ha⟩ := exists_lookupFor_of_startedBy hi
    obtain ⟨called, hc, rfl⟩ := Option.map_eq_some_iff.1 (Option.mem_toList.1 h)
    exact ⟨p, image, called.1, hp, ha, by simp [Image.opened, hc], rfl⟩

/-- **If both steps start a program it is the same one.** -/
theorem program_eq_of_calls (hw : w.environment.Proper) (hs : w.configureStep? c o = some s)
    (hp : LeavesPath w.environment c.env o.env) {call call' : Call}
    (h : call ∈ (w.configure c o).calls) (h' : call' ∈ (w.build c o').calls) :
    call.program = call'.program := by
  rw [calls_configure, hs] at h
  rw [calls_build] at h'
  obtain ⟨p, image, path, hl, ha, hpath, hcall⟩ := exists_attempt_of_call h
  obtain ⟨p', image', path', hl', ha', hpath', hcall'⟩ := exists_attempt_of_call h'
  rcases lookupFor_steps o' hw hs hp with heq | ⟨-, hno, -⟩
  · obtain rfl : p = p' := Except.ok.inj (hl.symm.trans (heq.trans hl'))
    have hopened := opened_eq_of_attempt ha ha'
    rw [hopened, hpath'] at hpath
    rw [hcall, hcall', Option.some.inj hpath]
  · exact absurd (hl'.symm.trans hno) (by simp)

/-! ## Command lines without a NUL -/

/-- No NUL stands in the command lines of the two steps or in a variable that is added. -/
structure NulFree (c : Config) (o : ConfigureOptions) (s : ConfigureStep) (s' : BuildStep) :
    Prop where
  configureLine : ∀ a ∈ (cmakeOf c).argv (.configure s), '\x00' ∉ a.toList
  buildLine : ∀ a ∈ (cmakeOf c).argv (.build s'), '\x00' ∉ a.toList
  added : ∀ p ∈ c.env.entries ++ o.env, '\x00' ∉ p.1.toList ∧ '\x00' ∉ p.2.toList

theorem hasNul_eq_false {r : Request} (h : ∀ a ∈ r.argv, '\x00' ∉ a.toList)
    (he : ∀ b, r.environment = some b →
      ∀ e ∈ b.entries, '\x00' ∉ e.1.toList ∧ '\x00' ∉ e.2.toList) : r.hasNul = false := by
  unfold Request.hasNul
  rw [Bool.or_eq_false_iff]
  constructor
  · simpa using h
  · cases hb : r.environment with
    | none => rfl
    | some b => simpa using he b hb

theorem noNul_stepEnvironment (hw : ∀ v ∈ w.environment.entries, 0 ∉ v.1 ∧ 0 ∉ v.2)
    (hadded : ∀ p ∈ config.entries ++ pairs, '\x00' ∉ p.1.toList ∧ '\x00' ∉ p.2.toList)
    (h : w.stepEnvironment config pairs = some b) :
    ∀ e ∈ b.entries, '\x00' ∉ e.1.toList ∧ '\x00' ∉ e.2.toList := by
  intro entry hm
  have hcounts := (get?_stepEnvironment_eq_some_iff h).1 ((Bindings.mem_entries_iff b).1 hm)
  rcases hcounts.mem_or_ambient with hm | hambient
  · exact hadded _ hm
  · have hz := hw _ ((Bindings.mem_entries_iff _).2 hambient)
    exact ⟨fun h => hz.1 (Bytes.zero_mem_ofString_iff.2 h),
      fun h => hz.2 (Bytes.zero_mem_ofString_iff.2 h)⟩

theorem hasNul_configureStep (hw : ∀ v ∈ w.environment.entries, 0 ∉ v.1 ∧ 0 ∉ v.2)
    (hs : w.configureStep? c o = some s)
    (hline : ∀ a ∈ (cmakeOf c).argv (.configure s), '\x00' ∉ a.toList)
    (hadded : ∀ p ∈ c.env.entries ++ o.env, '\x00' ∉ p.1.toList ∧ '\x00' ∉ p.2.toList) :
    ((cmakeOf c).request (.configure s)).hasNul = false := by
  refine hasNul_eq_false hline fun b hb => ?_
  exact noNul_stepEnvironment hw hadded ((environment_configureStep hs).symm.trans hb)

/-! ## The two commands -/

/-- **Configuring and building look their program up alike**, if the added variables leave the
search path alone. Where a toolchain is known, the two look-ups end the same, except that
configuring may take to the shell a text at which building gives up. If both start a program it is
the same one. And if no NUL stands in what is asked, one cannot start its program exactly if the
other cannot, for the same cause, except for such a text. -/
theorem configure_looks_up_as_build (w : World) (hw : w.environment.Proper) (c : Config)
    (o : ConfigureOptions) (o' : BuildOptions) {s : ConfigureStep}
    (hs : w.configureStep? c o = some s) (hp : LeavesPath w.environment c.env o.env) :
    let found := w.lookupFor ((cmakeOf c).request (.configure s)) c.cmakeBinary
    let found' := w.lookupFor ((cmakeOf c).request (.build (buildStep c o'))) c.cmakeBinary
    (found = found' ∨
      MayUseShell c o ∧ found' = .error .notRunnable ∧ ∃ p, w.ForShell p ∧ found = .ok p) ∧
    (∀ call ∈ (w.configure c o).calls, ∀ call' ∈ (w.build c o').calls,
      call.program = call'.program) ∧
    (NulFree c o s (buildStep c o') → ∀ program cause,
      FailsToStart (w.configure c o) program cause ↔
        FailsToStart (w.build c o') program cause ∧
          ¬ (MayUseShell c o ∧ cause = .os .notRunnable)) := by
  intro found found'
  refine ⟨lookupFor_steps o' hw hs hp, fun call h call' h' => program_eq_of_calls hw hs hp h h', ?_⟩
  intro hn program cause
  have hnul := hasNul_configureStep hw.noNul hs hn.configureLine hn.added
  have hnul' : ((cmakeOf c).request (.build (buildStep c o'))).hasNul = false :=
    hasNul_eq_false hn.buildLine fun b hb => absurd hb (by simp [Cmake.request_environment_build])
  rw [failsToStart_configure_iff hs hnul, failsToStart_build_iff hnul', and_assoc]
  refine and_congr_right fun _ => ?_
  constructor
  · rintro ⟨e, rfl, he⟩
    obtain ⟨he', hno⟩ := (lookupFor_configure_eq_error_iff hw hs hp).1 he
    exact ⟨⟨e, rfl, he'⟩, by simpa using hno⟩
  · rintro ⟨⟨e, rfl, he'⟩, hno⟩
    refine ⟨e, rfl, (lookupFor_configure_eq_error_iff hw hs hp).2 ⟨he', ?_⟩⟩
    simpa using hno

/-- A world whose search path has a program behind a directory that is not there, and in which a
variable is not text. -/
def programOnPath : World where
  tree := { entries := [
    ([Bytes.ofString "opt"], .directory),
    ([Bytes.ofString "cmake", Bytes.ofString "opt"], .program {} true)] }
  environment :=
    { entries := [(Bytes.ofString "PATH", Bytes.ofString "/none:/opt"), ([0xFF], [0x31])]
      distinct := by decide }

/-- With variables added by the configuration and by the command line the same program is started,
and one that is not there fails to start in both commands. -/
theorem programOnPath_looked_up :
    let c : Config := { toolchain := some "host.cmake", env := .ofList [("CC", "clang")] }
    let o : ConfigureOptions := { env := [("CXX", "")] }
    (∃ call ∈ (programOnPath.configure c o).calls, ∃ call' ∈ (programOnPath.build c {}).calls,
      call.program = call'.program) ∧
    FailsToStart (programOnPath.configure { c with cmakeBinary := "ninja" } o) "ninja"
      (.os .notFound) := by
  intro c o
  have hw : programOnPath.environment.Proper := ⟨by decide, by decide⟩
  have hp : LeavesPath programOnPath.environment c.env o.env := by
    refine ⟨by decide, fun v hv => ⟨"/none:/opt", ?_⟩, fun hno => absurd hno (by decide)⟩
    exact (Option.some.inj hv).symm
  constructor
  · obtain ⟨-, hsame, -⟩ := configure_looks_up_as_build programOnPath hw c o {} rfl hp
    obtain ⟨call, hm⟩ := List.exists_mem_of_length_pos
      (show 0 < (programOnPath.configure c o).calls.length by decide)
    obtain ⟨call', hm'⟩ := List.exists_mem_of_length_pos
      (show 0 < (programOnPath.build c {}).calls.length by decide)
    exact ⟨call, hm, call', hm', hsame call hm call' hm'⟩
  · obtain ⟨-, -, hfails⟩ := configure_looks_up_as_build programOnPath hw
      { c with cmakeBinary := "ninja" } o {} rfl hp
    refine (hfails ⟨by decide, by decide, by decide⟩ "ninja" (.os .notFound)).2 ⟨?_, by simp⟩
    exact (failsToStart_build_iff (by decide)).2 ⟨rfl, .notFound, rfl, by decide⟩

/-- A text that names no interpreter in a directory of the search path. -/
def textOnPath : World where
  tree := { entries := [
    ([Bytes.ofString "opt"], .directory),
    ([Bytes.ofString "cmake", Bytes.ofString "opt"], .file (Bytes.ofString "exit 0\n") true)] }
  environment :=
    { entries := [(Bytes.ofString "PATH", Bytes.ofString "/opt")], distinct := by decide }

/-- **Where the two commands differ** though no variable of the search path's name is added. Without
a toolchain configuring does not come to the start at which building fails. A text is taken to the
shell as soon as a variable is added. And without an ambient search path a variable of the
configuration can make one with a name that goes on behind an equals sign. -/
theorem starts_differ :
    (FailsToStart (textOnPath.build { cmakeBinary := "ninja" } {}) "ninja" (.os .notFound) ∧
      ∀ program cause,
        ¬ FailsToStart (textOnPath.configure { cmakeBinary := "ninja" } {}) program cause) ∧
    (let c : Config := { toolchain := some "host.cmake" }
     FailsToStart (textOnPath.build c {}) "cmake" (.os .notRunnable) ∧ ∀ program cause,
        ¬ FailsToStart (textOnPath.configure c { env := [("CC", "clang")] }) program cause) ∧
    (let c : Config := { toolchain := some "host.cmake", env := .ofList [("PATH=/none", ":/opt")] }
     let w : World := { programOnPath with environment := ∅ }
     FailsToStart (w.build c {}) "cmake" (.os .notFound) ∧ ∀ program cause,
        ¬ FailsToStart (w.configure c {}) program cause) := by
  refine ⟨⟨?_, ?_⟩, ⟨?_, ?_⟩, ⟨?_, ?_⟩⟩
  · exact (failsToStart_build_iff (by decide)).2 ⟨rfl, .notFound, rfl, by decide⟩
  · rintro program cause ⟨failure, hr, hf⟩
    obtain rfl : Failure.noToolchain = failure := Except.error.inj hr
    exact absurd hf (by simp [Failure.fault?])
  · exact (failsToStart_build_iff (by decide)).2 ⟨rfl, .notRunnable, rfl, by decide⟩
  · intro program cause h
    obtain ⟨-, e, -, he⟩ := (failsToStart_configure_iff rfl (by decide)).1 h
    have hno : Except.isOk _ = false := congrArg Except.isOk he
    exact absurd hno (by decide)
  · exact (failsToStart_build_iff (by decide)).2 ⟨rfl, .notFound, rfl, by decide +kernel⟩
  · intro program cause h
    obtain ⟨-, e, -, he⟩ := (failsToStart_configure_iff rfl (by decide)).1 h
    have hno : Except.isOk _ = false := congrArg Except.isOk he
    exact absurd hno (by decide +kernel)

end World

end CmakeDriver
