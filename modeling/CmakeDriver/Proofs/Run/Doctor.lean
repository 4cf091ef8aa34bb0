import CmakeDriver.Proofs.Cmake.Resolve
import CmakeDriver.Proofs.Run.SearchPath
import CmakeDriver.Run.Doctor

/-!
# What the doctor's report says of configuring

The doctor resolves the executable in the ambient environment. Configuring starts it by the search
path of the environment that it gives to it, in which the configuration's variables are set. So the
report is true of configuring exactly if the two resolve the executable to the same file, which they
do if the configuration leaves the search path alone.

Results:
* `starts_of_resolve`, `failsToStart_of_resolve_none`: configuring starts what is resolved in its
  own environment, and fails to start anything if nothing is.
* `report_true_iff`: when the report is true of configuring, and that it is if the search path is
  left alone.
* `report_false`: that it may be false otherwise.
-/

namespace CmakeDriver

/-- No NUL stands in the texts of a configuration. -/
structure Config.NulFree (c : Config) : Prop where
  texts : ∀ t ∈ c.toolchain.toList ++ [c.cmakeBinary, c.configuration, c.buildFolder],
    '\x00' ∉ t.toList
  env : ∀ p ∈ c.env.entries, '\x00' ∉ p.1.toList ∧ '\x00' ∉ p.2.toList

namespace World

open Execution CmakeDriver.Path
open CommandLine (ConfigureOptions)

variable {w : World} {c : Config} {s : ConfigureStep}

/-! ## What the report promises -/

/-- Configuring starts the program file at a location: this is what its look-up finds, and what is
found there is called. -/
def StartsFileAt (w : World) (c : Config) (l : Location) : Prop :=
  ∃ s p, w.configureStep? c {} = some s ∧
    w.lookupFor ((cmakeOf c).request (.configure s)) c.cmakeBinary = .ok p ∧
    w.tree.locate w.cwd p = .ok l ∧ (w.configure c {}).calls ≠ []

/-- **The doctor's report is true of configuring**: the path in it designates the file that is
started, and if there is none no program can be started. -/
def TellsTruth (w : World) (c : Config) : Prop :=
  match (Diagnosis.of w c).cmakeResolved with
  | some answer => ∃ l, w.tree.locate w.cwd (Bytes.ofString answer) = .ok l ∧ w.StartsFileAt c l
  | none => ∃ cause, FailsToStart (w.configure c {}) c.cmakeBinary cause

/-! ## The world of a configure step -/

/-- The world as the program of a configure step sees it, with the environment that it gets. -/
def underStep (w : World) (c : Config) (s : ConfigureStep) : World :=
  w.under (w.environmentOf ((cmakeOf c).request (.configure s)))

theorem added_of_nulFree (hn : c.NulFree) :
    ∀ p ∈ c.env.entries ++ ({} : ConfigureOptions).env,
      '\x00' ∉ p.1.toList ∧ '\x00' ∉ p.2.toList := by
  intro p hp
  rw [show ({} : ConfigureOptions).env = [] from rfl, List.append_nil] at hp
  exact hn.env p hp

theorem hasNul_of_nulFree (hw : w.WellFormed) (hn : c.NulFree)
    (hs : w.configureStep? c {} = some s) :
    ((cmakeOf c).request (.configure s)).hasNul = false := by
  refine hasNul_configureStep hw.noNul hs ?_ (added_of_nulFree hn)
  obtain ⟨toolchain, ht, rfl⟩ := Option.map_eq_some_iff.1 hs
  have htexts := hn.texts
  have hc : c.toolchain = some toolchain := ht
  rw [hc, Option.toList_some, List.singleton_append] at htexts
  have happend : ∀ {front t : String}, '\x00' ∉ front.toList → '\x00' ∉ t.toList →
      '\x00' ∉ (front ++ t).toList := by
    intro front t hfront ht
    rw [String.toList_append, List.mem_append, not_or]
    exact ⟨hfront, ht⟩
  have htoolchain := htexts toolchain (by simp)
  have hbinary := htexts c.cmakeBinary (by simp)
  have hconfiguration := htexts c.configuration (by simp)
  have hbuildFolder := htexts c.buildFolder (by simp)
  intro a ha
  simp only [Cmake.argv, Step.args, ConfigureStep.args, ConfigureStep.verboseFlags, List.mem_cons,
    List.mem_append, List.not_mem_nil, Bool.false_eq_true, if_false, or_false] at ha
  rcases ha with rfl | ((rfl | rfl | rfl | rfl) | rfl | rfl | rfl | rfl)
  · exact hbinary
  · decide
  · exact happend (by decide) htoolchain
  · decide
  · exact happend (by decide) hconfiguration
  · decide
  · decide
  · decide
  · exact hbuildFolder

theorem wellFormed_underStep (hw : w.WellFormed) (hn : c.NulFree)
    (hs : w.configureStep? c {} = some s) : (w.underStep c s).WellFormed := by
  refine ⟨hw.cwd, hw.names, ?_⟩
  show ∀ e ∈ (w.environmentOf ((cmakeOf c).request (.configure s))).entries, 0 ∉ e.1 ∧ 0 ∉ e.2
  rw [environmentOf, ownEnvironment?_configureStep hs]
  cases hb : w.stepEnvironment c.env ({} : ConfigureOptions).env with
  | none => exact hw.noNul
  | some b =>
    intro e hm
    obtain ⟨entry, hentry, rfl⟩ := List.mem_map.1 hm
    have hz := noNul_stepEnvironment hw.noNul (added_of_nulFree hn) hb entry hentry
    exact ⟨fun h => hz.1 (Bytes.zero_mem_ofString_iff.1 h),
      fun h => hz.2 (Bytes.zero_mem_ofString_iff.1 h)⟩

/-- A configure step looks its program up as its own world does. -/
theorem lookupFor_eq_underStep
    (hl : (w.underStep c s).LooksUpPlainly (Bytes.ofString c.cmakeBinary)) :
    w.lookupFor ((cmakeOf c).request (.configure s)) c.cmakeBinary =
      (w.underStep c s).lookup (w.underStep c s).environment false
        (Bytes.ofString c.cmakeBinary) := by
  have hrun := hl.textsRun
  have hunder := lookup_under (w := w) (w.underStep c s).environment (w.underStep c s).environment
  calc w.lookupFor ((cmakeOf c).request (.configure s)) c.cmakeBinary
    _ = (w.underStep c s).lookup (w.underStep c s).environment
          ((cmakeOf c).request (.configure s)).ownEnvironment?.isSome
          (Bytes.ofString c.cmakeBinary) := (hunder _ _).symm
    _ = _ := lookup_shell_of_textsRun (w := w.underStep c s) hrun _

/-! ## What configuring starts -/

section Started

variable (hw : w.WellFormed) (hn : c.NulFree) (hs : w.configureStep? c {} = some s)
  (hl : (w.underStep c s).LooksUpPlainly (Bytes.ofString c.cmakeBinary))

include hw hn hs hl

/-- **Configuring starts what is resolved in its own environment.** -/
theorem starts_of_resolve {p : Path}
    (hp : (w.underStep c s).resolve (Bytes.ofString c.cmakeBinary) = some p) :
    ∃ l, w.tree.locate w.cwd p = .ok l ∧ w.StartsFileAt c l := by
  obtain ⟨q, -, hloc, hq, hqt, hlook⟩ :=
    oneFile_of_resolve (wellFormed_underStep hw hn hs) hl hp
  obtain ⟨l, hlq⟩ : ∃ l, w.tree.locate w.cwd q = .ok l := exists_locate_of_holdsRunnable hq
  have hfound : w.lookupFor ((cmakeOf c).request (.configure s)) c.cmakeBinary = .ok q :=
    (lookupFor_eq_underStep hl).trans hlook
  refine ⟨l, hloc.trans hlq, s, q, hs, hfound, hlq, ?_⟩
  obtain ⟨image, hi, hstart⟩ := exists_startedBy_of_lookupFor (hasNul_of_nulFree hw hn hs) hfound
    s.args
  -- The start may have been one that turns to the shell; without it the same file is opened.
  obtain ⟨image', call, hi', hcall⟩ := attempt_of_holdsRunnable hq (hl.textsRun q hqt) []
  rw [underStep, attempt_under] at hi'
  have hopened : image.call.map Prod.fst = some call.1 := by
    have hsame : image.opened = image'.opened := opened_eq_of_attempt hi hi'
    have hsnd := congrArg Prod.snd hsame
    rwa [Image.opened, Image.opened, hcall] at hsnd
  obtain ⟨called, hcalled, -⟩ := Option.map_eq_some_iff.1 hopened
  have hargv : ((cmakeOf c).request (.configure s)).argv = c.cmakeBinary :: s.args := rfl
  rw [calls_configure, hs]
  simp only [Cmake.calls_perform, callsOf_execute hargv, hstart, callOf, hcalled]
  simp

/-- Where nothing is resolved in its own environment configuring fails. -/
theorem failsToStart_of_resolve_none
    (h : (w.underStep c s).resolve (Bytes.ofString c.cmakeBinary) = none) :
    ∃ cause, FailsToStart (w.configure c {}) c.cmakeBinary cause := by
  have hwf := wellFormed_underStep hw hn hs
  have hzero : 0 ∉ Bytes.ofString c.cmakeBinary := fun hm =>
    hn.texts c.cmakeBinary (by simp) (Bytes.zero_mem_ofString_iff.1 hm)
  cases hlook : w.lookupFor ((cmakeOf c).request (.configure s)) c.cmakeBinary with
  | error e =>
    exact ⟨.os e, (failsToStart_configure_iff hs (hasNul_of_nulFree hw hn hs)).2
      ⟨rfl, e, rfl, hlook⟩⟩
  | ok p =>
    rw [lookupFor_eq_underStep hl] at hlook
    obtain ⟨image, -, hfind⟩ := findProgram_of_lookup hlook []
    obtain ⟨e, he⟩ := findProgram_of_resolve_none hwf hl hzero h []
    exact absurd (hfind.symm.trans he) (by simp)

end Started

/-- Configuring starts one file. -/
theorem StartsFileAt.unique {l l' : Location} (h : w.StartsFileAt c l)
    (h' : w.StartsFileAt c l') : l = l' := by
  obtain ⟨s, p, hs, hp, hl, -⟩ := h
  obtain ⟨s', p', hs', hp', hl', -⟩ := h'
  obtain rfl : s = s' := Option.some.inj (hs.symm.trans hs')
  obtain rfl : p = p' := Except.ok.inj (hp.symm.trans hp')
  exact Except.ok.inj (hl.symm.trans hl')

/-- What starts a file does not fail to start. -/
theorem StartsFileAt.not_failsToStart {l : Location} (h : w.StartsFileAt c l)
    (hw : w.WellFormed) (hn : c.NulFree) {cause : IoFault} :
    ¬ FailsToStart (w.configure c {}) c.cmakeBinary cause := by
  obtain ⟨s, p, hs, hp, -, -⟩ := h
  intro hfails
  obtain ⟨-, e, -, he⟩ := (failsToStart_configure_iff hs (hasNul_of_nulFree hw hn hs)).1 hfails
  exact absurd (hp.symm.trans he) (by simp)

/-! ## When the report is true -/

/-- The report is true exactly if it names the file that is resolved in the environment of
configuring, or none if none is. -/
theorem tellsTruth_iff (hw : w.WellFormed) (hn : c.NulFree) (hs : w.configureStep? c {} = some s)
    (hl : (w.underStep c s).LooksUpPlainly (Bytes.ofString c.cmakeBinary)) :
    w.TellsTruth c ↔
      (Diagnosis.of w c).cmakeResolved.map (fun a => w.tree.locate w.cwd (Bytes.ofString a)) =
        ((w.underStep c s).resolve (Bytes.ofString c.cmakeBinary)).map
          (w.tree.locate w.cwd) := by
  unfold TellsTruth
  cases hr : (w.underStep c s).resolve (Bytes.ofString c.cmakeBinary) with
  | none =>
    obtain ⟨cause, hfails⟩ := failsToStart_of_resolve_none hw hn hs hl hr
    cases (Diagnosis.of w c).cmakeResolved with
    | none => exact ⟨fun _ => rfl, fun _ => ⟨cause, hfails⟩⟩
    | some answer =>
      simp only [Option.map_some, Option.map_none, reduceCtorEq, iff_false]
      rintro ⟨l, -, hstarts⟩
      exact hstarts.not_failsToStart hw hn hfails
  | some p =>
    obtain ⟨l, hp, hstarts⟩ := starts_of_resolve hw hn hs hl hr
    cases (Diagnosis.of w c).cmakeResolved with
    | none =>
      simp only [Option.map_some, Option.map_none, reduceCtorEq, iff_false]
      rintro ⟨cause, hfails⟩
      exact hstarts.not_failsToStart hw hn hfails
    | some answer =>
      simp only [Option.map_some, Option.some.injEq, hp]
      constructor
      · rintro ⟨l', ha, hstarts'⟩
        rw [ha, hstarts.unique hstarts']
      · intro ha
        exact ⟨l, ha, hstarts⟩

theorem searchPath?_underStep (he : w.environment.Proper) (hs : w.configureStep? c {} = some s)
    (hp : LeavesPath w.environment c.env []) :
    w.environment.searchPath? = (w.underStep c s).environment.searchPath? := by
  show _ = (w.environmentOf ((cmakeOf c).request (.configure s))).searchPath?
  rw [environmentOf, ownEnvironment?_configureStep hs]
  cases hb : w.stepEnvironment c.env ({} : ConfigureOptions).env with
  | none => rfl
  | some b => exact (searchPath?_stepEnvironment he hp hb).symm

/-- A path that is text is what the report shows of it. -/
theorem map_locate_cmakeResolved
    (htext : ∀ p, w.resolve (Bytes.ofString c.cmakeBinary) = some p → ∃ t, p = Bytes.ofString t) :
    (Diagnosis.of w c).cmakeResolved.map (fun a => w.tree.locate w.cwd (Bytes.ofString a)) =
      (w.resolve (Bytes.ofString c.cmakeBinary)).map (w.tree.locate w.cwd) := by
  have hanswer : (Diagnosis.of w c).cmakeResolved =
      (w.resolve (Bytes.ofString c.cmakeBinary)).map Bytes.decodeLossy := rfl
  rw [hanswer]
  cases hr : w.resolve (Bytes.ofString c.cmakeBinary) with
  | none => rfl
  | some p =>
    obtain ⟨t, rfl⟩ := htext p hr
    rw [Option.map_some, Option.map_some, Bytes.decodeLossy_ofString, Option.map_some]

/-- **When the doctor's report is true of configuring**: exactly if it names the file that is
resolved in the environment of configuring, or none if none is. So it is true if the configuration
leaves the search path alone and the path that is found is text. -/
theorem report_true_iff (w : World) (hw : w.WellFormed) (c : Config) (hn : c.NulFree)
    {s : ConfigureStep} (hs : w.configureStep? c {} = some s)
    (hl : (w.underStep c s).LooksUpPlainly (Bytes.ofString c.cmakeBinary)) :
    (w.TellsTruth c ↔
      (Diagnosis.of w c).cmakeResolved.map (fun a => w.tree.locate w.cwd (Bytes.ofString a)) =
        ((w.underStep c s).resolve (Bytes.ofString c.cmakeBinary)).map
          (w.tree.locate w.cwd)) ∧
    (w.environment.Proper → LeavesPath w.environment c.env [] →
      (∀ p, w.resolve (Bytes.ofString c.cmakeBinary) = some p → ∃ t, p = Bytes.ofString t) →
      w.TellsTruth c) := by
  refine ⟨tellsTruth_iff hw hn hs hl, fun he hp htext => (tellsTruth_iff hw hn hs hl).2 ?_⟩
  have hsame : w.resolve (Bytes.ofString c.cmakeBinary) =
      (w.underStep c s).resolve (Bytes.ofString c.cmakeBinary) :=
    resolve_under (w := w.underStep c s) (searchPath?_underStep he hs hp) hl.noHome
  rw [map_locate_cmakeResolved htext, hsame]

/-- A configuration that adds this variable. -/
def adding (name value : String) : Config :=
  { toolchain := some "host.cmake", env := .ofList [(name, value)] }

/-- The step of configuring with it. -/
def stepAdding (name value : String) : ConfigureStep where
  configuration := "Debug"
  buildFolder := "build"
  toolchain := "host.cmake"
  environment := programOnPath.stepEnvironment (adding name value).env []

theorem programOnPath_wellFormed : programOnPath.WellFormed where
  cwd := trivial
  names := by simp [programOnPath]
  noNul := by decide

theorem programOnPath_looksUpPlainly {e : Environment} {ds : List Path}
    (he : e.searchPath? = some ds)
    (hds : ∀ d ∈ ds, d = Bytes.ofString "/none" ∨ d = Bytes.ofString "/opt") :
    (programOnPath.under e).LooksUpPlainly (Bytes.ofString "cmake") := by
  have hpath : (programOnPath.under e).environment.searchPath? = some ds := he
  have hhome : (programOnPath.under e).NoHome := by
    intro ds' hds' d hd
    obtain rfl : ds = ds' := Option.some.inj (hpath.symm.trans hds')
    rcases hds d hd with rfl | rfl <;> decide
  have htried : tried ds = ds := by
    refine tried_eq_self fun d hd => ?_
    rcases hds d hd with rfl | rfl <;> decide
  have htries : (programOnPath.under e).tries (Bytes.ofString "cmake") =
      ds.map (candidate · (Bytes.ofString "cmake")) := by
    rw [tries, if_neg (by decide), if_neg (by decide), hpath, Option.getD_some, htried]
  have hfind : ∀ d ∈ ds, ∀ p, p = join d (Bytes.ofString "cmake") ∨
      p = candidate d (Bytes.ofString "cmake") →
      programOnPath.tree.find [] p ∈ [.error .notFound, .ok (.program {} true)] := by
    intro d hd p hp
    rcases hds d hd with rfl | rfl <;> rcases hp with rfl | rfl <;> decide
  have hdefault : ∀ d ∈ defaultSearchPath,
      programOnPath.holds (candidate d (Bytes.ofString "cmake")) = false := by decide
  refine ⟨hhome, ?_, ?_, hdefault⟩
  · intro p hp f hf
    have hmem : ∃ d ∈ ds, p = join d (Bytes.ofString "cmake") ∨
        p = candidate d (Bytes.ofString "cmake") := by
      rw [candidates_of_noHome hhome (by decide) hpath, htries] at hp
      rcases List.mem_append.1 hp with hp | hp
      · obtain ⟨d, hd, rfl⟩ := List.mem_map.1 hp
        exact ⟨d, hd, .inl rfl⟩
      · obtain ⟨d, hd, rfl⟩ := List.mem_map.1 hp
        exact ⟨d, hd, .inr rfl⟩
    obtain ⟨d, hd, hp⟩ := hmem
    have h := hfind d hd p hp
    rw [show programOnPath.tree.find [] p = .error f from hf] at h
    exact .inl (by simpa using h)
  · intro p hp content hf
    rw [htries] at hp
    obtain ⟨d, hd, rfl⟩ := List.mem_map.1 hp
    have h := hfind d hd _ (.inr rfl)
    rw [show programOnPath.tree.find [] _ = .ok (.file content true) from hf] at h
    exact absurd h (by simp)

/-- Another variable leaves the report true; a search path of the configuration's own does not. -/
theorem programOnPath_report :
    programOnPath.TellsTruth (adding "CC" "clang") ∧
      ¬ programOnPath.TellsTruth (adding "PATH" "/none") := by
  constructor
  · have hn : (adding "CC" "clang").NulFree := ⟨by decide, by decide⟩
    have hpath : (programOnPath.environmentOf ((cmakeOf (adding "CC" "clang")).request
        (.configure (stepAdding "CC" "clang")))).searchPath? =
          some (["/none", "/opt"].map Bytes.ofString) := by decide
    have hleaves : LeavesPath programOnPath.environment (adding "CC" "clang").env [] := by
      refine ⟨by decide, fun v hv => ⟨"/none:/opt", ?_⟩, fun hno => absurd hno (by decide)⟩
      exact (Option.some.inj hv).symm
    have hl := programOnPath_looksUpPlainly hpath (by decide)
    obtain ⟨-, htrue⟩ := report_true_iff programOnPath programOnPath_wellFormed _ hn
      (s := stepAdding "CC" "clang") rfl hl
    refine htrue ⟨by decide, by decide⟩ hleaves fun p hp => ⟨"/opt/cmake", ?_⟩
    have hfound : programOnPath.resolve (Bytes.ofString "cmake") =
        some (Bytes.ofString "/opt/cmake") := by decide
    exact Option.some.inj (hp.symm.trans hfound)
  · have hn : (adding "PATH" "/none").NulFree := ⟨by decide, by decide⟩
    have hpath : (programOnPath.environmentOf ((cmakeOf (adding "PATH" "/none")).request
        (.configure (stepAdding "PATH" "/none")))).searchPath? =
          some (["/none"].map Bytes.ofString) := by decide
    have hl := programOnPath_looksUpPlainly hpath (by decide)
    obtain ⟨htrue, -⟩ := report_true_iff programOnPath programOnPath_wellFormed _ hn
      (s := stepAdding "PATH" "/none") rfl hl
    intro h
    exact absurd (htrue.1 h) (by decide)

/-- **A search path of the configuration's own makes the report false, either way**: it names a
program that configuring does not find, or none though configuring starts one. -/
theorem report_false :
    ((Diagnosis.of programOnPath (adding "PATH" "/none")).cmakeResolved = some "/opt/cmake" ∧
      ¬ programOnPath.TellsTruth (adding "PATH" "/none")) ∧
    (let w : World := programOnPath.under (.ofText (.ofList [("PATH", "/none")]))
     (Diagnosis.of w (adding "PATH" "/opt")).cmakeResolved = none ∧
      ¬ w.TellsTruth (adding "PATH" "/opt")) := by
  have hnamed : (Diagnosis.of programOnPath (adding "PATH" "/none")).cmakeResolved =
      some "/opt/cmake" := by decide
  have hnone : (Diagnosis.of (programOnPath.under (.ofText (.ofList [("PATH", "/none")])))
      (adding "PATH" "/opt")).cmakeResolved = none := by decide
  refine ⟨⟨hnamed, fun h => ?_⟩, ⟨hnone, fun h => ?_⟩⟩
  · simp only [TellsTruth, hnamed] at h
    obtain ⟨-, -, -, -, -, -, -, hcalls⟩ := h
    exact hcalls (List.eq_nil_of_length_eq_zero (by decide))
  · simp only [TellsTruth, hnone] at h
    obtain ⟨-, failure, hresult, -⟩ := h
    have hfails : Except.isOk _ = false := congrArg Except.isOk hresult
    exact absurd hfails (by decide)

end World

end CmakeDriver
