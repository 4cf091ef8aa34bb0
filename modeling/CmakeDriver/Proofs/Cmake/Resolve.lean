import CmakeDriver.Proofs.Execution.Attempt
import CmakeDriver.Proofs.Text.Bytes
import CmakeDriver.Proofs.World.Lookup

/-!
# Resolving and starting agree

Resolving an executable answers exactly if executing it in the ambient environment starts a program,
and what it answers and what is started are one file. This holds of every well-formed world in which
the look-ups of the executable's name hold no surprises.

Results:
* `oneFile_of_resolve`: what resolving answers is what a start opens.
* `findProgram_of_resolve_none`: where it answers nothing, nothing can be started.
* `resolve_agrees_with_execute`: the same of an executable's name and a request for it.
-/

namespace CmakeDriver

namespace World

open CmakeDriver.Path

variable {w : World} {name : Path}

/-- **The two paths of one file**: what resolving a name answers, and what starting it opens. A path
is made absolute or taken as it is; of a name without a slash both are in the first directory of
the search path in which it may be run. -/
inductive OneFile (w : World) (name : Path) : Path → Path → Prop
  | path (hs : hasSlash name = true) : OneFile w name (w.absolute name) name
  | entry {before after : List Path} {d : Path} (hs : hasSlash name = false)
      (hds : w.environment.searchPath? = some (before ++ d :: after))
      (first : ∀ e ∈ before, w.holdsRunnable (join e name) = false) :
      OneFile w name (join d name) (candidate d name)

/-- A name that is resolved without a slash is neither empty nor over-long. -/
theorem proper_of_holdsRunnable (hw : w.WellFormed) (hs : hasSlash name = false) {d : Path}
    (h : w.holdsRunnable (join d name) = true) :
    name ≠ [] ∧ name.length ≤ FileTree.maxName := by
  obtain ⟨a, ha⟩ := steps_join (d := d) hs
  constructor
  · rintro rfl
    have hf := FileTree.holdsRunnable_of_empty_last hw.cwd ha
    rw [holdsRunnable, hf] at h
    exact absurd h (by simp)
  · refine Nat.not_lt.1 fun hlong => ?_
    obtain ⟨e, he⟩ := FileTree.find_long_last hw.cwd ha hlong
    simp [holdsRunnable, FileTree.holdsRunnable, he] at h

theorem exists_locate_of_holdsRunnable {p : Path} (h : w.holdsRunnable p = true) :
    ∃ l, w.tree.locate w.cwd p = .ok l := by
  unfold holdsRunnable FileTree.holdsRunnable at h
  cases hf : w.tree.find w.cwd p with
  | error e => simp [hf] at h
  | ok e =>
    obtain ⟨l, hl, -⟩ := FileTree.exists_locate_of_find hf
    exact ⟨l, hl⟩

theorem oneFile_of_resolve (hw : w.WellFormed) (hl : w.LooksUpPlainly name) {p : Path}
    (h : w.resolve name = some p) :
    ∃ q, w.OneFile name p q ∧ w.tree.locate w.cwd p = w.tree.locate w.cwd q ∧
      w.holdsRunnable q = true ∧ q ∈ w.tries name ∧
      w.lookup w.environment false name = .ok q := by
  obtain ⟨hn0, hp0⟩ := noNul_of_resolve h
  have hrun := (resolve_eq_some h).2
  cases hs : hasSlash name with
  | true =>
    have hp : w.absolute name = p := by
      rw [resolve_of_hasSlash hs] at h
      split at h
      · exact Option.some.inj h
      · exact absurd h (by simp)
    subst hp
    have hloc := locate_absolute_of_plain hw hl hs
    have hne : name ≠ [] := by
      rintro rfl
      exact absurd hs (by decide)
    have hname : w.holdsRunnable name = true := by
      rwa [← holdsRunnable_congr hp0 hn0 hloc]
    have hmem : name ∈ w.tries name := by simp [tries, hne, hs]
    refine ⟨name, .path hs, hloc, hname, hmem, ?_⟩
    rw [lookup_of_hasSlash _ _ hs, startableAt_of_holdsRunnable hname (hl.textsRun _ hmem)]
  | false =>
    cases hds : w.environment.searchPath? with
    | none =>
      simp [resolve, candidates, hs, hds] at h
    | some ds =>
      rw [resolve_eq_find? hl.noHome hs hds] at h
      obtain ⟨d, hd, rfl⟩ := Option.map_eq_some_iff.1 h
      obtain ⟨hne, hshort⟩ := proper_of_holdsRunnable hw hs hrun
      have hloc : ∀ e ∈ ds, w.tree.locate w.cwd (join e name) =
          w.tree.locate w.cwd (candidate e name) :=
        fun e he => locate_candidate hl hne hs hshort hds he
      have hnul : ∀ e ∈ ds, 0 ∉ join e name ∧ 0 ∉ candidate e name := fun e he =>
        ⟨not_mem_join (by decide) (searchPath?_noNul hw hds he) hn0,
          not_mem_candidate (by decide) (searchPath?_noNul hw hds he) hn0⟩
      have hcongr : ∀ e ∈ ds, w.holdsRunnable (join e name) =
          w.holdsRunnable (candidate e name) :=
        fun e he => holdsRunnable_congr (hnul e he).1 (hnul e he).2 (hloc e he)
      have hmem : ∀ e ∈ ds, candidate e name ∈ w.tries name := fun e he => by
        rw [tries_of_plain hl hne hs hds]
        exact List.mem_map_of_mem he
      have hdm : d ∈ ds := List.mem_of_find?_eq_some hd
      have hruns : ∀ e ∈ ds, w.holdsRunnable (candidate e name) = true →
          w.startableAt false (candidate e name) = .ok (candidate e name) :=
        fun e he h => startableAt_of_holdsRunnable h (hl.textsRun _ (hmem e he))
      have hcand : w.holdsRunnable (candidate d name) = true := by rwa [← hcongr d hdm]
      refine ⟨candidate d name, ?_, hloc d hdm, hcand, hmem d hdm, ?_⟩
      · obtain ⟨-, before, after, hsplit, hb⟩ := List.find?_eq_some_iff_append.1 hd
        have hall : w.environment.searchPath? = some (before ++ d :: after) := by rw [hds, hsplit]
        refine .entry hs hall fun e he => ?_
        simpa using hb e he
      · rw [lookup_of_bare _ _ hne hs, hds, Option.getD_some, tried_of_plain hl hs hds,
          ← hruns d hdm hcand]
        refine seek_map ?_ ?_ hd _ _
        · intro e he hbad
          rw [hcongr e he] at hbad
          obtain ⟨f, hf, hor⟩ := attempt_of_not_holdsRunnable hbad (hnul e he).2 []
          refine ⟨f, by rw [startableAt, hf]; rfl, ?_⟩
          rcases hor with rfl | hfind
          · rfl
          · exact hl.passesOver (List.mem_append_right _ (hmem e he)) hfind
        · intro e he hgood
          rw [hcongr e he] at hgood
          exact ⟨_, hruns e he hgood⟩

theorem attempt_of_find_error {shell : Bool} {p : Path} {e : OsFault}
    (h : w.tree.find w.cwd p = .error e) (args : List Bytes) :
    w.attempt shell p args = .error e := by
  have hs : w.startable p = .error e := by simp [startable, h]
  simp only [attempt, hs]

theorem findProgram_of_resolve_none (hw : w.WellFormed) (hl : w.LooksUpPlainly name)
    (hn0 : 0 ∉ name) (h : w.resolve name = none) (args : List Bytes) :
    ∃ e, w.findProgram w.environment false name args = .error e := by
  cases hs : hasSlash name with
  | true =>
    have hbad : w.holdsRunnable name = false := by
      rw [← holdsRunnable_congr (not_mem_absolute hw hn0) hn0 (locate_absolute_of_plain hw hl hs)]
      rw [resolve_of_hasSlash hs] at h
      simpa using h
    obtain ⟨e, he, -⟩ := attempt_of_not_holdsRunnable hbad hn0 args
    exact ⟨e, (findProgram_of_hasSlash w _ false hs args).trans he⟩
  | false =>
    by_cases hne : name = []
    · exact ⟨.notFound, by rw [findProgram, if_pos hne]⟩
    rw [findProgram_of_bare hne hs]
    refine seek_eq_error ?_ _ _
    simp only [List.mem_map, forall_exists_index, and_imp, forall_apply_eq_imp_iff₂]
    cases hds : w.environment.searchPath? with
    | none =>
      intro d hd
      rw [Option.getD_none, tried_eq_self (by decide)] at hd
      have hd0 : ∀ e ∈ defaultSearchPath, 0 ∉ e := by decide
      have hh := hl.notByDefault d hd
      cases hf : w.tree.find w.cwd (candidate d name) with
      | error e => exact ⟨e, attempt_of_find_error hf args⟩
      | ok e =>
        have : w.holds (candidate d name) = true :=
          (FileTree.holds_iff _ _ _).2 ⟨not_mem_candidate (by decide) (hd0 d hd) hn0, e, hf⟩
        rw [hh] at this
        exact absurd this (by simp)
    | some ds =>
      intro d hd
      rw [Option.getD_some] at hd
      by_cases hshort : name.length ≤ FileTree.maxName
      · rw [tried_of_plain hl hs hds] at hd
        rw [resolve_eq_find? hl.noHome hs hds, Option.map_eq_none_iff] at h
        have hbad : w.holdsRunnable (candidate d name) = false := by
          rw [← holdsRunnable_congr
            (not_mem_join (by decide) (searchPath?_noNul hw hds hd) hn0)
            (not_mem_candidate (by decide) (searchPath?_noNul hw hds hd) hn0)
            (locate_candidate hl hne hs hshort hds hd)]
          simpa using List.find?_eq_none.1 h d hd
        obtain ⟨e, he, -⟩ := attempt_of_not_holdsRunnable hbad
          (not_mem_candidate (by decide) (searchPath?_noNul hw hds hd) hn0) args
        exact ⟨e, he⟩
      · have hlong : FileTree.maxName < (soughtPart name).length := by
          rw [soughtPart, List.length_take]
          omega
        obtain ⟨a, ha⟩ := steps_candidate (d := d) hs
        obtain ⟨e, he⟩ := FileTree.find_long_last hw.cwd ha hlong
        exact ⟨e, attempt_of_find_error he args⟩

/-- What the start of a command line without a NUL comes to, in the ambient environment. -/
theorem startedBy_of_noNul {binary : String} {args : List String}
    (hb : '\x00' ∉ binary.toList) (ha : ∀ a ∈ args, '\x00' ∉ a.toList) :
    w.startedBy { argv := binary :: args } binary args =
      (w.findProgram w.environment false (Bytes.ofString binary)
        (args.map Bytes.ofString)).mapError .os := by
  have hnul : ({ argv := binary :: args } : Execution.Request).hasNul = false := by
    simp only [Execution.Request.hasNul, List.any_cons, Bool.or_false, Bool.or_eq_false_iff,
      List.any_eq_false, List.contains_eq_mem, decide_eq_true_eq, decide_eq_false_iff_not]
    exact ⟨hb, ha⟩
  rw [startedBy, if_neg (by simp [hnul])]
  rfl

end World

namespace Cmake

open Execution World

variable {w : World} {binary : String} {args : List String} (checked : Bool)

/-- What is resolved is what is started, and by the same file. -/
theorem execute_of_resolve (hw : w.WellFormed) (hl : w.LooksUpPlainly (Bytes.ofString binary))
    (hargs : ∀ a ∈ args, '\x00' ∉ a.toList) {p : Path}
    (hp : w.resolve (Bytes.ofString binary) = some p) :
    ∃ q l image call, w.OneFile (Bytes.ofString binary) p q ∧
      w.tree.locate w.cwd p = .ok l ∧ w.tree.locate w.cwd q = .ok l ∧
      w.attempt false q (args.map Bytes.ofString) = .ok image ∧
      w.callOf w.environment image = some call ∧
      (w.execute { argv := binary :: args } checked).calls = [call] ∧
      (w.execute { argv := binary :: args } checked).result =
        resultOf checked binary image.program.ending := by
  obtain ⟨q, hone, hloc, hq, hqt, hlook⟩ := oneFile_of_resolve hw hl hp
  obtain ⟨image, c, hi, hc⟩ :=
    attempt_of_holdsRunnable hq (hl.textsRun q hqt) (args.map Bytes.ofString)
  obtain ⟨l, hlq⟩ := exists_locate_of_holdsRunnable hq
  have hb : '\x00' ∉ binary.toList := fun hm =>
    (noNul_of_resolve hp).1 (Bytes.zero_mem_ofString_iff.2 hm)
  have hstart : w.startedBy { argv := binary :: args } binary args = .ok image := by
    rw [startedBy_of_noNul hb hargs, findProgram_eq_lookup, hlook]
    exact congrArg (Except.mapError IoFault.os) hi
  have hcall : w.callOf w.environment image =
      some { program := w.startPath c.1, args := c.2, environment := w.environment } := by
    rw [callOf, hc, Option.map_some]
  refine ⟨q, l, image, _, hone, hloc.trans hlq, hlq, hi, hcall, ?_, ?_⟩
  · rw [callsOf_execute rfl, hstart]
    exact congrArg Option.toList hcall
  · rw [result_execute rfl, hstart]

/-- Where nothing is resolved nothing is started, and the program that was asked for is named. -/
theorem execute_of_resolve_none (hw : w.WellFormed)
    (hl : w.LooksUpPlainly (Bytes.ofString binary))
    (hargs : ∀ a ∈ args, '\x00' ∉ a.toList) (h : w.resolve (Bytes.ofString binary) = none) :
    (w.execute { argv := binary :: args } checked).calls = [] ∧
      ∃ cause, (w.execute { argv := binary :: args } checked).result =
        .error (.spawn binary cause) := by
  obtain ⟨cause, hstart⟩ : ∃ cause,
      w.startedBy { argv := binary :: args } binary args = .error cause := by
    by_cases hb : '\x00' ∈ binary.toList
    · exact ⟨_, startedBy_of_nul w (by simp [Request.hasNul, hb]) binary args⟩
    · obtain ⟨e, he⟩ := findProgram_of_resolve_none hw hl
        (fun hm => hb (Bytes.zero_mem_ofString_iff.1 hm)) h (args.map Bytes.ofString)
      exact ⟨.os e, by rw [startedBy_of_noNul hb hargs, he]; rfl⟩
  constructor
  · rw [callsOf_execute rfl, hstart]
  · exact ⟨cause, by rw [result_execute rfl, hstart]⟩

/-- **Resolving agrees with starting.** An executable is resolved exactly if a request for it starts
a program in the ambient environment, whatever its arguments are. Then the path that is answered and
the path that is opened are of one file. Otherwise the request cannot be spawned. -/
theorem resolve_agrees_with_execute (w : World) (hw : w.WellFormed) (binary : String)
    (hl : w.LooksUpPlainly (Bytes.ofString binary)) (args : List String)
    (hargs : ∀ a ∈ args, '\x00' ∉ a.toList) (checked : Bool) :
    let found := resolve { executable := binary } w
    let run := w.execute { argv := binary :: args } checked
    (found.isSome = true ↔ run.calls ≠ []) ∧
    (∀ answer, found = some answer → ∃ p q l image call,
      answer = Bytes.decodeLossy p ∧ w.OneFile (Bytes.ofString binary) p q ∧
      w.tree.locate w.cwd p = .ok l ∧ w.tree.locate w.cwd q = .ok l ∧
      w.attempt false q (args.map Bytes.ofString) = .ok image ∧
      w.callOf w.environment image = some call ∧ run.calls = [call] ∧
      run.result = resultOf checked binary image.program.ending) ∧
    (found = none → ∃ cause, run.result = .error (.spawn binary cause)) := by
  intro found run
  have hfound : found = (w.resolve (Bytes.ofString binary)).map Bytes.decodeLossy := rfl
  cases hr : w.resolve (Bytes.ofString binary) with
  | some p =>
    obtain ⟨q, l, image, call, hone, hp, hq, hi, hc, hcalls, hres⟩ :=
      execute_of_resolve checked hw hl hargs hr
    rw [hr, Option.map_some] at hfound
    refine ⟨?_, ?_, ?_⟩
    · simp [hfound, run, hcalls]
    · intro answer ha
      rw [hfound] at ha
      exact ⟨p, q, l, image, call, (Option.some.inj ha).symm, hone, hp, hq, hi, hc, hcalls, hres⟩
    · intro hnone
      rw [hfound] at hnone
      exact absurd hnone (by simp)
  | none =>
    obtain ⟨hcalls, hres⟩ := execute_of_resolve_none checked hw hl hargs hr
    rw [hr, Option.map_none] at hfound
    refine ⟨?_, ?_, fun _ => hres⟩
    · simp [hfound, run, hcalls]
    · intro answer ha
      rw [hfound] at ha
      exact absurd ha (by simp)

/-- A world whose search path has a directory and a file that may not be run before the link to the
program, an empty entry and entries with a trailing slash. -/
def severalPlaces : World where
  tree := { entries := [
    ([Bytes.ofString "work"], .directory),
    ([Bytes.ofString "bin", Bytes.ofString "work"], .directory),
    ([Bytes.ofString "cmake", Bytes.ofString "bin", Bytes.ofString "work"], .directory),
    ([Bytes.ofString "opt"], .directory),
    ([Bytes.ofString "cmake", Bytes.ofString "opt"], .file [] false),
    ([Bytes.ofString "tools"], .directory),
    ([Bytes.ofString "cmake", Bytes.ofString "tools"], .link (Bytes.ofString "../new/cmake-3")),
    ([Bytes.ofString "new"], .directory),
    ([Bytes.ofString "cmake-3", Bytes.ofString "new"], .program { ending := .exited 2 } true)] }
  cwd := [Bytes.ofString "work"]
  environment :=
    { entries := [(Bytes.ofString "PATH", Bytes.ofString "bin:/opt/::/tools/:/new")]
      distinct := by decide }

theorem severalPlaces_wellFormed : severalPlaces.WellFormed where
  cwd := ⟨rfl, trivial⟩
  names := by
    intro name hn
    obtain rfl := List.mem_singleton.1 hn
    exact ⟨by decide, by decide, by decide, by decide, by decide, by decide⟩
  noNul := by decide

theorem severalPlaces_looksUpPlainly (name : String) (hn : name = "cmake" ∨ name = "ninja") :
    severalPlaces.LooksUpPlainly (Bytes.ofString name) := by
  have hfaults : ∀ p ∈ severalPlaces.candidates (Bytes.ofString name) ++
      severalPlaces.tries (Bytes.ofString name),
      severalPlaces.tree.find severalPlaces.cwd p ∈
        [.error .notFound, .error .notADirectory, .ok .directory, .ok (.file [] false),
          .ok (.program { ending := .exited 2 } true)] := by
    rcases hn with rfl | rfl <;> decide
  have hpath : severalPlaces.environment.searchPath? =
      some (["bin", "/opt/", "", "/tools/", "/new"].map Bytes.ofString) := by decide
  constructor
  · intro ds hds
    rw [hpath] at hds
    rw [← Option.some.inj hds]
    decide
  · intro p hp e he
    have h := hfaults p hp
    rw [he] at h
    have hcases : e = .notFound ∨ e = .notADirectory := by simpa using h
    exact hcases.imp_right .inl
  · intro p hp content hf
    have h := hfaults p (List.mem_append_right _ hp)
    rw [hf] at h
    exact absurd h (by simp)
  · rcases hn with rfl | rfl <;> decide

/-- The link behind the directory and the plain file is what is resolved and what is started, though
the two write its path differently; a name that no entry has is neither. -/
theorem severalPlaces_agree :
    (resolve { executable := "cmake" } severalPlaces = some "/tools/cmake" ∧
      ∃ call, (severalPlaces.execute { argv := ["cmake", "--build"] } true).calls = [call] ∧
        call.program = Bytes.ofString "/tools//cmake") ∧
    resolve { executable := "ninja" } severalPlaces = none ∧
    ∃ cause, (severalPlaces.execute { argv := ["ninja"] } true).result =
      .error (.spawn "ninja" cause) := by
  have hcmake := resolve_agrees_with_execute severalPlaces severalPlaces_wellFormed "cmake"
    (severalPlaces_looksUpPlainly _ (.inl rfl)) ["--build"] (by decide) true
  have hninja := resolve_agrees_with_execute severalPlaces severalPlaces_wellFormed "ninja"
    (severalPlaces_looksUpPlainly _ (.inr rfl)) [] (by decide) true
  have hfound : resolve { executable := "cmake" } severalPlaces = some "/tools/cmake" := by decide
  have hmissed : resolve { executable := "ninja" } severalPlaces = none := by decide
  refine ⟨⟨hfound, ?_⟩, hmissed, hninja.2.2 hmissed⟩
  obtain ⟨_, _, _, _, call, -, -, -, -, -, -, hcalls, -⟩ := hcmake.2.1 _ hfound
  have hprogram : ((severalPlaces.execute { argv := ["cmake", "--build"] } true).calls.map
      fun c => c.program) = [Bytes.ofString "/tools//cmake"] := by decide
  rw [hcalls] at hprogram
  exact ⟨call, hcalls, List.singleton_inj.1 hprogram⟩

end Cmake

end CmakeDriver
