import CmakeDriver.Config.Load
import CmakeDriver.Proofs.Text.Bytes
import CmakeDriver.Proofs.World.Walk

/-!
# When the default configuration stands in

The default configuration stands in for a file whose path names nothing. The test for that asks
only whether the path can be followed, so it takes every reason why it cannot for absence: not only
that there is no such file, but also that the links on the way go round in circles, that a name is
too long, and that a NUL stands in the path. What comes behind the look-up is never hidden: a
directory, a file that is not text, a text that is no document and a document of the wrong shape
are faults, with the path in their messages.

Results:
* `not_holds_iff`: a path counts as absent exactly if reading it fails in the look-up.
* `loadOrDefault_iff`: what loads, and which faults are left.
* `circle_hidden`: a link that leads to itself loads as the default configuration.
-/

namespace CmakeDriver

/-- The faults of reading a path that count as its absence. -/
inductive IoFault.CountsAsAbsence : IoFault → Prop
  | namesNothing {e : OsFault} (h : e.NamesNothing) : CountsAsAbsence (.os e)
  | nulInPath : CountsAsAbsence .nulInPath

namespace World

variable {w : World} {p : Path}

theorem readText_of_find_error {e : OsFault} (h0 : 0 ∉ p) (h : w.tree.find w.cwd p = .error e) :
    w.readText p = .error (.os e) := by
  have hread : w.tree.read w.cwd p = .error (.os e) := by simp [FileTree.read, h0, h]
  simp only [readText, FileTree.readText, hread, bind, Except.bind]

/-- What can go wrong with a path that names something. -/
theorem readText_of_holds {fault : IoFault} (h : w.holds p = true)
    (hr : w.readText p = .error fault) : fault = .os .isADirectory ∨ fault = .notText := by
  obtain ⟨h0, entry, hf⟩ := (FileTree.holds_iff _ _ _).1 h
  have hread : w.tree.read w.cwd p = .error (.os .isADirectory) ∨
      ∃ content, w.tree.read w.cwd p = .ok content := by
    cases entry <;> simp [FileTree.read, h0, hf]
  unfold readText FileTree.readText at hr
  rcases hread with hd | ⟨content, hc⟩
  · rw [hd] at hr
    exact Or.inl (Except.error.inj hr).symm
  · simp only [hc, bind, Except.bind] at hr
    split at hr
    · exact absurd hr (by simp)
    · exact Or.inr (Except.error.inj hr).symm

/-- A file with a text is read as that text. -/
theorem readText_of_file {path text : String} {executable : Bool}
    (hn : '\x00' ∉ path.toList) (hf : w.tree.find w.cwd (Bytes.ofString path) =
      .ok (.file (Bytes.ofString text) executable)) :
    w.holds (Bytes.ofString path) = true ∧ w.readText (Bytes.ofString path) = .ok text := by
  have h0 : 0 ∉ Bytes.ofString path := fun h => hn (Bytes.zero_mem_ofString_iff.1 h)
  refine ⟨(FileTree.holds_iff _ _ _).2 ⟨h0, _, hf⟩, ?_⟩
  have hread : w.tree.read w.cwd (Bytes.ofString path) = .ok (Bytes.ofString text) := by
    simp [FileTree.read, h0, hf]
  simp only [World.readText, FileTree.readText, hread, bind, Except.bind, Bytes.decode?_ofString]

/-- **A path counts as absent exactly if reading it fails in the look-up.** -/
theorem not_holds_iff :
    w.holds p = false ↔ ∃ fault, w.readText p = .error fault ∧ fault.CountsAsAbsence := by
  constructor
  · intro h
    by_cases h0 : 0 ∈ p
    · refine ⟨.nulInPath, ?_, .nulInPath⟩
      simp only [readText, FileTree.readText, FileTree.read_eq_error_of_nul _ _ h0, bind,
        Except.bind]
    · cases hf : w.tree.find w.cwd p with
      | error e =>
        exact ⟨.os e, readText_of_find_error h0 hf, .namesNothing (FileTree.find_fault hf)⟩
      | ok entry =>
        have hholds : w.holds p = true := (FileTree.holds_iff _ _ _).2 ⟨h0, entry, hf⟩
        exact absurd (hholds.symm.trans h) (by simp)
  · rintro ⟨fault, hr, hfault⟩
    refine Bool.eq_false_iff.2 fun h => ?_
    rcases readText_of_holds h hr with rfl | rfl
    · obtain ⟨hnothing⟩ := hfault
      cases hnothing
    · cases hfault

end World

namespace Config

/-- **The faults that are left** when the default configuration can stand in. -/
inductive Reported (path : String) : LoadFault → Prop
  | isADirectory : Reported path (.unreadable path (.os .isADirectory))
  | notText : Reported path (.unreadable path .notText)
  | notToml : Reported path (.notToml path)
  | shape (fault : ShapeFault) : Reported path (.shape path fault)

variable {w : World} {path : String}

theorem ofText_fault {text : String} {fault : LoadFault} (h : ofText path text = .error fault) :
    fault = .notToml path ∨ ∃ s, fault = .shape path s := by
  unfold ofText at h
  split at h
  · exact Or.inl (Except.error.inj h).symm
  · rename_i entries _
    cases he : ofEntries entries with
    | error s =>
      rw [he] at h
      exact Or.inr ⟨s, (Except.error.inj h).symm⟩
    | ok c =>
      rw [he] at h
      cases h

theorem load_eq_unreadable_iff {fault : IoFault} :
    load w path = .error (.unreadable path fault) ↔
      w.readText (Bytes.ofString path) = .error fault := by
  unfold load
  cases w.readText (Bytes.ofString path) with
  | error f => simp
  | ok text =>
    simp only [reduceCtorEq, iff_false]
    intro h
    rcases ofText_fault h with h | ⟨s, h⟩
    · exact absurd h (by simp)
    · exact absurd h (by simp)

/-- What is at a path that names something fails to load in one of four ways. -/
theorem reported_of_load {fault : LoadFault} (h : w.holds (Bytes.ofString path) = true)
    (hl : load w path = .error fault) : Reported path fault := by
  cases hr : w.readText (Bytes.ofString path) with
  | error f =>
    rw [load_eq_unreadable_iff.2 hr] at hl
    obtain rfl := Except.error.inj hl
    rcases World.readText_of_holds h hr with rfl | rfl
    · exact .isADirectory
    · exact .notText
  | ok text =>
    rw [load, hr] at hl
    rcases ofText_fault hl with rfl | ⟨s, rfl⟩
    · exact .notToml
    · exact .shape s

theorem Reported.chain_eq {fault : LoadFault} (h : Reported path fault) :
    ∃ reason, fault.chain = ["reading config " ++ path, reason] ∨
      fault.chain = ["parsing " ++ path, reason] := by
  cases h with
  | isADirectory => exact ⟨_, .inl rfl⟩
  | notText => exact ⟨_, .inl rfl⟩
  | notToml => exact ⟨_, .inr rfl⟩
  | shape fault => exact ⟨_, .inr rfl⟩

/-- **What loads when the default configuration can stand in.** It stands in exactly where the file
cannot be read because the look-up of its path fails; all other results are those of loading the
file. So only these faults are left, and each names the path. -/
theorem loadOrDefault_iff (w : World) (path : String) :
    (∀ c, loadOrDefault w path = .ok c ↔
      load w path = .ok c ∨
        c = {} ∧ ∃ fault : IoFault, fault.CountsAsAbsence ∧
          load w path = .error (.unreadable path fault)) ∧
    (∀ fault, loadOrDefault w path = .error fault ↔
      load w path = .error fault ∧ Reported path fault) ∧
    ∀ fault, Reported path fault → ∃ reason,
      fault.chain = ["reading config " ++ path, reason] ∨
        fault.chain = ["parsing " ++ path, reason] := by
  simp only [load_eq_unreadable_iff]
  refine ⟨?_, ?_, fun fault h => h.chain_eq⟩
  · intro c
    cases hh : w.holds (Bytes.ofString path) with
    | true =>
      have hno : ¬ ∃ fault : IoFault, fault.CountsAsAbsence ∧
          w.readText (Bytes.ofString path) = .error fault := by
        rintro ⟨fault, hfault, hr⟩
        have hf := World.not_holds_iff.2 ⟨fault, hr, hfault⟩
        exact absurd (hh.symm.trans hf) (by simp)
      rw [loadOrDefault_of_holds hh]
      simp only [hno, and_false, or_false]
    | false =>
      obtain ⟨fault, hr, hfault⟩ := World.not_holds_iff.1 hh
      rw [loadOrDefault_of_not_holds hh, load_eq_unreadable_iff.2 hr]
      simp only [reduceCtorEq, false_or, Except.ok.injEq]
      exact ⟨fun h => ⟨h.symm, fault, hfault, hr⟩, fun h => h.1.symm⟩
  · intro fault
    cases hh : w.holds (Bytes.ofString path) with
    | true =>
      rw [loadOrDefault_of_holds hh]
      exact ⟨fun h => ⟨h, reported_of_load hh h⟩, And.left⟩
    | false =>
      obtain ⟨f, hr, hf⟩ := World.not_holds_iff.1 hh
      rw [loadOrDefault_of_not_holds hh, load_eq_unreadable_iff.2 hr]
      simp only [reduceCtorEq, Except.error.injEq, false_iff, not_and]
      rintro rfl hreported
      cases hreported with
      | isADirectory =>
        obtain ⟨hnothing⟩ := hf
        cases hnothing
      | notText => cases hf

/-- **Not only absence is hidden**: a link that leads to itself and a path with a NUL are faults of
loading, and yet the default configuration stands in. -/
theorem circle_hidden :
    let name := "cmakew.toml"
    let w : World := { tree := { entries :=
      [([Bytes.ofString name], .link (Bytes.ofString name))] } }
    (load w name = .error (.unreadable name (.os .tooManyLinks)) ∧ loadOrDefault w name = .ok {}) ∧
      load w "a\x00b" = .error (.unreadable "a\x00b" .nulInPath) ∧
        loadOrDefault w "a\x00b" = .ok {} := by
  intro name w
  exact ⟨⟨rfl, rfl⟩, rfl, rfl⟩

end Config

end CmakeDriver
