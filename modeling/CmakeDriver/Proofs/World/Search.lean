import CmakeDriver.Proofs.World.Candidate
import Mathlib.Data.List.Basic

/-!
# Two searches, one answer

Resolving a name goes through the directories of the search path up to the first in which the name
may be run. Starting it goes through them too, passes over some faults and ends at the others. If
the look-ups of the candidates fail only in ways that are passed over, both end at the same
directory.

Results:
* `seek_map`: a search whose candidates either can be started or are passed over ends at the first
  that can be started.
* `seek_eq_error`: it fails if none can be started, however they fail.
* `resolve_eq_find?`: resolving is the search for the first runnable candidate.
* `searchPath?_noNul`: no directory of the search path holds a NUL.
-/

namespace CmakeDriver

namespace Bytes

theorem mem_of_mem_split {sep x : UInt8} {b part : Bytes} (hp : part ∈ split sep b)
    (hx : x ∈ part) : x ∈ b := by
  induction b generalizing part with
  | nil =>
    rw [split, List.mem_singleton] at hp
    exact hp ▸ hx
  | cons c b ih =>
    rw [split] at hp
    split at hp
    · rcases List.mem_cons.1 hp with rfl | hp
      · exact absurd hx List.not_mem_nil
      · exact List.mem_cons_of_mem _ (ih hp hx)
    · split at hp
      · rename_i hs
        exact absurd hs (split_ne_nil sep b)
      · rename_i first parts hs
        rcases List.mem_cons.1 hp with rfl | hp
        · rcases List.mem_cons.1 hx with rfl | hx
          · exact List.mem_cons_self
          · exact List.mem_cons_of_mem _ (ih (hs ▸ List.mem_cons_self) hx)
        · exact List.mem_cons_of_mem _ (ih (hs ▸ List.mem_cons_of_mem _ hp) hx)

end Bytes

namespace World

open Bytes CmakeDriver.Path

variable {w : World} {α : Type}

/-! ## Searching -/

theorem seek_eq_error {start : Path → Except OsFault α} {ps : List Path}
    (h : ∀ p ∈ ps, ∃ e, start p = .error e) (denied : Bool) (last : OsFault) :
    ∃ e, seek start denied last ps = .error e := by
  induction ps generalizing denied last with
  | nil => exact ⟨_, rfl⟩
  | cons p rest ih =>
    obtain ⟨e, he⟩ := h p List.mem_cons_self
    rw [seek, he]
    simp only
    split
    · exact ih (fun q hq => h q (List.mem_cons_of_mem _ hq)) _ _
    · exact ⟨e, rfl⟩

/-- **The search ends where the first good directory is**, if each of the others is passed over. -/
theorem seek_map {start : Path → Except OsFault α} {candidateOf : Path → Path}
    {good : Path → Bool} {ds : List Path}
    (hbad : ∀ d ∈ ds, good d = false →
      ∃ e, start (candidateOf d) = .error e ∧ passesOver e = true)
    (hgood : ∀ d ∈ ds, good d = true → ∃ a, start (candidateOf d) = .ok a)
    {d : Path} (hd : ds.find? good = some d) (denied : Bool) (last : OsFault) :
    seek start denied last (ds.map candidateOf) = start (candidateOf d) := by
  induction ds generalizing denied last with
  | nil => exact absurd hd (by simp)
  | cons e rest ih =>
    rw [List.map_cons, seek]
    cases he : good e with
    | true =>
      obtain rfl : e = d := by simpa [List.find?_cons, he] using hd
      obtain ⟨a, ha⟩ := hgood e List.mem_cons_self he
      rw [ha]
    | false =>
      obtain ⟨f, hf, hpass⟩ := hbad e List.mem_cons_self he
      rw [hf]
      simp only [hpass, if_true]
      exact ih (fun d hd => hbad d (List.mem_cons_of_mem _ hd))
        (fun d hd => hgood d (List.mem_cons_of_mem _ hd)) (by simpa [List.find?_cons, he] using hd)
        _ _

/-! ## The directories searched -/

theorem readBack?_noNul (hw : w.WellFormed) {name : String} {v : Bytes}
    (h : w.environment.readBack? name = some v) : 0 ∉ v := by
  unfold Environment.readBack? at h
  split at h
  · rename_i u hu
    obtain rfl := Option.some.inj h
    exact (hw.noNul _ ((Bindings.mem_entries_iff _).2 hu)).2
  · obtain ⟨⟨k, u⟩, hku, rfl⟩ := Option.map_eq_some_iff.1 h
    have hm := List.mem_mergeSort.1 (List.mem_of_head? hku)
    have hn := hw.noNul _ (List.mem_filter.1 hm).1
    simp only [List.mem_append, List.mem_cons, not_or]
    exact ⟨fun hk => hn.1 (List.mem_of_mem_drop hk), by decide, hn.2⟩

theorem searchPath?_noNul (hw : w.WellFormed) {ds : List Path}
    (h : w.environment.searchPath? = some ds) {d : Path} (hd : d ∈ ds) : 0 ∉ d := by
  obtain ⟨v, hv, rfl⟩ := Option.map_eq_some_iff.1 h
  exact fun hm => readBack?_noNul hw hv (mem_of_mem_split hd hm)

/-- No directory of the search path stands for one below the home directory. -/
def NoHome (w : World) : Prop :=
  ∀ ds, w.environment.searchPath? = some ds → ∀ d ∈ ds, (steps d).head? ≠ some home

theorem candidates_of_noHome (hh : w.NoHome) {name : Path} (hn : hasSlash name = false)
    {ds : List Path} (h : w.environment.searchPath? = some ds) :
    w.candidates name = ds.map (join · name) := by
  rw [candidates, if_neg (by simp [hn]), h]
  refine List.filterMap_eq_map_iff_forall_eq_some.2 fun d hd => ?_
  rw [expandHome, if_neg (hh ds h d hd)]
  rfl

theorem resolve_eq_find? (hh : w.NoHome) {name : Path} (hn : hasSlash name = false)
    {ds : List Path} (h : w.environment.searchPath? = some ds) :
    w.resolve name = (ds.find? fun d => w.holdsRunnable (join d name)).map (join · name) := by
  rw [resolve, candidates_of_noHome hh hn h, List.find?_map]
  rfl

/-- The paths that the start of a program tries, in order. -/
def tries (w : World) (name : Path) : List Path :=
  if name = [] then []
  else if hasSlash name then [name]
  else (tried (w.environment.searchPath?.getD defaultSearchPath)).map (candidate · name)

theorem findProgram_of_bare {e : Environment} {shell : Bool} {name : Path} (hn : name ≠ [])
    (hs : hasSlash name = false) (args : List Bytes) :
    w.findProgram e shell name args =
      seek (fun p => w.attempt shell p args) false .notFound
        ((tried (e.searchPath?.getD defaultSearchPath)).map (candidate · name)) := by
  rw [findProgram, if_neg hn, if_neg (by simp [hs])]

/-! ## Look-ups without surprises -/

/-- **What is asked of the look-ups of a name**, so that both searches see the same: no directory
lies below the home directory, each look-up finds something or fails in a way that is passed over,
the texts that may be run can be run, and the directories that are searched in place of a missing
search path do not have the name. -/
structure LooksUpPlainly (w : World) (name : Path) : Prop where
  noHome : w.NoHome
  plain : ∀ p ∈ w.candidates name ++ w.tries name, ∀ e,
    w.tree.find w.cwd p = .error e → e = .notFound ∨ e = .notADirectory ∨ e = .permissionDenied
  textsRun : ∀ p ∈ w.tries name, w.TextsRun p
  notByDefault : ∀ d ∈ defaultSearchPath, w.holds (candidate d name) = false

variable {name : Path}

theorem LooksUpPlainly.passesOver (h : w.LooksUpPlainly name) {p : Path}
    (hp : p ∈ w.candidates name ++ w.tries name) {e : OsFault}
    (he : w.tree.find w.cwd p = .error e) : passesOver e = true := by
  rcases h.plain p hp e he with rfl | rfl | rfl <;> rfl

theorem LooksUpPlainly.length_lt (h : w.LooksUpPlainly name) {p : Path}
    (hp : p ∈ w.candidates name ++ w.tries name) : p.length < FileTree.pathLimit :=
  FileTree.length_lt_of_find_ne fun he => absurd (h.passesOver hp he) (by decide)

theorem mem_join {x : UInt8} {d name : Path} (h : x ∈ name) : x ∈ join d name := by
  unfold join
  split
  · exact h
  split
  · exact List.mem_append_right _ h
  · exact List.mem_append_right _ (List.mem_cons_of_mem _ h)

theorem not_mem_join {x : UInt8} {d name : Path} (hx : x ≠ slash) (hd : x ∉ d) (hn : x ∉ name) :
    x ∉ join d name := by
  unfold join
  split
  · exact hn
  split <;> simp [hx, hd, hn]

theorem not_mem_candidate {x : UInt8} {d name : Path} (hx : x ≠ slash) (hd : x ∉ d)
    (hn : x ∉ name) : x ∉ candidate d name := by
  have hs : x ∉ soughtPart name := fun hm => hn (List.mem_of_mem_take hm)
  unfold candidate
  split <;> simp [hx, hd, hs]

theorem not_mem_absolute (hw : w.WellFormed) {p : Path} (hp : 0 ∉ p) : 0 ∉ w.absolute p := by
  refine not_mem_join (by decide) ?_ hp
  unfold pathOf
  split
  · decide
  · rw [List.mem_flatMap]
    rintro ⟨m, hm, h0⟩
    rcases List.mem_cons.1 h0 with h0 | h0
    · exact absurd h0 (by decide)
    · exact (hw.names m (List.mem_reverse.1 hm)).no_nul h0

theorem holdsRunnable_congr {p q : Path} (hp : 0 ∉ p) (hq : 0 ∉ q)
    (h : w.tree.locate w.cwd p = w.tree.locate w.cwd q) :
    w.holdsRunnable p = w.holdsRunnable q := by
  simp [holdsRunnable, FileTree.holdsRunnable, hp, hq, FileTree.find_congr h]

theorem noNul_of_resolve {p : Path} (h : w.resolve name = some p) : 0 ∉ name ∧ 0 ∉ p := by
  obtain ⟨hp, hr⟩ := resolve_eq_some h
  have h0 : 0 ∉ p := by
    intro hm
    simp [holdsRunnable, FileTree.holdsRunnable, hm] at hr
  refine ⟨fun hm => h0 ?_, h0⟩
  unfold candidates at hp
  split at hp
  · rw [List.mem_singleton.1 hp]
    exact mem_join hm
  split at hp
  · exact absurd hp List.not_mem_nil
  · obtain ⟨d, -, hd⟩ := List.mem_filterMap.1 hp
    obtain ⟨e, -, rfl⟩ := Option.map_eq_some_iff.1 hd
    exact mem_join hm

/-! ## A name with a slash -/

theorem locate_absolute_of_plain (hw : w.WellFormed) (hl : w.LooksUpPlainly name)
    (hs : hasSlash name = true) :
    w.tree.locate w.cwd (w.absolute name) = w.tree.locate w.cwd name := by
  refine locate_absolute hw ?_ (hl.length_lt ?_)
  · rintro rfl
    exact absurd hs (by decide)
  · simp [candidates_of_hasSlash w hs]

theorem resolve_of_hasSlash (hs : hasSlash name = true) :
    w.resolve name =
      if w.holdsRunnable (w.absolute name) then some (w.absolute name) else none := by
  rw [resolve, candidates_of_hasSlash w hs, List.find?_cons]
  cases w.holdsRunnable (w.absolute name) <;> rfl

/-! ## A name without one -/

section Bare

variable {ds : List Path}

theorem tried_of_plain (hl : w.LooksUpPlainly name) (hs : hasSlash name = false)
    (hds : w.environment.searchPath? = some ds) : tried ds = ds := by
  refine tried_eq_self fun d hd => ?_
  have hm : join d name ∈ w.candidates name := by
    rw [candidates_of_noHome hl.noHome hs hds]
    exact List.mem_map_of_mem hd
  have hlen := hl.length_lt (List.mem_append_left _ hm)
  have hle : d.length ≤ (join d name).length := by
    rw [join_of_not_hasSlash hs]
    split <;> simp
  omega

theorem tries_of_plain (hl : w.LooksUpPlainly name) (hn : name ≠ []) (hs : hasSlash name = false)
    (hds : w.environment.searchPath? = some ds) : w.tries name = ds.map (candidate · name) := by
  rw [tries, if_neg hn, if_neg (by simp [hs]), hds, Option.getD_some, tried_of_plain hl hs hds]

theorem locate_candidate (hl : w.LooksUpPlainly name) (hn : name ≠ []) (hs : hasSlash name = false)
    (hshort : name.length ≤ FileTree.maxName) (hds : w.environment.searchPath? = some ds)
    {d : Path} (hd : d ∈ ds) :
    w.tree.locate w.cwd (join d name) = w.tree.locate w.cwd (candidate d name) := by
  refine locate_join_eq_candidate hs hshort (hl.length_lt ?_) (hl.length_lt ?_)
  · rw [candidates_of_noHome hl.noHome hs hds]
    exact List.mem_append_left _ (List.mem_map_of_mem hd)
  · rw [tries_of_plain hl hn hs hds]
    exact List.mem_append_right _ (List.mem_map_of_mem hd)

end Bare

end World

end CmakeDriver
