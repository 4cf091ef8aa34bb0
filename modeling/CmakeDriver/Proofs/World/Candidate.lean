import CmakeDriver.Proofs.World.Walk
import CmakeDriver.World.Resolve
import CmakeDriver.World.Start

/-!
# Candidates of the two searches

Resolving a name and starting it write the candidate of a directory differently: one joins with a
single slash, the other puts a slash behind whatever the directory is. The two paths lead to one
location. What a candidate that may be run comes to, and how one that may not be run fails, does not
depend on which of the two asks.

Results:
* `locate_join_eq_candidate`: the candidates of one directory name the same.
* `locate_absolute`: a path made absolute names what it named.
* `holdsRunnable_of_empty_last`, `find_long_last`: a path that ends in a slash is nothing to run,
  and an over-long name is nothing at all.
* `attempt_of_holdsRunnable`, `attempt_of_not_holdsRunnable`: what the start of a candidate comes
  to.
* `call_of_image`: the call that a start makes has the path of a program file.
-/

namespace CmakeDriver

/-! ## Lookups -/

namespace FileTree

variable {t : FileTree} {cwd : Location} {p q : Path}

theorem locate_of_short (hp : p ≠ []) (hl : p.length < pathLimit) :
    t.locate cwd p =
      t.walk maxLinks (if Path.isAbsolute p then [] else cwd) (Path.steps p) := by
  rw [locate, if_neg hp, if_neg (Nat.not_le.2 hl)]

theorem find_congr {cwd' : Location} (h : t.locate cwd p = t.locate cwd' q) :
    t.find cwd p = t.find cwd' q := by
  simp only [find, h]

theorem exists_locate_of_find {e : Entry} (h : t.find cwd p = .ok e) :
    ∃ l, t.locate cwd p = .ok l ∧ t.get? l = some e := by
  unfold find at h
  cases hl : t.locate cwd p with
  | error f => rw [hl] at h; exact absurd h (by simp [bind, Except.bind])
  | ok l =>
    rw [hl] at h
    refine ⟨l, rfl, ?_⟩
    simp only [bind, Except.bind] at h
    split at h
    · rename_i e' he
      rw [he, Except.ok.inj h]
    · exact absurd h (by simp)

theorem find_of_locate {l : Location} {e : Entry} (hl : t.locate cwd p = .ok l)
    (he : t.get? l = some e) : t.find cwd p = .ok e := by
  simp only [find, hl, bind, Except.bind, he]

theorem locate_eq_walk {l : Location} (h : t.locate cwd p = .ok l) :
    t.walk maxLinks (if Path.isAbsolute p then [] else cwd) (Path.steps p) = .ok l := by
  unfold locate at h
  split at h
  · exact absurd h (by simp)
  split at h
  · exact absurd h (by simp)
  · exact h

theorem isDirectory_start (hd : t.IsDirectory cwd) (p : Path) :
    t.IsDirectory (if Path.isAbsolute p then [] else cwd) := by
  split
  · trivial
  · exact hd

/-- A path that ends in an empty step names nothing that may be run. -/
theorem holdsRunnable_of_empty_last (hd : t.IsDirectory cwd) {a : List Bytes}
    (hs : Path.steps p = a ++ [[]]) : t.holdsRunnable cwd p = false := by
  unfold holdsRunnable
  cases hf : t.find cwd p with
  | error e => simp
  | ok e =>
    obtain ⟨l, hl, he⟩ := exists_locate_of_find hf
    have hw := locate_eq_walk hl
    rw [hs] at hw
    have hdir := (isDirectory_of_walk (isDirectory_start hd p) hw).get?
    obtain rfl : e = .directory := Option.some.inj (he.symm.trans hdir)
    simp

/-- A path that ends in an over-long name names nothing. -/
theorem find_long_last (hd : t.IsDirectory cwd) {a : List Bytes} {name : Bytes}
    (hs : Path.steps p = a ++ [name]) (hn : maxName < name.length) :
    ∃ e, t.find cwd p = .error e := by
  cases hf : t.find cwd p with
  | error e => exact ⟨e, rfl⟩
  | ok e =>
    obtain ⟨l, hl, -⟩ := exists_locate_of_find hf
    have hw := locate_eq_walk hl
    obtain ⟨f, hf⟩ := walk_long maxLinks (isDirectory_start hd p) a hn
    rw [hs, hf] at hw
    exact absurd hw (by simp)

theorem length_lt_of_find_ne (h : t.find cwd p ≠ .error .nameTooLong) : p.length < pathLimit := by
  refine Nat.not_le.1 fun hl => h ?_
  simp [find, locate_of_long t cwd hl, bind, Except.bind]

end FileTree

/-! ## The two ways to write a candidate -/

namespace Path

open Bytes

variable {d name : Path}

theorem join_of_not_hasSlash (h : hasSlash name = false) :
    join d name = if d = [] ∨ endsInSlash d = true then d ++ name else d ++ slash :: name := by
  simp only [join, not_isAbsolute_of_not_hasSlash h, Bool.false_eq_true, if_false]

theorem isAbsolute_append (hd : d ≠ []) (p : Path) : isAbsolute (d ++ p) = isAbsolute d := by
  cases d with
  | nil => exact absurd rfl hd
  | cons b d => rfl

theorem steps_ne_nil (p : Path) : steps p ≠ [] :=
  split_ne_nil slash p

/-- The last step of a name joined to a directory is the name. -/
theorem steps_join (h : hasSlash name = false) : ∃ a, steps (join d name) = a ++ [name] := by
  rw [join_of_not_hasSlash h]
  by_cases hd : d = []
  · subst hd
    exact ⟨[], by simp [steps_of_not_hasSlash h]⟩
  cases he : endsInSlash d with
  | true =>
    obtain ⟨front, rfl⟩ := endsInSlash_iff.1 he
    refine ⟨steps front, ?_⟩
    rw [if_pos (Or.inr rfl), List.append_assoc, List.singleton_append, steps_append,
      steps_of_not_hasSlash h]
  | false =>
    refine ⟨steps d, ?_⟩
    rw [if_neg (by simp [hd]), steps_append, steps_of_not_hasSlash h]

end Path

namespace World

open Bytes CmakeDriver.Path

variable {w : World} {d name : Path}

theorem soughtPart_of_short (h : name.length ≤ FileTree.maxName) : soughtPart name = name :=
  List.take_of_length_le (Nat.le_succ_of_le h)

theorem soughtPart_hasSlash (h : hasSlash name = false) : hasSlash (soughtPart name) = false :=
  hasSlash_eq_false_iff.2 fun hm => hasSlash_eq_false_iff.1 h (List.mem_of_mem_take hm)

/-- The last step of a candidate is the part of the name that is looked for. -/
theorem steps_candidate (h : hasSlash name = false) :
    ∃ a, steps (candidate d name) = a ++ [soughtPart name] := by
  have hs := steps_of_not_hasSlash (soughtPart_hasSlash h)
  unfold candidate
  split
  · exact ⟨[], by rw [hs, List.nil_append]⟩
  · exact ⟨steps d, by rw [steps_append, hs]⟩

/-- **The candidates of one directory name the same.** -/
theorem locate_join_eq_candidate {t : FileTree} {cwd : Location} (hs : hasSlash name = false)
    (hl : name.length ≤ FileTree.maxName)
    (hj : (join d name).length < FileTree.pathLimit)
    (hc : (candidate d name).length < FileTree.pathLimit) :
    t.locate cwd (join d name) = t.locate cwd (candidate d name) := by
  rw [join_of_not_hasSlash hs] at hj ⊢
  unfold candidate at hc ⊢
  rw [soughtPart_of_short hl] at hc ⊢
  by_cases hd : d = []
  · simp [hd]
  rw [if_neg hd] at hc ⊢
  cases he : endsInSlash d with
  | false => simp [hd]
  | true =>
    rw [if_pos (Or.inr he)] at hj
    rw [if_pos (Or.inr rfl), FileTree.locate_of_short (by simp [hd]) hj,
      FileTree.locate_of_short (by simp) hc, isAbsolute_append hd, isAbsolute_append hd]
    obtain ⟨front, rfl⟩ := endsInSlash_iff.1 he
    have hfront : steps (front ++ [slash]) = steps front ++ [[]] := steps_append front []
    rw [steps_append, hfront, List.append_assoc front, List.singleton_append, steps_append,
      List.append_assoc (steps front), List.singleton_append,
      FileTree.walk_skip _ _ _ _ (steps_ne_nil name)]

/-! ## Paths made absolute -/

/-- What holds of every world that a program can find itself in: its current directory is there,
under names that a directory can hold, and no variable holds a NUL. -/
structure WellFormed (w : World) : Prop where
  cwd : w.tree.IsDirectory w.cwd
  names : ∀ name ∈ w.cwd, FileTree.ProperName name
  noNul : ∀ e ∈ w.environment.entries, 0 ∉ e.1 ∧ 0 ∉ e.2

theorem steps_names {dir : Location} (h : ∀ name ∈ dir, slash ∉ name) :
    steps (dir.reverse.flatMap fun name => slash :: name) = [] :: dir.reverse := by
  induction dir with
  | nil => rfl
  | cons name dir ih =>
    have hname : steps name = [name] := split_of_not_mem (h name List.mem_cons_self)
    rw [List.reverse_cons, List.flatMap_append, List.flatMap_singleton, steps_append,
      ih fun m hm => h m (List.mem_cons_of_mem _ hm), hname, List.cons_append]

theorem steps_absolute (hw : w.WellFormed) {p : Path} (hp : isAbsolute p = false) :
    steps (w.absolute p) = [] :: (w.cwd.reverse ++ steps p) := by
  unfold absolute
  cases hc : w.cwd with
  | nil =>
    rw [pathOf, join, if_neg (by simp [hp]), if_pos (Or.inr (by decide))]
    exact steps_append [] p
  | cons name dir =>
    have hsteps : steps (pathOf (name :: dir)) = [] :: (name :: dir).reverse := by
      refine steps_names fun m hm => ?_
      exact (hw.names m (hc ▸ hm)).no_slash
    have hends : endsInSlash (pathOf (name :: dir)) = false := by
      refine Bool.eq_false_iff.2 fun he => ?_
      -- A path that ends in a slash has an empty last step, and no name is empty.
      obtain ⟨front, hf⟩ := endsInSlash_iff.1 he
      have hlast := congrArg List.getLast? hsteps
      rw [hf, steps_append, show steps [] = [[]] from rfl, List.reverse_cons, ← List.cons_append,
        List.getLast?_concat, List.getLast?_concat] at hlast
      exact (hw.names name (hc ▸ List.mem_cons_self)).ne_nil (Option.some.inj hlast).symm
    have hnil : pathOf (name :: dir) ≠ [] := fun hn => by
      rw [hn] at hsteps
      simp [show steps [] = [[]] from rfl] at hsteps
    rw [join, if_neg (by simp [hp]), if_neg (by simp [hends, hnil]), steps_append, hsteps,
      List.cons_append]

/-- **A path made absolute names what it named.** -/
theorem locate_absolute (hw : w.WellFormed) {p : Path} (hp : p ≠ [])
    (hl : (w.absolute p).length < FileTree.pathLimit) :
    w.tree.locate w.cwd (w.absolute p) = w.tree.locate w.cwd p := by
  cases ha : isAbsolute p with
  | true => rw [absolute, join_of_isAbsolute ha]
  | false =>
    have habs := isAbsolute_absolute w p
    have hne : w.absolute p ≠ [] := fun hn => by
      rw [hn] at habs
      exact absurd habs (by decide)
    have hlen : p.length ≤ (w.absolute p).length := by
      unfold absolute join
      split
      · exact Nat.le_refl _
      split
      · simp
      · simp only [List.length_append, List.length_cons]
        omega
    have hskip := FileTree.walk_skip w.tree FileTree.maxLinks [] []
      (List.append_ne_nil_of_right_ne_nil w.cwd.reverse (steps_ne_nil p))
    simp only [List.nil_append] at hskip
    rw [FileTree.locate_of_short hne hl, FileTree.locate_of_short hp (by omega), habs, ha,
      if_pos rfl, if_neg Bool.false_ne_true, steps_absolute hw ha, hskip,
      FileTree.walk_down hw.cwd hw.names]

/-! ## Starting a candidate -/

/-- A text at this path that may be run names an interpreter that can be started. -/
def TextsRun (w : World) (p : Path) : Prop :=
  ∀ content, w.tree.find w.cwd p = .ok (.file content true) →
    ∀ args, ∃ image, w.image maxOpened (.text content) p args = .ok image

theorem find_of_startable_program {p : Path} {program : Program}
    (h : w.startable p = .ok (.program program)) :
    w.tree.find w.cwd p = .ok (.program program true) := by
  unfold startable at h
  split at h
  · exact absurd h (by simp)
  · rename_i hf
    rw [hf, Startable.program.inj (Except.ok.inj h)]
  · exact absurd h (by simp)
  · exact absurd h (by simp)

theorem startable_of_interpreter {p : Path} {found : Startable}
    (h : w.startableInterpreter p = .ok found) : w.startable p = .ok found := by
  unfold startableInterpreter at h
  split at h
  · exact absurd h (by simp)
  · exact h

/-- **What is called is a program file**, and its arguments end in those that were handed on: behind
a script stand what its interpreter is told and its own path. -/
theorem call_of_image {room : Nat} {found : Startable} {p : Path} {args : List Bytes}
    {image : Image} (hs : w.startable p = .ok found)
    (h : w.image room found p args = .ok image) :
    ∃ q front, image.call = some (q, front ++ args) ∧
      w.tree.find w.cwd q = .ok (.program image.program true) := by
  induction room generalizing found p args with
  | zero => cases found <;> exact absurd h (by simp [World.image])
  | succ room ih =>
    cases found with
    | program program =>
      rw [World.image] at h
      split at h
      · exact absurd h (by simp)
      · rw [← Except.ok.inj h]
        exact ⟨p, [], rfl, find_of_startable_program hs⟩
    | text content =>
      rw [World.image] at h
      split at h
      · exact absurd h (by simp)
      · rename_i i _
        split at h
        · exact absurd h (by simp)
        · rename_i next hnext
          obtain ⟨q, front, hcall, hfile⟩ := ih (startable_of_interpreter hnext) h
          refine ⟨q, front ++ i.argument.toList ++ [p], ?_, hfile⟩
          rw [hcall]
          simp

theorem attempt_of_holdsRunnable {p : Path} (h : w.holdsRunnable p = true) (ht : w.TextsRun p)
    (args : List Bytes) :
    ∃ image c, w.attempt false p args = .ok image ∧ image.call = some c := by
  have hf : (∃ program, w.tree.find w.cwd p = .ok (.program program true)) ∨
      ∃ content, w.tree.find w.cwd p = .ok (.file content true) := by
    unfold holdsRunnable FileTree.holdsRunnable at h
    cases hf : w.tree.find w.cwd p with
    | error e => rw [hf] at h; simp at h
    | ok e =>
      rw [hf] at h
      cases e with
      | directory => simp at h
      | link target => simp at h
      | file content executable => simp at h; exact Or.inr ⟨content, by rw [h.2]⟩
      | program program executable => simp at h; exact Or.inl ⟨program, by rw [h.2]⟩
  rcases hf with ⟨program, hf⟩ | ⟨content, hf⟩
  · exact ⟨_, _, attempt_of_program w false hf args, rfl⟩
  · obtain ⟨image, hi⟩ := ht content hf args
    have hs : w.startable p = .ok (.text content) := by simp [startable, hf]
    obtain ⟨q, front, hcall, -⟩ := call_of_image hs hi
    refine ⟨image, _, ?_, hcall⟩
    simp only [attempt, hs, hi]

theorem attempt_of_not_holdsRunnable {p : Path} (h : w.holdsRunnable p = false) (hp : 0 ∉ p)
    (args : List Bytes) :
    ∃ e, w.attempt false p args = .error e ∧
      (e = .permissionDenied ∨ w.tree.find w.cwd p = .error e) := by
  have hs : ∃ e, w.startable p = .error e ∧
      (e = .permissionDenied ∨ w.tree.find w.cwd p = .error e) := by
    unfold holdsRunnable FileTree.holdsRunnable at h
    unfold startable
    cases hf : w.tree.find w.cwd p with
    | error e => exact ⟨e, rfl, Or.inr rfl⟩
    | ok e =>
      rw [hf] at h
      cases e with
      | directory => exact ⟨_, rfl, Or.inl rfl⟩
      | link target => exact ⟨_, rfl, Or.inl rfl⟩
      | file content executable =>
        obtain rfl : executable = false := by simpa [hp] using h
        exact ⟨_, rfl, Or.inl rfl⟩
      | program program executable =>
        obtain rfl : executable = false := by simpa [hp] using h
        exact ⟨_, rfl, Or.inl rfl⟩
  obtain ⟨e, he, hor⟩ := hs
  exact ⟨e, by simp only [attempt, he], hor⟩

end World

end CmakeDriver
