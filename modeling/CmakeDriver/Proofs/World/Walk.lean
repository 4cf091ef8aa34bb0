import CmakeDriver.World.Basic

/-!
# Walking along paths

A walk that has steps left when it leaves a stretch of its path has come to a directory, and goes on
from there as any walk does. So an empty step in the middle of a path does not matter, one at its
end asks for a directory, and an over-long name at its end is never found.

Results:
* `walk_skip`: an empty step with others behind it changes nothing.
* `walk_append`: where a walk along two stretches passes from one to the other.
* `isDirectory_of_walk`, `walk_long`: what an empty or an over-long last step does.
* `walk_down`: the names on the way to a directory lead to it.
* `find_fault`: why a path can name nothing.
* `steps_append`: the steps of two paths with a slash between them.
-/

namespace CmakeDriver

/-- The faults of a path that names nothing. -/
inductive OsFault.NamesNothing : OsFault → Prop
  | notFound : NamesNothing .notFound
  | notADirectory : NamesNothing .notADirectory
  | nameTooLong : NamesNothing .nameTooLong
  | tooManyLinks : NamesNothing .tooManyLinks

namespace FileTree

variable {t : FileTree}

/-- How a walk goes on behind a link when it may follow so many. -/
def behindLink (t : FileTree) : (links : Nat) → Location → List Bytes → Except OsFault Location
  | 0 => fun _ _ => .error .tooManyLinks
  | links + 1 => t.walk links

theorem walk_eq (t : FileTree) (links : Nat) :
    t.walk links = t.descend (t.behindLink links) := by
  cases links <;> rfl

/-! ## Empty steps -/

theorem descend_skip {follow : Location → List Bytes → Except OsFault Location} {b : List Bytes}
    (hb : b ≠ [])
    (hfollow : ∀ dir a, follow dir (a ++ [] :: b) = follow dir (a ++ b))
    (dir : Location) (a : List Bytes) :
    t.descend follow dir (a ++ [] :: b) = t.descend follow dir (a ++ b) := by
  induction a generalizing dir with
  | nil => simp [descend]
  | cons step a ih =>
    simp only [List.cons_append, descend, ih]
    split
    · rfl
    split
    · rfl
    split
    · rfl
    cases t.get? (step :: dir) with
    | none => rfl
    | some e =>
      cases e with
      | directory => rfl
      | link target => simp only [← List.append_assoc, hfollow]
      | file content executable => simp [hb]
      | program program executable => simp [hb]

theorem walk_skip (t : FileTree) (links : Nat) (dir : Location) (a : List Bytes) {b : List Bytes}
    (hb : b ≠ []) : t.walk links dir (a ++ [] :: b) = t.walk links dir (a ++ b) := by
  induction links generalizing dir a with
  | zero =>
    rw [walk_eq]
    exact descend_skip hb (fun _ _ => rfl) dir a
  | succ links ih =>
    rw [walk_eq]
    exact descend_skip hb (fun dir a => ih dir a) dir a

/-! ## From one stretch to the next -/

/-- All that stands on the way to a location is a directory, and so is what stands there. -/
def IsDirectory (t : FileTree) : Location → Prop
  | [] => True
  | name :: dir => t.get? (name :: dir) = some .directory ∧ IsDirectory t dir

theorem IsDirectory.tail {dir : Location} (h : t.IsDirectory dir) : t.IsDirectory dir.tail := by
  cases dir with
  | nil => trivial
  | cons name dir => exact h.2

theorem IsDirectory.get? {dir : Location} (h : t.IsDirectory dir) :
    t.get? dir = some .directory := by
  cases dir with
  | nil => rfl
  | cons name dir => exact h.1

/-- A walk fails, or it goes on along `b` from a directory. -/
def GoesOn (t : FileTree) (b : List Bytes) (r : Except OsFault Location) : Prop :=
  (∃ e, r = .error e) ∨ ∃ links dir, t.IsDirectory dir ∧ r = t.walk links dir b

theorem descend_append (links : Nat) {b : List Bytes} (hb : b ≠ [])
    (hfollow : ∀ dir a, t.IsDirectory dir → t.GoesOn b (t.behindLink links dir (a ++ b)))
    {dir : Location} (hd : t.IsDirectory dir) (a : List Bytes) :
    t.GoesOn b (t.descend (t.behindLink links) dir (a ++ b)) := by
  induction a generalizing dir with
  | nil => exact Or.inr ⟨links, dir, hd, by rw [walk_eq, List.nil_append]⟩
  | cons step a ih =>
    simp only [List.cons_append, descend]
    split
    · exact ih hd
    split
    · exact ih hd.tail
    split
    · exact Or.inl ⟨_, rfl⟩
    cases he : t.get? (step :: dir) with
    | none => exact Or.inl ⟨_, rfl⟩
    | some e =>
      cases e with
      | directory =>
        have hd' : t.IsDirectory (step :: dir) := ⟨he, hd⟩
        exact ih hd'
      | link target =>
        simp only [← List.append_assoc]
        refine hfollow _ _ ?_
        split
        · trivial
        · exact hd
      | file content executable => exact Or.inl ⟨.notADirectory, by simp [hb]⟩
      | program program executable => exact Or.inl ⟨.notADirectory, by simp [hb]⟩

/-- **A walk with steps left has come to a directory.** -/
theorem walk_append (links : Nat) {dir : Location} (hd : t.IsDirectory dir) (a : List Bytes)
    {b : List Bytes} (hb : b ≠ []) : t.GoesOn b (t.walk links dir (a ++ b)) := by
  induction links generalizing dir a with
  | zero =>
    rw [walk_eq]
    exact descend_append 0 hb (fun _ _ _ => Or.inl ⟨_, rfl⟩) hd a
  | succ links ih =>
    rw [walk_eq]
    exact descend_append (links + 1) hb (fun dir a h => ih h a) hd a

/-- A path with an empty step at its end names a directory, if anything. -/
theorem isDirectory_of_walk {links : Nat} {dir l : Location} (hd : t.IsDirectory dir)
    {a : List Bytes} (h : t.walk links dir (a ++ [[]]) = .ok l) : t.IsDirectory l := by
  rcases walk_append links hd a (List.cons_ne_nil _ _) with ⟨e, he⟩ | ⟨m, d, hdir, hw⟩
  · rw [he] at h
    exact absurd h (by simp)
  · rw [hw, walk_eq] at h
    have hl : d = l := by simpa [descend] using h
    exact hl ▸ hdir

/-- A path whose last step is an over-long name names nothing. -/
theorem walk_long (links : Nat) {dir : Location} (hd : t.IsDirectory dir) (a : List Bytes)
    {name : Bytes} (h : maxName < name.length) :
    ∃ e, t.walk links dir (a ++ [name]) = .error e := by
  rcases walk_append links hd a (List.cons_ne_nil name []) with he | ⟨m, d, -, hw⟩
  · exact he
  · have hne : ∀ short : Bytes, short.length ≤ maxName → name ≠ short := by
      rintro short hs rfl
      omega
    refine ⟨.nameTooLong, ?_⟩
    rw [hw, walk_eq, descend]
    simp only [hne [] (by decide), hne Path.here (by decide), hne Path.up (by decide), h,
      or_self, if_false, if_true]

/-! ## Down to a directory -/

/-- A name that a directory can hold. -/
structure ProperName (name : Bytes) : Prop where
  ne_nil : name ≠ []
  ne_here : name ≠ Path.here
  ne_up : name ≠ Path.up
  length_le : name.length ≤ maxName
  no_slash : Bytes.slash ∉ name
  no_nul : 0 ∉ name

theorem walk_down {dir : Location} (hd : t.IsDirectory dir) (hn : ∀ name ∈ dir, ProperName name)
    (links : Nat) (rest : List Bytes) :
    t.walk links [] (dir.reverse ++ rest) = t.walk links dir rest := by
  induction dir generalizing rest with
  | nil => rfl
  | cons name dir ih =>
    have hp := hn name List.mem_cons_self
    rw [List.reverse_cons, List.append_assoc,
      ih hd.2 (fun m hm => hn m (List.mem_cons_of_mem _ hm)), walk_eq, List.singleton_append,
      descend]
    simp only [hp.ne_nil, hp.ne_here, hp.ne_up, Nat.not_lt.2 hp.length_le, hd.1, or_self,
      if_false]

/-! ## Paths that name nothing -/

theorem descend_fault {follow : Location → List Bytes → Except OsFault Location}
    (hfollow : ∀ dir steps e, follow dir steps = .error e → e.NamesNothing) {dir : Location}
    {steps : List Bytes} {e : OsFault} (h : t.descend follow dir steps = .error e) :
    e.NamesNothing := by
  induction steps generalizing dir with
  | nil => exact absurd h (by simp [descend])
  | cons step rest ih =>
    rw [descend] at h
    split at h
    · exact ih h
    split at h
    · exact ih h
    split at h
    · cases h
      exact .nameTooLong
    split at h
    · cases h
      exact .notFound
    · exact ih h
    · exact hfollow _ _ _ h
    · split at h
      · exact absurd h (by simp)
      · cases h
        exact .notADirectory

theorem walk_fault {links : Nat} {dir : Location} {steps : List Bytes} {e : OsFault}
    (h : t.walk links dir steps = .error e) : e.NamesNothing := by
  induction links generalizing dir steps e with
  | zero =>
    refine descend_fault (fun _ _ _ hf => ?_) h
    cases hf
    exact .tooManyLinks
  | succ links ih => exact descend_fault (fun _ _ _ hf => ih hf) h

/-- **A look-up fails for one of four reasons.** Whether a file may be read or run is not among
them. -/
theorem find_fault {cwd : Location} {p : Path} {e : OsFault} (h : t.find cwd p = .error e) :
    e.NamesNothing := by
  unfold find at h
  cases hl : t.locate cwd p with
  | error f =>
    rw [hl] at h
    obtain rfl : f = e := Except.error.inj h
    unfold locate at hl
    split at hl
    · cases hl
      exact .notFound
    split at hl
    · cases hl
      exact .nameTooLong
    · exact walk_fault hl
  | ok l =>
    simp only [hl, bind, Except.bind] at h
    split at h
    · exact absurd h (by simp)
    · cases h
      exact .notFound

end FileTree

/-! ## The steps of composed paths -/

namespace Bytes

theorem split_append (sep : UInt8) (a b : Bytes) :
    split sep (a ++ sep :: b) = split sep a ++ split sep b := by
  induction a with
  | nil => simp [split]
  | cons c a ih =>
    rw [List.cons_append, split, split, ih]
    split
    · rfl
    · cases h : split sep a with
      | nil => exact absurd h (split_ne_nil sep a)
      | cons part parts => rfl

theorem split_of_not_mem {sep : UInt8} {b : Bytes} (h : sep ∉ b) : split sep b = [b] := by
  induction b with
  | nil => rfl
  | cons c b ih =>
    rw [List.mem_cons, not_or] at h
    rw [split, if_neg (Ne.symm h.1), ih h.2]

end Bytes

namespace Path

open Bytes

theorem steps_append (p q : Path) : steps (p ++ slash :: q) = steps p ++ steps q :=
  split_append slash p q

theorem hasSlash_eq_false_iff {p : Path} : hasSlash p = false ↔ slash ∉ p := by
  simp [hasSlash]

theorem steps_of_not_hasSlash {p : Path} (h : hasSlash p = false) : steps p = [p] :=
  split_of_not_mem (hasSlash_eq_false_iff.1 h)

theorem not_isAbsolute_of_not_hasSlash {p : Path} (h : hasSlash p = false) :
    isAbsolute p = false := by
  cases p with
  | nil => rfl
  | cons b p =>
    rw [hasSlash_eq_false_iff, List.mem_cons, not_or] at h
    simp [isAbsolute, Ne.symm h.1]

theorem endsInSlash_iff {p : Path} : endsInSlash p = true ↔ ∃ front, p = front ++ [slash] := by
  simp only [endsInSlash, beq_iff_eq, List.getLast?_eq_some_iff]

end Path

end CmakeDriver
