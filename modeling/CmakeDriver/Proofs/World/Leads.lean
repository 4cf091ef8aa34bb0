import CmakeDriver.Proofs.World.Candidate

/-!
# Where a path leads

A path leads step by step from directory to directory. A link leads on along its target, and then
along the steps behind it; what is neither a directory nor a link can only come last. So a path
exists through links if it leads somewhere without taking too many of them, and something is there.
That is what looking a path up finds out, and each fault of the look-up counts as absence.

Results:
* `walk_eq_ok_iff`: a walk arrives where the steps lead with as many links as it may follow.
* `holds_iff_exists`: a path is found exactly if it exists through links.
* `inside_iff`: a name joined to a folder is its path inside the folder.
-/

namespace CmakeDriver

namespace FileTree

variable {t : FileTree} {dir l : Location} {steps : List Bytes} {links n : Nat}

/-- A step that goes down, with a name that is not too long. -/
structure GoesDown (step : Bytes) : Prop where
  ne_nil : step ≠ []
  ne_here : step ≠ Path.here
  ne_up : step ≠ Path.up
  length_le : step.length ≤ maxName

/-- The directory from which a path goes on: the root, or the one at `dir`. -/
def startOf (p : Path) (dir : Location) : Location :=
  if Path.isAbsolute p then [] else dir

/-- **Steps lead from a directory to a location**, through `n` links. -/
inductive Leads (t : FileTree) : Location → List Bytes → (links : Nat) → Location → Prop
  | arrived (dir : Location) : Leads t dir [] 0 dir
  | stays {dir l : Location} {step : Bytes} {rest : List Bytes} {n : Nat}
      (hstep : step = [] ∨ step = Path.here) (h : Leads t dir rest n l) :
      Leads t dir (step :: rest) n l
  | up {dir l : Location} {rest : List Bytes} {n : Nat} (h : Leads t dir.tail rest n l) :
      Leads t dir (Path.up :: rest) n l
  | down {dir l : Location} {step : Bytes} {rest : List Bytes} {n : Nat} (hstep : GoesDown step)
      (hdir : t.get? (step :: dir) = some .directory) (h : Leads t (step :: dir) rest n l) :
      Leads t dir (step :: rest) n l
  | through {dir l : Location} {step : Bytes} {rest : List Bytes} {n : Nat} {target : Path}
      (hstep : GoesDown step) (hlink : t.get? (step :: dir) = some (.link target))
      (h : Leads t (startOf target dir) (Path.steps target ++ rest) n l) :
      Leads t dir (step :: rest) (n + 1) l
  | last {dir : Location} {step : Bytes} {e : Entry} (hstep : GoesDown step)
      (he : t.get? (step :: dir) = some e) (hdir : e ≠ .directory) (hlink : e.isLink = false) :
      Leads t dir [step] 0 (step :: dir)

theorem descend_of_goesDown {follow : Location → List Bytes → Except OsFault Location}
    {step : Bytes} (hstep : GoesDown step) (rest : List Bytes) :
    t.descend follow dir (step :: rest) =
      match t.get? (step :: dir) with
      | none => .error .notFound
      | some .directory => t.descend follow (step :: dir) rest
      | some (.link target) => follow (startOf target dir) (Path.steps target ++ rest)
      | some _ => if rest = [] then .ok (step :: dir) else .error .notADirectory := by
  rw [descend, if_neg (not_or.2 ⟨hstep.ne_nil, hstep.ne_here⟩), if_neg hstep.ne_up,
    if_neg (Nat.not_lt.2 hstep.length_le)]
  rfl

/-! ## A walk arrives where its steps lead -/

theorem leads_of_descend {follow : Location → List Bytes → Except OsFault Location}
    (hfollow : ∀ dir steps l, follow dir steps = .ok l → ∃ n, n + 1 ≤ links ∧ t.Leads dir steps n l)
    (h : t.descend follow dir steps = .ok l) : ∃ n ≤ links, t.Leads dir steps n l := by
  induction steps generalizing dir with
  | nil =>
    obtain rfl : dir = l := Except.ok.inj h
    exact ⟨0, Nat.zero_le _, .arrived dir⟩
  | cons step rest ih =>
    by_cases hstays : step = [] ∨ step = Path.here
    · rw [descend, if_pos hstays] at h
      obtain ⟨n, hn, hl⟩ := ih h
      exact ⟨n, hn, .stays hstays hl⟩
    by_cases hup : step = Path.up
    · subst hup
      rw [descend, if_neg hstays, if_pos rfl] at h
      obtain ⟨n, hn, hl⟩ := ih h
      exact ⟨n, hn, .up hl⟩
    by_cases hlong : maxName < step.length
    · rw [descend, if_neg hstays, if_neg hup, if_pos hlong] at h
      exact absurd h (by simp)
    obtain ⟨hnil, hhere⟩ := not_or.1 hstays
    have hstep : GoesDown step := ⟨hnil, hhere, hup, Nat.not_lt.1 hlong⟩
    rw [descend_of_goesDown hstep] at h
    cases he : t.get? (step :: dir) with
    | none =>
      rw [he] at h
      exact absurd h (by simp)
    | some e =>
      simp only [he] at h
      have hlast (hdir : e ≠ .directory) (hlink : e.isLink = false)
          (h : (if rest = [] then Except.ok (step :: dir) else .error OsFault.notADirectory) =
            .ok l) : ∃ n ≤ links, t.Leads dir (step :: rest) n l := by
        split at h
        · next hrest =>
          obtain rfl : step :: dir = l := Except.ok.inj h
          exact hrest ▸ ⟨0, Nat.zero_le _, .last hstep he hdir hlink⟩
        · exact absurd h (by simp)
      cases e with
      | directory =>
        obtain ⟨n, hn, hl⟩ := ih h
        exact ⟨n, hn, .down hstep he hl⟩
      | link target =>
        obtain ⟨n, hn, hl⟩ := hfollow _ _ _ h
        exact ⟨n + 1, hn, .through hstep he hl⟩
      | file content executable => exact hlast (by simp) rfl h
      | program program executable => exact hlast (by simp) rfl h

theorem leads_of_walk (h : t.walk links dir steps = .ok l) :
    ∃ n ≤ links, t.Leads dir steps n l := by
  induction links generalizing dir steps l with
  | zero =>
    rw [walk_eq] at h
    exact leads_of_descend (fun _ _ _ hf => absurd hf (by simp [behindLink])) h
  | succ links ih =>
    rw [walk_eq] at h
    refine leads_of_descend (fun dir steps l hf => ?_) h
    obtain ⟨n, hn, hl⟩ := ih hf
    exact ⟨n, Nat.succ_le_succ hn, hl⟩

theorem walk_of_leads (h : t.Leads dir steps n l) (hn : n ≤ links) :
    t.walk links dir steps = .ok l := by
  induction h generalizing links with
  | arrived =>
    rw [walk_eq]
    rfl
  | stays hstep _ ih =>
    rw [walk_eq, descend, if_pos hstep, ← walk_eq]
    exact ih hn
  | up _ ih =>
    rw [walk_eq, descend, if_neg (by decide), if_pos rfl, ← walk_eq]
    exact ih hn
  | down hstep hdir _ ih =>
    rw [walk_eq, descend_of_goesDown hstep, hdir, ← walk_eq]
    exact ih hn
  | through hstep hlink _ ih =>
    obtain ⟨m, rfl⟩ := Nat.exists_eq_add_of_le' hn
    rw [walk_eq, descend_of_goesDown hstep, hlink]
    exact ih (Nat.le_add_left _ _)
  | @last dir step e hstep he hdir hlink =>
    rw [walk_eq, descend_of_goesDown hstep, he]
    cases e with
    | directory => exact absurd rfl hdir
    | link target => exact absurd hlink (by simp [Entry.isLink])
    | file => rfl
    | program => rfl

/-- **A walk arrives where its steps lead**, if it may follow enough links. -/
theorem walk_eq_ok_iff : t.walk links dir steps = .ok l ↔ ∃ n ≤ links, t.Leads dir steps n l :=
  ⟨leads_of_walk, fun ⟨_, hn, h⟩ => walk_of_leads h hn⟩

end FileTree

/-! ## What exists -/

namespace World

variable {w : World} {p : Path}

/-- **A path exists through links**: it can be the path of something, and leads through no more
links than may be followed to a place where something is. -/
structure Exists (w : World) (p : Path) : Prop where
  no_nul : 0 ∉ p
  ne_nil : p ≠ []
  length_lt : p.length < FileTree.pathLimit
  leads : ∃ n ≤ FileTree.maxLinks, ∃ l e,
    w.tree.Leads (FileTree.startOf p w.cwd) (Path.steps p) n l ∧ w.tree.get? l = some e

/-- **A path is found exactly if it exists through links.** -/
theorem holds_iff_exists : w.holds p = true ↔ w.Exists p := by
  refine (FileTree.holds_iff w.tree w.cwd p).trans ?_
  constructor
  · rintro ⟨hnul, e, he⟩
    obtain ⟨l, hl, hentry⟩ := FileTree.exists_locate_of_find he
    obtain ⟨n, hn, hleads⟩ := FileTree.walk_eq_ok_iff.1 (FileTree.locate_eq_walk hl)
    have hnil : p ≠ [] := by
      rintro rfl
      exact absurd hl (by simp [FileTree.locate_nil])
    have hlength : p.length < FileTree.pathLimit := by
      refine Nat.lt_of_not_le fun hlong => ?_
      rw [FileTree.locate_of_long _ _ hlong] at hl
      exact absurd hl (by simp)
    exact ⟨hnul, hnil, hlength, n, hn, l, e, hleads, hentry⟩
  · rintro ⟨hnul, hnil, hlength, n, hn, l, e, hleads, hentry⟩
    have hl : w.tree.locate w.cwd p = .ok l :=
      (FileTree.locate_of_short hnil hlength).trans (FileTree.walk_of_leads hleads hn)
    exact ⟨hnul, e, FileTree.find_of_locate hl hentry⟩

end World

/-! ## Paths inside a folder -/

namespace Path

open Bytes

variable {name folder p : Path}

/-- **The path of a name inside a folder.** There is one slash between them; a folder that ends in
one needs no other, and the empty folder is the current directory. -/
inductive Inside (name : Path) : (folder : Path) → Path → Prop
  | current : Inside name [] name
  | behindSlash (front : Path) : Inside name (front ++ [slash]) (front ++ slash :: name)
  | plain {folder : Path} (hne : folder ≠ []) (hslash : ∀ front, folder ≠ front ++ [slash]) :
      Inside name folder (folder ++ slash :: name)

theorem inside_iff (h : isAbsolute name = false) : Inside name folder p ↔ p = join folder name := by
  unfold join
  rw [if_neg (Bool.eq_false_iff.1 h)]
  constructor
  · intro hp
    cases hp with
    | current => rfl
    | behindSlash front =>
      rw [if_pos (.inr (endsInSlash_iff.2 ⟨front, rfl⟩)), List.append_assoc, List.singleton_append]
    | plain hne hslash =>
      have hends : ¬ endsInSlash folder = true := fun he => by
        obtain ⟨front, hfront⟩ := endsInSlash_iff.1 he
        exact hslash front hfront
      rw [if_neg (not_or.2 ⟨hne, hends⟩)]
  · rintro rfl
    by_cases hne : folder = []
    · subst hne
      exact .current
    by_cases hends : endsInSlash folder = true
    · obtain ⟨front, rfl⟩ := endsInSlash_iff.1 hends
      rw [if_pos (.inr hends), List.append_assoc, List.singleton_append]
      exact .behindSlash front
    · rw [if_neg (not_or.2 ⟨hne, hends⟩)]
      exact .plain hne fun front hfront => hends (endsInSlash_iff.2 ⟨front, hfront⟩)

end Path

end CmakeDriver
