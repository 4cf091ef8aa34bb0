import CmakeDriver.Proofs.Bindings
import CmakeDriver.World.Environment

/-!
# What a program reads from its environment

A program gets its variables in the order of their names, so it does not matter in which order they
were set: what it reads depends on the values alone.

Results:
* `readBack?_congr`, `searchPath?_congr`: environments with the same values are read alike.
* `readBack?_congr_of_alikeBut`: so are those that differ in a variable that is not read.
-/

namespace CmakeDriver

namespace Environment

variable {e e' : Environment}

/-- Variables in the order of their names. -/
def inOrder (entries : List (Bytes × Bytes)) : List (Bytes × Bytes) :=
  entries.mergeSort fun a b => decide (a.1 ≤ b.1)

theorem inOrder_perm (entries : List (Bytes × Bytes)) : (inOrder entries).Perm entries :=
  List.mergeSort_perm _ _

theorem pairwise_inOrder (entries : List (Bytes × Bytes)) :
    (inOrder entries).Pairwise fun a b => decide (a.1 ≤ b.1) = true := by
  refine List.pairwise_mergeSort (fun a b c hab hbc => ?_) (fun a b => ?_) entries
  · exact decide_eq_true (List.le_trans (of_decide_eq_true hab) (of_decide_eq_true hbc))
  · rw [Bool.or_eq_true, decide_eq_true_eq, decide_eq_true_eq]
    exact List.le_total a.1 b.1

/-- **The order in which variables were set does not matter**, for no name stands twice. -/
theorem inOrder_congr (h : e.Same e') (p : Bytes × Bytes → Bool) :
    inOrder (e.entries.filter p) = inOrder (e'.entries.filter p) := by
  have hperm : (e.entries.filter p).Perm (e'.entries.filter p) := h.perm.filter p
  refine List.Perm.eq_of_pairwise (fun a b ha hb hab hba => ?_) (pairwise_inOrder _)
    (pairwise_inOrder _) ((inOrder_perm _).trans (hperm.trans (inOrder_perm _).symm))
  have ha' : a ∈ e'.entries :=
    (List.mem_filter.1 (hperm.subset ((inOrder_perm _).subset ha))).1
  have hb' : b ∈ e'.entries := (List.mem_filter.1 ((inOrder_perm _).subset hb)).1
  exact List.inj_on_of_nodup_map e'.distinct ha' hb'
    (List.le_antisymm (of_decide_eq_true hab) (of_decide_eq_true hba))

theorem readBack?_congr (h : e.Same e') (name : String) :
    e.readBack? name = e'.readBack? name := by
  have hl : e.lookup name = e'.lookup name := h _
  unfold readBack?
  rw [hl]
  cases e'.lookup name with
  | some v => rfl
  | none =>
    have hsorted := inOrder_congr h fun entry => (entryHead name).isPrefixOf entry.1
    unfold inOrder at hsorted
    simp only [hsorted]

theorem searchPath?_congr (h : e.Same e') : e.searchPath? = e'.searchPath? := by
  rw [searchPath?, searchPath?, readBack?_congr h]

/-! ## Variables that are not read -/

/-- A variable is read for a name if it is named so, or goes on behind it and an equals sign. -/
theorem readBack?_erase {other : Bytes} {name : String} (hne : Bytes.ofString name ≠ other)
    (hhead : ¬ entryHead name <+: other) :
    readBack? (e.erase other) name = e.readBack? name := by
  have hlookup : lookup (e.erase other) name = e.lookup name := by
    rw [lookup, Bindings.get?_erase, if_neg hne, lookup]
  have hothers : ((e.erase other).entries.filter fun v => (entryHead name).isPrefixOf v.1) =
      e.entries.filter fun v => (entryHead name).isPrefixOf v.1 := by
    rw [Bindings.erase, List.filter_filter]
    refine List.filter_congr fun v _ => ?_
    cases hv : (entryHead name).isPrefixOf v.1 with
    | false => rfl
    | true =>
      have hprefix : entryHead name <+: v.1 := List.isPrefixOf_iff_prefix.1 hv
      exact decide_eq_true fun he => hhead (he ▸ hprefix)
  unfold readBack?
  rw [hlookup, hothers]

/-- **A variable that is not read does not matter** to what is read. -/
theorem readBack?_congr_of_alikeBut {other : Bytes} (h : e.AlikeBut other e') {name : String}
    (hne : Bytes.ofString name ≠ other) (hhead : ¬ entryHead name <+: other) :
    e.readBack? name = e'.readBack? name := by
  rw [← readBack?_erase hne hhead, readBack?_congr h.same_erase, readBack?_erase hne hhead]

end Environment

end CmakeDriver
