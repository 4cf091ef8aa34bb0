import CmakeDriver.Bindings
import Mathlib.Data.List.Nodup

/-!
# The pair that counts

Where pairs are bound one after the other, the last pair of a name counts.

Results:
* `find?_eq_some_iff_first`, `find?_eq_none_iff`: a look-up finds the first pair of a name.
* `filter_fst_eq`: where no name is bound twice, the pairs of a name are the one that is found.
* `get?_setAll_eq_some_iff`: after binding pairs a name has the value of its last pair, or else, if
  it has none, the value it had.
* `Same.perm`: bindings with the same values have the same entries, up to order.
* `AlikeBut.same_erase`: bindings that differ in one name are the same without it.
-/

namespace CmakeDriver

namespace Bindings

variable {α β : Type} [DecidableEq α] {name : α} {value : β}

theorem find?_eq_none_iff {l : List (α × β)} : find? name l = none ↔ ∀ p ∈ l, p.1 ≠ name := by
  induction l with
  | nil => simp [find?]
  | cons e rest ih =>
    obtain ⟨k, v⟩ := e
    by_cases hk : k = name
    · simp [find?, hk]
    · simp [find?, hk, ih]

theorem find?_eq_some_iff_first {l : List (α × β)} :
    find? name l = some value ↔
      ∃ before after, l = before ++ (name, value) :: after ∧ ∀ p ∈ before, p.1 ≠ name := by
  induction l with
  | nil => simp [find?]
  | cons e rest ih =>
    obtain ⟨k, v⟩ := e
    by_cases hk : k = name
    · subst hk
      simp only [find?, if_true, Option.some.injEq]
      constructor
      · rintro rfl
        exact ⟨[], rest, rfl, fun p hp => absurd hp List.not_mem_nil⟩
      · rintro ⟨before, after, h, hb⟩
        cases before with
        | nil => exact (Prod.mk.inj (List.cons.inj h).1).2
        | cons p before =>
          obtain ⟨rfl, -⟩ := List.cons.inj h
          exact absurd rfl (hb _ List.mem_cons_self)
    · simp only [find?, hk, if_false, ih]
      constructor
      · rintro ⟨before, after, rfl, hb⟩
        refine ⟨(k, v) :: before, after, rfl, fun p hp => ?_⟩
        rcases List.mem_cons.1 hp with rfl | hp
        · exact hk
        · exact hb p hp
      · rintro ⟨before, after, h, hb⟩
        cases before with
        | nil => exact absurd (Prod.mk.inj (List.cons.inj h).1).1 hk
        | cons p before =>
          obtain ⟨-, rfl⟩ := List.cons.inj h
          exact ⟨before, after, rfl, fun q hq => hb q (List.mem_cons_of_mem _ hq)⟩

theorem find?_tail_of_nodup {rest : List (α × β)}
    (h : (((name, value) :: rest).map Prod.fst).Nodup) : find? name rest = none := by
  refine find?_eq_none_iff.2 fun p hp he => ?_
  rw [List.map_cons, List.nodup_cons] at h
  exact h.1 (List.mem_map.2 ⟨p, hp, he⟩)

/-- The pairs of a name are the one that a look-up finds. -/
theorem filter_fst_eq {l : List (α × β)} (h : (l.map Prod.fst).Nodup) (name : α) :
    (l.filter fun p => p.1 = name) = (find? name l).toList.map fun v => (name, v) := by
  induction l with
  | nil => rfl
  | cons p rest ih =>
    obtain ⟨k, v⟩ := p
    have hrest := ih (List.nodup_cons.1 h).2
    by_cases hk : k = name
    · subst hk
      simp [find?, hrest, find?_tail_of_nodup h]
    · simp [find?, hk, hrest]

/-- The last pair of a name has this value. -/
def LastPair (pairs : List (α × β)) (name : α) (value : β) : Prop :=
  ∃ before after, pairs = before ++ (name, value) :: after ∧ ∀ p ∈ after, p.1 ≠ name

theorem find?_reverse_eq_some_iff {pairs : List (α × β)} :
    find? name pairs.reverse = some value ↔ LastPair pairs name value := by
  rw [find?_eq_some_iff_first, LastPair]
  constructor
  · rintro ⟨before, after, h, hb⟩
    refine ⟨after.reverse, before.reverse, ?_, fun p hp => hb p (List.mem_reverse.1 hp)⟩
    rw [← List.reverse_reverse pairs, h]
    simp
  · rintro ⟨before, after, rfl, ha⟩
    exact ⟨after.reverse, before.reverse, by simp, fun p hp => ha p (List.mem_reverse.1 hp)⟩

theorem find?_reverse_eq_none_iff {pairs : List (α × β)} :
    find? name pairs.reverse = none ↔ ∀ p ∈ pairs, p.1 ≠ name := by
  simp only [find?_eq_none_iff, List.mem_reverse]

/-- **The last pair counts.** -/
theorem get?_setAll_eq_some_iff (b : Bindings α β) (pairs : List (α × β)) :
    (b.setAll pairs).get? name = some value ↔
      LastPair pairs name value ∨ (∀ p ∈ pairs, p.1 ≠ name) ∧ b.get? name = some value := by
  rw [get?_setAll, ← find?_reverse_eq_some_iff, ← find?_reverse_eq_none_iff]
  cases find? name pairs.reverse <;> simp

/-- Of bindings each pair is the last one of its name. -/
theorem lastPair_entries_iff (b : Bindings α β) :
    LastPair b.entries name value ↔ b.get? name = some value := by
  rw [← mem_entries_iff]
  constructor
  · rintro ⟨before, after, h, -⟩
    rw [h]
    simp
  · intro hm
    obtain ⟨before, after, h⟩ := List.append_of_mem hm
    refine ⟨before, after, h, fun p hp he => ?_⟩
    have hd := b.distinct
    rw [h, List.map_append, List.map_cons, List.nodup_append] at hd
    exact (List.nodup_cons.1 hd.2.1).1 (List.mem_map.2 ⟨p, hp, he⟩)

theorem forall_entries_ne_iff (b : Bindings α β) :
    (∀ p ∈ b.entries, p.1 ≠ name) ↔ b.get? name = none :=
  find?_eq_none_iff.symm

/-! ## The same values -/

/-- Every name has the same value in both, whatever the order in which names were bound. -/
def Same (b b' : Bindings α β) : Prop :=
  ∀ name, b.get? name = b'.get? name

theorem same_of_some_iff {b b' : Bindings α β}
    (h : ∀ name value, b.get? name = some value ↔ b'.get? name = some value) : b.Same b' :=
  fun name => Option.ext fun value => h name value

theorem Same.perm {b b' : Bindings α β} (h : b.Same b') : b.entries.Perm b'.entries := by
  have hd := List.Nodup.of_map Prod.fst b.distinct
  have hd' := List.Nodup.of_map Prod.fst b'.distinct
  refine (List.perm_ext_iff_of_nodup hd hd').2 fun p => ?_
  rw [mem_entries_iff, mem_entries_iff, h p.1]

/-! ## The same values but for one name -/

/-- Every other name has the same value in both. -/
def AlikeBut (name : α) (b b' : Bindings α β) : Prop :=
  ∀ other, other ≠ name → b.get? other = b'.get? other

theorem get?_erase (b : Bindings α β) (name other : α) :
    (b.erase name).get? other = if other = name then none else b.get? other := by
  refine Option.ext fun value => ?_
  rw [← mem_entries_iff, erase, List.mem_filter, decide_eq_true_eq, mem_entries_iff]
  split <;> simp_all

theorem AlikeBut.same_erase {b b' : Bindings α β} (h : b.AlikeBut name b') :
    (b.erase name).Same (b'.erase name) := by
  intro other
  rw [get?_erase, get?_erase]
  split
  · rfl
  · rename_i hother
    exact h other hother

end Bindings

end CmakeDriver
