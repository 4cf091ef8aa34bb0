/-!
# Ranges of numbers

A property of characters is kept as a table of the ranges of code points that have it.

Results:
* `inRanges_cons_of_mem`: a number in the first range is in the table.
* `exists_of_inRanges`: a number found in a table lies in one of its ranges.
-/

namespace CmakeDriver

/-- Whether a number lies in one of these closed ranges, which ascend. -/
def inRanges (n : Nat) : List (Nat × Nat) → Bool
  | [] => false
  | (lo, hi) :: rest => if n < lo then false else n ≤ hi || inRanges n rest

theorem inRanges_cons_of_mem {n lo hi : Nat} (hlo : lo ≤ n) (hhi : n ≤ hi)
    (rest : List (Nat × Nat)) : inRanges n ((lo, hi) :: rest) = true := by
  simp [inRanges, Nat.not_lt.2 hlo, hhi]

theorem exists_of_inRanges {n : Nat} {table : List (Nat × Nat)} (h : inRanges n table = true) :
    ∃ range ∈ table, range.1 ≤ n ∧ n ≤ range.2 := by
  induction table with
  | nil => exact absurd h (by simp [inRanges])
  | cons range rest ih =>
    obtain ⟨lo, hi⟩ := range
    by_cases hlo : n < lo
    · exact absurd h (by simp [inRanges, hlo])
    · by_cases hhi : n ≤ hi
      · exact ⟨(lo, hi), List.mem_cons_self, Nat.not_lt.1 hlo, hhi⟩
      · simp only [inRanges, hlo, hhi, if_false, decide_false, Bool.false_or] at h
        obtain ⟨range, hm, hr⟩ := ih h
        exact ⟨range, List.mem_cons_of_mem _ hm, hr⟩

end CmakeDriver
