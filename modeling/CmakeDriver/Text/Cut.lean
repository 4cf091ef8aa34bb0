/-!
# Cutting at a character

`cutAt sep text` is what stands before and behind the first `sep` in `text`.

Results:
* `cutAt_eq_some_iff`: the two parts with `sep` between them are the text, and the first has no
  `sep`.
* `cutAt_eq_none_iff`: only a text without `sep` has no parts.
-/

namespace CmakeDriver

/-- The parts before and behind the first `sep`. -/
def cutAt (sep : Char) : List Char → Option (List Char × List Char)
  | [] => none
  | c :: rest =>
    if c = sep then some ([], rest) else (cutAt sep rest).map fun p => (c :: p.1, p.2)

theorem cutAt_eq_some_iff {sep : Char} {text before behind : List Char} :
    cutAt sep text = some (before, behind) ↔ text = before ++ sep :: behind ∧ sep ∉ before := by
  induction text generalizing before with
  | nil => simp [cutAt]
  | cons c rest ih =>
    by_cases hc : c = sep
    · subst hc
      simp only [cutAt, if_true, Option.some.injEq, Prod.mk.injEq]
      constructor
      · rintro ⟨rfl, rfl⟩; simp
      · rintro ⟨h, hk⟩
        cases before with
        | nil => simpa using h
        | cons k before =>
          simp only [List.cons_append, List.cons.injEq] at h
          exact absurd (h.1 ▸ List.mem_cons_self) hk
    · simp only [cutAt, hc, if_false, Option.map_eq_some_iff, Prod.exists, Prod.mk.injEq]
      constructor
      · rintro ⟨k, v, h, rfl, rfl⟩
        obtain ⟨rfl, hk⟩ := ih.1 h
        exact ⟨rfl, by simp [hk, Ne.symm hc]⟩
      · rintro ⟨h, hk⟩
        cases before with
        | nil =>
          simp only [List.nil_append, List.cons.injEq] at h
          exact absurd h.1 hc
        | cons k before =>
          simp only [List.cons_append, List.cons.injEq] at h
          refine ⟨before, behind, ih.2 ⟨h.2, fun hm => hk (by simp [hm])⟩, ?_, rfl⟩
          rw [h.1]

theorem cutAt_eq_none_iff {sep : Char} {text : List Char} :
    cutAt sep text = none ↔ sep ∉ text := by
  constructor
  · intro h hm
    obtain ⟨s, t, rfl, hs⟩ := List.eq_append_cons_of_mem hm
    rw [cutAt_eq_some_iff.2 ⟨rfl, hs⟩] at h
    exact absurd h (by simp)
  · intro h
    cases hc : cutAt sep text with
    | none => rfl
    | some p =>
      obtain ⟨ht, -⟩ := cutAt_eq_some_iff.1 (show cutAt sep text = some (p.1, p.2) from hc)
      exact absurd (ht ▸ by simp) h

end CmakeDriver
