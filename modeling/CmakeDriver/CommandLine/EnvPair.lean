import CmakeDriver.Text.Cut

/-!
# Environment pairs

A variable is given on the command line as `KEY=VALUE`. The key ends at the first equals sign and
is not empty; the value is all that follows.

Results:
* `parse_eq_ok_iff`: a text is read as a pair exactly when it is the key, an equals sign and the
  value, and the key is not empty and holds no equals sign.
* `parse_eq_error_iff`: it is refused exactly when it begins with an equals sign or has none.
-/

namespace CmakeDriver

namespace EnvPair

/-- Why a text is not a pair. -/
structure Malformed where
  raw : String
  deriving DecidableEq, Repr

/-- What is said about a text that is not a pair. -/
def Malformed.message (e : Malformed) : String :=
  "expected KEY=VALUE, got `" ++ e.raw ++ "`"

/-- The key and the value that a text gives. -/
def parse (raw : String) : Except Malformed (String × String) :=
  match cutAt '=' raw.toList with
  | none => .error { raw }
  | some ([], _) => .error { raw }
  | some (key, value) => .ok (String.ofList key, String.ofList value)

theorem parse_eq_ok_iff {raw key value : String} :
    parse raw = .ok (key, value) ↔ raw = key ++ "=" ++ value ∧ key ≠ "" ∧ '=' ∉ key.toList := by
  have hraw : raw = key ++ "=" ++ value ↔ raw.toList = key.toList ++ '=' :: value.toList := by
    rw [← String.toList_inj]; simp
  rw [hraw]
  unfold parse
  cases h : cutAt '=' raw.toList with
  | none =>
    constructor
    · intro h; exact absurd h (by simp)
    · rintro ⟨ht, -, hk⟩
      rw [cutAt_eq_some_iff.2 ⟨ht, hk⟩] at h
      exact absurd h (by simp)
  | some p =>
    obtain ⟨k, v⟩ := p
    have hk := cutAt_eq_some_iff.1 h
    cases k with
    | nil =>
      constructor
      · intro h; exact absurd h (by simp)
      · rintro ⟨ht, hne, hnk⟩
        have := cutAt_eq_some_iff.2 ⟨ht, hnk⟩
        rw [h] at this
        simp only [Option.some.injEq, Prod.mk.injEq] at this
        exact absurd (String.toList_inj.1 (by rw [← this.1]; rfl)) hne
    | cons c k =>
      simp only [Except.ok.injEq, Prod.mk.injEq]
      constructor
      · rintro ⟨rfl, rfl⟩
        refine ⟨by simpa using hk.1, fun he => ?_, by simpa using hk.2⟩
        have := congrArg String.toList he
        simp at this
      · rintro ⟨ht, -, hnk⟩
        have := cutAt_eq_some_iff.2 ⟨ht, hnk⟩
        rw [h] at this
        simp only [Option.some.injEq, Prod.mk.injEq] at this
        rw [this.1, this.2]
        simp

theorem parse_eq_error_iff {raw : String} :
    parse raw = .error { raw } ↔ '=' ∉ raw.toList ∨ raw.toList.head? = some '=' := by
  unfold parse
  cases h : raw.toList with
  | nil => simp [cutAt]
  | cons c rest =>
    by_cases hc : c = '='
    · subst hc; simp [cutAt]
    · cases hr : cutAt '=' rest with
      | none => simp [cutAt, hc, hr, cutAt_eq_none_iff.1 hr, Ne.symm hc]
      | some p =>
        have hm : '=' ∈ rest := by
          rw [(cutAt_eq_some_iff.1 (show cutAt '=' rest = some (p.1, p.2) from hr)).1]; simp
        simp [cutAt, hc, hr, hm]

end EnvPair

end CmakeDriver
