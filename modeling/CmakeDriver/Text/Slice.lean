/-!
# Parts of a text, counted in bytes

A place in a text is given by the number of bytes before it, each character counting as many as its
UTF-8 form has. There is nothing to cut at a place inside a character.

Results:
* `cutBytes?_eq_some_iff`: a cut behind `n` bytes leaves `n` bytes in front.
* `slice?_eq_some_iff`: what stands between two places.
-/

namespace CmakeDriver

/-- The number of bytes that a text takes. -/
def width : List Char → Nat
  | [] => 0
  | c :: rest => c.utf8Size + width rest

@[simp] theorem width_nil : width [] = 0 := rfl

@[simp] theorem width_cons (c : Char) (rest : List Char) :
    width (c :: rest) = c.utf8Size + width rest := rfl

@[simp] theorem width_append (text more : List Char) :
    width (text ++ more) = width text + width more := by
  induction text with
  | nil => simp
  | cons c rest ih => simp [ih, Nat.add_assoc]

/-- A text cut behind its first `n` bytes. -/
def cutBytes? : Nat → List Char → Option (List Char × List Char)
  | 0, text => some ([], text)
  | _ + 1, [] => none
  | n + 1, c :: rest =>
    if c.utf8Size ≤ n + 1 then
      (cutBytes? (n + 1 - c.utf8Size) rest).map fun p => (c :: p.1, p.2)
    else none

theorem cutBytes?_width (before behind : List Char) :
    cutBytes? (width before) (before ++ behind) = some (before, behind) := by
  induction before with
  | nil => simp [cutBytes?]
  | cons c rest ih =>
    obtain ⟨n, hn⟩ : ∃ n, width (c :: rest) = n + 1 :=
      Nat.exists_eq_succ_of_ne_zero (by have := c.utf8Size_pos; simp only [width_cons]; omega)
    have hrest : n + 1 - c.utf8Size = width rest := by
      rw [← hn, width_cons, Nat.add_sub_cancel_left]
    have hle : c.utf8Size ≤ n + 1 := by
      rw [← hn, width_cons]
      exact Nat.le_add_right _ _
    rw [hn, List.cons_append, cutBytes?, if_pos hle, hrest, ih]
    rfl

theorem cutBytes?_eq_some_iff {n : Nat} {text before behind : List Char} :
    cutBytes? n text = some (before, behind) ↔ text = before ++ behind ∧ width before = n := by
  constructor
  · intro h
    fun_induction cutBytes? n text generalizing before with
    | case1 text =>
      obtain ⟨rfl, rfl⟩ := Prod.mk.inj (Option.some.inj h)
      exact ⟨rfl, rfl⟩
    | case2 => exact absurd h (by simp)
    | case3 n c rest hc ih =>
      obtain ⟨⟨front, back⟩, hcut, hp⟩ := Option.map_eq_some_iff.1 h
      obtain ⟨rfl, rfl⟩ := Prod.mk.inj hp
      obtain ⟨rfl, hwidth⟩ := ih hcut
      exact ⟨rfl, by rw [width_cons, hwidth, Nat.add_sub_cancel' hc]⟩
    | case4 => exact absurd h (by simp)
  · rintro ⟨rfl, rfl⟩
    exact cutBytes?_width before behind

/-- What stands behind a place. -/
def behind? (text : List Char) (i : Nat) : Option (List Char) :=
  (cutBytes? i text).map Prod.snd

/-- What stands between two places. -/
def slice? (text : List Char) (i j : Nat) : Option (List Char) :=
  (behind? text i).bind fun rest => (cutBytes? (j - i) rest).map Prod.fst

theorem behind?_eq_some_iff {text rest : List Char} {i : Nat} :
    behind? text i = some rest ↔ ∃ before, text = before ++ rest ∧ width before = i := by
  simp only [behind?, Option.map_eq_some_iff, Prod.exists, exists_eq_right, cutBytes?_eq_some_iff]

theorem slice?_eq_some_iff {text part : List Char} {i j : Nat} :
    slice? text i j = some part ↔
      ∃ before rest, text = before ++ part ++ rest ∧ width before = i ∧ width part = j - i := by
  constructor
  · intro h
    obtain ⟨rest, hrest, hpart⟩ := Option.bind_eq_some_iff.1 h
    obtain ⟨before, rfl, hbefore⟩ := behind?_eq_some_iff.1 hrest
    obtain ⟨⟨front, back⟩, hcut, rfl⟩ := Option.map_eq_some_iff.1 hpart
    obtain ⟨rfl, hwidth⟩ := cutBytes?_eq_some_iff.1 hcut
    exact ⟨before, back, (List.append_assoc _ _ _).symm, hbefore, hwidth⟩
  · rintro ⟨before, rest, rfl, hbefore, hpart⟩
    have hcut : cutBytes? (j - i) (part ++ rest) = some (part, rest) :=
      cutBytes?_eq_some_iff.2 ⟨rfl, hpart⟩
    refine Option.bind_eq_some_iff.2 ⟨part ++ rest, ?_, by rw [hcut]; rfl⟩
    exact behind?_eq_some_iff.2 ⟨before, List.append_assoc _ _ _, hbefore⟩

end CmakeDriver
