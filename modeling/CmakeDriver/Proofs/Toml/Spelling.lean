import CmakeDriver.Toml.Key

/-!
# Texts and keys, written and read

A text is written as a basic string character by character: each character by itself, by an escape
of one mark, or by its number. A key is written bare or as such a string. Whatever way is chosen for
each character, the readers take exactly what was written and give back the text.

Results:
* `basicTurn_spells`: a turn through a basic string takes one character, however it is spelled.
* `basicLine_quoted`, `basicString_quoted`, `key_of_written`: a string and a key read as what they
  were written for.
* `quoted_quotedText`: every text can be written as a basic string.
-/

namespace CmakeDriver

namespace Toml

/-- The marks that stand for a character behind a backslash. -/
def shortEscapes : List (Char × Char) :=
  [('b', '\x08'), ('t', '\t'), ('n', '\n'), ('f', '\x0c'), ('r', '\r'), ('\\', '\\'),
    (doubleQuote, doubleQuote)]

/-- The marks that announce the number of a character, and how many digits it has. -/
def numberEscapes : List (Char × Nat) :=
  [('u', 4), ('U', 8)]

/-- The ways to spell a character in a basic string. -/
inductive Spells (c : Char) : List Char → Prop
  | plain (h : isBasicChar c = true) : Spells c [c]
  | short {mark : Char} (h : (mark, c) ∈ shortEscapes) : Spells c ['\\', mark]
  | number {mark : Char} {digits : List Char} (h : (mark, digits.length) ∈ numberEscapes)
      (hd : ∀ d ∈ digits, (hexValue? d).isSome = true) (hn : ofDigits 16 digits = c.toNat) :
      Spells c ('\\' :: mark :: digits)

/-- The ways to spell characters one after the other. -/
inductive SpellsAll : List Char → List Char → Prop
  | nil : SpellsAll [] []
  | cons {c : Char} {cs spelled rest : List Char} (hc : Spells c spelled)
      (hs : SpellsAll cs rest) : SpellsAll (c :: cs) (spelled ++ rest)

/-- The ways to write a text as a basic string on one line. -/
inductive Quoted (s : String) : List Char → Prop
  | intro {body : List Char} (h : SpellsAll s.toList body) :
      Quoted s (doubleQuote :: (body ++ [doubleQuote]))

/-- The ways to write a key. -/
inductive KeyWritten (k : String) : List Char → Prop
  | bare (hne : k.toList ≠ []) (h : ∀ c ∈ k.toList, isBareChar c = true) : KeyWritten k k.toList
  | quoted {q : List Char} (h : Quoted k q) : KeyWritten k q

namespace Reader

variable {c : Char} {s k : String} {q rest : List Char}

/-! ## Reading one character -/

theorem exactly_append {digits : List Char} {p : Char → Bool}
    (h : ∀ d ∈ digits, p d = true) (rest : List Char) :
    exactly digits.length p (digits ++ rest) = some (digits, rest) := by
  unfold exactly
  rw [List.take_left, List.drop_left, if_pos ⟨rfl, List.all_eq_true.2 h⟩]

theorem scalar?_toNat (c : Char) : scalar? c.toNat = some c := by
  have hv : c.toNat.isValidChar := c.valid
  have hc := Char.ofNat_toNat c
  rw [Char.ofNat, dif_pos hv] at hc
  rw [scalar?, dif_pos hv, hc]

theorem escape_short {mark : Char} (h : (mark, c) ∈ shortEscapes) (rest : List Char) :
    escape (mark :: rest) = some (c, rest) := by
  simp only [shortEscapes, List.mem_cons, List.not_mem_nil, or_false, Prod.mk.injEq] at h
  rcases h with ⟨rfl, rfl⟩ | ⟨rfl, rfl⟩ | ⟨rfl, rfl⟩ | ⟨rfl, rfl⟩ | ⟨rfl, rfl⟩ | ⟨rfl, rfl⟩ |
    ⟨rfl, rfl⟩ <;> rfl

theorem escapedScalar_number {digits : List Char}
    (hd : ∀ d ∈ digits, (hexValue? d).isSome = true) (hn : ofDigits 16 digits = c.toNat)
    (rest : List Char) : escapedScalar digits.length (digits ++ rest) = some (c, rest) := by
  rw [escapedScalar, bind_of_eq_some (exactly_append hd rest), hn, scalar?_toNat]
  rfl

theorem escape_number {mark : Char} {digits : List Char}
    (h : (mark, digits.length) ∈ numberEscapes)
    (hd : ∀ d ∈ digits, (hexValue? d).isSome = true) (hn : ofDigits 16 digits = c.toNat)
    (rest : List Char) : escape (mark :: (digits ++ rest)) = some (c, rest) := by
  have hread := escapedScalar_number hd hn rest
  simp only [numberEscapes, List.mem_cons, List.not_mem_nil, or_false, Prod.mk.injEq] at h
  rcases h with ⟨rfl, hl⟩ | ⟨rfl, hl⟩
  · rw [hl] at hread
    exact hread
  · rw [hl] at hread
    exact hread

/-- **A turn takes one character**, however it is spelled. -/
theorem basicTurn_spells {spelled : List Char} (h : Spells c spelled) (sofar rest : List Char) :
    basicTurn sofar (spelled ++ rest) = some (.again (c :: sofar), rest) := by
  -- Behind a backslash the turn goes on as the escape does.
  have hescape : ∀ e : List Char, escape e = some (c, rest) →
      basicTurn sofar ('\\' :: e) = some (.again (c :: sofar), rest) := by
    intro e he
    have hn : next ('\\' :: e) = some ('\\', e) := rfl
    rw [basicTurn, bind_of_eq_some hn, if_neg (by decide), if_pos rfl, bind_of_eq_some he]
    rfl
  cases h with
  | plain h => exact basicTurn_plain h sofar rest
  | short h => exact hescape _ (escape_short h rest)
  | number h hd hn => exact hescape _ (escape_number h hd hn rest)

theorem Spells.length_pos {spelled : List Char} (h : Spells c spelled) : 0 < spelled.length := by
  cases h <;> simp

/-! ## Reading a string -/

theorem loop_basicTurn {cs body : List Char} (h : SpellsAll cs body) (sofar rest : List Char) :
    loop basicTurn sofar (body ++ doubleQuote :: rest) =
      some (String.ofList (sofar.reverse ++ cs), rest) := by
  induction h generalizing sofar with
  | nil => rw [List.nil_append, loop_done (basicTurn_quote sofar rest), List.append_nil]
  | cons hc hs ih =>
    have hpos := Spells.length_pos hc
    have hturn := basicTurn_spells hc sofar
    rw [List.append_assoc, loop_again (hturn _) (by simp only [List.length_append]; omega), ih,
      List.reverse_cons, List.append_assoc, List.singleton_append]

theorem basicLine_quoted (h : Quoted s q) (rest : List Char) :
    basicLine (q ++ rest) = some (s, rest) := by
  cases h with
  | @intro body h =>
    have hloop := loop_basicTurn h [] rest
    rw [List.reverse_nil, List.nil_append, String.ofList_toList] at hloop
    rw [List.cons_append, List.append_assoc, List.singleton_append]
    exact (bind_of_eq_some (char_cons_self _ _) _).trans hloop

/-- A basic string on one line is not taken for the beginning of one of several lines. -/
theorem sees_quoted (h : Quoted s q) (hr : rest.head? ≠ some doubleQuote) :
    sees [doubleQuote, doubleQuote, doubleQuote] (q ++ rest) = some (false, q ++ rest) := by
  have hno : List.isPrefixOf [doubleQuote, doubleQuote, doubleQuote] (q ++ rest) = false := by
    refine Bool.eq_false_iff.2 fun hp => ?_
    cases h with
    | intro h =>
      generalize s.toList = cs at h
      cases h with
      | nil =>
        cases rest with
        | nil => simp at hp
        | cons d rest => simp at hp; exact hr (by simp [hp])
      | cons hc _ =>
        cases hc with
        | plain hb =>
          simp at hp
          rw [← hp.1] at hb
          exact absurd hb (by decide)
        | short hb => simp [doubleQuote] at hp
        | number hb => simp [doubleQuote] at hp
  rw [sees, hno]

theorem basicString_quoted (h : Quoted s q) (hr : rest.head? ≠ some doubleQuote) :
    basicString (q ++ rest) = some (s, rest) := by
  rw [basicString, bind_of_eq_some (sees_quoted h hr), if_neg Bool.false_ne_true]
  exact basicLine_quoted h rest

/-! ## Reading a key -/

theorem key_of_written (h : KeyWritten k q)
    (hr : ∀ c, rest.head? = some c → isBareChar c = false) :
    key (q ++ rest) = some (k, rest) := by
  cases h with
  | quoted h =>
    have hread := basicLine_quoted h rest
    cases h with
    | intro h => exact hread
  | bare hne h =>
    obtain ⟨c, cs, hk⟩ := List.exists_cons_of_ne_nil hne
    have hc : isBareChar c = true := h c (by rw [hk]; exact List.mem_cons_self)
    have hd : c ≠ doubleQuote := by
      rintro rfl
      exact absurd hc (by decide)
    have hs : c ≠ singleQuote := by
      rintro rfl
      exact absurd hc (by decide)
    have hrun : takeWhile1 isBareChar (k.toList ++ rest) = some (k.toList, rest) := by
      have ht := takeWhile_append h hr
      simp only [takeWhile, Option.some.injEq, Prod.mk.injEq] at ht
      rw [takeWhile1, ht.1, ht.2, if_neg hne]
    have hpeek : peek (k.toList ++ rest) = some (some c, k.toList ++ rest) := by
      rw [peek, hk]
      rfl
    rw [key, bind_of_eq_some hpeek]
    simp only [hd, hs, if_false]
    rw [bind_of_eq_some hrun, String.ofList_toList]
    rfl

end Reader

/-! ## A way to write every text -/

/-- A character by itself, if it may stand for itself, or else by its number. -/
def spelled (c : Char) : List Char :=
  if isBasicChar c then [c]
  else ['\\', 'u', '0', '0', Nat.digitChar (c.toNat / 16), Nat.digitChar (c.toNat % 16)]

/-- A text as a basic string. -/
def quotedText (s : String) : List Char :=
  doubleQuote :: (s.toList.flatMap spelled ++ [doubleQuote])

theorem toNat_lt_of_not_isBasicChar {c : Char} (h : isBasicChar c = false) : c.toNat < 128 := by
  refine Nat.lt_of_not_le fun hc => ?_
  have hs : isStringChar c = true := by
    simp only [isStringChar, Bool.or_eq_true, Bool.and_eq_true, decide_eq_true_eq]
    omega
  have hq : c ≠ doubleQuote := by
    rintro rfl
    exact absurd hc (by decide)
  have hb : c ≠ '\\' := by
    rintro rfl
    exact absurd hc (by decide)
  simp [isBasicChar, hs, hq, hb] at h

theorem spells_spelled (c : Char) : Spells c (spelled c) := by
  have hdigits : ∀ n < 128, ofDigits 16 ['0', '0', Nat.digitChar (n / 16), Nat.digitChar (n % 16)]
      = n ∧ (hexValue? (Nat.digitChar (n / 16))).isSome = true ∧
        (hexValue? (Nat.digitChar (n % 16))).isSome = true := by decide
  cases h : isBasicChar c with
  | true =>
    rw [spelled, if_pos h]
    exact .plain h
  | false =>
    obtain ⟨hn, hd, hm⟩ := hdigits c.toNat (toNat_lt_of_not_isBasicChar h)
    rw [spelled, if_neg (by simp [h])]
    refine .number (by simp [numberEscapes]) ?_ hn
    simp only [List.forall_mem_cons, List.not_mem_nil, false_implies, implies_true, hd, hm,
      and_true]
    decide

theorem quoted_quotedText (s : String) : Quoted s (quotedText s) := by
  have hall : ∀ cs : List Char, SpellsAll cs (cs.flatMap spelled) := by
    intro cs
    induction cs with
    | nil => exact .nil
    | cons c cs ih => exact .cons (spells_spelled c) ih
  exact .intro (hall _)

end Toml

end CmakeDriver
