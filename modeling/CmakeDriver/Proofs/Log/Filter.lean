import CmakeDriver.Run.Whole

/-!
# Which log filters are read to the end

A directive is cut where its signs stand in it, once the blank characters in front of it are taken
away. So if it begins with none, every cut falls behind a character, and reading it comes to an end,
be it a directive or not.

Results:
* `directive_returns`: a directive without a blank character in front is read to the end.
* `read?_isSome`: so is a filter of such directives.
* `readsLogFilter_of_unblanked`: what that means for a world.
-/

namespace CmakeDriver

namespace Log.Filter

variable {α β : Type} {whole front rest part : List Char} {i : Nat}

/-! ## Cuts behind characters -/

/-- At the place `i` of a text stands this part of it. -/
def StandsAt (whole : List Char) (i : Nat) (part : List Char) : Prop :=
  ∃ before behind, whole = before ++ part ++ behind ∧ width before = i

theorem StandsAt.behind (h : StandsAt whole i (front ++ rest)) :
    StandsAt whole (i + width front) rest := by
  obtain ⟨before, behind, rfl, rfl⟩ := h
  exact ⟨before ++ front, behind, by simp, width_append before front⟩

theorem StandsAt.slice?_eq (h : StandsAt whole i (front ++ rest)) :
    slice? whole i (i + width front) = some front := by
  obtain ⟨before, behind, rfl, rfl⟩ := h
  exact slice?_eq_some_iff.2
    ⟨before, rest ++ behind, by simp, rfl, (Nat.add_sub_cancel_left _ _).symm⟩

theorem StandsAt.behind?_eq (h : StandsAt whole i part) : ∃ rest, behind? whole i = some rest := by
  obtain ⟨before, behind, rfl, rfl⟩ := h
  exact ⟨part ++ behind, behind?_eq_some_iff.2 ⟨before, List.append_assoc _ _ _, rfl⟩⟩

/-! ## Reading to the end -/

/-- A reading comes to an end: no cut falls inside a character. -/
def Returns (x : Except Fault α) : Prop :=
  x ≠ .error .splitCharacter

theorem Returns.ok (a : α) : Returns (.ok a) := by
  simp [Returns]

theorem Returns.malformed : Returns (.error .malformed : Except Fault α) := by
  simp [Returns]

theorem Returns.bind {x : Except Fault α} {f : α → Except Fault β} (hx : Returns x)
    (hf : ∀ a, x = .ok a → Returns (f a)) : Returns (x >>= f) := by
  cases x with
  | ok a => exact hf a rfl
  | error e => exact fun h => hx (congrArg Except.error (Except.error.inj h))

theorem Returns.cutting {cut : Option (List Char)} (h : ∃ part, cut = some part) :
    Returns (cutting cut) := by
  obtain ⟨part, rfl⟩ := h
  exact .ok part

theorem seek_eq_some {signs text : List Char} {i j : Nat} {c : Char}
    (h : seek signs i text = some (j, c, rest)) :
    ∃ front, text = front ++ c :: rest ∧ j = i + width front ∧ c ∈ signs := by
  induction text generalizing i with
  | nil => exact absurd h (by simp [seek])
  | cons d more ih =>
    rw [seek] at h
    split at h
    · rename_i hd
      obtain ⟨rfl, hsign⟩ := Prod.mk.inj (Option.some.inj h)
      obtain ⟨rfl, rfl⟩ := Prod.mk.inj hsign
      exact ⟨[], rfl, rfl, hd⟩
    · obtain ⟨front, rfl, rfl, hc⟩ := ih h
      exact ⟨d :: front, rfl, by rw [width_cons, Nat.add_assoc], hc⟩

/-- Behind a sign, which takes one byte, stands what is behind it. -/
theorem StandsAt.behind_sign {c : Char} (hc : c.utf8Size = 1)
    (h : StandsAt whole i (front ++ c :: rest)) :
    StandsAt whole (i + width front + 1) rest := by
  have hsign : StandsAt whole (i + width front) ([c] ++ rest) := h.behind
  have hrest := hsign.behind
  rwa [width_cons, width_nil, hc] at hrest

theorem StandsAt.behind_either {a b c : Char} (ha : a.utf8Size = 1) (hb : b.utf8Size = 1)
    (hc : c ∈ [a, b]) (h : StandsAt whole i (front ++ c :: rest)) :
    StandsAt whole (i + width front + 1) rest := by
  refine h.behind_sign ?_
  simp only [List.mem_cons, List.not_mem_nil, or_false] at hc
  rcases hc with rfl | rfl
  · exact ha
  · exact hb

theorem level_returns (h : StandsAt whole i part) : Returns (level whole i) := by
  refine .bind (.cutting h.behind?_eq) fun word _ => ?_
  split
  · exact .ok _
  · split
    · exact .ok _
    · exact .malformed

theorem levelBehind_returns (h : StandsAt whole i rest) : Returns (levelBehind whole i rest) := by
  unfold levelBehind
  split
  · exact .ok _
  · rename_i more
    have hlevel : StandsAt whole (i + width [] + 1) more :=
      StandsAt.behind_sign (by decide) h
    exact level_returns hlevel
  · exact .malformed

theorem fieldName_returns (field : List Char) : Returns (fieldName field) := by
  unfold fieldName
  split
  · split
    · exact .malformed
    · exact .ok _
  · split
    · exact .ok _
    · exact .malformed

theorem fieldBrackets_returns {inside : List Char} (target : Option String) (span : List Char)
    (h : StandsAt whole i inside) : Returns (fieldBrackets whole target span i inside) := by
  unfold fieldBrackets
  split
  · exact .malformed
  · rename_i j c rest hseek
    obtain ⟨front, rfl, rfl, hc⟩ := seek_eq_some hseek
    obtain rfl : c = '\x7d' := List.mem_singleton.1 hc
    refine .bind (.cutting ⟨front, h.slice?_eq⟩) fun field _ => ?_
    refine .bind (fieldName_returns field) fun name _ => ?_
    have hrest : StandsAt whole (i + width front + 1) rest := h.behind_sign (by decide)
    split
    · rename_i more
      have hmore : StandsAt whole (i + width front + 1 + width [] + 1) more :=
        StandsAt.behind_sign (by decide) hrest
      refine .bind (levelBehind_returns hmore) fun limit _ => ?_
      split <;> exact .ok _
    · exact .malformed

theorem brackets_returns {inside : List Char} (target : Option String)
    (h : StandsAt whole i inside) : Returns (brackets whole target i inside) := by
  unfold brackets
  split
  · exact .malformed
  · rename_i j c rest hseek
    obtain ⟨front, rfl, rfl, hc⟩ := seek_eq_some hseek
    have hrest : StandsAt whole (i + width front + 1) rest :=
      h.behind_either (by decide) (by decide) hc
    refine .bind (.cutting ⟨front, h.slice?_eq⟩) fun span _ => ?_
    split
    · exact .bind (levelBehind_returns hrest) fun _ _ => .ok _
    · exact fieldBrackets_returns target span hrest

theorem targeted_returns {body : List Char} (h : StandsAt whole 0 body) :
    Returns (targeted whole body) := by
  unfold targeted
  split
  · exact .ok _
  · rename_i i c rest hseek
    obtain ⟨front, rfl, rfl, hc⟩ := seek_eq_some hseek
    have hrest : StandsAt whole (0 + width front + 1) rest :=
      h.behind_either (by decide) (by decide) hc
    refine .bind (.cutting ⟨front, h.slice?_eq⟩) fun target _ => ?_
    split
    · exact brackets_returns _ hrest
    · exact .bind (level_returns hrest) fun _ _ => .ok _

/-! ## Directives and filters -/

/-- A text has no blank character in front. -/
def Unblanked (text : List Char) : Prop :=
  ∀ c ∈ text.head?, isBlank c = false

theorem standsAt_trim (h : Unblanked whole) : StandsAt whole 0 (trim whole) := by
  have hdrop : whole.dropWhile isBlank = whole := by
    cases whole with
    | nil => rfl
    | cons c rest => exact List.dropWhile_cons_of_neg (by simp [h c rfl])
  obtain ⟨tail, htail⟩ := trimEnd_prefix whole
  refine ⟨[], tail, ?_, rfl⟩
  rw [trim, hdrop, List.nil_append, htail]

/-- **A directive without a blank character in front is read to the end.** -/
theorem directive_returns (h : Unblanked whole) : Returns (directive whole) := by
  have hbody := standsAt_trim h
  unfold directive
  split
  · exact .malformed
  · rename_i c rest htrim
    rw [htrim] at hbody
    split
    · rename_i hc
      subst hc
      have hinside : StandsAt whole (0 + width [] + 1) rest :=
        StandsAt.behind_sign (by decide) hbody
      exact brackets_returns none hinside
    · split
      · exact targeted_returns hbody
      · exact .malformed

theorem mapM_returns {f : α → Except Fault β} {l : List α} (h : ∀ a ∈ l, Returns (f a)) :
    Returns (l.mapM f) := by
  induction l with
  | nil => exact .ok []
  | cons a rest ih =>
    rw [List.mapM_cons]
    refine .bind (h a List.mem_cons_self) fun _ _ => ?_
    exact .bind (ih fun b hb => h b (List.mem_cons_of_mem _ hb)) fun _ _ => .ok _

/-- **A filter of directives without blank characters in front is read to the end.** -/
theorem read?_isSome {value : Option Bytes}
    (h : ∀ text, value.bind Bytes.decode? = some text →
      ∀ part ∈ commaParts text.toList, Unblanked part) : (read? value).isSome = true := by
  unfold read?
  split
  · rfl
  · rename_i text htext
    have hreturns : Returns (parse text) := by
      have hparts : ∀ part ∈ (commaParts text.toList).filter (· ≠ []), Returns (directive part) :=
        fun part hp => directive_returns (h text htext part (List.mem_filter.1 hp).1)
      have hmap := mapM_returns hparts
      unfold parse
      cases hreadings : ((commaParts text.toList).filter (· ≠ [])).mapM directive with
      | ok readings => exact .ok _
      | error e =>
        rw [hreadings] at hmap
        exact fun he => hmap (congrArg Except.error (Except.error.inj he))
    split
    · rfl
    · rfl
    · rename_i hparse
      exact absurd hparse hreturns

end Log.Filter

/-- **A world reads its log filter** if no directive in it begins with a blank character. It does if
the variable is not there or holds no text. -/
theorem World.readsLogFilter_of_unblanked {w : World}
    (h : ∀ text, w.environment.lookup Log.Filter.variableName = some (Bytes.ofString text) →
      ∀ part ∈ Log.Filter.commaParts text.toList, Log.Filter.Unblanked part) :
    w.ReadsLogFilter := by
  refine Log.Filter.read?_isSome fun text htext => h text ?_
  obtain ⟨value, hvalue, hdecode⟩ := Option.bind_eq_some_iff.1 htext
  rw [hvalue, Bytes.decode?_eq_some_iff.1 hdecode]

end CmakeDriver
