/-!
# Bindings

A finite map from names to values, kept as the list of its entries in the order in which the names
were first bound. No name stands twice. The environment of a program and the `[env]` section of a
configuration are bindings.

Results:
* `get?_set_self`, `get?_set_ne`: binding a name changes the value of that name only.
* `get?_setAll`: after binding a list of pairs, a name has the value of its last pair, or else the
  value it had.
* `get?_ofList`: bindings made of a list without repeats answer as the list does.
* `mem_entries_iff`: the entries are exactly the pairs that `get?` answers.
* `isEmpty_iff`: bindings are empty exactly when `get?` answers nothing.
-/

namespace CmakeDriver

/-- A finite map from names in `α` to values in `β`. -/
structure Bindings (α β : Type) where
  /-- The pairs, each name once. -/
  entries : List (α × β)
  /-- No name stands twice. -/
  distinct : (entries.map Prod.fst).Nodup := by simp

namespace Bindings

variable {α β : Type}

instance : EmptyCollection (Bindings α β) := ⟨{ entries := [] }⟩

instance : Inhabited (Bindings α β) := ⟨∅⟩

/-- Whether nothing is bound. -/
def isEmpty (b : Bindings α β) : Bool :=
  b.entries.isEmpty

variable [DecidableEq α]

/-! ## Entry lists -/

/-- The value beside a name in an entry list. -/
def find? (name : α) : List (α × β) → Option β
  | [] => none
  | (k, v) :: rest => if k = name then some v else find? name rest

/-- The entry list with the value beside `name` replaced, or the pair added at the end. -/
def put (name : α) (value : β) : List (α × β) → List (α × β)
  | [] => [(name, value)]
  | (k, v) :: rest => if k = name then (k, value) :: rest else (k, v) :: put name value rest

theorem find?_put_self (name : α) (value : β) (l : List (α × β)) :
    find? name (put name value l) = some value := by
  induction l with
  | nil => simp [put, find?]
  | cons e rest ih =>
    obtain ⟨k, v⟩ := e
    by_cases h : k = name <;> simp [put, find?, h, ih]

theorem find?_put_ne {name other : α} (h : other ≠ name) (value : β) (l : List (α × β)) :
    find? other (put name value l) = find? other l := by
  induction l with
  | nil => simp [put, find?, Ne.symm h]
  | cons e rest ih =>
    obtain ⟨k, v⟩ := e
    by_cases hk : k = name
    · subst hk; simp [put, find?, Ne.symm h]
    · simp [put, find?, hk, ih]

theorem mem_map_fst_put {name : α} {value : β} {l : List (α × β)} {x : α} :
    x ∈ (put name value l).map Prod.fst ↔ x = name ∨ x ∈ l.map Prod.fst := by
  induction l with
  | nil => simp [put]
  | cons e rest ih =>
    obtain ⟨k, v⟩ := e
    by_cases hk : k = name
    · subst hk; simp [put]
    · simp only [put, hk, if_false, List.map_cons, List.mem_cons, ih]
      exact or_left_comm

theorem nodup_put (name : α) (value : β) {l : List (α × β)} (h : (l.map Prod.fst).Nodup) :
    ((put name value l).map Prod.fst).Nodup := by
  induction l with
  | nil => simp [put]
  | cons e rest ih =>
    obtain ⟨k, v⟩ := e
    rw [List.map_cons, List.nodup_cons] at h
    by_cases hk : k = name
    · simpa [put, hk] using h
    · simp only [put, hk, if_false, List.map_cons, List.nodup_cons]
      refine ⟨fun hm => ?_, ih h.2⟩
      rcases mem_map_fst_put.1 hm with he | he
      · exact hk he
      · exact h.1 he

/-! ## Operations -/

/-- The value bound to a name. -/
def get? (b : Bindings α β) (name : α) : Option β :=
  find? name b.entries

/-- Binds a name: in its place if it was bound, else at the end. -/
def set (b : Bindings α β) (name : α) (value : β) : Bindings α β where
  entries := put name value b.entries
  distinct := nodup_put name value b.distinct

/-- Binds the names of a list of pairs, from the left: the last pair of a name counts. -/
def setAll (b : Bindings α β) (pairs : List (α × β)) : Bindings α β :=
  pairs.foldl (fun b p => b.set p.1 p.2) b

/-- The bindings that a list of pairs makes. -/
def ofList (pairs : List (α × β)) : Bindings α β :=
  setAll ∅ pairs

/-- Takes the binding of a name away. -/
def erase (b : Bindings α β) (name : α) : Bindings α β where
  entries := b.entries.filter fun e => e.1 ≠ name
  distinct := b.distinct.sublist (List.filter_sublist.map _)

@[simp] theorem get?_empty (name : α) : (∅ : Bindings α β).get? name = none := rfl

@[simp] theorem get?_set_self (b : Bindings α β) (name : α) (value : β) :
    (b.set name value).get? name = some value :=
  find?_put_self name value b.entries

theorem get?_set_ne (b : Bindings α β) {name other : α} (h : other ≠ name) (value : β) :
    (b.set name value).get? other = b.get? other :=
  find?_put_ne h value b.entries

theorem get?_setAll (b : Bindings α β) (pairs : List (α × β)) (name : α) :
    (b.setAll pairs).get? name = (find? name pairs.reverse <|> b.get? name) := by
  induction pairs generalizing b with
  | nil => simp [setAll, find?]
  | cons p rest ih =>
    obtain ⟨k, v⟩ := p
    have happ : ∀ l : List (α × β), find? name (l ++ [(k, v)]) =
        (find? name l <|> if k = name then some v else none) := by
      intro l
      induction l with
      | nil => simp [find?]
      | cons e l ihl =>
        by_cases he : e.1 = name <;> simp [find?, he, ihl]
    have hset : (b.set k v).get? name = if k = name then some v else b.get? name := by
      by_cases hk : k = name
      · subst hk; simp
      · simp [hk, get?_set_ne b (Ne.symm hk)]
    show (setAll (b.set k v) rest).get? name = _
    rw [ih, List.reverse_cons, happ, hset]
    by_cases hk : k = name <;> cases find? name rest.reverse <;> simp [hk]

theorem find?_eq_some_iff {l : List (α × β)} (h : (l.map Prod.fst).Nodup) {name : α} {value : β} :
    find? name l = some value ↔ (name, value) ∈ l := by
  induction l with
  | nil => simp [find?]
  | cons e rest ih =>
    obtain ⟨k, v⟩ := e
    rw [List.map_cons, List.nodup_cons] at h
    by_cases hk : k = name
    · subst hk
      simp only [find?, if_true, Option.some.injEq, List.mem_cons, Prod.mk.injEq, true_and]
      constructor
      · exact fun e => .inl e.symm
      · rintro (e | hm)
        · exact e.symm
        · exact absurd (List.mem_map_of_mem hm) h.1
    · simp [find?, hk, ih h.2, Ne.symm hk]

theorem get?_ofList {pairs : List (α × β)} (h : (pairs.map Prod.fst).Nodup) (name : α) :
    (ofList pairs).get? name = find? name pairs := by
  have hr : (pairs.reverse.map Prod.fst).Nodup := by
    rw [List.map_reverse, List.nodup_iff_pairwise_ne, List.pairwise_reverse]
    exact h.imp Ne.symm
  rw [ofList, get?_setAll]
  refine Option.ext fun value => ?_
  simp only [get?_empty, Option.orElse_eq_orElse, Option.orElse_eq_or, Option.or_none]
  rw [find?_eq_some_iff hr, find?_eq_some_iff h, List.mem_reverse]

theorem mem_entries_iff (b : Bindings α β) {name : α} {value : β} :
    (name, value) ∈ b.entries ↔ b.get? name = some value :=
  (find?_eq_some_iff b.distinct).symm

theorem isEmpty_iff (b : Bindings α β) : b.isEmpty = true ↔ ∀ name, b.get? name = none := by
  obtain ⟨l, hl⟩ := b
  cases l with
  | nil => simp [isEmpty, get?, find?]
  | cons e rest =>
    have h : ¬ ∀ name, find? name (e :: rest) = none := fun h => by simpa [find?] using h e.1
    simpa [isEmpty, get?] using h

end Bindings

end CmakeDriver
