import CmakeDriver.Toml.Document

/-!
# No key is bound twice

In a document no table binds a key twice, whichever way the table is written and however deep it
stands. The tables of a draft keep to that from line to line, for a key is added only where it is
not yet bound, and opening a header adds, moves or extends a table as a whole. Inline tables are
made by the same operations, so every value that is read keeps to it as well.

Results:
* `update_distinct`: changing one table of a draft keeps the keys of all others.
* `Items.Distinct.entries`: a complete table binds the keys that it had while it grew.
* `yields_value`: a value that is read binds no key twice.
* `distinct_of_parse?`: no document does.
-/

namespace CmakeDriver

namespace Toml

/-! ## Values and tables under construction -/

/-- No table in a value binds a key twice. -/
inductive Value.Distinct : Value → Prop
  | text (s : String) : Distinct (.text s)
  | integer (n : Int) : Distinct (.integer n)
  | float (x : Binary64) : Distinct (.float x)
  | boolean (b : Bool) : Distinct (.boolean b)
  | dateTime (d : DateTime) : Distinct (.dateTime d)
  | array {items : List Value} (h : ∀ v ∈ items, Distinct v) : Distinct (.array items)
  | table {entries : Entries} (keys : (entries.map Prod.fst).Nodup)
      (h : ∀ e ∈ entries, Distinct e.2) : Distinct (.table entries)

/-- No table in a part of a draft binds a key twice. -/
inductive Node.Distinct : Node → Prop
  | leaf {value : Value} (h : value.Distinct) : Distinct (.leaf value)
  | table {origin : Origin} {items : Items} (keys : (items.map Prod.fst).Nodup)
      (h : ∀ e ∈ items, Distinct e.2) : Distinct (.table origin items)
  | tables {elements : List Items} (keys : ∀ items ∈ elements, (items.map Prod.fst).Nodup)
      (h : ∀ items ∈ elements, ∀ e ∈ items, Distinct e.2) : Distinct (.tables elements)

/-- Neither a table under construction nor any table in it binds a key twice. -/
structure Items.Distinct (items : Items) : Prop where
  keys : (items.map Prod.fst).Nodup
  nodes : ∀ e ∈ items, e.2.Distinct

theorem Node.distinct_table_iff {origin : Origin} {items : Items} :
    (Node.table origin items).Distinct ↔ items.Distinct := by
  constructor
  · rintro ⟨⟩
    exact ⟨‹_›, ‹_›⟩
  · rintro ⟨keys, h⟩
    exact .table keys h

theorem Node.distinct_tables_iff {elements : List Items} :
    (Node.tables elements).Distinct ↔ ∀ items ∈ elements, items.Distinct := by
  constructor
  · rintro ⟨⟩ items hm
    exact ⟨‹∀ items ∈ elements, (items.map Prod.fst).Nodup› items hm,
      ‹∀ items ∈ elements, ∀ e ∈ items, e.2.Distinct› items hm⟩
  · intro h
    exact .tables (fun items hm => (h items hm).keys) fun items hm => (h items hm).nodes

namespace Items

variable {items : Items} {key : String} {node : Node}

theorem mem_of_find? (h : items.find? key = some node) : (key, node) ∈ items := by
  induction items with
  | nil => exact absurd h (by simp [find?])
  | cons e rest ih =>
    obtain ⟨k, n⟩ := e
    by_cases hk : k = key
    · subst hk
      simp only [find?, if_true, Option.some.injEq] at h
      exact h ▸ List.mem_cons_self
    · simp only [find?, hk, if_false] at h
      exact List.mem_cons_of_mem _ (ih h)

theorem distinct_nil : Items.Distinct [] := ⟨List.nodup_nil, by simp⟩

/-! ## Adding, replacing and taking away -/

theorem Distinct.concat (h : items.Distinct) (hnew : items.find? key = none)
    (hnode : node.Distinct) : Items.Distinct (items ++ [(key, node)]) where
  keys := by
    rw [List.map_append, List.nodup_append]
    refine ⟨h.keys, by simp, ?_⟩
    rintro k hk k' hk' rfl
    obtain ⟨e, he, rfl⟩ := List.mem_map.1 hk
    exact find?_eq_none_iff.1 hnew e he (by simpa using hk')
  nodes := by
    intro e he
    rcases List.mem_append.1 he with he | he
    · exact h.nodes e he
    · obtain rfl := List.mem_singleton.1 he
      exact hnode

theorem Distinct.replace (h : items.Distinct) (hnode : node.Distinct) :
    (items.replace key node).Distinct where
  keys := by
    have hkeys : (items.replace key node).map Prod.fst = items.map Prod.fst := by
      rw [Items.replace, List.map_map]
      refine List.map_congr_left fun e _ => ?_
      by_cases hk : e.1 = key <;> simp [hk]
    rw [hkeys]
    exact h.keys
  nodes := by
    intro e he
    obtain ⟨e', he', rfl⟩ := List.mem_map.1 he
    split
    · exact hnode
    · exact h.nodes e' he'

theorem Distinct.erase (h : items.Distinct) (key : String) : (items.erase key).Distinct where
  keys := h.keys.sublist (List.filter_sublist.map _)
  nodes := fun e he => h.nodes e (List.mem_filter.1 he).1

theorem find?_erase (items : Items) (key : String) : (items.erase key).find? key = none :=
  find?_eq_none_iff.2 fun e he => by simpa using (List.mem_filter.1 he).2

theorem Distinct.of_find? (h : items.Distinct) (hf : items.find? key = some node) :
    node.Distinct :=
  h.nodes _ (mem_of_find? hf)

/-! ## Changing one table -/

variable {items' : Items} {path : List String} {value : Value}

/-- A change of one table after which no key is bound twice. -/
def KeepsDistinct (change : Origin → Items → Option Items) : Prop :=
  ∀ origin items items', items.Distinct → change origin items = some items' → items'.Distinct

/-- **Changing the table that a path leads to keeps all keys apart** if the change does so in that
table: the tables on the way keep their keys. -/
theorem update_distinct {change : Origin → Items → Option Items} (hchange : KeepsDistinct change)
    {dotted : Bool} {origin : Origin} (h : items.Distinct)
    (hu : items.update dotted change path origin = some items') : items'.Distinct := by
  induction path generalizing origin items items' with
  | nil => exact hchange origin items items' h hu
  | cons key path ih =>
    rw [update] at hu
    split at hu
    · rename_i hnew
      obtain ⟨sub, hsub, he⟩ := Option.bind_eq_some_iff.1 hu
      obtain rfl := Option.some.inj he
      exact h.concat hnew (Node.distinct_table_iff.2 (ih distinct_nil hsub))
    · exact absurd hu (by simp)
    · rename_i origin' sub hf
      split at hu
      · exact absurd hu (by simp)
      · obtain ⟨sub', hsub, he⟩ := Option.bind_eq_some_iff.1 hu
        obtain rfl := Option.some.inj he
        have hold := Node.distinct_table_iff.1 (h.of_find? hf)
        exact h.replace (Node.distinct_table_iff.2 (ih hold hsub))
    · rename_i elements hf
      have hold := Node.distinct_tables_iff.1 (h.of_find? hf)
      split at hu
      · exact absurd hu (by simp)
      · rename_i last hlast
        obtain ⟨last', hsub, he⟩ := Option.bind_eq_some_iff.1 hu
        obtain rfl := Option.some.inj he
        have hlast' := ih (hold last (List.mem_of_getLast? hlast)) hsub
        refine h.replace (Node.distinct_tables_iff.2 fun x hx => ?_)
        rcases List.mem_append.1 hx with hx | hx
        · exact hold x (List.dropLast_subset _ hx)
        · exact List.mem_singleton.1 hx ▸ hlast'

theorem insert_distinct (h : items.Distinct) (hv : value.Distinct)
    (hi : items.insert path key value = some items') : items'.Distinct := by
  refine update_distinct (fun origin items items' h hc => ?_) h hi
  split at hc
  · exact absurd hc (by simp)
  split at hc
  · exact absurd hc (by simp)
  · rename_i hnew
    obtain rfl := Option.some.inj hc
    exact h.concat hnew (.leaf hv)

theorem openTable_distinct (h : items.Distinct) (ho : items.openTable path key = some items') :
    items'.Distinct := by
  refine update_distinct (fun _ items items' h hc => ?_) h ho
  split at hc
  · rename_i hnew
    obtain rfl := Option.some.inj hc
    exact h.concat hnew (Node.distinct_table_iff.2 distinct_nil)
  · rename_i sub hf
    obtain rfl := Option.some.inj hc
    have hsub := Node.distinct_table_iff.1 (h.of_find? hf)
    exact (h.erase key).concat (find?_erase items key) (Node.distinct_table_iff.2 hsub)
  · exact absurd hc (by simp)

theorem openElement_distinct (h : items.Distinct)
    (ho : items.openElement path key = some items') : items'.Distinct := by
  refine update_distinct (fun _ items items' h hc => ?_) h ho
  split at hc
  · rename_i hnew
    obtain rfl := Option.some.inj hc
    refine h.concat hnew (Node.distinct_tables_iff.2 fun x hx => ?_)
    exact List.mem_singleton.1 hx ▸ distinct_nil
  · rename_i elements hf
    obtain rfl := Option.some.inj hc
    refine h.replace (Node.distinct_tables_iff.2 fun x hx => ?_)
    rcases List.mem_append.1 hx with hx | hx
    · exact Node.distinct_tables_iff.1 (h.of_find? hf) x hx
    · exact List.mem_singleton.1 hx ▸ distinct_nil
  · exact absurd hc (by simp)

/-! ## Completing -/

/-- A complete table has the values of its nodes. -/
theorem table_entries_distinct (keys : (items.map Prod.fst).Nodup)
    (h : ∀ e ∈ items, e.2.value.Distinct) : (Value.table (Items.entries items)).Distinct := by
  refine .table (by rwa [map_fst_entries]) fun e he => ?_
  rw [entries_eq_map] at he
  obtain ⟨e', he', rfl⟩ := List.mem_map.1 he
  exact h e' he'

end Items

theorem Node.Distinct.value {node : Node} (h : node.Distinct) : node.value.Distinct := by
  induction h with
  | leaf h => exact h
  | table keys h ih => exact Items.table_entries_distinct keys ih
  | @tables elements keys h ih =>
    refine .array fun v hv => ?_
    rw [Items.elementValues_eq_map] at hv
    obtain ⟨items, hm, rfl⟩ := List.mem_map.1 hv
    exact Items.table_entries_distinct (keys items hm) (ih items hm)

theorem Items.Distinct.entries {items : Items} (h : items.Distinct) :
    (Value.table (Items.entries items)).Distinct :=
  table_entries_distinct h.keys fun e he => (h.nodes e he).value

theorem inlineEntries?_distinct {pairs : List ((List String × String) × Value)} {entries : Entries}
    (h : ∀ p ∈ pairs, p.2.Distinct) (hi : inlineEntries? pairs = some entries) :
    (Value.table entries).Distinct := by
  obtain ⟨items, hfold, he⟩ := Option.bind_eq_some_iff.1 hi
  obtain rfl := Option.some.inj he
  suffices ∀ sofar : Items, sofar.Distinct →
      pairs.foldlM (fun (items : Items) p => items.insert p.1.1 p.1.2 p.2) sofar = some items →
        items.Distinct from (this [] Items.distinct_nil hfold).entries
  clear hfold hi
  induction pairs with
  | nil =>
    intro sofar hs hf
    exact Option.some.inj hf ▸ hs
  | cons p rest ih =>
    intro sofar hs hf
    rw [List.foldlM_cons] at hf
    obtain ⟨next, hn, hf⟩ := Option.bind_eq_some_iff.1 hf
    have hnext := Items.insert_distinct hs (h p List.mem_cons_self) hn
    exact ih (fun q hq => h q (List.mem_cons_of_mem _ hq)) next hnext hf

/-! ## What readers yield -/

/-- What a turn of a loop comes to: a state or a result with a property. -/
def Turn.Keeps {σ α : Type} (I : σ → Prop) (P : α → Prop) : Turn σ α → Prop
  | .again state => I state
  | .done result => P result

namespace Reader

variable {α β σ : Type} {P : α → Prop} {Q : β → Prop}

/-- All that a reader takes from any text has a property. -/
def Yields (P : α → Prop) (r : Reader α) : Prop :=
  ∀ s a rest, r s = some (a, rest) → P a

theorem Yields.pure {a : α} (h : P a) : Yields P (Pure.pure a : Reader α) := by
  intro s b rest hb
  obtain rfl : a = b := congrArg Prod.fst (Option.some.inj hb)
  exact h

theorem Yields.fail : Yields P (fail : Reader α) := by
  intro s a rest h
  exact absurd h (by simp [Reader.fail])

theorem Yields.ofOption {o : Option α} (h : ∀ a, o = some a → P a) :
    Yields P (Reader.ofOption o) := by
  cases o with
  | none => exact .fail
  | some a => exact .pure (h a rfl)

theorem Yields.bind {r : Reader α} {f : α → Reader β} (hr : Yields P r)
    (hf : ∀ a, P a → Yields Q (f a)) : Yields Q (r >>= f) := by
  intro s b rest h
  rw [bind_apply] at h
  obtain ⟨⟨a, middle⟩, ha, hb⟩ := Option.bind_eq_some_iff.1 h
  exact hf a (hr s a middle ha) middle b rest hb

/-- Behind a reader of which nothing matters. -/
theorem Yields.after {r : Reader α} {f : α → Reader β} (hf : ∀ a, Yields Q (f a)) :
    Yields Q (r >>= f) :=
  Yields.bind (P := fun _ => True) (fun _ _ _ _ => trivial) fun a _ => hf a

theorem Yields.ite {c : Prop} [Decidable c] {r r' : Reader α} (h : Yields P r)
    (h' : Yields P r') : Yields P (if c then r else r') := by
  split
  · exact h
  · exact h'

/-- **A loop keeps what each of its turns keeps.** -/
theorem Yields.loop {turn : σ → Reader (Turn σ α)} {I : σ → Prop}
    (h : ∀ state, I state → Yields (Turn.Keeps I P) (turn state)) {state : σ} (hI : I state) :
    Yields P (Reader.loop turn state) := by
  intro s a rest hl
  induction hn : s.length using Nat.strongRecOn generalizing s state with
  | ind n ih =>
    subst hn
    rw [Reader.loop] at hl
    split at hl
    · exact absurd hl (by simp)
    · rename_i b middle hb
      obtain ⟨rfl, rfl⟩ := Prod.mk.inj (Option.some.inj hl)
      exact h state hI s _ _ hb
    · rename_i next middle hnext
      split at hl
      · exact ih _ ‹_› (h state hI s _ _ hnext) middle hl rfl
      · exact absurd hl (by simp)

/-! ## Values -/

theorem yields_integerOf (n : Int) : Yields Value.Distinct (integerOf n) :=
  .ite (.pure (.integer n)) .fail

theorem yields_floatOf (x : Binary64) : Yields Value.Distinct (floatOf x) :=
  .ite .fail (.pure (.float x))

theorem yields_specialFloat (negative : Bool) : Yields Value.Distinct (specialFloat negative) :=
  .after fun _ => .ite (.after fun _ => .pure (.float _)) (.after fun _ => .pure (.float _))

theorem yields_unsigned (negative : Bool) : Yields Value.Distinct (unsigned negative) := by
  refine .after fun whole => .after fun part => .after fun power => ?_
  split
  · exact yields_integerOf _
  · exact yields_floatOf _

theorem yields_basedInteger (base : Nat) : Yields Value.Distinct (basedInteger base) :=
  .after fun _ => .after fun _ => .after fun _ => yields_integerOf _

theorem yields_number : Yields Value.Distinct number := by
  refine .after fun _ => .ite (yields_basedInteger 16) (.after fun _ => .ite (yields_basedInteger 8)
    (.after fun _ => .ite (yields_basedInteger 2) (.after fun negative => .after fun _ => ?_)))
  exact .ite (yields_specialFloat negative) (yields_unsigned negative)

theorem yields_numberOrDate : Yields Value.Distinct numberOrDate := by
  refine .after fun _ => .ite (.after fun d => .pure (.dateTime d)) (.after fun _ => ?_)
  exact .ite (.after fun t => .pure (.dateTime _)) yields_number

theorem yields_scalar : Yields Value.Distinct scalar := by
  refine .after fun c => ?_
  cases c with
  | none => exact .fail
  | some c =>
    refine .ite (.after fun s => .pure (.text s)) (.ite (.after fun s => .pure (.text s)) ?_)
    refine .ite (.after fun _ => .pure (.boolean true)) ?_
    refine .ite (.after fun _ => .pure (.boolean false)) ?_
    exact .ite (yields_specialFloat false) (.ite yields_numberOrDate .fail)

section Nested

variable {element : Reader Value} (h : Yields Value.Distinct element)

include h

theorem yields_arrayTurn {sofar : List Value} (hs : ∀ v ∈ sofar, v.Distinct) :
    Yields (Turn.Keeps (fun sofar => ∀ v ∈ sofar, Value.Distinct v) Value.Distinct)
      (arrayTurn element sofar) := by
  refine .after fun _ => .after fun closing => ?_
  cases closing with
  | some _ => exact .pure (.array fun v hv => hs v (List.mem_reverse.1 hv))
  | none =>
    refine h.bind fun v hv => .after fun _ => .after fun comma => ?_
    have hmore : ∀ x ∈ v :: sofar, x.Distinct := List.forall_mem_cons.2 ⟨hv, hs⟩
    cases comma with
    | some _ => exact .pure hmore
    | none => exact .after fun _ => .pure (.array fun x hx => hmore x (List.mem_reverse.1 hx))

theorem yields_pair : Yields (fun p => p.2.Distinct) (pair element) :=
  .after fun _ => .after fun _ => .after fun _ => h.bind fun _ hv => .pure hv

theorem yields_inlineTurn {sofar : List ((List String × String) × Value)}
    (hs : ∀ p ∈ sofar, p.2.Distinct) :
    Yields (Turn.Keeps (fun sofar => ∀ p ∈ sofar, p.2.Distinct) Value.Distinct)
      (inlineTurn element sofar) := by
  refine (yields_pair h).bind fun p hp => .after fun _ => .after fun comma => ?_
  have hmore : ∀ q ∈ p :: sofar, q.2.Distinct := List.forall_mem_cons.2 ⟨hp, hs⟩
  cases comma with
  | some _ => exact .pure hmore
  | none =>
    refine .after fun _ => Yields.bind (P := fun entries => (Value.table entries).Distinct)
      (.ofOption fun entries he => ?_) fun entries he => .pure he
    exact inlineEntries?_distinct (fun q hq => hmore q (List.mem_reverse.1 hq)) he

theorem yields_inlineTable : Yields Value.Distinct (inlineTable element) := by
  refine .after fun _ => .after fun closing => ?_
  cases closing with
  | some _ => exact .pure (.table List.nodup_nil (by simp))
  | none => exact .loop (fun _ hs => yields_inlineTurn h hs) (by simp)

end Nested

/-- **A value binds no key twice**, however deep its tables stand. -/
theorem yields_value (nesting : Nat) : Yields Value.Distinct (value nesting) := by
  induction nesting with
  | zero => exact yields_scalar
  | succ nesting ih =>
    refine .after fun c => .ite (.after fun _ => ?_) (.ite (.after fun _ => ?_) yields_scalar)
    · exact .loop (fun _ hs => yields_arrayTurn ih hs) (by simp)
    · exact yields_inlineTable ih

/-! ## Documents -/

variable {d : Draft}

theorem yields_header (hd : d.root.Distinct) : Yields (fun d => d.root.Distinct) (header d) := by
  refine .after fun _ => .ite ?_ ?_
  · refine .after fun _ => .after fun p => .after fun _ => .after fun _ => .ofOption fun d' h => ?_
    obtain ⟨root, ho, rfl⟩ := Option.map_eq_some_iff.1 h
    exact Items.openElement_distinct hd ho
  · refine .after fun _ => .after fun p => .after fun _ => .after fun _ => .ofOption fun d' h => ?_
    obtain ⟨root, ho, rfl⟩ := Option.map_eq_some_iff.1 h
    exact Items.openTable_distinct hd ho

theorem yields_binding (hd : d.root.Distinct) : Yields (fun d => d.root.Distinct) (binding d) := by
  refine (yields_pair (yields_value maxNesting)).bind fun p hp => .after fun _ => ?_
  refine .ofOption fun d' h => ?_
  obtain ⟨root, hu, rfl⟩ := Option.map_eq_some_iff.1 h
  exact Items.update_distinct (fun _ _ _ h hi => Items.insert_distinct h hp hi) hd hu

theorem yields_documentTurn (hd : d.root.Distinct) :
    Yields (Turn.Keeps (fun d => d.root.Distinct) fun d => d.root.Distinct) (documentTurn d) := by
  refine .after fun _ => .after fun c => ?_
  cases c with
  | none => exact .pure hd
  | some c =>
    refine .ite (.after fun _ => .after fun _ => .pure hd) (.ite (.after fun _ => .pure hd) ?_)
    exact .ite ((yields_header hd).bind fun _ h => .pure h)
      ((yields_binding hd).bind fun _ h => .pure h)

theorem yields_readDocument (hd : d.root.Distinct) :
    Yields (fun d => d.root.Distinct) (readDocument d) :=
  .loop (fun _ h => yields_documentTurn h) hd

end Reader

/-- **No document binds a key twice**, at the top or in any table. -/
theorem distinct_of_parse? {text : String} {entries : Entries} (h : parse? text = some entries) :
    (Value.table entries).Distinct := by
  obtain ⟨⟨d, rest⟩, hread, rfl⟩ := Option.map_eq_some_iff.1 h
  exact (Reader.yields_readDocument Items.distinct_nil _ d rest hread).entries

end Toml

end CmakeDriver
