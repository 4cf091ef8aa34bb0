import CmakeDriver.Proofs.Toml.Moves

/-!
# The forms of a section

A section can stand under a header of its own, its keys can be dotted keys of the root table, or it
can be an inline table of the root table. Whatever its form is, it adds the same table to the
document, so the entries of a document do not tell the forms of its sections.

The last header goes on to the end of the document. So sections without a header come first.

Results:
* `lay_section`: a section adds its table, in each form.
* `parse?_laidOut`: the entries of a document of sections in any forms.
-/

namespace CmakeDriver

namespace Toml

/-- How a section stands in a document. -/
inductive Form where
  /-- Its keys stand under its header. -/
  | header
  /-- Each of its keys is a dotted key of the root table. -/
  | dotted
  /-- It is an inline table of the root table. -/
  | inline
  deriving DecidableEq, Repr

/-- A section in one of the forms: its name, and its keys with their values. -/
structure Layout where
  form : Form
  name : String
  pairs : Entries

namespace Layout

/-- What the lines of the section do. -/
def moves (l : Layout) : List Move :=
  match l.form with
  | .header => .openTable ([], l.name) :: l.pairs.map fun p => .bind ([], p.1) p.2
  | .dotted => l.pairs.map fun p => .bind ([l.name], p.1) p.2
  | .inline => [.bind ([], l.name) (.table l.pairs)]

/-- The table that later keys are bound in. -/
def current (l : Layout) : List String :=
  match l.form with
  | .header => [l.name]
  | .dotted | .inline => []

/-- The table of the section in a document. -/
def entry (l : Layout) : String × Value :=
  (l.name, .table l.pairs)

end Layout

/-- Sections that can stand in one document in this order. -/
structure Placed (ls : List Layout) : Prop where
  names : (ls.map Layout.name).Nodup
  keys : ∀ l ∈ ls, (l.pairs.map Prod.fst).Nodup
  /-- Behind a header nothing goes back to the root table. -/
  headersLast : ls.Pairwise fun a b => a.form = .header → b.form = .header
  /-- Without keys there is no line in the dotted form. -/
  nonempty : ∀ l ∈ ls, l.form = .dotted → l.pairs ≠ []

/-- Keys with values that are complete, in a table under construction. -/
def leaves (pairs : Entries) : Items :=
  pairs.map fun p => (p.1, .leaf p.2)

theorem entries_leaves (pairs : Entries) : Items.entries (leaves pairs) = pairs := by
  rw [Items.entries_eq_map, leaves, List.map_map]
  exact List.map_id pairs

/-! ## One section -/

section OneSection

variable {before : Items} {name key : String} {sofar : Entries}

theorem find?_leaves_eq_none (h : ∀ p ∈ sofar, p.1 ≠ key) : (leaves sofar).find? key = none := by
  refine Items.find?_eq_none_iff.2 fun e he => ?_
  obtain ⟨p, hp, rfl⟩ := List.mem_map.1 he
  exact h p hp

theorem leaves_concat (sofar : Entries) (p : String × Value) :
    leaves (sofar ++ [p]) = leaves sofar ++ [(p.1, .leaf p.2)] := by
  rw [leaves, List.map_append]
  rfl

/-- A key is bound in the table that was opened last. -/
theorem make_bind_current (h : before.find? name = none) (hk : ∀ p ∈ sofar, p.1 ≠ key)
    (value : Value) :
    Draft.make { root := before ++ [(name, .table .header (leaves sofar))], current := [name] }
        (.bind ([], key) value) =
      some { root := before ++ [(name, .table .header (leaves (sofar ++ [(key, value)])))],
             current := [name] } := by
  simp only [Draft.make, Draft.bind, Items.update, Items.find?_concat h, Items.insert_single,
    find?_leaves_eq_none hk, Items.replace_concat h, leaves_concat]
  simp

/-- A dotted key is bound in the table that dotted keys made. -/
theorem make_bind_dotted (h : before.find? name = none) (hk : ∀ p ∈ sofar, p.1 ≠ key)
    (value : Value) :
    Draft.make { root := before ++ [(name, .table .dottedKey (leaves sofar))], current := [] }
        (.bind ([name], key) value) =
      some { root := before ++ [(name, .table .dottedKey (leaves (sofar ++ [(key, value)])))],
             current := [] } := by
  simp only [Draft.make, Draft.bind, Items.update, Items.insert, Items.find?_concat h,
    find?_leaves_eq_none hk, Items.replace_concat h, leaves_concat]
  simp

/-- The first dotted key makes that table. -/
theorem make_bind_dotted_first (h : before.find? name = none) (key : String) (value : Value) :
    Draft.make { root := before, current := [] } (.bind ([name], key) value) =
      some { root := before ++ [(name, .table .dottedKey (leaves [(key, value)]))],
             current := [] } := by
  simp [Draft.make, Draft.bind, Items.update, Items.insert, h, Items.find?, leaves]

/-- If each key is bound in the last table, all keys are, one after the other. -/
theorem foldlM_bind {origin : Origin} {current : List String} {move : String × Value → Move}
    (hone : ∀ sofar key value, (∀ p ∈ sofar, p.1 ≠ key) →
      Draft.make { root := before ++ [(name, .table origin (leaves sofar))], current }
          (move (key, value)) =
        some { root := before ++ [(name, .table origin (leaves (sofar ++ [(key, value)])))],
               current })
    (sofar pairs : Entries) (hd : ((sofar ++ pairs).map Prod.fst).Nodup) :
    (pairs.map move).foldlM Draft.make
        { root := before ++ [(name, .table origin (leaves sofar))], current } =
      some { root := before ++ [(name, .table origin (leaves (sofar ++ pairs)))], current } := by
  induction pairs generalizing sofar with
  | nil => simp
  | cons p rest ih =>
    have hsplit : sofar ++ p :: rest = sofar ++ [p] ++ rest := by simp
    have hk : ∀ q ∈ sofar, q.1 ≠ p.1 := by
      rw [List.map_append, List.nodup_append] at hd
      exact fun q hq => hd.2.2 q.1 (List.mem_map_of_mem hq) p.1 List.mem_cons_self
    rw [hsplit] at hd ⊢
    rw [List.map_cons, List.foldlM_cons, hone sofar p.1 p.2 hk]
    exact ih _ hd

/-- **A section adds its table**, in each form. -/
theorem lay_section {l : Layout} (h : before.find? l.name = none)
    (hd : (l.pairs.map Prod.fst).Nodup) (hne : l.form = .dotted → l.pairs ≠ [])
    {current : List String} (hc : l.form = .header ∨ current = []) :
    ∃ node : Node, node.value = .table l.pairs ∧
      l.moves.foldlM Draft.make { root := before, current } =
        some { root := before ++ [(l.name, node)], current := l.current } := by
  obtain ⟨form, name, pairs⟩ := l
  have hvalue : ∀ origin, (Node.table origin (leaves pairs)).value = .table pairs := by
    intro origin
    rw [Node.value, entries_leaves]
  cases form with
  | header =>
    have hopen : Draft.make { root := before, current } (.openTable ([], name)) =
        some { root := before ++ [(name, .table .header (leaves []))], current := [name] } := by
      simp [Draft.make, Draft.openTable, Items.openTable, Items.update, h, leaves]
    refine ⟨_, hvalue .header, ?_⟩
    rw [Layout.moves, List.foldlM_cons, hopen]
    exact foldlM_bind (fun _ _ value hk => make_bind_current h hk value) [] pairs hd
  | dotted =>
    obtain rfl : current = [] := hc.resolve_left (by simp)
    refine ⟨_, hvalue .dottedKey, ?_⟩
    obtain ⟨p, rest, rfl⟩ := List.exists_cons_of_ne_nil (hne rfl)
    have hmoves : Layout.moves ⟨.dotted, name, p :: rest⟩ =
        .bind ([name], p.1) p.2 :: rest.map fun p => .bind ([name], p.1) p.2 := rfl
    rw [hmoves, List.foldlM_cons, make_bind_dotted_first h]
    exact foldlM_bind (fun _ _ value hk => make_bind_dotted h hk value) [p] rest hd
  | inline =>
    obtain rfl : current = [] := hc.resolve_left (by simp)
    refine ⟨.leaf (.table pairs), rfl, ?_⟩
    simp [Layout.moves, Layout.current, Draft.make, Draft.bind, Items.update, Items.insert_single,
      h]

end OneSection

/-! ## All sections -/

theorem lay_sections {ls : List Layout} (h : Placed ls) {before : Items}
    (hnew : ∀ l ∈ ls, before.find? l.name = none) {current : List String}
    (hc : (∀ l ∈ ls, l.form = .header) ∨ current = []) :
    ∃ d, (ls.flatMap Layout.moves).foldlM Draft.make { root := before, current } = some d ∧
      Items.entries d.root = Items.entries before ++ ls.map Layout.entry := by
  induction ls generalizing before current with
  | nil => exact ⟨_, rfl, by simp⟩
  | cons l rest ih =>
    obtain ⟨hname, hnames⟩ := List.nodup_cons.1 h.names
    obtain ⟨hlast, hpairwise⟩ := List.pairwise_cons.1 h.headersLast
    have hrest : Placed rest :=
      ⟨hnames, fun l hl => h.keys l (List.mem_cons_of_mem _ hl), hpairwise,
        fun l hl => h.nonempty l (List.mem_cons_of_mem _ hl)⟩
    obtain ⟨node, hvalue, hlay⟩ := lay_section (hnew l List.mem_cons_self)
      (h.keys l List.mem_cons_self) (h.nonempty l List.mem_cons_self)
      (hc.imp_left fun hall => hall l List.mem_cons_self)
    have hnew' : ∀ r ∈ rest, Items.find? r.name (before ++ [(l.name, node)]) = none := by
      intro r hr
      refine Items.find?_eq_none_iff.2 fun e he => ?_
      rcases List.mem_append.1 he with he | he
      · exact Items.find?_eq_none_iff.1 (hnew r (List.mem_cons_of_mem _ hr)) e he
      · obtain rfl := List.mem_singleton.1 he
        rintro (heq : l.name = r.name)
        exact hname (heq ▸ List.mem_map_of_mem hr)
    have hcurrent : (∀ r ∈ rest, r.form = .header) ∨ l.current = [] := by
      cases hf : l.form with
      | header => exact .inl fun r hr => hlast r hr hf
      | dotted => exact .inr (by rw [Layout.current, hf])
      | inline => exact .inr (by rw [Layout.current, hf])
    obtain ⟨d, hd, he⟩ := ih hrest hnew' hcurrent
    refine ⟨d, ?_, ?_⟩
    · rw [List.flatMap_cons, List.foldlM_append, hlay]
      exact hd
    · rw [he, Items.entries_append, List.append_assoc]
      simp [Items.entries, hvalue, Layout.entry]

/-- **The entries of a document of sections** are their tables in order, whatever their forms. -/
theorem parse?_laidOut {ls : List Layout} (h : Placed ls) {text : String}
    (hr : Reader.Reads (withoutMark text.toList) (ls.flatMap Layout.moves)) :
    parse? text = some (ls.map Layout.entry) := by
  obtain ⟨d, hd, he⟩ : ∃ d, (ls.flatMap Layout.moves).foldlM Draft.make {} = some d ∧
      Items.entries d.root = Items.entries [] ++ ls.map Layout.entry :=
    lay_sections h (fun _ _ => rfl) (.inr rfl)
  rw [parse?_of_reads hr]
  exact (congrArg _ hd).trans (congrArg some he)

end Toml

end CmakeDriver
