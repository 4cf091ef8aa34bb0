import CmakeDriver.Toml.Value

/-!
# Tables under construction

While a document is read, its tables grow. A table remembers how it came about: by a header of its
own, by a longer header, or by a dotted key. That decides what may still be added to it.

* A header may define a table that only a longer header implied, once; the table then counts as
  appearing where its own header stands.
* A header with double brackets adds an element to an array of tables, and later headers go on in
  its last element.
* A dotted key goes through tables that dotted keys made, or that a longer header implied, and adds
  to the former only.
* No key is bound twice.

Results:
* `insert_single`: a plain key is added at the end of its table unless it is there already.
* `entries_eq_map`: a complete table has the values of its nodes under their keys.
-/

namespace CmakeDriver

namespace Toml

/-- How a table came about. -/
inductive Origin where
  | header
  | longerHeader
  | dottedKey
  deriving DecidableEq, Repr

/-- A part of a document under construction. -/
inductive Node where
  /-- A value that is complete, an inline table among them. -/
  | leaf (value : Value)
  | table (origin : Origin) (items : List (String × Node))
  /-- The elements of an array of tables. -/
  | tables (elements : List (List (String × Node)))

/-- The keys of a table under construction. -/
abbrev Items := List (String × Node)

namespace Items

/-- The node of a key. -/
def find? (key : String) : Items → Option Node
  | [] => none
  | (k, n) :: rest => if k = key then some n else find? key rest

/-- The items with another node for a key that is there. -/
def replace (key : String) (node : Node) (items : Items) : Items :=
  items.map fun e => if e.1 = key then (key, node) else e

/-- The items without a key. -/
def erase (key : String) (items : Items) : Items :=
  items.filter fun e => e.1 ≠ key

section Lookup

variable {key : String} {items : Items}

theorem find?_eq_none_iff : find? key items = none ↔ ∀ e ∈ items, e.1 ≠ key := by
  induction items with
  | nil => simp [find?]
  | cons e rest ih =>
    obtain ⟨k, n⟩ := e
    by_cases hk : k = key
    · simp [find?, hk]
    · simp [find?, hk, ih]

theorem find?_concat (h : find? key items = none) (n : Node) :
    find? key (items ++ [(key, n)]) = some n := by
  induction items with
  | nil => simp [find?]
  | cons e rest ih =>
    obtain ⟨k, m⟩ := e
    by_cases hk : k = key
    · simp [find?, hk] at h
    · simp only [find?, hk, if_false] at h
      simp [find?, hk, ih h]

theorem replace_concat (h : find? key items = none) (n m : Node) :
    replace key m (items ++ [(key, n)]) = items ++ [(key, m)] := by
  have hitems : items.map (fun e => if e.1 = key then (key, m) else e) = items := by
    refine (List.map_congr_left fun e he => ?_).trans (List.map_id items)
    rw [if_neg (find?_eq_none_iff.1 h e he)]
    rfl
  rw [replace, List.map_append, hitems]
  simp

end Lookup

/-- Changes the table that a path leads to, making the tables on the way that are not there.
`dotted` tells the path of a dotted key from that of a header. -/
def update (dotted : Bool) (change : Origin → Items → Option Items) :
    (path : List String) → Origin → Items → Option Items
  | [], origin, items => change origin items
  | key :: path, _, items =>
    match items.find? key with
    | none => do
      let origin := if dotted then Origin.dottedKey else Origin.longerHeader
      let sub ← update dotted change path origin []
      pure (items ++ [(key, .table origin sub)])
    | some (.leaf _) => none
    | some (.table origin sub) =>
      if dotted && origin = .header then none
      else do
        let sub ← update dotted change path origin sub
        pure (items.replace key (.table origin sub))
    | some (.tables elements) =>
      match elements.getLast? with
      | none => none
      | some last => do
        let last ← update dotted change path .header last
        pure (items.replace key (.tables (elements.dropLast ++ [last])))

/-- Binds a key in the table that a dotted path leads to. A path of one key binds in the table at
hand; a longer one binds only in a table that dotted keys made. -/
def insert (path : List String) (key : String) (value : Value) (items : Items) : Option Items :=
  update true
    (fun origin items =>
      if (origin = .dottedKey) ↔ (path = []) then none
      else
        match items.find? key with
        | some _ => none
        | none => some (items ++ [(key, .leaf value)]))
    path .header items

/-- Opens the table of a header. -/
def openTable (path : List String) (key : String) (items : Items) : Option Items :=
  update false
    (fun _ items =>
      match items.find? key with
      | none => some (items ++ [(key, .table .header [])])
      | some (.table .longerHeader sub) => some (items.erase key ++ [(key, .table .header sub)])
      | some _ => none)
    path .header items

/-- Adds an element to the array of tables of a header with double brackets. -/
def openElement (path : List String) (key : String) (items : Items) : Option Items :=
  update false
    (fun _ items =>
      match items.find? key with
      | none => some (items ++ [(key, .tables [[]])])
      | some (.tables elements) => some (items.replace key (.tables (elements ++ [[]])))
      | some _ => none)
    path .header items

theorem insert_single (key : String) (value : Value) (items : Items) :
    insert [] key value items =
      match items.find? key with
      | some _ => none
      | none => some (items ++ [(key, .leaf value)]) := by
  simp [insert, update]

end Items

/-! ## Completing -/

mutual

/-- The value of a node. -/
def Node.value : Node → Value
  | .leaf value => value
  | .table _ items => .table (Items.entries items)
  | .tables elements => .array (Items.elementValues elements)

/-- The entries of a table that is complete. -/
def Items.entries : Items → Entries
  | [] => []
  | (key, node) :: rest => (key, node.value) :: Items.entries rest

/-- The elements of an array of tables that is complete. -/
def Items.elementValues : List Items → List Value
  | [] => []
  | items :: rest => .table (Items.entries items) :: Items.elementValues rest

end

theorem Items.entries_eq_map (items : Items) :
    Items.entries items = items.map fun e => (e.1, e.2.value) := by
  induction items with
  | nil => simp [Items.entries]
  | cons e rest ih =>
    obtain ⟨k, n⟩ := e
    rw [Items.entries, ih, List.map_cons]

theorem Items.entries_append (a b : Items) :
    Items.entries (a ++ b) = Items.entries a ++ Items.entries b := by
  simp only [Items.entries_eq_map, List.map_append]

theorem Items.elementValues_eq_map (elements : List Items) :
    Items.elementValues elements = elements.map fun items => .table (Items.entries items) := by
  induction elements with
  | nil => simp [Items.elementValues]
  | cons items rest ih => rw [Items.elementValues, ih, List.map_cons]

theorem Items.map_fst_entries (items : Items) :
    (Items.entries items).map Prod.fst = items.map Prod.fst := by
  rw [Items.entries_eq_map, List.map_map]
  rfl

end Toml

end CmakeDriver
