import CmakeDriver.Bindings
import CmakeDriver.World.Path

/-!
# Environments

An environment binds variable names to values, both byte strings. A program gets it as a block of
entries `NAME=VALUE`. Variables set from text are written as UTF-8; only variables whose name and
value are UTF-8 can be read back as text.

Results:
* `lookup_ofText`: a variable set from text has the bytes of that text.
* `mem_textPairs_iff`, `nodup_textPairs`: the text pairs are the variables that are UTF-8, each
  name once.
* `mem_block_iff`: the block holds one entry per variable.
* `readBack?_of_lookup`, `readBack?_eq_lookup`: a variable reads back from the block as it was set,
  and no other does if no name holds an equals sign.
-/

namespace CmakeDriver

/-- Variables and their values. -/
abbrev Environment := Bindings Bytes Bytes

/-- Variables and their values, as text. -/
abbrev TextBindings := Bindings String String

namespace Environment

/-- The variable that lists the directories in which programs are sought. -/
def pathName : String := "PATH"

/-- The variable that names the home directory. -/
def homeName : String := "HOME"

/-- The variable that asks for colours wherever text is printed. -/
def forceColoursName : String := "CLICOLOR_FORCE"

/-- The variable that forbids colours. -/
def noColoursName : String := "NO_COLOR"

/-- The environment with these variables and no others. -/
def ofText (b : TextBindings) : Environment where
  entries := b.entries.map fun e => (Bytes.ofString e.1, Bytes.ofString e.2)
  distinct := by
    have h := b.distinct
    rw [List.map_map]
    have : (b.entries.map (Prod.fst ∘ fun e => (Bytes.ofString e.1, Bytes.ofString e.2)))
        = (b.entries.map Prod.fst).map Bytes.ofString := by
      rw [List.map_map]; rfl
    rw [this]
    exact List.Pairwise.map _ (fun _ _ hne he => hne (Bytes.ofString_inj he)) h

/-- The variables whose name and value are UTF-8, as text. -/
def textPairs (e : Environment) : List (String × String) :=
  e.entries.filterMap fun (k, v) => do
    let k ← Bytes.decode? k
    let v ← Bytes.decode? v
    pure (k, v)

/-- The entries `NAME=VALUE` that a program gets. -/
def block (e : Environment) : List Bytes :=
  e.entries.map fun (k, v) => k ++ Bytes.equalsSign :: v

/-- The value of a variable whose name is given as text. -/
def lookup (e : Environment) (name : String) : Option Bytes :=
  e.get? (Bytes.ofString name)

/-- Whether a variable is set to anything but the empty text. -/
def isGiven (e : Environment) (name : String) : Bool :=
  (e.lookup name).any (· ≠ [])

/-- What every block entry of a variable begins with. -/
def entryHead (name : String) : Bytes :=
  Bytes.ofString name ++ [Bytes.equalsSign]

/-- The value that a program reads for a name: what follows `NAME=` in the first entry of its block
that begins so. The entries are in the order of the variables' names. A variable whose own name
goes on behind an equals sign is read as one of the shorter name. -/
def readBack? (e : Environment) (name : String) : Option Bytes :=
  match e.lookup name with
  | some v => some v
  | none =>
    let others := e.entries.filter fun entry => (entryHead name).isPrefixOf entry.1
    (others.mergeSort fun a b => decide (a.1 ≤ b.1)).head?.map fun (k, v) =>
      k.drop (entryHead name).length ++ Bytes.equalsSign :: v

/-- The directories in which programs are sought, if the variable for it is set. -/
def searchPath? (e : Environment) : Option (List Path) :=
  (e.readBack? pathName).map (Bytes.split Bytes.colon)

theorem readBack?_of_lookup {e : Environment} {name : String} {v : Bytes}
    (h : e.lookup name = some v) : e.readBack? name = some v := by
  simp [readBack?, h]

theorem readBack?_eq_lookup {e : Environment} (name : String)
    (h : ∀ entry ∈ e.entries, Bytes.equalsSign ∉ entry.1) :
    e.readBack? name = e.lookup name := by
  unfold readBack?
  split
  · rename_i v hv; rw [hv]
  · rename_i hn
    have ho : (e.entries.filter fun entry => (entryHead name).isPrefixOf entry.1) = [] := by
      rw [List.filter_eq_nil_iff]
      intro entry hm hp
      obtain ⟨rest, hr⟩ := List.isPrefixOf_iff_prefix.1 hp
      exact h entry hm (by rw [← hr]; simp [entryHead])
    simp [ho, hn]

theorem find?_map_ofString (l : List (String × String)) (name : String) :
    Bindings.find? (Bytes.ofString name)
      (l.map fun e => (Bytes.ofString e.1, Bytes.ofString e.2))
      = (Bindings.find? name l).map Bytes.ofString := by
  induction l with
  | nil => rfl
  | cons e rest ih =>
    obtain ⟨k, v⟩ := e
    by_cases h : k = name
    · subst h; simp [Bindings.find?]
    · have hb : Bytes.ofString k ≠ Bytes.ofString name := fun e => h (Bytes.ofString_inj e)
      simp [Bindings.find?, h, hb, ih]

theorem lookup_ofText (b : TextBindings) (name : String) :
    (ofText b).lookup name = (b.get? name).map Bytes.ofString :=
  find?_map_ofString b.entries name

theorem mem_textPairs_iff (e : Environment) {name value : String} :
    (name, value) ∈ e.textPairs ↔
      e.get? (Bytes.ofString name) = some (Bytes.ofString value) := by
  rw [← Bindings.mem_entries_iff]
  simp only [textPairs, List.mem_filterMap, Prod.exists]
  constructor
  · rintro ⟨k, v, hm, h⟩
    obtain ⟨k', hk, h⟩ := Option.bind_eq_some_iff.1 h
    obtain ⟨v', hv, h⟩ := Option.bind_eq_some_iff.1 h
    obtain ⟨rfl, rfl⟩ := Prod.mk.inj (Option.some.inj h)
    rwa [← Bytes.decode?_eq_some_iff.1 hk, ← Bytes.decode?_eq_some_iff.1 hv]
  · intro hm
    refine ⟨_, _, hm, ?_⟩
    simp

theorem nodup_textPairs (e : Environment) : (e.textPairs.map Prod.fst).Nodup := by
  have h := e.distinct
  rw [List.nodup_iff_pairwise_ne, List.pairwise_map] at h ⊢
  refine List.pairwise_filterMap.2 (h.imp ?_)
  rintro ⟨k, v⟩ ⟨k', v'⟩ hne p hp q hq he
  obtain ⟨n, hn, hp⟩ := Option.bind_eq_some_iff.1 hp
  obtain ⟨_, _, hp⟩ := Option.bind_eq_some_iff.1 hp
  obtain ⟨n', hn', hq⟩ := Option.bind_eq_some_iff.1 hq
  obtain ⟨_, _, hq⟩ := Option.bind_eq_some_iff.1 hq
  obtain rfl := Option.some.inj hp
  obtain rfl := Option.some.inj hq
  obtain rfl : n = n' := he
  exact hne ((Bytes.decode?_eq_some_iff.1 hn).trans (Bytes.decode?_eq_some_iff.1 hn').symm)

theorem mem_block_iff (e : Environment) {entry : Bytes} :
    entry ∈ e.block ↔ ∃ k v, e.get? k = some v ∧ entry = k ++ Bytes.equalsSign :: v := by
  simp only [block, List.mem_map]
  constructor
  · rintro ⟨⟨k, v⟩, hm, rfl⟩
    exact ⟨k, v, (Bindings.mem_entries_iff e).1 hm, rfl⟩
  · rintro ⟨k, v, hg, rfl⟩
    exact ⟨(k, v), (Bindings.mem_entries_iff e).2 hg, rfl⟩

end Environment

end CmakeDriver
