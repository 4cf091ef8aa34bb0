import CmakeDriver.Decimal.Shortest
import CmakeDriver.Toml.DateTime

/-!
# TOML values

A value is text, a number, a truth value, a date or time, an array of values or a table, which
binds keys to values in the order in which they first appear.

Results:
* `Value.same_iff`: whether two values are the same can be decided.
-/

namespace CmakeDriver

namespace Toml

/-- A value of a document. -/
inductive Value where
  | text (s : String)
  | integer (n : Int)
  | float (x : Binary64)
  | boolean (b : Bool)
  | dateTime (d : DateTime)
  | array (items : List Value)
  | table (entries : List (String × Value))
  deriving Repr, Inhabited

/-- The keys of a table and their values, in order. -/
abbrev Entries := List (String × Value)

/-! ## Deciding whether values are the same -/

mutual

/-- Whether two values are the same. -/
def Value.same : Value → Value → Bool
  | .text s, .text t => s = t
  | .integer m, .integer n => m = n
  | .float x, .float y => x = y
  | .boolean a, .boolean b => a = b
  | .dateTime d, .dateTime e => d = e
  | .array vs, .array ws => Value.sameItems vs ws
  | .table es, .table fs => Value.sameEntries es fs
  | _, _ => false

/-- Whether two lists hold the same values. -/
def Value.sameItems : List Value → List Value → Bool
  | [], [] => true
  | v :: vs, w :: ws => v.same w && Value.sameItems vs ws
  | _, _ => false

/-- Whether two tables bind the same keys to the same values, in the same order. -/
def Value.sameEntries : List (String × Value) → List (String × Value) → Bool
  | [], [] => true
  | (k, v) :: es, (l, w) :: fs => k = l && v.same w && Value.sameEntries es fs
  | _, _ => false

end

mutual

theorem Value.same_iff (v w : Value) : v.same w = true ↔ v = w := by
  cases v with
  | array vs => cases w <;> simp [Value.same, Value.sameItems_iff vs]
  | table es => cases w <;> simp [Value.same, Value.sameEntries_iff es]
  | _ => cases w <;> simp [Value.same]

theorem Value.sameItems_iff (vs ws : List Value) : Value.sameItems vs ws = true ↔ vs = ws := by
  cases vs with
  | nil => cases ws <;> simp [Value.sameItems]
  | cons v vs =>
    cases ws <;> simp [Value.sameItems, Value.same_iff v, Value.sameItems_iff vs]

theorem Value.sameEntries_iff (es fs : List (String × Value)) :
    Value.sameEntries es fs = true ↔ es = fs := by
  cases es with
  | nil => cases fs <;> simp [Value.sameEntries]
  | cons e es =>
    obtain ⟨k, v⟩ := e
    cases fs <;>
      simp [Value.sameEntries, Value.same_iff v, Value.sameEntries_iff es, Prod.ext_iff]

end

instance : DecidableEq Value := fun v w => decidable_of_iff _ (Value.same_iff v w)

end Toml

end CmakeDriver
