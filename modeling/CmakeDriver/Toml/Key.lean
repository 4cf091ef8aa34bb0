import CmakeDriver.Toml.Text

/-!
# Keys

A key is bare, of letters, digits, underscores and dashes, or a string on one line. A path is keys
with dots between them and blanks around them.

Results:
* `isBareChar_not_blank`: a bare key ends in front of a blank.
-/

namespace CmakeDriver

namespace Toml

/-- Whether a character may stand in a bare key. -/
def isBareChar (c : Char) : Bool :=
  c.isAlphanum || c = '_' || c = '-'

theorem isBareChar_not_blank {c : Char} (h : isBlank c = true) : isBareChar c = false := by
  unfold isBlank at h
  simp only [Bool.or_eq_true, decide_eq_true_eq] at h
  rcases h with rfl | rfl <;> decide

/-- A path has fewer keys than this. -/
def pathLimit : Nat := 80

namespace Reader

/-- Takes one key. -/
def key : Reader String := do
  match ← peek with
  | some c =>
    if c = doubleQuote then basicLine
    else if c = singleQuote then literalLine
    else do
      let run ← takeWhile1 isBareChar
      pure (String.ofList run)
  | none => fail

/-- Takes one key of a path and the dot behind it, if there is one; `sofar` holds the keys in front
of it, the last one first. -/
def pathTurn (sofar : List String) : Reader (Turn (List String) (List String)) := do
  blanks
  let k ← key
  blanks
  match ← optional (char '.') with
  | some _ => pure (.again (k :: sofar))
  | none => pure (.done (k :: sofar))

/-- Takes a path: the keys in front of its last one, and its last one. -/
def path : Reader (List String × String) := do
  match ← loop pathTurn [] with
  | last :: front =>
    if (last :: front).length < pathLimit then pure (front.reverse, last) else fail
  | [] => fail

end Reader

end Toml

end CmakeDriver
