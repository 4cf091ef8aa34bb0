import CmakeDriver.Toml.Blank

/-!
# Strings

A basic string stands between double quotes and knows escapes; a literal string stands between
single quotes and knows none. Behind three quotes either may run over several lines: a line end
right behind the opening quotes is dropped, line ends count as line feeds, and up to two quotes may
stand in front of the closing three. In a basic string of several lines a backslash at the end of
a line takes away the blanks and line ends that follow.

Results:
* `basicTurn_plain`, `basicTurn_quote`: what one turn through a basic string does.
-/

namespace CmakeDriver

namespace Toml

/-- Whether a character stands for itself in every string: any but the control characters, tab
excepted. -/
def isStringChar (c : Char) : Bool :=
  c = '\t' || (0x20 ≤ c.toNat && c.toNat ≠ 0x7F)

/-- The double quote. -/
def doubleQuote : Char := '\x22'

/-- The single quote. -/
def singleQuote : Char := '\x27'

/-- Whether a character stands for itself in a basic string. -/
def isBasicChar (c : Char) : Bool :=
  isStringChar c && c ≠ doubleQuote && c ≠ '\\'

/-- Whether a character stands for itself in a literal string. -/
def isLiteralChar (c : Char) : Bool :=
  isStringChar c && c ≠ singleQuote

/-- The value of a hexadecimal digit. -/
def hexValue? (c : Char) : Option Nat :=
  if '0' ≤ c ∧ c ≤ '9' then some (c.toNat - '0'.toNat)
  else if 'a' ≤ c ∧ c ≤ 'f' then some (c.toNat - 'a'.toNat + 10)
  else if 'A' ≤ c ∧ c ≤ 'F' then some (c.toNat - 'A'.toNat + 10)
  else none

/-- The number that digits of a base below 17 write. -/
def ofDigits (base : Nat) (digits : List Char) : Nat :=
  digits.foldl (fun n c => base * n + (hexValue? c).getD 0) 0

/-- The character of a number, if it is that of a character. -/
def scalar? (n : Nat) : Option Char :=
  if h : n.isValidChar then some (Char.ofNatAux n h) else none

namespace Reader

/-- Takes the number of a character in `n` hexadecimal digits. -/
def escapedScalar (n : Nat) : Reader Char := do
  let digits ← exactly n fun c => (hexValue? c).isSome
  ofOption (scalar? (ofDigits 16 digits))

/-- Takes what follows a backslash and stands for one character. -/
def escape : Reader Char := do
  match ← next with
  | 'b' => pure '\x08'
  | 't' => pure '\t'
  | 'n' => pure '\n'
  | 'f' => pure '\x0c'
  | 'r' => pure '\r'
  | '\\' => pure '\\'
  | 'u' => escapedScalar 4
  | 'U' => escapedScalar 8
  | c => if c = doubleQuote then pure doubleQuote else fail

/-- One turn through a string on one line, with the characters so far, the last one first. -/
def basicTurn (sofar : List Char) : Reader (Turn (List Char) String) := do
  let c ← next
  if c = doubleQuote then pure (.done (String.ofList sofar.reverse))
  else if c = '\\' then
    let c ← escape
    pure (.again (c :: sofar))
  else if isBasicChar c then pure (.again (c :: sofar))
  else fail

/-- Takes a basic string on one line. -/
def basicLine : Reader String := do
  char doubleQuote
  loop basicTurn []

/-- Takes a literal string on one line. -/
def literalLine : Reader String := do
  char singleQuote
  let run ← takeWhile isLiteralChar
  char singleQuote
  pure (String.ofList run)

/-- Takes a run of quotes inside a string of several lines: three or more end it, of which up to two
belong to the string. -/
def quoteRun (quote : Char) (sofar : List Char) : Reader (Turn (List Char) String) := fun s =>
  let n := (s.takeWhile (· = quote)).length
  if n < 3 then some (.again (List.replicate n quote ++ sofar), s.drop n)
  else
    let extra := min 2 (n - 3)
    some (.done (String.ofList (List.replicate extra quote ++ sofar).reverse), s.drop (3 + extra))

/-- Takes what follows a backslash in a string of several lines: a line end with all blanks and
lines behind it, which stand for nothing, or an escape. -/
def escapeOrLineEnd : Reader (Option Char) := do
  let joined ← optional do
    blanks
    lineEnd
    blanksAndLines
  match joined with
  | some _ => pure none
  | none => do
    let c ← escape
    pure (some c)

/-- One turn through a basic string of several lines. -/
def basicLinesTurn (sofar : List Char) : Reader (Turn (List Char) String) := do
  match ← optional lineEnd with
  | some _ => pure (.again ('\n' :: sofar))
  | none =>
    match ← peek with
    | none => fail
    | some c =>
      if c = doubleQuote then quoteRun doubleQuote sofar
      else if c = '\\' then do
        char '\\'
        let c ← escapeOrLineEnd
        pure (.again (c.toList ++ sofar))
      else if isBasicChar c then do
        let _ ← next
        pure (.again (c :: sofar))
      else fail

/-- One turn through a literal string of several lines. -/
def literalLinesTurn (sofar : List Char) : Reader (Turn (List Char) String) := do
  match ← optional lineEnd with
  | some _ => pure (.again ('\n' :: sofar))
  | none =>
    match ← peek with
    | none => fail
    | some c =>
      if c = singleQuote then quoteRun singleQuote sofar
      else if isLiteralChar c then do
        let _ ← next
        pure (.again (c :: sofar))
      else fail

/-- Takes a string of several lines, its opening quotes included. -/
def lines (quote : Char) (turn : List Char → Reader (Turn (List Char) String)) : Reader String := do
  literal [quote, quote, quote]
  let _ ← optional lineEnd
  loop turn []

/-- Takes a string that begins with a double quote. -/
def basicString : Reader String := do
  if ← sees [doubleQuote, doubleQuote, doubleQuote] then lines doubleQuote basicLinesTurn
  else basicLine

/-- Takes a string that begins with a single quote. -/
def literalString : Reader String := do
  if ← sees [singleQuote, singleQuote, singleQuote] then lines singleQuote literalLinesTurn
  else literalLine

/-! ## Turns through a basic string -/

theorem basicTurn_quote (sofar rest : List Char) :
    basicTurn sofar (doubleQuote :: rest) =
      some (.done (String.ofList sofar.reverse), rest) := rfl

theorem basicTurn_plain {c : Char} (h : isBasicChar c = true) (sofar rest : List Char) :
    basicTurn sofar (c :: rest) = some (.again (c :: sofar), rest) := by
  have hq : c ≠ doubleQuote := by
    rintro rfl; exact absurd h (by decide)
  have hb : c ≠ '\\' := by
    rintro rfl; exact absurd h (by decide)
  have hn : next (c :: rest) = some (c, rest) := rfl
  rw [basicTurn, bind_of_eq_some hn]
  simp [hq, hb, h]

end Reader

end Toml

end CmakeDriver
