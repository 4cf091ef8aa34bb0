import CmakeDriver.Toml.Text
import CmakeDriver.Toml.Value

/-!
# Numbers

Digits may be parted by single underscores. A whole number of more than one digit does not begin
with zero; behind `0x`, `0o` and `0b` stand digits of another base, without a sign. A number with a
fraction or an exponent is a floating-point number. Whole numbers have 64 bits, and no number is so
large that it rounds to infinity upwards.
-/

namespace CmakeDriver

namespace Toml

/-- The longest run of digits parted by single underscores, without these, and the rest. -/
def withUnderscores (isDigit : Char → Bool) : List Char → List Char × List Char
  | [] => ([], [])
  | c :: rest =>
    if isDigit c then
      let run := withUnderscores isDigit rest
      (c :: run.1, run.2)
    else if c = '_' then
      match rest with
      | [] => ([], [c])
      | d :: others =>
        if isDigit d then
          let run := withUnderscores isDigit others
          (d :: run.1, run.2)
        else ([], c :: rest)
    else ([], c :: rest)

/-- Whether a whole number has 64 bits. -/
def fitsInteger (n : Int) : Bool :=
  -9223372036854775808 ≤ n && n ≤ 9223372036854775807

/-- Whether a character is a digit of a base below 17. -/
def isDigitOf (base : Nat) (c : Char) : Bool :=
  match hexValue? c with
  | some n => n < base
  | none => false

namespace Reader

/-- Takes one or more digits that may be parted by single underscores. -/
def digitRun (isDigit : Char → Bool) : Reader (List Char)
  | [] => none
  | c :: rest =>
    if isDigit c then
      let run := withUnderscores isDigit rest
      some (c :: run.1, run.2)
    else none

/-- Takes the digits of a whole number: a zero alone, or digits that begin with another. -/
def wholeDigits : Reader (List Char) := do
  match ← peek with
  | some c =>
    if c = '0' then do
      let _ ← next
      pure [c]
    else digitRun Char.isDigit
  | none => fail

/-- Takes a sign, and answers whether it is a minus. -/
def sign : Reader Bool := do
  match ← peek with
  | some c =>
    if c = '-' then do
      let _ ← next
      pure true
    else if c = '+' then do
      let _ ← next
      pure false
    else pure false
  | none => pure false

/-- Takes an exponent, if one comes next. -/
def exponent : Reader (Option Int) := do
  match ← peek with
  | some c =>
    if c = 'e' ∨ c = 'E' then do
      let _ ← next
      let negative ← sign
      let ds ← digitRun Char.isDigit
      let n : Int := ofDecimalDigits ds
      pure (some (if negative then -n else n))
    else pure none
  | none => pure none

/-- Takes the digits of a fraction, if a point comes next. -/
def fractionDigits : Reader (Option (List Char)) := do
  match ← peek with
  | some c =>
    if c = '.' then do
      let _ ← next
      let ds ← digitRun Char.isDigit
      pure (some ds)
    else pure none
  | none => pure none

/-- A whole number that has 64 bits. -/
def integerOf (n : Int) : Reader Value :=
  if fitsInteger n then pure (.integer n) else fail

/-- A floating-point number that is not beyond the largest. -/
def floatOf (x : Binary64) : Reader Value :=
  if x = .infinity false then fail else pure (.float x)

/-- Takes a number behind its sign. -/
def unsigned (negative : Bool) : Reader Value := do
  let whole ← wholeDigits
  let part ← fractionDigits
  let power ← exponent
  match part, power with
  | none, none =>
    let n : Int := ofDecimalDigits whole
    integerOf (if negative then -n else n)
  | _, _ =>
    let digits := part.getD []
    floatOf (Binary64.ofDecimal negative (ofDecimalDigits (whole ++ digits))
      (power.getD 0 - digits.length))

/-- Takes a whole number of another base behind the two characters that announce it. -/
def basedInteger (base : Nat) : Reader Value := do
  let _ ← next
  let _ ← next
  let ds ← digitRun (isDigitOf base)
  integerOf (ofDigits base ds)

/-- Takes infinity or the number that is none, behind its sign. -/
def specialFloat (negative : Bool) : Reader Value := do
  if ← sees ['i'] then do
    literal ['i', 'n', 'f']
    pure (.float (.infinity negative))
  else do
    literal ['n', 'a', 'n']
    pure (.float .nan)

/-- Whether infinity or the number that is none comes next. -/
def seesSpecial : Reader Bool := fun s =>
  some (s.head? = some 'i' || s.head? = some 'n', s)

/-- Takes a number that may have a sign. -/
def number : Reader Value := do
  if ← sees ['0', 'x'] then basedInteger 16
  else if ← sees ['0', 'o'] then basedInteger 8
  else if ← sees ['0', 'b'] then basedInteger 2
  else do
    let negative ← sign
    if ← seesSpecial then specialFloat negative else unsigned negative

/-- Takes a number, a date or a time. -/
def numberOrDate : Reader Value := do
  if ← seesDate then do
    let d ← dateTime
    pure (.dateTime d)
  else if ← seesTime then do
    let t ← time
    pure (.dateTime { date := none, time := some t })
  else number

end Reader

end Toml

end CmakeDriver
