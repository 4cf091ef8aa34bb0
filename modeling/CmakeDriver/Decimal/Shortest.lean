import CmakeDriver.Decimal.Binary64

/-!
# The shortest decimal text of a binary number

Each 64-bit number is the nearest to all reals of an interval around it. `Shortest.digits` finds
the coarsest decimal grid with a point in that interval and of its hits the one nearest to the
number, a tie going up. `Binary64.text` writes that decimal with a point and without an exponent.
-/

namespace CmakeDriver

namespace Binary64

namespace Shortest

/-- The reals that round to `mantissa * 2 ^ exponent`, as quarters of `2 ^ exponent`: from `low` to
`high`, the ends included if `closed`. Below a power of two the numbers lie twice as close. -/
structure Interval where
  low : Nat
  high : Nat
  closed : Bool

/-- The interval of reals around a positive number. -/
def interval (mantissa : Nat) (exponent : Int) : Interval where
  low := if 2 * mantissa = mantissaLimit ∧ minExponent < exponent then 4 * mantissa - 1
    else 4 * mantissa - 2
  high := 4 * mantissa + 2
  closed := mantissa % 2 = 0

/-- `a * 2 ^ e` and `b * 10 ^ k`, both multiplied by one power such that they are whole. -/
def commensurate (a : Nat) (e : Int) (b : Nat) (k : Int) : Nat × Nat :=
  (a * Nat.pow 2 e.toNat * Nat.pow 10 (-k).toNat, b * Nat.pow 10 k.toNat * Nat.pow 2 (-e).toNat)

/-- Whether `d * 10 ^ k` lies in the interval around `mantissa * 2 ^ exponent`. -/
def hits (mantissa : Nat) (exponent : Int) (d : Nat) (k : Int) : Bool :=
  let i := interval mantissa exponent
  let lo := commensurate i.low (exponent - 2) d k
  let hi := commensurate i.high (exponent - 2) d k
  if i.closed then lo.1 ≤ lo.2 && hi.2 ≤ hi.1 else lo.1 < lo.2 && hi.2 < hi.1

/-- The point of the grid of multiples of `10 ^ k` that stands for the number, if one lies in its
interval: of the two neighbours the nearer, a tie going up. -/
def onGrid (mantissa : Nat) (exponent : Int) (k : Int) : Option Nat :=
  let c := commensurate mantissa exponent 1 k
  let below := c.1 / c.2
  let rest := c.1 % c.2
  let lowHit := 0 < below && hits mantissa exponent below k
  let highHit := hits mantissa exponent (below + 1) k
  if rest = 0 then some below
  else if lowHit && (!highHit || 2 * rest < c.2) then some below
  else if highHit then some (below + 1)
  else none

/-- The greatest `k` with `10 ^ k` not above `mantissa * 2 ^ exponent`, searched downwards. -/
def magnitude (mantissa : Nat) (exponent : Int) : (steps : Nat) → Int
  | 0 => -324
  | steps + 1 =>
    let k : Int := steps - 324
    let c := commensurate mantissa exponent 1 k
    if c.2 ≤ c.1 then k else magnitude mantissa exponent steps

/-- The first grid with a hit, from `10 ^ k` down through `tries` finer ones. -/
def search (mantissa : Nat) (exponent : Int) : (tries : Nat) → (k : Int) → Nat × Int
  | 0, k => (0, k)
  | tries + 1, k =>
    match onGrid mantissa exponent k with
    | some d => (d, k)
    | none => search mantissa exponent tries (k - 1)

/-- The shortest decimal `d * 10 ^ k` that reads back as `mantissa * 2 ^ exponent`, for a positive
mantissa. The search starts above the number, where only a power of ten can hit; seventeen digits
always read back. -/
def digits (mantissa : Nat) (exponent : Int) : Nat × Int :=
  search mantissa exponent 19 (magnitude mantissa exponent 634 + 1)

end Shortest

/-- `d * 10 ^ k` with a decimal point and at least one digit on each side of it. -/
def positional (d : Nat) (k : Int) : String :=
  let ds := Nat.toDigits 10 d
  if 0 ≤ k then String.ofList (ds ++ List.replicate k.toNat '0' ++ ['.', '0'])
  else
    let places := (-k).toNat
    let padded := List.replicate (places + 1 - ds.length) '0' ++ ds
    let whole := padded.length - places
    String.ofList (padded.take whole ++ ['.'] ++ padded.drop whole)

/-- A number as messages show it: its shortest decimal, with a point and without an exponent. -/
def text : Binary64 → String
  | .nan => "NaN"
  | .infinity negative => if negative then "-inf" else "inf"
  | .finite negative mantissa exponent =>
    let body :=
      if mantissa = 0 then "0.0"
      else
        let (d, k) := Shortest.digits mantissa exponent
        positional d k
    if negative then "-" ++ body else body

end Binary64

end CmakeDriver
