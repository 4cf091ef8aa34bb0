/-!
# Binary floating-point numbers of 64 bits

A finite number is a sign, a mantissa below 2^53 and a power of two; its value is
`mantissa * 2 ^ exponent`. `Binary64.ofDecimal` rounds a decimal number to the nearest of them, a
tie to the even mantissa, and what lies beyond the largest to infinity. The rounding is exact
arithmetic on natural numbers.
-/

namespace CmakeDriver

/-- A number of the 64-bit binary format. -/
inductive Binary64 where
  /-- The value `mantissa * 2 ^ exponent`, negated if `negative`. -/
  | finite (negative : Bool) (mantissa : Nat) (exponent : Int)
  | infinity (negative : Bool)
  | nan
  deriving DecidableEq, Repr, Inhabited

namespace Binary64

/-- A mantissa has 53 bits. -/
def mantissaLimit : Nat := Nat.pow 2 53

/-- The exponent of the numbers closest to zero. -/
def minExponent : Int := -1074

/-- The exponent of the largest numbers. -/
def maxExponent : Int := 971

/-- `num / den` rounded to the nearest whole number, a tie to the even one. -/
def roundDiv (num den : Nat) : Nat :=
  let q := num / den
  let r := num % den
  if 2 * r < den then q
  else if 2 * r = den ∧ q % 2 = 0 then q
  else q + 1

/-- `num / den` divided by `2 ^ e`, as numerator and denominator. -/
def scaled (num den : Nat) (e : Int) : Nat × Nat :=
  if 0 ≤ e then (num, den * Nat.pow 2 e.toNat) else (num * Nat.pow 2 (-e).toNat, den)

/-- The number nearest to the positive fraction `num / den`. -/
def ofFraction (negative : Bool) (num den : Nat) : Binary64 :=
  let guess : Int := max ((num.log2 : Int) - den.log2 - 53) minExponent
  let s := scaled num den guess
  let e := if mantissaLimit ≤ s.1 / s.2 then guess + 1 else guess
  let t := scaled num den e
  let m := roundDiv t.1 t.2
  let (m, e) := if m = mantissaLimit then (m / 2, e + 1) else (m, e)
  if maxExponent < e then .infinity negative else .finite negative m e

/-- The number nearest to `digits * 10 ^ exponent`. A number of more than 310 places is beyond the
largest, one below 10^-330 is nearest to zero; neither is computed. -/
def ofDecimal (negative : Bool) (digits : Nat) (exponent : Int) : Binary64 :=
  if digits = 0 then .finite negative 0 minExponent
  else
    let places : Int := (Nat.toDigits 10 digits).length + exponent
    if 311 < places then .infinity negative
    else if places < -330 then .finite negative 0 minExponent
    else if 0 ≤ exponent then ofFraction negative (digits * Nat.pow 10 exponent.toNat) 1
    else ofFraction negative digits (Nat.pow 10 (-exponent).toNat)

end Binary64

end CmakeDriver
