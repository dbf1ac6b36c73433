import TablePhrase.Binary64.Basic

/-!
Rounding a quotient of natural numbers to the nearest double, ties to the even significand, and the
arithmetic that is exact rational arithmetic followed by this rounding.
-/

namespace TablePhrase.Binary64

def roundQuotient (num den : Nat) : Nat :=
  let q := num / den
  let twice := 2 * (num % den)
  if twice < den then q
  else if den < twice then q + 1
  else q + q % 2

def scaled (num den : Nat) (scale : Int) : Nat × Nat :=
  if 0 ≤ scale then (num, den * Nat.pow 2 scale.toNat) else (num * Nat.pow 2 (-scale).toNat, den)

/-- The exponent of the double nearest to a positive quotient: the quotient has 53 bits above it,
unless that would pass below the least exponent. -/
def quotientExponent (num den : Nat) : Int :=
  let guess : Int := (num.log2 : Int) - den.log2 - 53
  let (n, d) := scaled num den guess
  max (-1074) (if d * Nat.pow 2 53 ≤ n then guess + 1 else guess)

def ofQuotient (negative : Bool) (num den : Nat) : Binary64 :=
  if num = 0 then zero negative
  else
    let e := quotientExponent num den
    let (n, d) := scaled num den e
    -- a quotient rounded up to a power of two carries into the exponent
    let magnitude := (e + 1074).toNat * Nat.pow 2 52 + roundQuotient n d
    ofMagnitude negative (min magnitude infiniteMagnitude)

def ofInt (i : Int) : Binary64 :=
  ofQuotient (i < 0) i.natAbs 1

/-- The double nearest to `coefficient * 10 ^ power`. Decimals beyond the range of doubles are
settled without computing the power. -/
def ofDecimal (negative : Bool) (coefficient : Nat) (power : Int) : Binary64 :=
  let digits : Int := (Nat.toDigits 10 coefficient).length
  if coefficient = 0 || digits + power < -400 then zero negative
  else if 400 < digits + power then infinity negative
  else if 0 ≤ power then ofQuotient negative (coefficient * Nat.pow 10 power.toNat) 1
  else ofQuotient negative coefficient (Nat.pow 10 (-power).toNat)

def ofScaled (negative : Bool) (num den : Nat) (power : Int) : Binary64 :=
  let (n, d) := scaled num den (-power)
  ofQuotient negative n d

def mul (x y : Binary64) : Binary64 :=
  let negative := x.isNegative != y.isNegative
  if x.isNaN || y.isNaN then nan
  else if x.isInfinite || y.isInfinite then
    if x.isZero || y.isZero then nan else infinity negative
  else ofScaled negative (x.significand * y.significand) 1 (x.exponent + y.exponent)

def div (x y : Binary64) : Binary64 :=
  let negative := x.isNegative != y.isNegative
  if x.isNaN || y.isNaN then nan
  else if x.isInfinite then
    if y.isInfinite then nan else infinity negative
  else if y.isInfinite then zero negative
  else if y.isZero then
    if x.isZero then nan else infinity negative
  else ofScaled negative x.significand y.significand (x.exponent - y.exponent)

def roundHalfAway (x : Binary64) : Binary64 :=
  if !x.isFinite || x.isInteger then x
  else
    let unit := Nat.pow 2 (-x.exponent).toNat
    ofQuotient x.isNegative ((2 * x.significand + unit) / (2 * unit)) 1

end TablePhrase.Binary64
