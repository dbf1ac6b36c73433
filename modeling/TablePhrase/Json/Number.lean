import TablePhrase.Decimal.Reader
import TablePhrase.Json.Basic

/-!
What a number token denotes. A token without point and exponent is an integer where it fits; any
other is a double, computed from at most nineteen or twenty leading digits and a power of ten.
-/

namespace TablePhrase.Json

structure Token where
  negative : Bool
  whole : List Char
  fraction : Option (List Char)
  exponent : Option (List Char)

def Token.ofChars (token : List Char) : Token :=
  let (negative, body) := Decimal.splitSign token
  let whole := body.takeWhile Char.isDigit
  let isMark (c : Char) : Bool := c == 'e' || c == 'E'
  match body.dropWhile Char.isDigit with
  | '.' :: rest =>
    match rest.dropWhile Char.isDigit with
    | _ :: exponent => ⟨negative, whole, some (rest.takeWhile Char.isDigit), some exponent⟩
    | [] => ⟨negative, whole, some rest, none⟩
  | c :: exponent =>
    if isMark c then ⟨negative, whole, none, some exponent⟩ else ⟨negative, whole, none, none⟩
  | [] => ⟨negative, whole, none, none⟩

def Token.isInteger (t : Token) : Bool :=
  t.fraction.isNone && t.exponent.isNone

/-- A significand below `2 ^ 64` and a power of ten. -/
structure Scaled where
  significand : Nat
  power : Int

def Scaled.fits (s : Scaled) (c : Char) : Bool :=
  s.significand * 10 + (c.toNat - '0'.toNat) < Nat.pow 2 64

/-- Digits before the point: those that fit are taken in, and each one after them is a power of
ten. -/
def Scaled.addWhole (s : Scaled) : List Char → Scaled
  | [] => s
  | c :: cs =>
    if s.fits c then
      Scaled.addWhole ⟨s.significand * 10 + (c.toNat - '0'.toNat), s.power⟩ cs
    else ⟨s.significand, s.power + (c :: cs).length⟩

/-- Digits after the point: those that fit are taken in, and the rest are dropped. -/
def Scaled.addFraction (s : Scaled) : List Char → Scaled
  | [] => s
  | c :: cs =>
    if s.fits c then
      Scaled.addFraction ⟨s.significand * 10 + (c.toNat - '0'.toNat), s.power - 1⟩ cs
    else s

def divideByPower (x : Binary64) (power : Nat) : Binary64 :=
  if power ≤ 308 then x.div (.ofInt (Nat.pow 10 power))
  else if x.isZero then x
  else divideByPower (x.div (.ofInt (Nat.pow 10 308))) (power - 308)
termination_by power

/-- The double of a significand and a power of ten, by one rounding for the significand and one for
each step; nothing if it is too large. -/
def Scaled.binary64? (s : Scaled) : Option Binary64 :=
  let x := Binary64.ofInt s.significand
  if s.power < 0 then some (divideByPower x (-s.power).toNat)
  -- a significand that is not zero is at least one
  else if 308 < s.power then if x.isZero then some x else none
  else
    let product := x.mul (.ofInt (Nat.pow 10 s.power.toNat))
    if product.isInfinite then none else some product

def exponentValue (text : List Char) : Int :=
  let (negative, digits) := Decimal.splitSign text
  let n : Int := min (Decimal.value digits) (Nat.pow 2 31)
  if negative then -n else n

def Token.binary64? (t : Token) : Option Binary64 := do
  let s := (Scaled.addWhole ⟨0, 0⟩ t.whole).addFraction (t.fraction.getD [])
  let s := { s with power := s.power + exponentValue (t.exponent.getD []) }
  let x ← s.binary64?
  return if t.negative then x.negate else x

/-- A token as a literal: an integer if it has neither point nor exponent and fits in 64 bits, else
a double. Minus zero is a double. -/
def Token.literal? (t : Token) : Option Literal :=
  let n := Decimal.value t.whole
  let small : Option Int64 :=
    if t.isInteger && !(t.negative && n == 0) then
      Decimal.fit64? (if t.negative then -(n : Int) else n)
    else none
  match small with
  | some i => some (.int i)
  | none => t.binary64?.map .float

def Token.nat? (t : Token) : Option Nat :=
  let n := Decimal.value t.whole
  if t.isInteger && !t.negative && n < Nat.pow 2 64 then some n else none

end TablePhrase.Json
