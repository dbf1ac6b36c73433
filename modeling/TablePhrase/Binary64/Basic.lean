/-!
Double-precision numbers as values: the 64-bit interchange encoding, its three fields, and the two
orders that the library needs, the numerical one (zeros equal, no place for a NaN) and the total
one.
-/

namespace TablePhrase

/-- A double-precision number, held as its 64-bit interchange encoding. -/
structure Binary64 where
  bits : UInt64
deriving DecidableEq, Inhabited

namespace Binary64

def magnitude (x : Binary64) : Nat :=
  x.bits.toNat % Nat.pow 2 63

def isNegative (x : Binary64) : Bool :=
  Nat.pow 2 63 ≤ x.bits.toNat

def infiniteMagnitude : Nat :=
  2047 * Nat.pow 2 52

def isNaN (x : Binary64) : Bool :=
  infiniteMagnitude < x.magnitude

def isInfinite (x : Binary64) : Bool :=
  x.magnitude = infiniteMagnitude

def isFinite (x : Binary64) : Bool :=
  x.magnitude < infiniteMagnitude

def isZero (x : Binary64) : Bool :=
  x.magnitude = 0

def ofMagnitude (negative : Bool) (magnitude : Nat) : Binary64 :=
  ⟨UInt64.ofNat (magnitude + if negative then Nat.pow 2 63 else 0)⟩

def nan : Binary64 :=
  ofMagnitude false (infiniteMagnitude + Nat.pow 2 51)

def infinity (negative : Bool) : Binary64 :=
  ofMagnitude negative infiniteMagnitude

def zero (negative : Bool) : Binary64 :=
  ofMagnitude negative 0

def negate (x : Binary64) : Binary64 :=
  ofMagnitude (!x.isNegative) x.magnitude

/-- The integer significand of a finite number: its absolute value is
`significand * 2 ^ exponent`. -/
def significand (x : Binary64) : Nat :=
  if x.magnitude < Nat.pow 2 52 then x.magnitude else x.magnitude % Nat.pow 2 52 + Nat.pow 2 52

def exponent (x : Binary64) : Int :=
  (max 1 (x.magnitude / Nat.pow 2 52) : Nat) - 1075

def orderKey (x : Binary64) : Int :=
  if x.isNegative then -(x.magnitude : Int) else x.magnitude

def equals (x y : Binary64) : Bool :=
  !x.isNaN && !y.isNaN && x.orderKey == y.orderKey

def atLeast (x y : Binary64) : Bool :=
  !x.isNaN && !y.isNaN && y.orderKey ≤ x.orderKey

/-- The total order puts a number at this integer: negative NaNs first, then the numbers with the
negative zero below the positive one, then positive NaNs. -/
def totalKey (x : Binary64) : Int :=
  if x.isNegative then -(x.magnitude : Int) - 1 else x.magnitude

def isInteger (x : Binary64) : Bool :=
  0 ≤ x.exponent || x.significand % Nat.pow 2 (-x.exponent).toNat = 0

theorem equals_self {x : Binary64} (h : x.isNaN = false) : x.equals x = true := by
  simp [equals, h]

end Binary64
end TablePhrase
