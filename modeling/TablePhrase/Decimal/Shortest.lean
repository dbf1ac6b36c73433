import TablePhrase.Binary64.Basic

/-!
The shortest decimal that reads back as a given double. The decimals that read back form an
interval; the first power-of-ten grid, from coarse to fine, that has a point of it next to the
number supplies the digits.
-/

namespace TablePhrase.Decimal

/-- A positive decimal `coefficient * 10 ^ power`. -/
structure Digits where
  coefficient : Nat
  power : Int
deriving DecidableEq, Inhabited

inductive Tie
  | up
  | even
deriving DecidableEq

/-- An open or closed interval of rationals around a value, over one denominator. -/
structure Neighbourhood where
  low : Nat
  value : Nat
  high : Nat
  denominator : Nat
  closed : Bool

/-- The rationals that round to a finite positive double. Below a power of two the gap is half as
wide; the ends belong to it when the significand is even. -/
def neighbourhood (x : Binary64) : Neighbourhood :=
  let m := x.significand
  let below := if m = Nat.pow 2 52 && -1074 < x.exponent then 1 else 2
  -- in quarters of a unit in the last place, so that all three are integers
  let scale := x.exponent - 2
  let up := Nat.pow 2 scale.toNat
  { low := (4 * m - below) * up
    value := 4 * m * up
    high := (4 * m + 2) * up
    denominator := Nat.pow 2 (-scale).toNat
    closed := m % 2 = 0 }

namespace Neighbourhood

def contains (n : Neighbourhood) (point : Nat) : Bool :=
  if n.closed then n.low ≤ point && point ≤ n.high else n.low < point && point < n.high

def inUnits (n : Neighbourhood) (power : Int) : Neighbourhood :=
  let shrink := Nat.pow 10 (-power).toNat
  { n with
    low := n.low * shrink
    value := n.value * shrink
    high := n.high * shrink
    denominator := n.denominator * Nat.pow 10 power.toNat }

/-- The neighbour of the value on the grid of integers that lies in the interval; of two the nearer,
of two equally near the one that `tie` says. -/
def gridPoint? (n : Neighbourhood) (tie : Tie) : Option Nat :=
  let floor := n.value / n.denominator
  let below := n.contains (floor * n.denominator)
  let above := n.contains ((floor + 1) * n.denominator)
  -- twice the way to the lower neighbour, to be compared with the whole gap
  let twice := 2 * (n.value % n.denominator)
  let roundUp :=
    n.denominator < twice ||
      (n.denominator = twice && (tie = Tie.up || floor % 2 = 1))
  if below && !(above && roundUp) then some floor
  else if above then some (floor + 1)
  else none

end Neighbourhood

def tenfoldSteps (num den : Nat) : Nat → Nat
  | 0 => 0
  | fuel + 1 => if den ≤ num then 0 else tenfoldSteps (num * 10) den fuel + 1

def leadingPower (num den : Nat) : Int :=
  if den ≤ num then ((Nat.toDigits 10 (num / den)).length : Int) - 1
  else -(tenfoldSteps num den 400 : Int)

def Digits.normalize (d : Digits) : Nat → Digits
  | 0 => d
  | fuel + 1 =>
    if d.coefficient ≠ 0 && d.coefficient % 10 = 0 then
      Digits.normalize ⟨d.coefficient / 10, d.power + 1⟩ fuel
    else d

def firstGrid (n : Neighbourhood) (tie : Tie) (power : Int) : Nat → Digits
  | 0 => ⟨0, 0⟩
  | fuel + 1 =>
    match (n.inUnits power).gridPoint? tie with
    | some coefficient => Digits.normalize ⟨coefficient, power⟩ 20
    | none => firstGrid n tie (power - 1) fuel

/-- The shortest decimal that reads back as a finite positive double, and of the shortest the
nearest. Seventeen digits always suffice. -/
def shortest (tie : Tie) (x : Binary64) : Digits :=
  let n := neighbourhood x
  firstGrid n tie (leadingPower n.value n.denominator) 18

end TablePhrase.Decimal
