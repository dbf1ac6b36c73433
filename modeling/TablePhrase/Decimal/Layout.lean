import TablePhrase.Binary64.Rounding
import TablePhrase.Decimal.Shortest

/-!
How a double is laid out as text. A `Layout` says where positional notation ends and which of two
equally near decimals is taken; the digits are always the shortest that read back.
-/

namespace TablePhrase.Decimal

structure Layout where
  tie : Tie
  /-- Numbers whose leading digit is below this power of ten are written with an exponent. -/
  leastPositional : Option Int
  /-- Numbers whose leading digit is at this power of ten or above are written with an exponent. -/
  leastScientific : Option Int
  /-- Integral numbers whose leading digit is below this power of ten end in `.0`. -/
  pointZeroBelow : Int

/-- A number inside a generated call: never an exponent, `.0` kept below ten to the sixteenth, and
halves go up. -/
def Layout.plain : Layout :=
  ⟨.up, none, none, 16⟩

/-- A number in a JSON document: positional from `0.00001` up to ten to the sixteenth, otherwise one
digit before the point and a signed exponent; halves go to the even digit. -/
def Layout.json : Layout :=
  ⟨.even, some (-5), some 16, 16⟩

def digits (n : Nat) : List Char :=
  Nat.toDigits 10 n

def Digits.leading (d : Digits) : Int :=
  d.power + (digits d.coefficient).length - 1

def Digits.positional (d : Digits) : List Char :=
  let ds := digits d.coefficient
  if 0 ≤ d.power then ds ++ List.replicate d.power.toNat '0'
  else
    let places := (-d.power).toNat
    if places < ds.length then ds.take (ds.length - places) ++ '.' :: ds.drop (ds.length - places)
    else '0' :: '.' :: (List.replicate (places - ds.length) '0' ++ ds)

def Digits.scientific (d : Digits) : List Char :=
  let point : List Char :=
    match digits d.coefficient with
    | [] => []
    | [c] => [c]
    | c :: cs => c :: '.' :: cs
  let e := d.leading
  point ++ 'e' :: (if e < 0 then '-' else '+') :: digits e.natAbs

namespace Layout

def digitsText (l : Layout) (d : Digits) : List Char :=
  if l.leastPositional.any (d.leading < ·) || l.leastScientific.any (· ≤ d.leading) then
    d.scientific
  else if 0 ≤ d.power && d.leading < l.pointZeroBelow then d.positional ++ ['.', '0']
  else d.positional

def finiteText (l : Layout) (x : Binary64) : List Char :=
  let body := if x.isZero then ['0', '.', '0'] else l.digitsText (shortest l.tie x)
  if x.isNegative then '-' :: body else body

end Layout

def plainText (x : Binary64) : List Char :=
  if x.isNaN then ['n', 'a', 'n']
  else if x.isInfinite then
    if x.isNegative then ['-', 'i', 'n', 'f'] else ['i', 'n', 'f']
  else Layout.plain.finiteText x

def twoPlaces (x : Binary64) : List Char :=
  if !x.isFinite then plainText x
  else
    let n := x.significand * 100 * Nat.pow 2 x.exponent.toNat
    let d := Nat.pow 2 (-x.exponent).toNat
    let hundredths := Binary64.roundQuotient n d
    let fraction := digits (hundredths % 100)
    let zeros := List.replicate (2 - fraction.length) '0'
    let body := digits (hundredths / 100) ++ '.' :: (zeros ++ fraction)
    if x.isNegative then '-' :: body else body

end TablePhrase.Decimal
