import TablePhrase.Binary64.Rounding

/-!
Reading numbers: 64-bit integers written with an optional sign, and doubles written as decimals with
an optional point and exponent or by name. A text is read as a whole or not at all.
-/

namespace TablePhrase.Decimal

def splitSign : List Char → Bool × List Char
  | '-' :: cs => (true, cs)
  | '+' :: cs => (false, cs)
  | cs => (false, cs)

def value (digits : List Char) : Nat :=
  Nat.ofDigitChars 10 digits 0

def fit64? (i : Int) : Option Int64 :=
  if Int64.minValue.toInt ≤ i && i ≤ Int64.maxValue.toInt then some (Int64.ofInt i) else none

/-- A sign or none, then digits; the integer has to fit in 64 bits. -/
def int64? (text : List Char) : Option Int64 :=
  let (negative, digits) := splitSign text
  if digits.isEmpty || !digits.all Char.isDigit then none
  else fit64? (if negative then -(value digits : Int) else value digits)

def exponent? : List Char → Option Int
  | [] => some 0
  | c :: cs =>
    if c != 'e' && c != 'E' then none
    else
      let (negative, digits) := splitSign cs
      if digits.isEmpty || !digits.all Char.isDigit then none
      else some (if negative then -(value digits : Int) else value digits)

def splitFraction : List Char → List Char × List Char
  | '.' :: cs => (cs.takeWhile Char.isDigit, cs.dropWhile Char.isDigit)
  | cs => ([], cs)

def named? (negative : Bool) (text : List Char) : Option Binary64 :=
  let name := text.map Char.toLower
  if name = ['n', 'a', 'n'] then some .nan
  else if name = ['i', 'n', 'f'] || name = ['i', 'n', 'f', 'i', 'n', 'i', 't', 'y'] then
    some (.infinity negative)
  else none

/-- The double nearest to a decimal. At least one digit stands before or after the point. -/
def binary64? (text : List Char) : Option Binary64 :=
  let (negative, body) := splitSign text
  let whole := body.takeWhile Char.isDigit
  let (fraction, rest) := splitFraction (body.dropWhile Char.isDigit)
  if whole.isEmpty && fraction.isEmpty then named? negative body
  else
    (exponent? rest).map fun e =>
      .ofDecimal negative (value (whole ++ fraction)) (e - fraction.length)

end TablePhrase.Decimal
