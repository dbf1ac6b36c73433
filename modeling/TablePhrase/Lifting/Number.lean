import TablePhrase.Lifting.Quote
import TablePhrase.Unicode.Word

/-!
Number spans: an optional sign, an optional point, digits, an optional point or slash and more
digits, with word boundaries before the first digit and at the end.
-/

namespace TablePhrase.Lifting

open Unicode (isDigit isWord isPlainWord)

def continuesWord (isWord : Char → Bool) (c : Option Char) : Bool :=
  c.any isWord

def leadLength : List Char → Nat
  | c :: '.' :: _ => if c = '-' || c = '+' then 2 else if c = '.' then 1 else 0
  | c :: _ => if c = '-' || c = '+' || c = '.' then 1 else 0
  | [] => 0

/-- The length of the digits and separator at the start of a text, such that a word ends or begins
after them. After a separator come digits, if a word ends with them; else nothing, if a word begins
there; else the number ends before the separator. -/
def bodyLength? (text : List Char) : Option Nat :=
  let whole := (text.takeWhile isDigit).length
  if whole = 0 then none
  else
    match text.drop whole with
    | c :: rest =>
      if c = '.' || c = '/' then
        let fraction := (rest.takeWhile isDigit).length
        if 0 < fraction && !continuesWord isWord (rest.drop fraction).head? then
          some (whole + 1 + fraction)
        else if continuesWord isWord rest.head? then some (whole + 1)
        else some whole
      else if isWord c then none
      else some whole
    | [] => some whole

/-- The length of the number at a position. Without a sign or a point it may not continue a word. -/
def numberLength? (before text : List Char) : Option Nat :=
  let lead := leadLength text
  if lead = 0 && continuesWord isWord before.head? then none
  else (bodyLength? (text.drop lead)).map (lead + ·)

def hasNumberShape (text : List Char) : Bool :=
  let body := text.drop (leadLength text)
  let rest := body.dropWhile isDigit
  !(body.takeWhile isDigit).isEmpty &&
    match rest with
    | c :: more => (c = '.' || c = '/') && more.all isDigit
    | [] => true

def isPlainBoundary (last next : Option Char) : Bool :=
  continuesWord isPlainWord last != continuesWord isPlainWord next

/-- The greatest length below `length` at which a number may be cut short: it keeps the shape, ends
at a word boundary, and no comma follows. -/
def shorterNumber? (text : List Char) : Nat → Option Nat
  | 0 => none
  | length + 1 =>
    let candidate := text.take length
    let rest := text.drop length
    if hasNumberShape candidate && isPlainBoundary candidate.getLast? rest.head?
        && !beforeComma rest then
      some length
    else shorterNumber? text length

/-- A number that no comma follows, if need be a shorter one. -/
def numberMatcher : Matcher := fun before text =>
  match numberLength? before text with
  | some length =>
    if beforeComma (text.drop length) then shorterNumber? text length else some length
  | none => none

def moreNumbers : Nat → List Char → Nat
  | 0, _ => 0
  | fuel + 1, ',' :: ' ' :: rest =>
    -- the item stands behind its space, wherever the list begins
    match numberLength? [' '] rest with
    | some length => length + 2 + moreNumbers fuel (rest.drop length)
    | none => 0
  | _, _ => 0

def numberListMatcher : Matcher := fun before text =>
  match numberLength? before text with
  | some length =>
    let more := moreNumbers text.length (text.drop length)
    if more = 0 then none else some (length + more)
  | none => none

end TablePhrase.Lifting
