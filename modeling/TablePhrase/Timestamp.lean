import TablePhrase.Decimal.Layout
import TablePhrase.Decimal.Reader
import TablePhrase.Unicode.Basic

/-!
Points in time by their civil date and time of day in UTC, and their text: year, month and day, a
`T`, the time of day with a fraction as long as it needs to be, and the offset from UTC. The reader
is more liberal than the printer: it allows blanks between the parts, short numbers and any offset.
-/

namespace TablePhrase

namespace Timestamp

def isLeapYear (year : Int) : Bool :=
  year % 4 = 0 && (year % 100 ≠ 0 || year % 400 = 0)

def daysInMonth (year : Int) (month : Nat) : Nat :=
  if month = 2 then if isLeapYear year then 29 else 28
  else if month = 4 || month = 6 || month = 9 || month = 11 then 30
  else 31

def isYear (year : Int) : Bool :=
  -262143 ≤ year && year ≤ 262142

/-- Whether the fields are a date and a time of day. A minute may have a leap second. -/
def isValid (year : Int) (month day hour minute second nanosecond : Nat) : Bool :=
  isYear year && 1 ≤ month && month ≤ 12 && 1 ≤ day && day ≤ daysInMonth year month && hour ≤ 23
    && minute ≤ 59 && second ≤ 60 && nanosecond < 1000000000

end Timestamp

/-- A point in time by its fields in UTC. -/
structure Timestamp where
  year : Int
  month : Nat
  day : Nat
  hour : Nat
  minute : Nat
  second : Nat
  nanosecond : Nat
  valid : Timestamp.isValid year month day hour minute second nanosecond = true
deriving DecidableEq

namespace Timestamp

def ofFields? (year : Int) (month day hour minute second nanosecond : Nat) : Option Timestamp :=
  if h : isValid year month day hour minute second nanosecond = true then
    some ⟨year, month, day, hour, minute, second, nanosecond, h⟩
  else none

/-! The text of a timestamp -/

def padded (width n : Nat) : List Char :=
  let ds := Decimal.digits n
  List.replicate (width - ds.length) '0' ++ ds

/-- Four digits for the years from 0 to 9999, else a sign and at least four digits. -/
def yearChars (year : Int) : List Char :=
  if 0 ≤ year && year ≤ 9999 then padded 4 year.natAbs
  else (if year < 0 then '-' else '+') :: padded 4 year.natAbs

/-- The fraction of a second in three, six or nine digits; nothing for a full second. -/
def fractionChars (nanosecond : Nat) : List Char :=
  if nanosecond = 0 then []
  else if nanosecond % 1000000 = 0 then '.' :: padded 3 (nanosecond / 1000000)
  else if nanosecond % 1000 = 0 then '.' :: padded 6 (nanosecond / 1000)
  else '.' :: padded 9 nanosecond

def fieldChars (t : Timestamp) : List Char :=
  yearChars t.year ++ '-' :: padded 2 t.month ++ '-' :: padded 2 t.day ++ 'T' :: padded 2 t.hour
    ++ ':' :: padded 2 t.minute ++ ':' :: padded 2 t.second ++ fractionChars t.nanosecond

def fileText (t : Timestamp) : String :=
  String.ofList (t.fieldChars ++ ['Z'])

def listingText (t : Timestamp) : String :=
  String.ofList (t.fieldChars ++ ['+', '0', '0', ':', '0', '0'])

/-! Reading a timestamp -/

def skipSpace (text : List Char) : List Char :=
  text.dropWhile Unicode.isSpace

def readNumber (width : Nat) (text : List Char) : Option (Nat × List Char) :=
  let digits := (text.take width).takeWhile Char.isDigit
  if digits.isEmpty then none else some (Decimal.value digits, text.drop digits.length)

def readField (width : Nat) (text : List Char) : Option (Nat × List Char) :=
  readNumber width (skipSpace text)

def readYear (text : List Char) : Option (Int × List Char) :=
  match skipSpace text with
  | '-' :: rest => (readNumber rest.length rest).map fun (n, rest) => (-(n : Int), rest)
  | '+' :: rest => (readNumber rest.length rest).map fun (n, rest) => ((n : Int), rest)
  | text => (readNumber 4 text).map fun (n, rest) => ((n : Int), rest)

def readMark (mark : Char) (text : List Char) : Option (List Char) :=
  match skipSpace text with
  | c :: rest => if c = mark then some rest else none
  | [] => none

def readFraction : List Char → Option (Nat × List Char)
  | '.' :: text =>
    let digits := (text.take 9).takeWhile Char.isDigit
    if digits.isEmpty then none
    else
      some (Decimal.value digits * Nat.pow 10 (9 - digits.length),
        (text.drop digits.length).dropWhile Char.isDigit)
  | text => some (0, text)

def readTwoDigits : List Char → Option (Nat × List Char)
  | a :: b :: rest =>
    if a.isDigit && b.isDigit then some (Decimal.value [a, b], rest) else none
  | _ => none

def readOffsetSize (text : List Char) : Option (Nat × List Char) := do
  let (hours, rest) ← readTwoDigits text
  let (minutes, rest) ← readTwoDigits (rest.dropWhile fun c => c == ':' || Unicode.isSpace c)
  if minutes < 60 && hours < 24 then some (hours * 60 + minutes, rest) else none

def readOffset (text : List Char) : Option (Int × List Char) :=
  if (text.take 3).map Char.toLower = ['u', 't', 'c'] then some (0, text.drop 3)
  else
    match text with
    | 'Z' :: rest => some (0, rest)
    | 'z' :: rest => some (0, rest)
    | '+' :: rest => (readOffsetSize rest).map fun (n, rest) => ((n : Int), rest)
    | '-' :: rest => (readOffsetSize rest).map fun (n, rest) => (-(n : Int), rest)
    | '−' :: rest => (readOffsetSize rest).map fun (n, rest) => (-(n : Int), rest)
    | _ => none

def dayAfter (year : Int) (month day : Nat) : Int × Nat × Nat :=
  if day < daysInMonth year month then (year, month, day + 1)
  else if month < 12 then (year, month + 1, 1)
  else (year + 1, 1, 1)

def dayBefore (year : Int) (month day : Nat) : Int × Nat × Nat :=
  if 1 < day then (year, month, day - 1)
  else if 1 < month then (year, month - 1, daysInMonth year (month - 1))
  else (year - 1, 12, 31)

/-- The timestamp in UTC of the same moment, given the offset of these fields in minutes, which is
less than a day. -/
def toUtc? (t : Timestamp) (offset : Int) : Option Timestamp :=
  let minutes : Int := (t.hour * 60 + t.minute : Nat) - offset
  -- an offset of less than a day moves the date by one day at most
  let (year, month, day) :=
    if minutes < 0 then dayBefore t.year t.month t.day
    else if minutes < 1440 then (t.year, t.month, t.day)
    else dayAfter t.year t.month t.day
  let ofDay := (minutes % 1440).toNat
  ofFields? year month day (ofDay / 60) (ofDay % 60) t.second t.nanosecond

def readDate (text : List Char) : Option ((Int × Nat × Nat) × List Char) := do
  let (year, rest) ← readYear text
  let rest ← readMark '-' rest
  let (month, rest) ← readField 2 rest
  let rest ← readMark '-' rest
  let (day, rest) ← readField 2 rest
  return ((year, month, day), rest)

def readTime (text : List Char) : Option ((Nat × Nat × Nat × Nat) × List Char) := do
  let (hour, rest) ← readField 2 text
  let rest ← readMark ':' rest
  let (minute, rest) ← readField 2 rest
  let rest ← readMark ':' rest
  let (second, rest) ← readField 2 rest
  let (nanosecond, rest) ← readFraction rest
  return ((hour, minute, second, nanosecond), rest)

def readSeparator : List Char → Option (List Char)
  | c :: rest => if c = 'T' || c = 't' || c = ' ' then some rest else none
  | [] => none

def parse? (text : String) : Option Timestamp := do
  let ((year, month, day), rest) ← readDate text.toList
  let rest ← readSeparator rest
  let ((hour, minute, second, nanosecond), rest) ← readTime rest
  let (offset, rest) ← readOffset (skipSpace rest)
  if (skipSpace rest).isEmpty then
    let t ← ofFields? year month day hour minute second nanosecond
    t.toUtc? offset
  else none

end Timestamp
end TablePhrase
