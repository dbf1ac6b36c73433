import TablePhrase.Json.Basic

/-!
Reading JSON text. The grammar is the standard one; only what a value denotes is left to later: the
range of a number, and the text of a string with half of a surrogate pair.
-/

namespace TablePhrase.Json

def isBlank (c : Char) : Bool :=
  c == ' ' || c == '\n' || c == '\t' || c == '\r'

def skipBlank (text : List Char) : List Char :=
  text.dropWhile isBlank

def hexValue? (c : Char) : Option Nat :=
  if '0' ≤ c && c ≤ '9' then some (c.toNat - '0'.toNat)
  else if 'a' ≤ c && c ≤ 'f' then some (c.toNat - 'a'.toNat + 10)
  else if 'A' ≤ c && c ≤ 'F' then some (c.toNat - 'A'.toNat + 10)
  else none

def unit? (a b c d : Char) : Option Nat := do
  let a ← hexValue? a
  let b ← hexValue? b
  let c ← hexValue? c
  let d ← hexValue? d
  return a * 4096 + b * 256 + c * 16 + d

def unescape? (c : Char) : Option Char :=
  if c = '"' || c = '\\' || c = '/' then some c
  else if c = 'b' then some '\x08'
  else if c = 'f' then some '\x0c'
  else if c = 'n' then some '\n'
  else if c = 'r' then some '\r'
  else if c = 't' then some '\t'
  else none

inductive Piece
  | char (c : Char)
  | unit (n : Nat)
deriving DecidableEq

/-- The pieces of a string up to its closing quote, and the text after it. Controls have to be
escaped. -/
def readPieces : List Char → Option (List Piece × List Char)
  | [] => none
  | '"' :: rest => some ([], rest)
  | '\\' :: 'u' :: a :: b :: c :: d :: rest => do
    let n ← unit? a b c d
    let (pieces, rest) ← readPieces rest
    return (.unit n :: pieces, rest)
  | '\\' :: e :: rest => do
    let c ← unescape? e
    let (pieces, rest) ← readPieces rest
    return (.char c :: pieces, rest)
  | c :: rest =>
    -- a backslash is left only at the end of the text
    if c.toNat < 0x20 || c = '\\' then none
    else do
      let (pieces, rest) ← readPieces rest
      return (.char c :: pieces, rest)

def isLeading (n : Nat) : Bool :=
  0xD800 ≤ n && n < 0xDC00

def isTrailing (n : Nat) : Bool :=
  0xDC00 ≤ n && n < 0xE000

/-- The text of the pieces, if every half of a pair has its other half. -/
def joinPieces : List Piece → Option (List Char)
  | [] => some []
  | .char c :: rest => (joinPieces rest).map (c :: ·)
  | .unit m :: .unit n :: rest =>
    if isLeading m then
      if isTrailing n then
        (joinPieces rest).map (Char.ofNat (0x10000 + (m - 0xD800) * 1024 + (n - 0xDC00)) :: ·)
      else none
    else if isTrailing m then none
    else (joinPieces (.unit n :: rest)).map (Char.ofNat m :: ·)
  | .unit m :: rest =>
    if isLeading m || isTrailing m then none
    else (joinPieces rest).map (Char.ofNat m :: ·)

def readString (text : List Char) : Option (Option String × List Char) :=
  (readPieces text).map fun (pieces, rest) => ((joinPieces pieces).map String.ofList, rest)

def readDigits (text : List Char) : Option (List Char × List Char) :=
  let digits := text.takeWhile Char.isDigit
  if digits.isEmpty then none else some (digits, text.dropWhile Char.isDigit)

def readWhole (text : List Char) : Option (List Char × List Char) := do
  let (digits, rest) ← readDigits text
  if digits.head? = some '0' && digits.length ≠ 1 then none else some (digits, rest)

def readFraction : List Char → Option (List Char × List Char)
  | '.' :: text => (readDigits text).map fun (digits, rest) => ('.' :: digits, rest)
  | text => some ([], text)

def readExponent : List Char → Option (List Char × List Char)
  | c :: text =>
    if c != 'e' && c != 'E' then some ([], c :: text)
    else
      let (sign, body) : List Char × List Char :=
        match text with
        | '+' :: body => (['+'], body)
        | '-' :: body => (['-'], body)
        | body => ([], body)
      (readDigits body).map fun (digits, rest) => (c :: (sign ++ digits), rest)
  | [] => some ([], [])

def readNumber (text : List Char) : Option (List Char × List Char) := do
  let (sign, body) : List Char × List Char :=
    match text with
    | '-' :: body => (['-'], body)
    | body => ([], body)
  let (whole, rest) ← readWhole body
  let (fraction, rest) ← readFraction rest
  let (exponent, rest) ← readExponent rest
  return (sign ++ whole ++ fraction ++ exponent, rest)

def readScalar (text : List Char) : Option (Json × List Char) :=
  match text with
  | 'n' :: 'u' :: 'l' :: 'l' :: rest => some (null, rest)
  | 't' :: 'r' :: 'u' :: 'e' :: rest => some (bool true, rest)
  | 'f' :: 'a' :: 'l' :: 's' :: 'e' :: rest => some (bool false, rest)
  | '"' :: rest => (readString rest).map fun (s, rest) => (str s, rest)
  | _ => (readNumber text).map fun (token, rest) => (number token, rest)

def readName (text : List Char) : Option (Option String × List Char) :=
  match skipBlank text with
  | '"' :: rest => do
    let (name, rest) ← readString rest
    match skipBlank rest with
    | ':' :: rest => some (name, rest)
    | _ => none
  | _ => none

mutual

def readValue : Nat → List Char → Option (Json × List Char)
  | 0, _ => none
  | fuel + 1, text =>
    match skipBlank text with
    | '[' :: body =>
      match skipBlank body with
      | ']' :: rest => some (arr [], rest)
      | _ => (readItems fuel body).map fun (items, rest) => (arr items, rest)
    | '\x7b' :: body =>
      match skipBlank body with
      | '\x7d' :: rest => some (obj [], rest)
      | _ => (readMembers fuel body).map fun (members, rest) => (obj members, rest)
    | text => readScalar text

def readItems : Nat → List Char → Option (List Json × List Char)
  | 0, _ => none
  | fuel + 1, text => do
    let (item, rest) ← readValue fuel text
    match skipBlank rest with
    | ',' :: rest =>
      let (items, rest) ← readItems fuel rest
      return (item :: items, rest)
    | ']' :: rest => return ([item], rest)
    | _ => none

def readMembers : Nat → List Char → Option (List (Option String × Json) × List Char)
  | 0, _ => none
  | fuel + 1, text => do
    let (name, rest) ← readName text
    let (value, rest) ← readValue fuel rest
    match skipBlank rest with
    | ',' :: rest =>
      let (members, rest) ← readMembers fuel rest
      return ((name, value) :: members, rest)
    | '\x7d' :: rest => return ([(name, value)], rest)
    | _ => none

end

/-- A value at the start of a text. Each nesting and each item use up at least one character, so
twice the length bounds the recursion. -/
def read (text : List Char) : Option (Json × List Char) :=
  readValue (2 * text.length + 2) text

def parse? (text : String) : Option Json :=
  match read text.toList with
  | some (j, rest) => if (skipBlank rest).isEmpty then some j else none
  | none => none

end TablePhrase.Json
