import TablePhrase.Decimal.Reader
import TablePhrase.Literal.Printer
import TablePhrase.Unicode.Basic

/-!
Reading numbers and lists of numbers, and literals as users type them. A literal is a core with
blanks around it; a core is a name, a number, a quoted string, a list or a map. A reader returns the
value and the rest of the text, or the rest at which reading failed.
-/

namespace TablePhrase.Literal

/-- A 64-bit integer if the trimmed text is one, else the double it denotes, else nothing. -/
def number? (text : List Char) : Option Literal :=
  let text := Unicode.trim text
  match Decimal.int64? text with
  | some i => some (int i)
  | none => (Decimal.binary64? text).map float

/-- Trimmed items as a list of integers if all are integers, else of doubles if all are numbers,
else of strings. -/
def numberList (items : List (List Char)) : Literal :=
  let items := items.map Unicode.trim
  match items.mapM Decimal.int64? with
  | some ints => list (ints.map int)
  | none =>
    match items.mapM Decimal.binary64? with
    | some floats => list (floats.map float)
    | none => list (items.map fun item => str (String.ofList item))

def isBlank (c : Char) : Bool :=
  c == ' ' || c == '\t' || c == '\r' || c == '\n'

def skipBlank (text : List Char) : List Char :=
  text.dropWhile isBlank

def unescape? (c : Char) : Option Char :=
  if c = '\\' || c = '\'' || c = '"' then some c
  else if c = 'n' then some '\n'
  else if c = 't' then some '\t'
  else none

def readQuoted (quote : Char) : List Char → Option (List Char × List Char)
  | [] => none
  | ['\\'] => none
  | '\\' :: c :: rest =>
    match unescape? c, readQuoted quote rest with
    | some d, some (content, rest) => some (d :: content, rest)
    | _, _ => none
  | c :: rest =>
    if c = quote then some ([], rest)
    else (readQuoted quote rest).map fun (content, rest) => (c :: content, rest)

def splitSign : List Char → List Char × List Char
  | '-' :: rest => (['-'], rest)
  | '+' :: rest => (['+'], rest)
  | text => ([], text)

/-- The longest number at the start of a text, and the text after it: a sign or none, then digits
with a point and digits or without, or a point and digits. -/
def splitNumber (text : List Char) : Option (List Char × List Char) :=
  let (sign, body) := splitSign text
  let whole := body.takeWhile Char.isDigit
  match whole.isEmpty, body.dropWhile Char.isDigit with
  | false, '.' :: rest =>
    some (sign ++ whole ++ '.' :: rest.takeWhile Char.isDigit, rest.dropWhile Char.isDigit)
  | false, rest => some (sign ++ whole, rest)
  | true, '.' :: rest =>
    let fraction := rest.takeWhile Char.isDigit
    if fraction.isEmpty then none
    else some (sign ++ '.' :: fraction, rest.dropWhile Char.isDigit)
  | true, _ => none

def readScalar (text : List Char) : Option (Literal × List Char) :=
  match text with
  | 'N' :: 'o' :: 'n' :: 'e' :: rest => some (null, rest)
  | 'T' :: 'r' :: 'u' :: 'e' :: rest => some (bool true, rest)
  | 'F' :: 'a' :: 'l' :: 's' :: 'e' :: rest => some (bool false, rest)
  | '\'' :: rest => (readQuoted '\'' rest).map fun (s, rest) => (str (String.ofList s), rest)
  | '"' :: rest => (readQuoted '"' rest).map fun (s, rest) => (str (String.ofList s), rest)
  | _ =>
    match splitNumber text with
    | some (number, rest) => (number? number).map fun v => (v, rest)
    | none => none

mutual

def readWithin : Nat → List Char → Except (List Char) (Literal × List Char)
  | 0, text => .error text
  | fuel + 1, text =>
    let text := skipBlank text
    match text with
    | '[' :: body =>
      let (items, rest) := readItems fuel body
      match skipBlank rest with
      | ']' :: rest => .ok (list items, skipBlank rest)
      | _ => .error text
    | '{' :: body =>
      let (pairs, rest) := readPairs fuel body
      match skipBlank rest with
      | '}' :: rest => .ok (ofEntries (pairs.map fun (k, v) => (k.raw, v)), skipBlank rest)
      | rest => .error rest
    | _ =>
      match readScalar text with
      | some (v, rest) => .ok (v, skipBlank rest)
      | none => .error text

/-- As many literals between commas as there are; a comma without a literal after it is left. -/
def readItems : Nat → List Char → List Literal × List Char
  | 0, text => ([], text)
  | fuel + 1, text =>
    match readWithin fuel text with
    | .error _ => ([], text)
    | .ok (v, ',' :: next) =>
      match readItems fuel next with
      | ([], _) => ([v], ',' :: next)
      | (vs, rest) => (v :: vs, rest)
    | .ok (v, rest) => ([v], rest)

def readPairs : Nat → List Char → List (Literal × Literal) × List Char
  | 0, text => ([], text)
  | fuel + 1, text =>
    match readWithin fuel text with
    | .ok (k, ':' :: body) =>
      match readWithin fuel body with
      | .error _ => ([], text)
      | .ok (v, ',' :: next) =>
        match readPairs fuel next with
        | ([], _) => ([(k, v)], ',' :: next)
        | (pairs, rest) => ((k, v) :: pairs, rest)
      | .ok (v, rest) => ([(k, v)], rest)
    | _ => ([], text)

end

/-- A literal at the start of a text, with the blanks around it. Each nesting and each item use up
at least one character, so twice the length bounds the recursion. -/
def read (text : List Char) : Except (List Char) (Literal × List Char) :=
  readWithin (2 * text.length + 2) text

inductive ReadError
  /-- No literal can be read; what could not be read starts here. -/
  | unreadable (rest : List Char)
  /-- A literal is followed by this. -/
  | trailing (rest : List Char)
deriving DecidableEq

def parse (text : String) : Except ReadError Literal :=
  match read text.toList with
  | .ok (v, []) => .ok v
  | .ok (_, rest) => .error (.trailing rest)
  | .error rest => .error (.unreadable rest)

def ReadError.message (text : String) (e : ReadError) : String :=
  let (rest, cause) :=
    match e with
    | .unreadable rest => (rest, "Char")
    | .trailing rest => (rest, "Eof")
  "cannot parse literal `" ++ text ++ "`: Parsing Error: Error \x7b input: "
    ++ String.ofList (Text.showQuoted rest) ++ ", code: " ++ cause ++ " \x7d"

def ofUserText (text : String) : Literal :=
  match parse text with
  | .ok v => v
  | .error _ => str text

end TablePhrase.Literal
