import TablePhrase.Lifting.Cut

/-!
Quoted spans: values, and lists of at least two values. The content of a quoted span is not empty
and holds neither a semicolon, a vertical tab nor its own quote.
-/

namespace TablePhrase.Lifting

/-- The length of a run of characters of a class that is closed by `quote`, both counted. -/
def closedRun? (allowed : Char → Bool) (quote : Char) (text : List Char) : Option Nat :=
  let content := text.takeWhile allowed
  match content.isEmpty, text.dropWhile allowed with
  | false, c :: _ => if c = quote then some (content.length + 1) else none
  | _, _ => none

def isQuotable (quote c : Char) : Bool :=
  c != quote && c != ';' && c != '\x0b'

def quoteLength? : List Char → Option Nat
  | [] => none
  | q :: rest =>
    if q = '"' || q = '\'' then (closedRun? (isQuotable q) q rest).map (· + 1) else none

def beforeComma : List Char → Bool
  | ',' :: _ => true
  | _ => false

def valueMatcher : Matcher := fun _ text =>
  match quoteLength? text with
  | some length => if beforeComma (text.drop length) then none else some length
  | none => none

def moreQuotes : Nat → List Char → Nat
  | 0, _ => 0
  | fuel + 1, ',' :: ' ' :: rest =>
    match quoteLength? rest with
    | some length => length + 2 + moreQuotes fuel (rest.drop length)
    | none => 0
  | _, _ => 0

def stringListMatcher : Matcher := fun _ text =>
  match quoteLength? text with
  | some length =>
    let more := moreQuotes text.length (text.drop length)
    if more = 0 then none else some (length + more)
  | none => none

end TablePhrase.Lifting
