import TablePhrase.Entity.Kind
import TablePhrase.Lifting.Quote
import TablePhrase.Unicode.Basic

/-!
Condition spans: a run of operator characters and an operand, which is one or more quoted texts or a
run without white space. A bare condition neither starts at a placeholder nor has a run that ends
one.
-/

namespace TablePhrase.Lifting

def isOperator (c : Char) : Bool :=
  c == '<' || c == '>' || c == '=' || c == '!'

def isOperandChar (c : Char) : Bool :=
  c != '\x0b' && c != ',' && c != ';' && c != '\'' && c != '"'

def operandsLength : Nat → List Char → Nat
  | 0, _ => 0
  | fuel + 1, q :: rest =>
    if q = '"' || q = '\'' then
      match closedRun? isOperandChar q rest with
      | some length => length + 1 + operandsLength fuel (rest.drop length)
      | none => 0
    else 0
  | _, [] => 0

def spaceLength : List Char → Nat
  | ' ' :: _ => 1
  | _ => 0

def quotedCondition? (text : List Char) : Option Nat :=
  let run := (text.takeWhile isOperator).length
  if run = 0 then none
  else
    let rest := text.drop run
    let space := spaceLength rest
    let operands := operandsLength rest.length (rest.drop space)
    if operands = 0 then none else some (run + space + operands)

def placeholders : List (List Char) :=
  EntityKind.groundOrder.map (·.placeholder.toList)

/-- What a bare condition must not start with: a placeholder, or the end of one before a condition
placeholder. -/
def guards : List (List Char) :=
  placeholders ++ ['>' :: EntityKind.condition.placeholder.toList]

def endsPlaceholder (reversed : List Char) : Bool :=
  placeholders.any fun token => token.reverse.isPrefixOf reversed

/-- The length of a bare condition whose operator run has at most the given length; longer runs are
tried first. -/
def bareFrom (before text : List Char) : Nat → Option Nat
  | 0 => none
  | run + 1 =>
    let rest := text.drop (run + 1)
    let space := spaceLength rest
    let operand := ((rest.drop space).takeWhile (!Unicode.isSpace ·)).length
    -- the run may end a placeholder that began before it
    if endsPlaceholder ((text.take (run + 1)).reverse ++ before) || operand = 0 then
      bareFrom before text run
    else some (run + 1 + space + operand)

def bareCondition? (before text : List Char) : Option Nat :=
  if guards.any (·.isPrefixOf text) then none
  else bareFrom before text (text.takeWhile isOperator).length

def conditionMatcher : Matcher := fun before text =>
  match quotedCondition? text with
  | some length => some length
  | none => bareCondition? before text

end TablePhrase.Lifting
