import TablePhrase.Literal.Reader
import TablePhrase.Session.Basic
import TablePhrase.Session.Error

/-!
Values for parameters: a typed value checked against the kind of its parameter, and the text of an
editor read as the kind says.
-/

namespace TablePhrase

def trimmed (text : String) : String :=
  String.ofList (Unicode.trim text.toList)

def numericText? (text : String) : Option Literal :=
  if text = "" || text = "None" then some .null else Literal.number? text.toList

def numericValue (value : Literal) : Except ValueFault Literal :=
  match value with
  | .int _ | .float _ | .null => .ok value
  | .str s =>
    match numericText? (trimmed s) with
    | some number => .ok number
    | none => .error (.notNumericText (trimmed s))
  | _ => .error (.notNumeric value)

def booleanValue (value : Literal) : Except ValueFault Literal :=
  match value with
  | .bool _ | .null => .ok value
  | .str s =>
    -- unlike the text of a number, this one is not trimmed
    if s = "True" then .ok (.bool true)
    else if s = "False" then .ok (.bool false)
    else .error (.notBoolean value)
  | _ => .error (.notBoolean value)

def ParameterKind.coerce (kind : ParameterKind) (value : Literal) : Except ValueFault Literal :=
  match kind with
  | .numeric => numericValue value
  | .boolean => booleanValue value
  | _ => .ok value

def typedNumber (text : String) : Except ValueFault Literal :=
  match numericText? (trimmed text) with
  | some number => .ok number
  | none => .error (.unreadableNumber (trimmed text))

def typedBoolean (text : String) : Except ValueFault Literal :=
  let text := trimmed text
  if text = "True" then .ok (.bool true)
  else if text = "False" then .ok (.bool false)
  else if text = "None" || text = "" then .ok .null
  else .error (.unreadableBoolean text)

/-- Text typed where labels are offered: a label if it is one as it stands, else a literal. -/
def typedLabel (options : Option (List Literal)) (text : String) : Literal :=
  if options.any (Literal.isOption · (.str text)) then .str text else .ofUserText text

def ParameterState.ofTyped (p : ParameterState) (text : String) : Except ValueFault Literal :=
  match p.kind with
  | .numeric => typedNumber text
  | .boolean => typedBoolean text
  | .freeForm | .heterogeneous | .variadic => .ok (.str text)
  | .axis => .ok (.str (trimmed text))
  | .schemaColumns | .schemaIndex | .schemaAxis | .schemaAxisOpposite =>
    .ok (typedLabel p.options text)
  | .plain => .ok (.ofUserText text)

end TablePhrase
