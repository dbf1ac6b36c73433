import TablePhrase.Literal.Printer

/-!
Why an edit of a session is refused.
-/

namespace TablePhrase

inductive ValueFault
  | notAxis (value : Literal)
  /-- A text given as the value of a numeric parameter. -/
  | notNumericText (text : String)
  | notNumeric (value : Literal)
  | notBoolean (value : Literal)
  /-- A text typed for a numeric parameter. -/
  | unreadableNumber (text : String)
  | unreadableBoolean (text : String)

def ValueFault.message : ValueFault → String
  | notAxis value => "expected `index` or `columns`, got " ++ value.code
  | notNumericText text => "expected a number, got `" ++ text ++ "`"
  | notNumeric value => "expected a number, got " ++ value.code
  | notBoolean value => "expected True or False, got " ++ value.code
  | unreadableNumber text => "`" ++ text ++ "` is not a number"
  | unreadableBoolean text => "`" ++ text ++ "` is not True or False"

inductive RefineError
  | notSelected
  | finalized
  | notImplemented (template : String)
  | unknownParameter (operation name : String)
  | invalidValue (name : String) (fault : ValueFault)
  | noScope (operation : String)
  | unknownDataset (name : String)

namespace RefineError

def cause : RefineError → String
  | notSelected => "NotSelected"
  | finalized => "Finalized"
  | notImplemented _ => "NotImplemented"
  | unknownParameter .. => "UnknownParameter"
  | invalidValue .. => "InvalidValue"
  | noScope _ => "NoScope"
  | unknownDataset _ => "UnknownDataset"

def message : RefineError → String
  | notSelected => "no operation has been selected"
  | finalized => "session is finalized"
  | notImplemented template => "template `" ++ template ++ "` has no implemented operation"
  | unknownParameter operation name =>
    "operation `" ++ operation ++ "` has no parameter `" ++ name ++ "`"
  | invalidValue name fault => "invalid value for `" ++ name ++ "`: " ++ fault.message
  | noScope operation => "operation `" ++ operation ++ "` has no scope"
  | unknownDataset name => "unknown dataset `" ++ name ++ "`"

end RefineError
end TablePhrase
