import TablePhrase.Session.Basic
import TablePhrase.Session.Error

/-!
The parameters of a selected operation: its signature with the adjustments and arguments that it
brings along.
-/

namespace TablePhrase

namespace ParameterState

/-- The fixed options of a parameter: a boolean has two where none are given. -/
def startingOptions (kind : ParameterKind) (options : Option (List Literal)) :
    Option (List Literal) :=
  match kind with
  | .boolean => some (options.getD [true, false])
  | _ => options

def startingSelection : ParameterKind → Selection
  | .boolean | .schemaColumns | .schemaIndex | .schemaAxis | .schemaAxisOpposite => .dropdown
  | .numeric => .number
  | _ => .text

/-- The parameter named `axis`, whatever adjusts it. -/
def axis : ParameterState where
  name := "axis"
  value := "index"
  default := "index"
  kind := .axis
  options := some ["columns", "index"]
  selection := .dropdown

def ofParameter (p : Parameter) (adjustment : Adjustment) : ParameterState :=
  if p.name = "axis" then axis
  else
    let default := adjustment.default.getD p.default
    let kind := adjustment.kind.getD p.kind
    { name := p.name
      value := default
      default := default
      kind := kind
      options := startingOptions kind adjustment.options
      selection := adjustment.selection.getD (startingSelection kind) }

end ParameterState

def setValue (name : String) (value : Literal) (ps : List ParameterState) :
    List ParameterState :=
  ps.map fun p => if p.name = name then { p with value := value } else p

namespace Operation

def defaultParameters (op : Operation) : List ParameterState :=
  (signature op.target op.name).map fun p =>
    .ofParameter p ((op.adjustments.get? p.name).getD .none)

/-- The parameters set to the arguments. Every argument has to be a parameter. -/
def fill (op : Operation) :
    List (String × Literal) → List ParameterState → Except RefineError (List ParameterState)
  | [], ps => .ok ps
  | (name, value) :: rest, ps =>
    if ps.any (·.name == name) then op.fill rest (setValue name value ps)
    else .error (.unknownParameter op.name name)

def parameters (op : Operation) : Except RefineError (List ParameterState) :=
  op.fill op.arguments.entries op.defaultParameters

def startingScope (op : Operation) : Option ScopeState :=
  op.scopeOptions.head?.map fun kind => ⟨kind, op.scope.getD .null, [], .dropdown⟩

def startingBinding (op : Operation) (settings : Settings) : ReturnBinding :=
  match op.target with
  | .library => .named settings.resultBinding
  | .table | .series => .activeDataset

end Operation
end TablePhrase
