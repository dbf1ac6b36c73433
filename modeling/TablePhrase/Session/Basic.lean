import TablePhrase.Settings
import TablePhrase.Workspace.Basic

/-!
The state of a session: one operation, the dataset it runs against, its parameters with their
current values and options, the axis, the scope, where the result goes, and what follows from
these: the arguments that differ from their defaults, the warnings and the code.
-/

namespace TablePhrase

inductive Phase
  | uninitialized
  | configured
  | refining
  | finalized
deriving DecidableEq, Inhabited

def Phase.name : Phase → String
  | uninitialized => "uninitialized"
  | configured => "configured"
  | refining => "refining"
  | finalized => "finalized"

inductive Axis
  | index
  | columns
deriving DecidableEq, Inhabited

namespace Axis

def name : Axis → String
  | index => "index"
  | columns => "columns"

def opposite : Axis → Axis
  | index => columns
  | columns => index

/-- An axis by one of its names, or by its number: rows are 0 and columns are 1. -/
def ofLiteral? : Literal → Option Axis
  | .str s =>
    if s = "index" || s = "rows" then some index
    else if s = "columns" then some columns
    else none
  | .int i => if i = 0 then some index else if i = 1 then some columns else none
  | _ => none

end Axis

inductive ReturnBinding
  /-- Into the dataset, or the columns of it, that the call is made on. -/
  | activeDataset
  | named (name : String)
  | discard
deriving DecidableEq, Inhabited

structure ParameterState where
  name : String
  value : Literal
  default : Literal
  kind : ParameterKind
  options : Option (List Literal)
  selection : Selection
deriving Inhabited

def ParameterState.isDefault (p : ParameterState) : Bool :=
  p.value.agrees p.default

structure ScopeState where
  kind : ScopeKind
  value : Literal
  options : List Literal
  selection : Selection
deriving Inhabited

/-- A value that depends on the labels of a dataset that has none. -/
structure Warning where
  parameter : String
  value : Literal
  dataset : String
deriving Inhabited

def Warning.message (w : Warning) : String :=
  "`" ++ w.parameter ++ "` = " ++ w.value.raw ++ " has no schema options in dataset `"
    ++ w.dataset ++ "`"

structure Session where
  settings : Settings
  phase : Phase
  operation : Option Operation
  dataset : Dataset
  parameters : List ParameterState
  axis : Axis
  scope : Option ScopeState
  /-- The parameters that differ from their defaults, in the order of the signature. -/
  arguments : List (String × Literal)
  binding : ReturnBinding
  code : String
  warnings : List Warning
deriving Inhabited

namespace Session

def new (settings : Settings) : Session where
  settings := settings
  phase := .uninitialized
  operation := none
  dataset := .empty
  parameters := []
  axis := .columns
  scope := none
  arguments := []
  binding := .activeDataset
  code := ""
  warnings := []

def parameter? (s : Session) (name : String) : Option ParameterState :=
  s.parameters.find? (·.name == name)

def values (s : Session) : List (String × Literal) :=
  s.parameters.map fun p => (p.name, p.value)

def schemaDependencies (s : Session) : List ParameterState :=
  s.parameters.filter (·.kind.isSchemaDependent)

def operationName (s : Session) : String :=
  (s.operation.map (·.name)).getD ""

end Session
end TablePhrase
