import TablePhrase.Literal.Basic

/-!
The parameters of an operation: how a parameter's value is typed, offered and written.
-/

namespace TablePhrase

inductive ParameterKind
  | plain
  | boolean
  | numeric
  | freeForm
  /-- The text of an expression, written without quotes. -/
  | heterogeneous
  /-- Further arguments, written without a name. -/
  | variadic
  | axis
  | schemaColumns
  | schemaIndex
  /-- The labels along the axis. -/
  | schemaAxis
  /-- The labels across the axis. -/
  | schemaAxisOpposite
deriving DecidableEq, Inhabited

namespace ParameterKind

def all : List ParameterKind :=
  [plain, boolean, numeric, freeForm, heterogeneous, variadic, axis, schemaColumns, schemaIndex,
    schemaAxis, schemaAxisOpposite]

def name : ParameterKind → String
  | plain => "plain"
  | boolean => "boolean"
  | numeric => "numeric"
  | freeForm => "free-form"
  | heterogeneous => "heterogeneous"
  | variadic => "variadic"
  | axis => "axis"
  | schemaColumns => "schema-columns"
  | schemaIndex => "schema-index"
  | schemaAxis => "schema-axis"
  | schemaAxisOpposite => "schema-axis-opposite"

def ofName? (name : String) : Option ParameterKind :=
  all.find? (·.name == name)

def isSchemaDependent : ParameterKind → Bool
  | schemaColumns | schemaIndex | schemaAxis | schemaAxisOpposite => true
  | _ => false

def isAxisDependent : ParameterKind → Bool
  | schemaAxis | schemaAxisOpposite => true
  | _ => false

end ParameterKind

inductive Selection
  | dropdown
  | dropdownMulti
  | text
  | number
deriving DecidableEq, Inhabited

namespace Selection

def name : Selection → String
  | dropdown => "dropdown"
  | dropdownMulti => "dropdown_multi"
  | text => "text"
  | number => "number"

def ofName? (name : String) : Option Selection :=
  [dropdown, dropdownMulti, text, number].find? (·.name == name)

end Selection

structure Parameter where
  name : String
  default : Literal
  kind : ParameterKind
deriving Inhabited

namespace Parameter

/-- A parameter with a default; one whose default is a boolean is boolean. -/
def optional (name : String) (default : Literal) : Parameter :=
  let kind : ParameterKind :=
    match default with
    | .bool _ => .boolean
    | _ => .plain
  ⟨name, default, kind⟩

def unset (name : String) : Parameter :=
  ⟨name, .null, .plain⟩

/-- A parameter that has to be given; until then it is the empty text. -/
def needed (name : String) : Parameter :=
  ⟨name, .str "", .plain⟩

def further (name : String) : Parameter :=
  ⟨name, .str "", .variadic⟩

def axis : Parameter :=
  ⟨"axis", .str "index", .axis⟩

end Parameter
end TablePhrase
