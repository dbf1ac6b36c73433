import TablePhrase.Session.Basic
import TablePhrase.Text.Search

/-!
The code of a session: one call with its keywords, on the module, the dataset or some of its
columns, and the assignment of its result.
-/

namespace TablePhrase

def columnSubscript : Literal → String
  | .null => ""
  | .str s => "[" ++ String.ofList (Text.quoteWith '"' s.toList) ++ "]"
  | value => "[" ++ value.code ++ "]"

/-- One argument. Expressions have no quotes, and further arguments have no name either. -/
def keywordText (kind : ParameterKind) (name : String) (value : Literal) : String :=
  match kind with
  | .heterogeneous => name ++ "=" ++ value.raw
  | .variadic => value.raw
  | _ => name ++ "=" ++ value.code

namespace Session

def keywords (s : Session) : String :=
  Text.join ", " (s.arguments.map fun (name, value) =>
    keywordText (((s.parameter? name).map (·.kind)).getD .plain) name value)

/-- Whether the call changes its dataset, so that nothing is assigned. -/
def isInPlace (s : Session) : Bool :=
  match (s.parameter? "inplace").map ParameterState.value with
  | some (.bool true) => true
  | _ => false

def subscript (s : Session) : String :=
  (s.scope.map fun scope => columnSubscript scope.value).getD ""

def assignment (s : Session) : String :=
  if s.isInPlace then ""
  else
    match s.binding with
    | .activeDataset => s.dataset.name ++ s.subscript ++ " = "
    | .named name => if name.isEmpty then "" else name ++ " = "
    | .discard => ""

def receiver (moduleName : String) (s : Session) (target : CallTarget) : String :=
  match target with
  | .library => moduleName
  | .table | .series => s.dataset.name ++ s.subscript

def call (moduleName : String) (s : Session) : String :=
  match s.operation with
  | none => ""
  | some op =>
    s.assignment ++ s.receiver moduleName op.target ++ "." ++ op.name ++ "(" ++ s.keywords ++ ")"

def render (s : Session) : Session :=
  { s with code := s.call s.settings.moduleAlias }

end Session
end TablePhrase
