import TablePhrase.KeyMap
import TablePhrase.Operation.Signature

/-!
Operations: what a session is configured with. An operation names a call, the arguments that are
already known, what differs from the signature, and the scope.
-/

namespace TablePhrase

inductive ScopeKind
  | subsetColumns
deriving DecidableEq, Inhabited

namespace ScopeKind

def name : ScopeKind → String
  | subsetColumns => "subset_columns"

def ofName? (name : String) : Option ScopeKind :=
  [subsetColumns].find? (·.name == name)

/-- The key under which a chosen scope is remembered and reported. -/
def key : ScopeKind → String
  | subsetColumns => "subset_col"

end ScopeKind

structure Adjustment where
  default : Option Literal
  kind : Option ParameterKind
  options : Option (List Literal)
  selection : Option Selection
deriving Inhabited

namespace Adjustment

def none : Adjustment :=
  ⟨.none, .none, .none, .none⟩

def ofKind (kind : ParameterKind) : Adjustment :=
  { none with kind := some kind }

def choice (options : List Literal) : Adjustment :=
  { none with options := some options, selection := some .dropdown }

def several (kind : ParameterKind) : Adjustment :=
  { ofKind kind with selection := some .dropdownMulti }

def withDefault (a : Adjustment) (default : Literal) : Adjustment :=
  { a with default := some default }

end Adjustment

/-- A call to be refined: what it is made on, its name, the arguments that are known, the adjusted
parameters and the scope. -/
structure Operation where
  template : String
  target : CallTarget
  name : String
  arguments : KeyMap Literal
  adjustments : KeyMap Adjustment
  scopeOptions : List ScopeKind
  scope : Option Literal
  summary : String
deriving Inhabited

namespace Operation

def missingName : String :=
  "not implemented"

def plain (template : String) (target : CallTarget) (name summary : String) : Operation :=
  ⟨template, target, name, .empty, .empty, [], .none, summary⟩

def missing (template : String) : Operation :=
  plain template .table missingName missingName

def isImplemented (op : Operation) : Bool :=
  op.name != missingName

def argument (op : Operation) (name : String) (value : Literal) : Operation :=
  { op with arguments := op.arguments.insert name value }

def adjust (op : Operation) (name : String) (adjustment : Adjustment) : Operation :=
  { op with adjustments := op.adjustments.insert name adjustment }

def scopable (op : Operation) : Operation :=
  { op with scopeOptions := op.scopeOptions ++ [.subsetColumns] }

def scopedTo (op : Operation) (scope : Literal) : Operation :=
  { op with scope := some scope }

def kindOf? (op : Operation) (name : String) : Option ParameterKind :=
  match (op.adjustments.get? name).bind (·.kind) with
  | some kind => some kind
  | none => ((signature op.target op.name).find? (·.name == name)).map (·.kind)

end Operation
end TablePhrase
