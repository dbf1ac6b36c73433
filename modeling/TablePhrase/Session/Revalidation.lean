import TablePhrase.Session.Call

/-!
Bringing a session up to date after an edit. Options follow the labels of the dataset, values that
are no longer among their options go back to the first one, and the arguments, the warnings and the
code are derived anew.
-/

namespace TablePhrase

/-- Whether a value, or every item of a list, is among the options. -/
def isAdmitted (options : List Literal) : Literal → Bool
  | .list items => items.all (Literal.isOption options)
  | value => Literal.isOption options value

def offersLabel (options : List Literal) : Bool :=
  options.any fun option => !option.isNull

/-- A value kept if it is among its options, else replaced by the first of them. Where the options
hold no label the value stays, with a warning. -/
def revalidate (name : String) (options : List Literal) (dataset : String) (value : Literal) :
    Literal × Option Warning :=
  if isAdmitted options value then (value, none)
  else if offersLabel options then (options.headD .null, none)
  else (value, some ⟨name, value, dataset⟩)

namespace ParameterKind

def labels (kind : ParameterKind) (axis : Axis) (schema : Schema) : List Literal :=
  match kind with
  | schemaColumns => schema.columnOptions
  | schemaIndex => schema.indexOptions
  | schemaAxis => if axis = .columns then schema.columnOptions else schema.indexOptions
  | schemaAxisOpposite =>
    if axis.opposite = .columns then schema.columnOptions else schema.indexOptions
  | _ => []

end ParameterKind

namespace ParameterState

def refresh (axis : Axis) (dataset : Dataset) (p : ParameterState) :
    ParameterState × Option Warning :=
  if p.kind = .axis then ({ p with value := axis.name }, none)
  else if p.kind.isSchemaDependent then
    let options := p.kind.labels axis dataset.schema
    let (value, warning) := revalidate p.name options dataset.name p.value
    ({ p with value := value, options := some options }, warning)
  else (p, none)

end ParameterState

def ScopeState.refresh (dataset : Dataset) (scope : ScopeState) : ScopeState × Option Warning :=
  let options := dataset.schema.columnOptions
  let (value, warning) := revalidate scope.kind.key options dataset.name scope.value
  ({ scope with value := value, options := options }, warning)

namespace Session

/-- The session with all that follows from its parameters, axis, scope and dataset derived anew. -/
def refresh (s : Session) : Session :=
  let checked := s.parameters.map (ParameterState.refresh s.axis s.dataset)
  let scope := s.scope.map (ScopeState.refresh s.dataset)
  let parameters := checked.map (·.1)
  -- the code is made of the arguments, so it comes last
  render { s with
    parameters := parameters
    scope := scope.map (·.1)
    warnings := checked.filterMap (·.2) ++ (scope.bind (·.2)).toList
    arguments := (parameters.filter fun p => !p.isDefault).map fun p => (p.name, p.value) }

end Session
end TablePhrase
