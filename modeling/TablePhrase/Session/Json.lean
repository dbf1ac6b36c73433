import TablePhrase.Session.Basic

/-!
Return bindings from JSON, and the snapshot of a session as JSON.
-/

namespace TablePhrase

def ReturnBinding.ofJson? (j : Json) : Option ReturnBinding := do
  let fields ← j.fields? ["kind", "name"] 2
  let kind ← Json.required fields "kind" (Json.name? some)
  let content := fields.lookup "name"
  let unnamed : Bool :=
    match content with
    | none | some .null => true
    | _ => false
  if kind = "named" then
    let name ← content.bind Json.text?
    return .named name
  else if kind = "active_dataset" && unnamed then return .activeDataset
  else if kind = "discard" && unnamed then return .discard
  else none

def ParameterState.toJson (p : ParameterState) : Json :=
  .object [("name", p.name), ("value", p.value.toJson), ("default", p.default.toJson),
    ("dtype", p.kind.name),
    ("options", .ofOption (fun options => .arr (options.map Literal.toJson)) p.options),
    ("selection", p.selection.name)]

def ScopeState.toJson (scope : ScopeState) : Json :=
  .object [("kind", scope.kind.name), ("value", scope.value.toJson),
    ("options", .arr (scope.options.map Literal.toJson)), ("selection", scope.selection.name)]

def Warning.toJson (w : Warning) : Json :=
  .object [("kind", "unresolved_schema_dependency"), ("parameter", w.parameter),
    ("value", w.value.toJson), ("dataset", w.dataset)]

namespace Session

def argumentToJson (argument : String × Literal) : Json :=
  .arr [argument.1, argument.2.toJson]

def snapshot (s : Session) : Json :=
  .object [("state", s.phase.name),
    ("template", .ofOption (fun op => op.template) s.operation),
    ("operation", .ofOption (fun op => op.name) s.operation),
    ("dataset", s.dataset.name), ("axis", s.axis.name),
    ("parameters", .arr (s.parameters.map (·.toJson))),
    ("scope", .ofOption (·.toJson) s.scope),
    ("kwargs", .arr (s.arguments.map argumentToJson)), ("code", s.code),
    ("summary", .ofOption (fun op => op.summary) s.operation),
    ("warnings", .arr (s.warnings.map (·.toJson)))]

end Session
end TablePhrase
