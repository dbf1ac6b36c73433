import TablePhrase.Json.Decoder
import TablePhrase.Operation.Basic

/-!
Operations from JSON.
-/

namespace TablePhrase

def Adjustment.ofJson? (levels : Nat) (j : Json) : Option Adjustment := do
  let fields ← j.fields? ["default", "dtype", "options", "selection"] 0
  let default ←
    Json.defaulted fields "default" .none (Json.nullable (Literal.ofJson? (levels - 1)))
  let kind ←
    Json.defaulted fields "dtype" .none (Json.nullable (Json.name? ParameterKind.ofName?))
  let options ← Json.defaulted fields "options" .none
    (Json.nullable (Json.items? (Literal.ofJson? (levels - 2))))
  let selection ←
    Json.defaulted fields "selection" .none (Json.nullable (Json.name? Selection.ofName?))
  return ⟨default, kind, options, selection⟩

/-- An operation from a record; an object may leave out the scope. -/
def Operation.ofJson? (levels : Nat) (j : Json) : Option Operation := do
  let fields ← j.fields?
    ["template", "target", "operation", "kwargs", "overrides", "scope_options", "scope", "summary"]
    8
  let template ← Json.required fields "template" Json.text?
  let target ← Json.required fields "target" (Json.name? CallTarget.ofName?)
  let name ← Json.required fields "operation" Json.text?
  let arguments ←
    Json.required fields "kwargs" (Json.keyMap? (Literal.ofJson? (levels - 2)))
  let adjustments ←
    Json.required fields "overrides" (Json.keyMap? (Adjustment.ofJson? (levels - 2)))
  let scopeOptions ←
    Json.required fields "scope_options" (Json.items? (Json.name? ScopeKind.ofName?))
  let scope ←
    Json.defaulted fields "scope" .none (Json.nullable (Literal.ofJson? (levels - 1)))
  let summary ← Json.required fields "summary" Json.text?
  return ⟨template, target, name, arguments, adjustments, scopeOptions, scope, summary⟩

end TablePhrase
