import TablePhrase.Session.Basic

/-!
Remembered values: what a session leaves to be remembered, and what is suggested from it to a later
session.
-/

namespace TablePhrase

structure Suggestion where
  parameter : String
  value : Literal
deriving Inhabited

namespace Suggestion

def isKnown (workspace : Workspace) (value : Literal) : Bool :=
  workspace.isColumn value || workspace.isIndexLabel value

/-- The remembered value for a parameter, if it is set, differs from the current one and, where
labels are asked for, is still known. -/
def forParameter (remembered : String → Option Literal) (workspace : Workspace)
    (p : ParameterState) : Option Suggestion := do
  let value ← remembered p.name
  if value.isTruthy && !value.agrees p.value
      && (!p.kind.isSchemaDependent || isKnown workspace value) then
    return ⟨p.name, value⟩
  else none

def forScope (remembered : String → Option Literal) (workspace : Workspace) (scope : ScopeState) :
    Option Suggestion := do
  let value ← remembered scope.kind.key
  if value.isTruthy && !value.agrees scope.value && isKnown workspace value then
    return ⟨scope.kind.key, value⟩
  else none

end Suggestion

namespace Session

/-- What is suggested for the parameters, in the order of the signature, and for the scope. -/
def suggestions (s : Session) (remembered : String → Option Literal) (workspace : Workspace) :
    List Suggestion :=
  s.parameters.filterMap (Suggestion.forParameter remembered workspace)
    ++ (s.scope.bind (Suggestion.forScope remembered workspace)).toList

def remembered (s : Session) : KeyMap Literal :=
  let arguments := KeyMap.ofList s.arguments
  match s.scope with
  | some scope =>
    if scope.value.isNull then arguments else arguments.insert scope.kind.key scope.value
  | none => arguments

end Session
end TablePhrase
