import TablePhrase.Session.Parameters
import TablePhrase.Session.Revalidation
import TablePhrase.Session.Value

/-!
The edits of a session. Selecting an operation configures the session; edits of its values refine
it; finalizing freezes it and hands out the code.
-/

namespace TablePhrase

/-- An edit: a change of the session that may be refused. A refusal leaves the session as it is at
that point. -/
abbrev Edit (α : Type) : Type :=
  EStateM RefineError Session α

namespace Session

def ensureEditable : Edit Unit := do
  match (← get).phase with
  | .uninitialized => throw .notSelected
  | .finalized => throw .finalized
  | .configured | .refining => pure ()

/-- The axis of an operation: what the first axis parameter says, else columns. -/
def startingAxis (ps : List ParameterState) : Axis :=
  ((ps.find? (·.kind == .axis)).bind fun p => Axis.ofLiteral? p.value).getD .columns

def configure (op : Operation) (dataset : Dataset) (ps : List ParameterState) (s : Session) :
    Session :=
  refresh { s with
    phase := .configured
    operation := some op
    dataset := dataset
    parameters := ps
    axis := startingAxis ps
    scope := op.startingScope
    binding := op.startingBinding s.settings }

def select (op : Operation) (dataset : Dataset) : Edit Phase := do
  if (← get).phase = .finalized then throw .finalized
  if !op.isImplemented then throw (.notImplemented op.template)
  let ps ← ofExcept op.parameters
  modify (configure op dataset ps)
  return (← get).phase

def selectIn (op : Operation) (workspace : Workspace) : Edit Phase := do
  match workspace.datasetFor op with
  | some dataset => select op dataset
  | none => throw (.unknownDataset (workspace.activeName?.getD ""))

def setDataset (dataset : Dataset) : Edit Unit := do
  ensureEditable
  modify fun s => refresh { s with dataset := dataset }

def switchDataset (workspace : Workspace) (name : String) : Edit Unit := do
  match workspace.dataset? name with
  | some dataset => setDataset dataset
  | none => throw (.unknownDataset name)

def reset : Edit Phase := do
  ensureEditable
  let s ← get
  match s.operation with
  | none => throw .notSelected
  | some op =>
    let _ ← select op s.dataset
    -- selecting has chosen a binding anew
    modify fun t => render { t with binding := s.binding }
    return (← get).phase

def setAxis (axis : Axis) : Edit Unit := do
  ensureEditable
  modify fun s => refresh { s with axis := axis, phase := .refining }

def findParameter (name : String) : Edit ParameterState := do
  let s ← get
  match s.parameter? name with
  | some p => pure p
  | none => throw (.unknownParameter s.operationName name)

def checked (name : String) (value : Except ValueFault Literal) : Edit Literal :=
  ofExcept (value.mapError (.invalidValue name))

/-- Sets a parameter to a value. The axis parameter turns the operation. -/
def setParameter (name : String) (value : Literal) : Edit Unit := do
  ensureEditable
  let p ← findParameter name
  if p.kind = .axis then
    match Axis.ofLiteral? value with
    | some axis => setAxis axis
    | none => throw (.invalidValue name (.notAxis value))
  else
    let value ← checked name (p.kind.coerce value)
    modify fun s =>
      refresh { s with parameters := setValue name value s.parameters, phase := .refining }

def setParameterText (name text : String) : Edit Unit := do
  ensureEditable
  let p ← findParameter name
  let value ← checked p.name (p.ofTyped text)
  setParameter name value

/-- Restricts the operation to columns; the empty text lifts the restriction, as null does. -/
def setScope (value : Literal) : Edit Unit := do
  ensureEditable
  let s ← get
  match s.scope with
  | none => throw (.noScope s.operationName)
  | some scope =>
    let value : Literal :=
      match value with
      | .str "" => .null
      | value => value
    modify fun s =>
      refresh { s with scope := some { scope with value := value }, phase := .refining }

def setBinding (binding : ReturnBinding) : Edit Unit := do
  ensureEditable
  modify fun s => render { s with binding := binding }

def finalize : Edit String := do
  ensureEditable
  modify fun s => { s with phase := .finalized }
  return (← get).code

end Session
end TablePhrase
