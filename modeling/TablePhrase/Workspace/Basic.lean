import TablePhrase.Literal.Agreement
import TablePhrase.Operation.Basic

/-!
Datasets by their labels, and the workspace: every dataset that the host knows, in the order of
discovery, and the one that is active.
-/

namespace TablePhrase

structure Schema where
  columns : List Literal
  indexLabels : List Literal
deriving Inhabited

namespace Schema

def empty : Schema :=
  ⟨[], []⟩

mutual

/-- Whether a label, or every item of a list label, is among the labels. -/
def hasLabel (labels : List Literal) : Literal → Bool
  | .list items => !items.isEmpty && hasLabels labels items
  | label => Literal.isOption labels label
termination_by structural x => x

def hasLabels (labels : List Literal) : List Literal → Bool
  | [] => true
  | x :: xs => hasLabel labels x && hasLabels labels xs
termination_by structural x => x

end

def hasColumn (schema : Schema) (label : Literal) : Bool :=
  hasLabel schema.columns label

def hasIndexLabel (schema : Schema) (label : Literal) : Bool :=
  hasLabel schema.indexLabels label

def columnOptions (schema : Schema) : List Literal :=
  schema.columns ++ [.null]

def indexOptions (schema : Schema) : List Literal :=
  schema.indexLabels ++ [.null]

end Schema

structure Dataset where
  name : String
  schema : Schema
deriving Inhabited

def Dataset.empty : Dataset :=
  ⟨"", .empty⟩

structure Workspace where
  datasets : List Dataset
  active : Option String
deriving Inhabited

namespace Workspace

def empty : Workspace :=
  ⟨[], none⟩

def names (w : Workspace) : List String :=
  w.datasets.map (·.name)

def dataset? (w : Workspace) (name : String) : Option Dataset :=
  w.datasets.find? (·.name == name)

/-- The active dataset; the first one when none was named. -/
def activeDataset? (w : Workspace) : Option Dataset :=
  match w.active with
  | some name => w.dataset? name
  | none => w.datasets.head?

def activeName? (w : Workspace) : Option String :=
  w.activeDataset?.map (·.name)

def put (dataset : Dataset) : List Dataset → List Dataset
  | [] => [dataset]
  | d :: ds => if d.name = dataset.name then dataset :: ds else d :: put dataset ds

/-- A dataset added, or replaced in its place; where none was named, it becomes the active one. -/
def insert (w : Workspace) (dataset : Dataset) : Workspace :=
  ⟨put dataset w.datasets, w.active <|> some dataset.name⟩

def activate (w : Workspace) (name : String) : Bool × Workspace :=
  if (w.dataset? name).isSome then (true, { w with active := some name }) else (false, w)

def columnOwners (w : Workspace) (label : Literal) : List String :=
  (w.datasets.filter fun d => d.schema.hasColumn label).map (·.name)

def indexOwners (w : Workspace) (label : Literal) : List String :=
  (w.datasets.filter fun d => d.schema.hasIndexLabel label).map (·.name)

def isColumn (w : Workspace) (label : Literal) : Bool :=
  !(w.columnOwners label).isEmpty

def isIndexLabel (w : Workspace) (label : Literal) : Bool :=
  !(w.indexOwners label).isEmpty

/-- The first owner, unless nobody owns or the current one is an owner. -/
def preferOwner (owners : List String) (current : Option String) : Option String :=
  match owners with
  | [] => current
  | first :: _ => if current.any owners.contains then current else some first

/-- The name of the dataset that should be active for a label. Owners of the index label are asked
first and owners of the column last. -/
def datasetOwning (w : Workspace) (label : Literal) (current : Option String) : Option String :=
  preferOwner (w.columnOwners label) (preferOwner (w.indexOwners label) current)

/-- The dataset that should be active for a label made active; answers whether it was another. -/
def activateFor (w : Workspace) (label : Literal) : Bool × Workspace :=
  match w.datasetOwning label w.activeName? with
  | some name =>
    if some name = w.activeName? then (false, w) else (true, { w with active := some name })
  | none => (false, w)

/-- The labels that an operation names: its arguments whose options are labels, and its scope. -/
def namedLabels (op : Operation) : List Literal :=
  (op.arguments.entries.filterMap fun (name, value) =>
    if (op.kindOf? name).any (·.isSchemaDependent) then some value else none) ++ op.scope.toList

/-- The dataset that an operation should run against: each label that it names moves the choice to
a dataset that has it. -/
def datasetFor (w : Workspace) (op : Operation) : Option Dataset :=
  let chosen := (namedLabels op).foldl (fun current label => w.datasetOwning label current)
    w.activeName?
  chosen.bind w.dataset?

end Workspace
end TablePhrase
