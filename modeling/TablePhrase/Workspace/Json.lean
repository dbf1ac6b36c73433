import TablePhrase.Json.Decoder
import TablePhrase.Workspace.Basic

/-!
Datasets and workspaces from JSON.
-/

namespace TablePhrase

/-- A dataset from an object with a name and, where there are any, labels. Its other members only
have to be readable. -/
def Dataset.ofJson? (levels : Nat) : Json → Option Dataset
  | .obj members => do
    let fields ← Json.fields? ["name", "columns", "index_labels"] 0 (.obj members)
    let _ ← Literal.entriesOfJson? (levels - 1) members
    let labels := Json.items? (Literal.ofJson? (levels - 2))
    let name ← Json.required fields "name" Json.text?
    let columns ← Json.defaulted fields "columns" [] labels
    let indexLabels ← Json.defaulted fields "index_labels" [] labels
    return ⟨name, columns, indexLabels⟩
  | _ => none

def Workspace.ofJson? (levels : Nat) (j : Json) : Option Workspace := do
  let fields ← j.fields? ["datasets", "active"] 0
  let datasets ←
    Json.defaulted fields "datasets" [] (Json.items? (Dataset.ofJson? (levels - 2)))
  let active ← Json.defaulted fields "active" none (Json.nullable Json.text?)
  return ⟨datasets, active⟩

end TablePhrase
