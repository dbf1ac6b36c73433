import TablePhrase.Directory
import TablePhrase.Json.Decoder
import TablePhrase.Json.Reader
import TablePhrase.Json.Writer
import TablePhrase.Timestamp
import TablePhrase.Unicode.Basic

/-!
The store of remembered values: a map kept in memory and written to its file after every change. A
change that cannot be written stays in memory.
-/

namespace TablePhrase

structure Remembered where
  value : Literal
  updatedAt : Timestamp

namespace Remembered

def ofJson? (levels : Nat) (j : Json) : Option Remembered := do
  let fields ← j.fields? ["value", "updated_at"] 2
  let value ← Json.required fields "value" (Literal.ofJson? (levels - 1))
  let updatedAt ← Json.required fields "updated_at" fun j => j.text?.bind Timestamp.parse?
  return ⟨value, updatedAt⟩

def toJson (r : Remembered) : Json :=
  .object [("value", r.value.toJson), ("updated_at", r.updatedAt.fileText)]

end Remembered

inductive StoreError
  | inaccessible (path : String)
  | corrupt (path : String)
deriving DecidableEq

structure Store where
  directory : Directory
  path : String
  entries : KeyMap Remembered

namespace Store

def ofText? (text : String) : Option (KeyMap Remembered) :=
  if (Unicode.trim text.toList).isEmpty then some .empty
  else (Json.parse? text).bind (Json.keyMap? (Remembered.ofJson? (Json.maxLevels - 1)))

def text (entries : KeyMap Remembered) : String :=
  (entries.toJson Remembered.toJson).indented

def openAt (directory : Directory) (path : String) : Except StoreError Store :=
  if directory.contains path then
    match directory.read? path with
    | none => .error (.inaccessible path)
    | some text =>
      match ofText? text with
      | some entries => .ok ⟨directory, path, entries⟩
      | none => .error (.corrupt path)
  else .ok ⟨directory, path, .empty⟩

def value? (s : Store) (key : String) : Option Literal :=
  (s.entries.get? key).map (·.value)

/-- A change of a store that may fail. What was changed before the failure stays changed. -/
abbrev Change (α : Type) : Type :=
  EStateM StoreError Store α

def persist : Change Unit := do
  let s ← get
  let (directory, written) := s.directory.save s.path (text s.entries)
  set { s with directory := directory }
  if !written then throw (.inaccessible s.path)

def save (now : Timestamp) (items : List (String × Literal)) : Change Unit := do
  modify fun s =>
    { s with entries := items.foldl (fun m (key, value) => m.insert key ⟨value, now⟩) s.entries }
  persist

/-- Forgets a key; answers whether it was remembered. The file is written only if it was. -/
def delete (key : String) : Change Bool := do
  let s ← get
  if s.entries.contains key then
    set { s with entries := s.entries.erase key }
    persist
    return true
  else return false

def reset : Change Unit := do
  modify fun s => { s with entries := .empty }
  persist

end Store
end TablePhrase
