import TablePhrase.Json.Number

/-!
Typed values from JSON. A record is an object of its fields, or an array of them in order. A decoder
gives nothing for a value of another shape.
-/

namespace TablePhrase

namespace Json

def maxLevels : Nat :=
  127

/-- The given fields of a record that are present. An object may have members of other names, but no
field twice; an array may leave out fields at the end, down to `least`. -/
def fields? (names : List String) (least : Nat) : Json → Option (List (String × Json))
  | obj members => do
    let named ← members.mapM fun (name, value) => name.map (·, value)
    let known := named.filter fun (name, _) => names.contains name
    if (known.map (·.1)).eraseDups.length = known.length then some known else none
  | arr items =>
    if least ≤ items.length && items.length ≤ names.length then some (names.zip items) else none
  | _ => none

def required {α : Type} (fields : List (String × Json)) (name : String)
    (decode : Json → Option α) : Option α :=
  (fields.lookup name).bind decode

def defaulted {α : Type} (fields : List (String × Json)) (name : String) (default : α)
    (decode : Json → Option α) : Option α :=
  match fields.lookup name with
  | some value => decode value
  | none => some default

def nullable {α : Type} (decode : Json → Option α) : Json → Option (Option α)
  | null => some none
  | value => (decode value).map some

def items? {α : Type} (decode : Json → Option α) : Json → Option (List α)
  | arr items => items.mapM decode
  | _ => none

/-- An object as a map; of two members with the same name the later counts. -/
def keyMap? {α : Type} (decode : Json → Option α) : Json → Option (KeyMap α)
  | obj members => do
    let entries ← members.mapM fun (name, value) => do
      let name ← name
      let value ← decode value
      return (name, value)
    return .ofList entries
  | _ => none

/-- One of a few names, as a string or as the only member of an object, with null as its value. -/
def name? {α : Type} (ofName? : String → Option α) : Json → Option α
  | str (some name) => ofName? name
  | obj [(some name, null)] => ofName? name
  | _ => none

def binary64? : Json → Option Binary64
  | number token => (Token.ofChars token).binary64?
  | _ => none

def nat? : Json → Option Nat
  | number token => (Token.ofChars token).nat?
  | _ => none

end Json

namespace Literal

mutual

/-- A literal from any JSON value, nested at most so many levels. -/
def ofJson? (levels : Nat) : Json → Option Literal
  | .null => some .null
  | .bool b => some (.bool b)
  | .number token => (Json.Token.ofChars token).literal?
  | .str text => text.map .str
  | .arr items =>
    if levels = 0 then none else (itemsOfJson? (levels - 1) items).map .list
  | .obj members =>
    if levels = 0 then none else (entriesOfJson? (levels - 1) members).map .ofEntries
termination_by structural x => x

def itemsOfJson? (levels : Nat) : List Json → Option (List Literal)
  | [] => some []
  | x :: xs => do
    let v ← ofJson? levels x
    let vs ← itemsOfJson? levels xs
    return v :: vs
termination_by structural x => x

def entriesOfJson? (levels : Nat) :
    List (Option String × Json) → Option (List (String × Literal))
  | [] => some []
  | (name, x) :: ms => do
    let name ← name
    let v ← ofJson? levels x
    let es ← entriesOfJson? levels ms
    return (name, v) :: es
termination_by structural x => x

end

mutual

def toJson : Literal → Json
  | null => .null
  | bool b => .bool b
  | int i => .int i.toInt
  | float x => .binary64 x
  | str s => .str (some s)
  | list items => .arr (itemsToJson items)
  | map entries => .obj (entriesToJson entries)
termination_by structural x => x

def itemsToJson : List Literal → List Json
  | [] => []
  | x :: xs => toJson x :: itemsToJson xs
termination_by structural x => x

def entriesToJson : List (String × Literal) → List (Option String × Json)
  | [] => []
  | (k, v) :: es => (some k, toJson v) :: entriesToJson es
termination_by structural x => x

end

end Literal

def KeyMap.toJson {α : Type} (encode : α → Json) (m : KeyMap α) : Json :=
  .object (m.entries.map fun (key, value) => (key, encode value))

end TablePhrase
