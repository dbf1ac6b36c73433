import TablePhrase.Binary64.Rounding
import TablePhrase.KeyMap

/-!
Literal values: the one value model of entities, parameters, options and labels.
-/

namespace TablePhrase

/-- A value that can be written in a generated call. The entries of a map are kept in key order. -/
inductive Literal
  | null
  | bool (b : Bool)
  | int (i : Int64)
  | float (x : Binary64)
  | str (s : String)
  | list (items : List Literal)
  | map (entries : List (String × Literal))
deriving Inhabited

namespace Literal

def ofEntries (entries : List (String × Literal)) : Literal :=
  map (sortEntries entries)

def strings (items : List String) : Literal :=
  list (items.map str)

def isNull : Literal → Bool
  | null => true
  | _ => false

def asString? : Literal → Option String
  | str s => some s
  | _ => none

def asBool? : Literal → Option Bool
  | bool b => some b
  | _ => none

def asList? : Literal → Option (List Literal)
  | list items => some items
  | _ => none

def isTruthy : Literal → Bool
  | null => false
  | bool b => b
  | int i => i != 0
  | float x => !x.isZero
  | str s => !s.isEmpty
  | list items => !items.isEmpty
  | map entries => !entries.isEmpty

instance : Coe String Literal :=
  ⟨str⟩

instance : Coe Bool Literal :=
  ⟨bool⟩

end Literal
end TablePhrase
