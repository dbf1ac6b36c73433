import TablePhrase.Literal.Printer

/-!
JSON documents as trees. A number keeps its token, because integers and doubles are told apart by
how they are written; a string that has half of a surrogate pair denotes no text.
-/

namespace TablePhrase

/-- A JSON value. The members of an object keep their order and may repeat a name. -/
inductive Json
  | null
  | bool (b : Bool)
  | number (token : List Char)
  | str (text : Option String)
  | arr (items : List Json)
  | obj (members : List (Option String × Json))
deriving Inhabited

namespace Json

instance : Coe String Json :=
  ⟨fun s => str (some s)⟩

instance : Coe Bool Json :=
  ⟨bool⟩

def object (members : List (String × Json)) : Json :=
  obj (members.map fun (name, value) => (some name, value))

def strings (items : List String) : Json :=
  arr (items.map fun s => str (some s))

def int (i : Int) : Json :=
  number (integerText i)

def nat (n : Nat) : Json :=
  number (Decimal.digits n)

def ofOption {α : Type} (encode : α → Json) : Option α → Json
  | none => null
  | some a => encode a

/-- A double; what is not finite has no JSON number and is null. -/
def binary64 (x : Binary64) : Json :=
  if x.isFinite then number (Decimal.Layout.json.finiteText x) else null

def text? : Json → Option String
  | str text => text
  | _ => none

end Json
end TablePhrase
