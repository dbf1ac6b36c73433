import TablePhrase.Entity.Texts
import TablePhrase.Literal.Reader
import TablePhrase.Text.Search

/-!
Entity texts decoded to literals, and the decoded entities of a template by their placeholders.
-/

namespace TablePhrase

/-- The text without one pair of equal quotes around it; double quotes are tried first. -/
def stripQuotes (text : List Char) : List Char :=
  match text with
  | [] => []
  | q :: rest =>
    if (q = '"' || q = '\'') && rest.getLast? = some q then rest.dropLast else text

def EntityKind.decode (kind : EntityKind) (text : String) : Literal :=
  match kind with
  | .number =>
    (Literal.number? text.toList).getD (.str (String.ofList (Unicode.trim text.toList)))
  | .value => .str text
  | .numberList => Literal.numberList (Text.splitOn [','] text.toList)
  | .stringList =>
    .list ((Text.splitOn [',', ' '] text.toList).map fun item =>
      .str (String.ofList (stripQuotes (Unicode.trim item))))
  | .condition => .str text

/-- Decoded entities by their numbered placeholders. -/
structure DecodedEntities where
  bindings : KeyMap Literal
deriving Inhabited

namespace DecodedEntities

def get? (entities : DecodedEntities) (kind : EntityKind) (index : Nat) : Option Literal :=
  entities.bindings.get? (kind.indexed index)

def size (entities : DecodedEntities) : Nat :=
  entities.bindings.size

def isEmpty (entities : DecodedEntities) : Bool :=
  entities.bindings.isEmpty

def ofTexts (texts : EntityTexts) : DecodedEntities :=
  ⟨texts.items.foldl (fun m item =>
    m.insert (item.kind.indexed item.index) (item.kind.decode item.text)) .empty⟩

end DecodedEntities
end TablePhrase
