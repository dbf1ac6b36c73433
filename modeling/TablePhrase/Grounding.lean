import TablePhrase.Entity.Decoding

/-!
Grounding: a template and a set of entity texts combined into the grounded action, the same action
with numbered placeholders, and the decoded entities. Entities replace placeholders kind by kind,
each the first one that is left in the text so far.
-/

namespace TablePhrase

/-- A template whose placeholders are not as many, kind by kind, as the entities. -/
structure Mismatch where
  template : String
  expected : EntityCounts
  supplied : EntityCounts
deriving DecidableEq

def Mismatch.message (m : Mismatch) : String :=
  "template `" ++ m.template ++ "` expects " ++ m.expected.describe ++ " but "
    ++ m.supplied.describe ++ " were supplied"

structure Combination where
  grounded : String
  lifted : String
  entities : DecodedEntities

namespace Grounding

/-- The first placeholder of an item's kind replaced by `text` of the item, item after item. -/
def substitute (text : EntityTexts.Item → String) (items : List EntityTexts.Item)
    (template : List Char) : List Char :=
  items.foldl
    (fun action item =>
      Text.replaceFirst item.kind.placeholder.toList (text item).toList action)
    template

def groundedText (item : EntityTexts.Item) : String :=
  item.kind.grounded item.text

def indexedText (item : EntityTexts.Item) : String :=
  item.kind.indexed item.index

end Grounding

def recombine (template : String) (texts : EntityTexts) : Except Mismatch Combination :=
  let expected := EntityCounts.ofTemplate template
  let supplied := texts.counts
  if expected = supplied then
    .ok {
      grounded := String.ofList
        (Grounding.substitute Grounding.groundedText texts.items template.toList)
      lifted := String.ofList
        (Grounding.substitute Grounding.indexedText texts.items template.toList)
      entities := .ofTexts texts }
  else .error ⟨template, expected, supplied⟩

end TablePhrase
