import TablePhrase.Entity.Decoding
import TablePhrase.Json.Decoder

/-!
Entities in JSON documents: kinds by their names, entity texts as a record of arrays of strings, and
decoded entities as an object of their placeholders.
-/

namespace TablePhrase

def EntityKind.ofName? (name : String) : Option EntityKind :=
  groundOrder.find? (·.name == name)

def Json.strings? : Json → Option (List String) :=
  items? text?

namespace EntityTexts

/-- Entity texts from a record, of which every field has a default. -/
def ofJson? (j : Json) : Option EntityTexts := do
  let fields ← j.fields? ["numbers", "values", "number_lists", "string_lists", "conditions"] 0
  let numbers ← Json.defaulted fields "numbers" [] Json.strings?
  let values ← Json.defaulted fields "values" [] Json.strings?
  let numberLists ← Json.defaulted fields "number_lists" [] Json.strings?
  let stringLists ← Json.defaulted fields "string_lists" [] Json.strings?
  let conditions ← Json.defaulted fields "conditions" [] Json.strings?
  return ⟨numbers, values, numberLists, stringLists, conditions⟩

def toJson (texts : EntityTexts) : Json :=
  .object [("numbers", .strings texts.numbers), ("values", .strings texts.values),
    ("number_lists", .strings texts.numberLists), ("string_lists", .strings texts.stringLists),
    ("conditions", .strings texts.conditions)]

end EntityTexts

def DecodedEntities.toJson (entities : DecodedEntities) : Json :=
  entities.bindings.toJson Literal.toJson

end TablePhrase
