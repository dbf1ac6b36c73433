import TablePhrase.Entity.Decoding
import TablePhrase.Lifting.Condition
import TablePhrase.Lifting.Number

/-!
Lifting: five passes, one for each kind of entity, replace literal spans by placeholders and collect
their texts. A pass works on the text that the passes before it have left.
-/

namespace TablePhrase.Lifting

def matcher : EntityKind → Matcher
  | .condition => conditionMatcher
  | .stringList => stringListMatcher
  | .numberList => numberListMatcher
  | .value => valueMatcher
  | .number => numberMatcher

def spanText (kind : EntityKind) (span : List Char) : List Char :=
  match kind with
  | .value => stripQuotes span
  | _ => span

/-- One pass: the text with placeholders, and the entity texts it replaced. -/
def liftKind (kind : EntityKind) (text : List Char) : List Char × List (List Char) :=
  let cut := (matcher kind).cut text
  (cut.fill fun _ => kind.placeholder.toList, cut.found.map (spanText kind))

def liftKinds : List EntityKind → List Char → List Char × List (EntityKind × List (List Char))
  | [], text => (text, [])
  | kind :: kinds, text =>
    let (lifted, found) := liftKind kind text
    let (lifted, more) := liftKinds kinds lifted
    (lifted, (kind, found) :: more)

end TablePhrase.Lifting

namespace TablePhrase

structure Lifted where
  text : String
  entities : EntityTexts
deriving DecidableEq

def liftPass (kind : EntityKind) (text : String) : String × List String :=
  let (lifted, found) := Lifting.liftKind kind text.toList
  (String.ofList lifted, found.map String.ofList)

def lift (text : String) : Lifted :=
  let (lifted, found) := Lifting.liftKinds EntityKind.liftOrder text.toList
  let ofKind (kind : EntityKind) : List String :=
    ((found.lookup kind).getD []).map String.ofList
  ⟨String.ofList lifted, .ofFn ofKind⟩

/-- What an entity text looks like in an action: values stand in double quotes. -/
def replaceKnown (texts : EntityTexts) (action : String) : String :=
  let needles := EntityKind.liftOrder.flatMap fun kind =>
    (texts.get kind).map fun text => (kind, kind.grounded text)
  String.ofList (needles.foldl (fun action (kind, needle) =>
    if needle.isEmpty then action
    else Text.replaceAll needle.toList kind.placeholder.toList action) action.toList)

end TablePhrase
