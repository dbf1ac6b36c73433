import TablePhrase.Entity.Counts

/-!
The entity texts of an utterance, by kind and in the order in which they stand.
-/

namespace TablePhrase

structure EntityTexts where
  numbers : List String
  values : List String
  numberLists : List String
  stringLists : List String
  conditions : List String
deriving DecidableEq, Inhabited

namespace EntityTexts

def get (texts : EntityTexts) : EntityKind → List String
  | .number => texts.numbers
  | .value => texts.values
  | .numberList => texts.numberLists
  | .stringList => texts.stringLists
  | .condition => texts.conditions

def ofFn (texts : EntityKind → List String) : EntityTexts :=
  ⟨texts .number, texts .value, texts .numberList, texts .stringList, texts .condition⟩

@[simp]
theorem get_ofFn (texts : EntityKind → List String) (kind : EntityKind) :
    (ofFn texts).get kind = texts kind := by
  cases kind <;> rfl

theorem ext_get {a b : EntityTexts} (h : ∀ kind, a.get kind = b.get kind) : a = b := by
  cases a
  cases b
  simpa using ⟨h .number, h .value, h .numberList, h .stringList, h .condition⟩

def empty : EntityTexts :=
  ofFn fun _ => []

def append (texts other : EntityTexts) : EntityTexts :=
  ofFn fun kind => texts.get kind ++ other.get kind

instance : Append EntityTexts :=
  ⟨append⟩

@[simp]
theorem get_append (texts other : EntityTexts) (kind : EntityKind) :
    (texts ++ other).get kind = texts.get kind ++ other.get kind :=
  get_ofFn _ kind

def ofKind (kind : EntityKind) (found : List String) : EntityTexts :=
  ofFn fun k => if k = kind then found else []

def counts (texts : EntityTexts) : EntityCounts :=
  .ofFn fun kind => (texts.get kind).length

def size (texts : EntityTexts) : Nat :=
  texts.counts.total

def isEmpty (texts : EntityTexts) : Bool :=
  texts.size == 0

structure Item where
  kind : EntityKind
  index : Nat
  text : String
deriving DecidableEq

def items (texts : EntityTexts) : List Item :=
  EntityKind.groundOrder.flatMap fun kind =>
    (texts.get kind).mapIdx fun index text => ⟨kind, index, text⟩

end EntityTexts
end TablePhrase
