import TablePhrase.Entity.Kind
import TablePhrase.Text.Search

/-!
How many entities, or placeholders, there are of each kind.
-/

namespace TablePhrase

structure EntityCounts where
  number : Nat
  value : Nat
  numberList : Nat
  stringList : Nat
  condition : Nat
deriving DecidableEq, Inhabited

namespace EntityCounts

def get (counts : EntityCounts) : EntityKind → Nat
  | .number => counts.number
  | .value => counts.value
  | .numberList => counts.numberList
  | .stringList => counts.stringList
  | .condition => counts.condition

def ofFn (count : EntityKind → Nat) : EntityCounts :=
  ⟨count .number, count .value, count .numberList, count .stringList, count .condition⟩

@[simp]
theorem get_ofFn (count : EntityKind → Nat) (kind : EntityKind) :
    (ofFn count).get kind = count kind := by
  cases kind <;> rfl

theorem ext_get {a b : EntityCounts} (h : ∀ kind, a.get kind = b.get kind) : a = b := by
  cases a
  cases b
  simpa using ⟨h .number, h .value, h .numberList, h .stringList, h .condition⟩

def total (counts : EntityCounts) : Nat :=
  counts.number + counts.value + counts.numberList + counts.stringList + counts.condition

def kinds (counts : EntityCounts) : List EntityKind :=
  EntityKind.groundOrder.filter fun kind => 0 < counts.get kind

def describe (counts : EntityCounts) : String :=
  if counts.kinds.isEmpty then "no entities"
  else
    Text.join ", " (counts.kinds.map fun kind => toString (counts.get kind) ++ " " ++ kind.name)

def ofTemplate (template : String) : EntityCounts :=
  ofFn fun kind => Text.count kind.placeholder.toList template.toList

end EntityCounts
end TablePhrase
