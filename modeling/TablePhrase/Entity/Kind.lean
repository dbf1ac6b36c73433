/-!
The five kinds of entities, their placeholders, and the two orders in which kinds are taken.
-/

namespace TablePhrase

inductive EntityKind
  | number
  | value
  | numberList
  | stringList
  | condition
deriving DecidableEq, Inhabited

namespace EntityKind

/-- The order in which templates are grounded and placeholders are numbered. -/
def groundOrder : List EntityKind :=
  [number, value, numberList, stringList, condition]

/-- The order of the lifting passes: longer shapes go first, so that a list is never lifted as its
first element. -/
def liftOrder : List EntityKind :=
  [condition, stringList, numberList, value, number]

def name : EntityKind → String
  | number => "number"
  | value => "value"
  | numberList => "number_list"
  | stringList => "string_list"
  | condition => "condition"

def placeholder (kind : EntityKind) : String :=
  "<" ++ kind.name ++ ">"

def indexed (kind : EntityKind) (index : Nat) : String :=
  "<" ++ kind.name ++ toString index ++ ">"

def grounded (kind : EntityKind) (text : String) : String :=
  match kind with
  | value => "\"" ++ text ++ "\""
  | _ => text

theorem mem_groundOrder (kind : EntityKind) : kind ∈ groundOrder := by
  cases kind <;> decide

theorem mem_liftOrder (kind : EntityKind) : kind ∈ liftOrder := by
  cases kind <;> decide

end EntityKind
end TablePhrase
