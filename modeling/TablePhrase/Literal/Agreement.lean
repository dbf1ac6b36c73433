import TablePhrase.Literal.Basic

/-!
Two equalities of literals. `equals` compares like with like; `agrees` also lets an integer agree
with a double of the same value, at the top and inside lists and maps. A NaN equals and agrees with
nothing.
-/

namespace TablePhrase.Literal

mutual

def equals : Literal → Literal → Bool
  | null, null => true
  | bool a, bool b => a == b
  | int a, int b => a == b
  | float a, float b => a.equals b
  | str a, str b => a == b
  | list a, list b => allEqual a b
  | map a, map b => entriesEqual a b
  | _, _ => false
termination_by structural x => x

def allEqual : List Literal → List Literal → Bool
  | [], [] => true
  | a :: as, b :: bs => equals a b && allEqual as bs
  | _, _ => false
termination_by structural x => x

def entriesEqual : List (String × Literal) → List (String × Literal) → Bool
  | [], [] => true
  | (k, a) :: as, (l, b) :: bs => k == l && equals a b && entriesEqual as bs
  | _, _ => false
termination_by structural x => x

end

mutual

def agrees : Literal → Literal → Bool
  | null, null => true
  | bool a, bool b => a == b
  | int a, int b => a == b
  | float a, float b => a.equals b
  | int a, float b => (Binary64.ofInt a.toInt).equals b
  | float a, int b => (Binary64.ofInt b.toInt).equals a
  | str a, str b => a == b
  | list a, list b => allAgree a b
  | map a, map b => entriesAgree a b
  | _, _ => false
termination_by structural x => x

def allAgree : List Literal → List Literal → Bool
  | [], [] => true
  | a :: as, b :: bs => agrees a b && allAgree as bs
  | _, _ => false
termination_by structural x => x

def entriesAgree : List (String × Literal) → List (String × Literal) → Bool
  | [], [] => true
  | (k, a) :: as, (l, b) :: bs => k == l && agrees a b && entriesAgree as bs
  | _, _ => false
termination_by structural x => x

end

def isOption (options : List Literal) (value : Literal) : Bool :=
  options.any (·.agrees value)

end TablePhrase.Literal
