import TablePhrase.Literal.Basic

/-!
What stands anywhere in a literal, however deep: doubles, maps out of order, carriage returns.
-/

namespace TablePhrase.Literal

mutual

def someWithin (p : Literal → Bool) : Literal → Bool
  | list items => p (list items) || someAmong p items
  | map entries => p (map entries) || someEntry p entries
  | v => p v
termination_by structural x => x

def someAmong (p : Literal → Bool) : List Literal → Bool
  | [] => false
  | x :: xs => someWithin p x || someAmong p xs
termination_by structural x => x

def someEntry (p : Literal → Bool) : List (String × Literal) → Bool
  | [] => false
  | (_, x) :: es => someWithin p x || someEntry p es
termination_by structural x => x

end

def isFloat : Literal → Bool
  | float _ => true
  | _ => false

instance (entries : List (String × Literal)) : Decidable (KeysIncrease entries) :=
  inferInstanceAs (Decidable (entries.Pairwise fun a b => a.1 < b.1))

def isUnordered : Literal → Bool
  | map entries => !decide (KeysIncrease entries)
  | _ => false

def hasReturn (text : String) : Bool :=
  text.toList.contains '\r'

def isReturning : Literal → Bool
  | str s => hasReturn s
  | map entries => entries.any fun e => hasReturn e.1
  | _ => false

/-- No double stands anywhere in the value. -/
def IsFloatFree (v : Literal) : Prop :=
  v.someWithin isFloat = false

/-- Every map in the value has its entries in key order, as `ofEntries` puts them. -/
def IsOrdered (v : Literal) : Prop :=
  v.someWithin isUnordered = false

/-- Whether a carriage return stands in a string or in a key anywhere in the value. -/
def holdsReturn (v : Literal) : Bool :=
  v.someWithin isReturning

instance (v : Literal) : Decidable v.IsFloatFree :=
  inferInstanceAs (Decidable (v.someWithin isFloat = false))

instance (v : Literal) : Decidable v.IsOrdered :=
  inferInstanceAs (Decidable (v.someWithin isUnordered = false))

section Cons
variable {x : Literal} {xs : List Literal} {k : String} {es : List (String × Literal)}

theorem isFloatFree_list_cons :
    (list (x :: xs)).IsFloatFree ↔ x.IsFloatFree ∧ (list xs).IsFloatFree :=
  Bool.or_eq_false_iff

theorem isFloatFree_map_cons :
    (map ((k, x) :: es)).IsFloatFree ↔ x.IsFloatFree ∧ (map es).IsFloatFree :=
  Bool.or_eq_false_iff

theorem isOrdered_list_cons : (list (x :: xs)).IsOrdered ↔ x.IsOrdered ∧ (list xs).IsOrdered :=
  Bool.or_eq_false_iff

theorem IsOrdered.keysIncrease (h : (map es).IsOrdered) : KeysIncrease es := by
  obtain ⟨hkeys, -⟩ := Bool.or_eq_false_iff.mp h
  simpa [isUnordered] using hkeys

theorem IsOrdered.of_map_cons (h : (map ((k, x) :: es)).IsOrdered) :
    x.IsOrdered ∧ (map es).IsOrdered := by
  have hkeys : KeysIncrease es := (List.pairwise_cons.mp h.keysIncrease).2
  obtain ⟨-, hentries⟩ := Bool.or_eq_false_iff.mp h
  obtain ⟨hx, hes⟩ := Bool.or_eq_false_iff.mp hentries
  have hes' : isUnordered (map es) = false := by simp [isUnordered, hkeys]
  exact ⟨hx, Bool.or_eq_false_iff.mpr ⟨hes', hes⟩⟩

theorem holdsReturn_list_cons :
    (list (x :: xs)).holdsReturn = (x.holdsReturn || (list xs).holdsReturn) := rfl

theorem holdsReturn_map_cons :
    (map ((k, x) :: es)).holdsReturn =
      (hasReturn k || x.holdsReturn || (map es).holdsReturn) := by
  show ((hasReturn k || es.any fun e => hasReturn e.1) ||
      (x.holdsReturn || someEntry isReturning es)) =
    (hasReturn k || x.holdsReturn || ((es.any fun e => hasReturn e.1) || someEntry isReturning es))
  ac_rfl

end Cons
end TablePhrase.Literal
