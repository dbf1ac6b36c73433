import TablePhrase.Workspace.Basic

/-!
When a literal agrees with itself: a NaN does not, and a value that holds none does. A string agrees
with nothing else.
-/

namespace TablePhrase

namespace Literal

mutual

def holdsNaN : Literal → Bool
  | float x => x.isNaN
  | list items => anyHoldsNaN items
  | map entries => anyEntryHoldsNaN entries
  | _ => false
termination_by structural x => x

def anyHoldsNaN : List Literal → Bool
  | [] => false
  | x :: xs => holdsNaN x || anyHoldsNaN xs
termination_by structural x => x

def anyEntryHoldsNaN : List (String × Literal) → Bool
  | [] => false
  | (_, x) :: xs => holdsNaN x || anyEntryHoldsNaN xs
termination_by structural x => x

end

mutual

theorem agrees_self : ∀ {v : Literal}, v.holdsNaN = false → v.agrees v = true
  | null, _ => rfl
  | bool b, _ => by simp [agrees]
  | int i, _ => by simp [agrees]
  | float x, h => by
    rw [agrees]
    exact Binary64.equals_self h
  | str s, _ => by simp [agrees]
  | list items, h => by
    rw [agrees]
    exact allAgree_self h
  | map entries, h => by
    rw [agrees]
    exact entriesAgree_self h

theorem allAgree_self : ∀ {xs : List Literal}, anyHoldsNaN xs = false → allAgree xs xs = true
  | [], _ => rfl
  | x :: xs, h => by
    obtain ⟨hx, hxs⟩ := Bool.or_eq_false_iff.mp h
    rw [allAgree, agrees_self hx, allAgree_self hxs, Bool.and_self]

theorem entriesAgree_self :
    ∀ {es : List (String × Literal)}, anyEntryHoldsNaN es = false → entriesAgree es es = true
  | [], _ => rfl
  | (k, x) :: es, h => by
    obtain ⟨hx, hes⟩ := Bool.or_eq_false_iff.mp h
    rw [entriesAgree, agrees_self hx, entriesAgree_self hes, beq_self_eq_true, Bool.and_self,
      Bool.and_self]

end

theorem eq_str_of_agrees {v : Literal} {s : String} (h : v.agrees (.str s) = true) :
    v = .str s := by
  cases v with
  | str t => rw [beq_iff_eq.mp h]
  | _ => cases h

theorem isOption_str_iff {options : List Literal} {label : String} :
    isOption options (.str label) = true ↔ .str label ∈ options := by
  rw [isOption, List.any_eq_true]
  constructor
  · rintro ⟨option, hoption, hagrees⟩
    rwa [← eq_str_of_agrees hagrees]
  · intro h
    exact ⟨.str label, h, beq_self_eq_true label⟩

/-- A single label: not a list, and without a NaN. -/
def IsPlainLabel (v : Literal) : Prop :=
  v.asList? = none ∧ v.holdsNaN = false

instance (v : Literal) : Decidable v.IsPlainLabel :=
  inferInstanceAs (Decidable (v.asList? = none ∧ v.holdsNaN = false))

theorem isPlainLabel_null : null.IsPlainLabel := ⟨rfl, rfl⟩

end Literal

def Dataset.HasPlainLabels (d : Dataset) : Prop :=
  ∀ label ∈ d.schema.columns ++ d.schema.indexLabels, label.IsPlainLabel

instance (d : Dataset) : Decidable d.HasPlainLabels :=
  inferInstanceAs (Decidable (∀ label ∈ d.schema.columns ++ d.schema.indexLabels, label.IsPlainLabel))

theorem Dataset.hasPlainLabels_empty : Dataset.empty.HasPlainLabels := nofun

end TablePhrase
