import TablePhrase.Entity.Kind
import TablePhrase.Proofs.Text.Count

/-!
The placeholders of the five kinds. Each begins at its first character only and closes at its last,
so that no two of them overlap and none of them is crossed by another.
-/

namespace TablePhrase.EntityKind

open Text

theorem placeholder_toList (kind : EntityKind) :
    kind.placeholder.toList = '<' :: (kind.name.toList ++ ['>']) := by
  simp [placeholder]

theorem placeholder_ne_nil (kind : EntityKind) : kind.placeholder.toList ≠ [] := by
  rw [placeholder_toList]
  exact List.cons_ne_nil _ _

theorem avoids_placeholder_of_not_mem {piece : List Char} (kind : EntityKind) (h : '<' ∉ piece)
    (rest : List Char) : Avoids kind.placeholder.toList piece rest := by
  rw [placeholder_toList]
  exact avoids_of_not_mem h

theorem not_prefix_other_placeholder {kind other : EntityKind} (h : other ≠ kind)
    (rest : List Char) : ¬ kind.placeholder.toList <+: other.placeholder.toList ++ rest := by
  cases kind <;> cases other <;> simp_all [placeholder, name]

theorem avoids_other_placeholder {kind other : EntityKind} (h : other ≠ kind) (rest : List Char) :
    Avoids kind.placeholder.toList other.placeholder.toList rest := by
  have hstarts := not_prefix_other_placeholder h rest
  rw [placeholder_toList other] at hstarts ⊢
  refine ⟨hstarts, avoids_placeholder_of_not_mem kind ?_ rest⟩
  cases other <;> decide

theorem opens_not_mem_placeholder_tail (kind : EntityKind) :
    '<' ∉ kind.placeholder.toList.tail := by
  cases kind <;> decide

theorem beginsOnce_placeholder (kind : EntityKind) : BeginsOnce kind.placeholder.toList := by
  have hopens := opens_not_mem_placeholder_tail kind
  rw [placeholder_toList] at hopens ⊢
  exact hopens

theorem count_placeholder_append (kind other : EntityKind) (rest : List Char) :
    count kind.placeholder.toList (other.placeholder.toList ++ rest) =
      (if kind = other then 1 else 0) + count kind.placeholder.toList rest := by
  split
  · next heq => rw [← heq, count_needle_append (placeholder_ne_nil kind), Nat.add_comm]
  · next hne =>
    rw [count_append_of_avoids (avoids_other_placeholder (Ne.symm hne) rest), Nat.zero_add]

theorem count_placeholder (kind other : EntityKind) :
    count kind.placeholder.toList other.placeholder.toList = if kind = other then 1 else 0 := by
  have happend := count_placeholder_append kind other []
  rwa [List.append_nil, count] at happend

theorem fences_placeholder (kind other : EntityKind) :
    Fences kind.placeholder.toList other.placeholder.toList where
  ne_nil := placeholder_ne_nil other
  head := by
    rw [placeholder_toList other]
    rintro c ⟨⟩
    exact opens_not_mem_placeholder_tail kind
  last := by
    have hcloses : '>' ∉ kind.placeholder.toList.dropLast := by
      cases kind <;> decide
    rw [placeholder_toList other, ← List.cons_append, List.getLast?_concat]
    rintro c ⟨⟩
    exact hcloses

end TablePhrase.EntityKind
