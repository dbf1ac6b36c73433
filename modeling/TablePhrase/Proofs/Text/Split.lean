import TablePhrase.Proofs.Text.Count

/-!
Splitting a text at the occurrences of a separator. There is one part more than occurrences, and
parts that do not hold the separator are what a text made of them is split into.
-/

namespace TablePhrase.Text

variable {separator piece part rest : List Char}

theorem length_splitOn (separator text : List Char) :
    (splitOn separator text).length = count separator text + 1 := by
  fun_induction splitOn separator text with
  | case1 => rw [count]; rfl
  | case2 c cs hstarts ih => rw [count, if_pos hstarts, List.length_cons, ih]
  | case3 c cs hstarts hnone ih =>
    rw [hnone] at ih
    cases ih
  | case4 c cs hstarts part parts hparts ih =>
    rw [hparts, List.length_cons] at ih
    rw [count, if_neg hstarts, List.length_cons, ih]

theorem splitOn_append_of_avoids (h : Avoids separator piece rest) (part : List Char)
    (parts : List (List Char)) (hrest : splitOn separator rest = part :: parts) :
    splitOn separator (piece ++ rest) = (piece ++ part) :: parts := by
  induction piece with
  | nil => exact hrest
  | cons c piece ih =>
    rw [List.cons_append, splitOn, isPrefixOf_eq_false h.1, ih h.2]
    rfl

theorem splitOn_separator_append (hne : separator ≠ []) (rest : List Char) :
    splitOn separator (separator ++ rest) = [] :: splitOn separator rest := by
  obtain ⟨c, tail, rfl⟩ := List.exists_cons_of_ne_nil hne
  have hstarts : (c :: tail).isPrefixOf (c :: (tail ++ rest)) = true :=
    List.isPrefixOf_iff_prefix.mpr (List.prefix_append (c :: tail) rest)
  rw [List.cons_append, splitOn, if_pos hstarts, List.length_cons, Nat.add_sub_cancel,
    List.drop_left]

theorem splitOn_flatMap (hseparator : BeginsOnce separator) (parts : List (List Char))
    (h : ∀ p ∈ part :: parts, ¬ separator <:+: p) :
    splitOn separator (part ++ parts.flatMap (separator ++ ·)) = part :: parts := by
  induction parts generalizing part with
  | nil =>
    have havoids : Avoids separator part [] :=
      avoids_of_not_contained (h part List.mem_cons_self) nofun
    rw [List.flatMap_nil, splitOn_append_of_avoids havoids [] [] (by rw [splitOn]),
      List.append_nil]
  | cons next parts ih =>
    have hnext := ih (List.forall_mem_cons.mp h).2
    have havoids : Avoids separator part (separator ++ (next ++ parts.flatMap (separator ++ ·))) :=
      avoids_of_not_contained (h part List.mem_cons_self) hseparator.head_append
    have hpart := splitOn_append_of_avoids havoids [] (next :: parts)
      (by rw [splitOn_separator_append hseparator.ne_nil, hnext])
    rwa [List.append_nil, ← List.append_assoc separator, ← List.flatMap_cons] at hpart

end TablePhrase.Text
