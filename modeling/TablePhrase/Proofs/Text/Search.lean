import TablePhrase.Proofs.Text.Pieces
import TablePhrase.Text.Search

/-!
Searching a text made of pieces: occurrences are counted and replaced behind a piece in which none
begins.
-/

namespace TablePhrase.Text

/-- No occurrence of the needle begins in the piece, which stands before `rest`. -/
def Avoids (needle : List Char) : List Char → List Char → Prop
  | [], _ => True
  | c :: piece, rest => ¬ needle <+: c :: (piece ++ rest) ∧ Avoids needle piece rest

variable {needle piece rest : List Char}

theorem avoids_append {front : List Char} :
    Avoids needle (front ++ piece) rest ↔
      Avoids needle front (piece ++ rest) ∧ Avoids needle piece rest := by
  induction front with
  | nil => simp [Avoids]
  | cons c front ih => simp only [List.cons_append, Avoids, ih, List.append_assoc, and_assoc]

theorem avoids_of_not_mem {first : Char} {tail : List Char} (h : first ∉ piece) :
    Avoids (first :: tail) piece rest := by
  induction piece with
  | nil => trivial
  | cons c piece ih =>
    refine ⟨?_, ih (List.not_mem_of_not_mem_cons h)⟩
    intro hstarts
    exact List.ne_of_not_mem_cons h (List.cons_prefix_cons.mp hstarts).1

theorem isPrefixOf_eq_false {text : List Char} (h : ¬ needle <+: text) :
    needle.isPrefixOf text = false := by
  rw [← Bool.not_eq_true, List.isPrefixOf_iff_prefix]
  exact h

theorem count_append_of_avoids (h : Avoids needle piece rest) :
    count needle (piece ++ rest) = count needle rest := by
  induction piece with
  | nil => rfl
  | cons c piece ih =>
    rw [List.cons_append, count, isPrefixOf_eq_false h.1]
    exact ih h.2

theorem replaceFirst_append_of_avoids (h : Avoids needle piece rest) (replacement : List Char) :
    replaceFirst needle replacement (piece ++ rest) =
      piece ++ replaceFirst needle replacement rest := by
  induction piece with
  | nil => rfl
  | cons c piece ih =>
    rw [List.cons_append, replaceFirst, isPrefixOf_eq_false h.1, if_neg Bool.false_ne_true, ih h.2]
    rfl

theorem count_needle_append (hne : needle ≠ []) (rest : List Char) :
    count needle (needle ++ rest) = count needle rest + 1 := by
  obtain ⟨c, tail, rfl⟩ := List.exists_cons_of_ne_nil hne
  have hstarts : (c :: tail).isPrefixOf (c :: (tail ++ rest)) = true :=
    List.isPrefixOf_iff_prefix.mpr (List.prefix_append (c :: tail) rest)
  rw [List.cons_append, count, if_pos hstarts, List.length_cons, Nat.add_sub_cancel, List.drop_left]

theorem replaceFirst_needle_append (hne : needle ≠ []) (replacement rest : List Char) :
    replaceFirst needle replacement (needle ++ rest) = replacement ++ rest := by
  obtain ⟨c, tail, rfl⟩ := List.exists_cons_of_ne_nil hne
  have hstarts : (c :: tail).isPrefixOf (c :: (tail ++ rest)) = true :=
    List.isPrefixOf_iff_prefix.mpr (List.prefix_append (c :: tail) rest)
  rw [List.cons_append, replaceFirst, if_pos hstarts, ← List.cons_append, List.drop_left]

theorem occurs_iff_infix (text : List Char) : occurs needle text = true ↔ needle <:+: text := by
  induction text with
  | nil => simp [occurs]
  | cons c cs ih =>
    rw [occurs, Bool.or_eq_true, List.isPrefixOf_iff_prefix, ih, List.infix_cons_iff]

theorem eq_nil_of_prefix_cons {c : Char} {back : List Char} (hc : c ∉ needle)
    (h : needle <+: c :: back) : needle = [] := by
  cases needle with
  | nil => rfl
  | cons d needle =>
    rw [(List.cons_prefix_cons.mp h).1] at hc
    exact absurd List.mem_cons_self hc

theorem infix_append_cons_iff {c : Char} (hc : c ∉ needle) (front back : List Char) :
    needle <:+: front ++ c :: back ↔ needle <:+: front ∨ needle <:+: back := by
  constructor
  · intro h
    rcases List.infix_append_iff.mp h with hfront | hback | ⟨left, right, rfl, hleft, hright⟩
    · exact .inl hfront
    · rcases List.infix_cons_iff.mp hback with hstarts | hback
      · rw [eq_nil_of_prefix_cons hc hstarts]
        exact .inr List.nil_infix
      · exact .inr hback
    · have hnil := eq_nil_of_prefix_cons (fun hmem => hc (List.mem_append_right left hmem)) hright
      rw [hnil, List.append_nil]
      exact .inl hleft.isInfix
  · rintro (h | h)
    · exact h.trans (List.prefix_append _ _).isInfix
    · exact h.trans ((List.suffix_cons c back).trans (List.suffix_append _ _)).isInfix

theorem replaceAll_single (c d : Char) (text : List Char) :
    replaceAll [c] [d] text = text.map fun x => if x = c then d else x := by
  induction text with
  | nil => rw [replaceAll, List.map_nil]
  | cons x text ih =>
    rw [replaceAll, List.map_cons]
    by_cases hx : x = c
    · simp [hx, ih]
    · have hne : c ≠ x := Ne.symm hx
      simp [hx, hne, ih]

end TablePhrase.Text
