import TablePhrase.Proofs.Text.Search

/-!
Counting the occurrences of a needle that cannot overlap itself. Pieces of a text have at most the
occurrences of the whole, and exactly those where none crosses from one piece to the next.
-/

namespace TablePhrase.Text

def BeginsOnce : List Char → Prop
  | [] => False
  | first :: tail => first ∉ tail

/-- No occurrence of the needle begins in `front` and ends in `back`. -/
def Uncrossed (needle front back : List Char) : Prop :=
  ∀ left right, left ≠ [] → right ≠ [] → needle = left ++ right → left <:+ front →
    ¬ right <+: back

variable {needle front piece back text : List Char}

theorem BeginsOnce.ne_nil (h : BeginsOnce needle) : needle ≠ [] := by
  rintro rfl
  exact h

theorem count_cons (h : BeginsOnce needle) (c : Char) (text : List Char) :
    count needle (c :: text) =
      (if needle.isPrefixOf (c :: text) then 1 else 0) + count needle text := by
  split
  · next hstarts =>
    obtain ⟨rest, hrest⟩ := List.isPrefixOf_iff_prefix.mp hstarts
    cases needle with
    | nil => exact h.elim
    | cons first tail =>
      have htext : text = tail ++ rest := (List.cons.inj hrest).2.symm
      have htail : count (first :: tail) (tail ++ rest) = count (first :: tail) rest :=
        count_append_of_avoids (avoids_of_not_mem h)
      rw [← hrest, htext, htail, count_needle_append h.ne_nil, Nat.add_comm]
  · next hstarts =>
    rw [count, if_neg hstarts, Nat.zero_add]

theorem count_eq_zero_iff (h : BeginsOnce needle) : count needle text = 0 ↔ ¬ needle <:+: text := by
  induction text with
  | nil => simp [count, h.ne_nil]
  | cons c text ih =>
    rw [count_cons h, List.infix_cons_iff, not_or, ← ih, ← List.isPrefixOf_iff_prefix]
    split <;> simp [*]

theorem count_eq_zero_of_not_mem {first : Char} {tail : List Char} (h : first ∉ text) :
    count (first :: tail) text = 0 := by
  have hpiece : Avoids (first :: tail) text [] := avoids_of_not_mem h
  rw [← List.append_nil text, count_append_of_avoids hpiece, count]

theorem isPrefixOf_append_of_uncrossed {c : Char} (h : Uncrossed needle (c :: front) back) :
    needle.isPrefixOf (c :: (front ++ back)) = needle.isPrefixOf (c :: front) := by
  rw [Bool.eq_iff_iff, List.isPrefixOf_iff_prefix, List.isPrefixOf_iff_prefix]
  constructor
  · intro hwhole
    have hfront : c :: front <+: c :: (front ++ back) := List.prefix_append (c :: front) back
    rcases List.prefix_or_prefix_of_prefix hwhole hfront with hneedle | ⟨right, rfl⟩
    · exact hneedle
    · cases right with
      | nil => simp
      | cons d right =>
        have hright : d :: right <+: back :=
          (List.prefix_append_right_inj (c :: front)).mp hwhole
        have hcrosses := h (c :: front) (d :: right) (List.cons_ne_nil _ _) (List.cons_ne_nil _ _)
        exact absurd hright (hcrosses rfl List.suffix_rfl)
  · exact fun hneedle => hneedle.trans (List.prefix_append (c :: front) back)

theorem Uncrossed.of_cons {c : Char} (h : Uncrossed needle (c :: front) back) :
    Uncrossed needle front back :=
  fun left right hleft hright hneedle hsuffix =>
    h left right hleft hright hneedle (hsuffix.trans (List.suffix_cons c front))

theorem count_append (hneedle : BeginsOnce needle) (h : Uncrossed needle front back) :
    count needle (front ++ back) = count needle front + count needle back := by
  induction front with
  | nil => simp [count]
  | cons c front ih =>
    rw [List.cons_append, count_cons hneedle, count_cons hneedle, ih h.of_cons,
      isPrefixOf_append_of_uncrossed h, Nat.add_assoc]

theorem count_add_le_count_append (hneedle : BeginsOnce needle) (front back : List Char) :
    count needle front + count needle back ≤ count needle (front ++ back) := by
  induction front with
  | nil => simp [count]
  | cons c front ih =>
    rw [List.cons_append, count_cons hneedle, count_cons hneedle]
    split
    · next hfront =>
      have hwhole : needle.isPrefixOf (c :: (front ++ back)) = true := by
        rw [List.isPrefixOf_iff_prefix] at hfront ⊢
        exact hfront.trans (List.prefix_append (c :: front) back)
      rw [if_pos hwhole]
      omega
    · omega

theorem uncrossed_of_head (h : ∀ c ∈ back.head?, c ∉ needle.tail) :
    Uncrossed needle front back := by
  rintro left right hleft hright rfl - ⟨rest, rfl⟩
  obtain ⟨c, left, rfl⟩ := List.exists_cons_of_ne_nil hleft
  obtain ⟨d, right, rfl⟩ := List.exists_cons_of_ne_nil hright
  exact h d rfl (List.mem_append_right left List.mem_cons_self)

theorem uncrossed_of_last (h : ∀ c ∈ front.getLast?, c ∉ needle.dropLast) :
    Uncrossed needle front back := by
  rintro left right hleft hright rfl ⟨rest, rfl⟩ -
  have hlast : left.getLast hleft ∈ (rest ++ left).getLast? := by
    rw [List.getLast?_append, List.getLast?_eq_some_getLast hleft]
    rfl
  apply h _ hlast
  rw [List.dropLast_append_of_ne_nil hright]
  exact List.mem_append_left _ (List.getLast_mem hleft)

theorem avoids_of_not_contained (h : ¬ needle <:+: front)
    (hback : ∀ c ∈ back.head?, c ∉ needle.tail) :
    Avoids needle front back := by
  induction front with
  | nil => trivial
  | cons c front ih =>
    refine ⟨?_, ih fun hinfix => h (List.infix_cons hinfix)⟩
    rw [← List.isPrefixOf_iff_prefix, isPrefixOf_append_of_uncrossed (uncrossed_of_head hback),
      List.isPrefixOf_iff_prefix]
    exact fun hstarts => h hstarts.isInfix

theorem BeginsOnce.head_append (h : BeginsOnce needle) :
    ∀ c ∈ (needle ++ back).head?, c ∉ needle.tail := by
  cases needle with
  | nil => exact h.elim
  | cons first tail =>
    rintro c ⟨⟩
    exact h

theorem replaceFirst_append_of_not_infix (hneedle : BeginsOnce needle) (h : ¬ needle <:+: front)
    (replacement back : List Char) :
    replaceFirst needle replacement (front ++ (needle ++ back)) = front ++ (replacement ++ back) := by
  rw [replaceFirst_append_of_avoids (avoids_of_not_contained h hneedle.head_append),
    replaceFirst_needle_append hneedle.ne_nil]

/-- The piece is not empty, and no occurrence of the needle can cross one of its ends. -/
structure Fences (needle piece : List Char) : Prop where
  ne_nil : piece ≠ []
  head : ∀ c ∈ piece.head?, c ∉ needle.tail
  last : ∀ c ∈ piece.getLast?, c ∉ needle.dropLast

theorem fences_of_not_mem (hne : piece ≠ []) (hhead : ∀ c ∈ piece.head?, c ∉ needle)
    (hlast : ∀ c ∈ piece.getLast?, c ∉ needle) : Fences needle piece where
  ne_nil := hne
  head c hc hmem := hhead c hc (List.mem_of_mem_tail hmem)
  last c hc hmem := hlast c hc (List.dropLast_subset needle hmem)

theorem Fences.count_append (h : Fences needle piece) (hneedle : BeginsOnce needle)
    (front back : List Char) :
    count needle (front ++ (piece ++ back)) =
      count needle front + (count needle piece + count needle back) := by
  have hhead : ∀ c ∈ (piece ++ back).head?, c ∉ needle.tail := by
    rw [List.head?_append, Option.or_of_isSome (List.isSome_head?.mpr h.ne_nil)]
    exact h.head
  rw [Text.count_append hneedle (uncrossed_of_head hhead),
    Text.count_append hneedle (uncrossed_of_last h.last)]

end TablePhrase.Text
