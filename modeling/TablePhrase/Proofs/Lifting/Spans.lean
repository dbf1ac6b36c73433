import TablePhrase.Lifting.Basic
import TablePhrase.Proofs.Phrase.Lifting

/-!
What the spans of a pass look like. Numbers and lists of them have no character of a placeholder,
and quoted spans have none at either end. So a span is never cut out of the middle of a placeholder
that an earlier pass has put there.
-/

namespace TablePhrase.Lifting

namespace Matcher
variable {m : Matcher} {p : List Char → Prop} {before text : List Char}

def Yields (m : Matcher) (p : List Char → Prop) : Prop :=
  ∀ before c rest length, m before (c :: rest) = some length → p (c :: rest.take (length - 1))

theorem Yields.find? (h : m.Yields p) {found : Match} (hfound : m.find? before text = some found) :
    p found.span := by
  induction text generalizing before found with
  | nil => cases hfound
  | cons c text ih =>
    rw [Matcher.find?] at hfound
    split at hfound
    · next length hlength =>
      cases hfound
      exact h before c text length hlength
    · obtain ⟨later, hlater, rfl⟩ := Option.map_eq_some_iff.mp hfound
      have hspan : p later.span := ih hlater
      exact hspan

theorem Yields.cutAfter (h : m.Yields p) (before text : List Char) :
    ∀ span ∈ (m.cutAfter before text).found, p span := by
  induction before, text using Matcher.cutAfter.induct m with
  | case1 before text hnone =>
    rw [m.cutAfter_of_find?_eq_none hnone]
    exact nofun
  | case2 before text found hfound _ ih =>
    rw [m.cutAfter_of_find?_eq_some hfound]
    exact List.forall_mem_cons.mpr ⟨h.find? hfound, ih⟩

theorem fill_id_cutAfter (m : Matcher) (before text : List Char) :
    (m.cutAfter before text).fill id = text := by
  induction before, text using Matcher.cutAfter.induct m with
  | case1 before text hnone =>
    rw [m.cutAfter_of_find?_eq_none hnone]
    rfl
  | case2 before text found hfound _ ih =>
    rw [m.cutAfter_of_find?_eq_some hfound, Matcher.find?_eq_append hfound]
    simp only [Cut.fill, List.flatMap_cons, List.append_assoc] at ih ⊢
    rw [ih]
    rfl

theorem yields_of_append
    (h : ∀ before text length, m before text = some length →
      ∃ span back, text = span ++ back ∧ length = span.length ∧ span ≠ [] ∧ p span) : m.Yields p := by
  intro before c rest length hlength
  obtain ⟨span, back, htext, rfl, hne, hspan⟩ := h before (c :: rest) length hlength
  rwa [← List.take_succ_cons, Nat.sub_add_cancel (List.length_pos_iff.mpr hne), htext, List.take_left]

end Matcher

/-- No placeholder has the character. -/
def IsForeign (c : Char) : Prop :=
  ∀ kind : EntityKind, c ∉ kind.placeholder.toList

section Numbers

theorem isForeign_of_isNumeric {c : Char} (h : isNumeric c = true) : IsForeign c := by
  intro kind hmem
  have hplain := Phrase.placeholder_not_isNumeric kind c hmem
  rw [h] at hplain
  cases hplain

theorem isForeign_comma : IsForeign ',' :=
  fun kind => Phrase.placeholder_not_mem_comma kind

theorem isForeign_space : IsForeign ' ' := by
  intro kind
  cases kind <;> decide

theorem number_yields_isForeign : numberMatcher.Yields fun span => ∀ c ∈ span, IsForeign c := by
  apply Matcher.yields_of_append
  intro before text length h
  obtain ⟨n, back, htext, hlength, -, -⟩ := exists_of_numberMatcher h
  exact ⟨n.chars, back, htext, hlength, n.chars_ne_nil,
    fun c hc => isForeign_of_isNumeric (n.isNumeric_of_mem hc)⟩

theorem isForeign_of_mem_listed {ns : List NumberSpan} {c : Char} (h : c ∈ NumberSpan.listed ns) :
    IsForeign c := by
  have hnumber : ∀ n : NumberSpan, c ∈ n.chars → IsForeign c :=
    fun n hc => isForeign_of_isNumeric (n.isNumeric_of_mem hc)
  cases ns with
  | nil => cases h
  | cons n ns =>
    rw [NumberSpan.listed_cons, List.mem_append, List.mem_flatMap] at h
    rcases h with h | ⟨n', -, h⟩
    · exact hnumber n h
    · simp only [List.mem_append, List.mem_cons, List.not_mem_nil, or_false] at h
      rcases h with (rfl | rfl) | h
      · exact isForeign_comma
      · exact isForeign_space
      · exact hnumber n' h

theorem numberList_yields_isForeign :
    numberListMatcher.Yields fun span => ∀ c ∈ span, IsForeign c := by
  apply Matcher.yields_of_append
  intro before text length h
  obtain ⟨first, second, more, back, htext, hlength⟩ := exists_of_numberListMatcher h
  exact ⟨_, back, htext, hlength, first.listed_cons_ne_nil _,
    fun c hc => isForeign_of_mem_listed hc⟩

end Numbers

structure HasForeignEnds (span : List Char) : Prop where
  ne_nil : span ≠ []
  head : ∀ c ∈ span.head?, IsForeign c
  last : ∀ c ∈ span.getLast?, IsForeign c

theorem HasForeignEnds.append {front back : List Char} (hfront : HasForeignEnds front)
    (hback : HasForeignEnds back) (piece : List Char) : HasForeignEnds (front ++ (piece ++ back)) where
  ne_nil := List.append_ne_nil_of_left_ne_nil hfront.ne_nil _
  head c hc := by
    rw [List.head?_append, List.head?_eq_some_head hfront.ne_nil, Option.some_or,
      ← List.head?_eq_some_head hfront.ne_nil] at hc
    exact hfront.head c hc
  last c hc := by
    rw [← List.append_assoc, List.getLast?_append, List.getLast?_eq_some_getLast hback.ne_nil,
      Option.some_or, ← List.getLast?_eq_some_getLast hback.ne_nil] at hc
    exact hback.last c hc

section Quotes

theorem isForeign_quote {c : Char} (h : c = '"' ∨ c = '\'') : IsForeign c := by
  intro kind hmem
  obtain ⟨hdouble, hsingle⟩ := Phrase.placeholder_ne_quotes kind c hmem
  exact h.elim hdouble hsingle

theorem getLast?_chars (q : Quotation) : q.chars.getLast? = some q.quote := by
  rw [Quotation.chars, ← List.cons_append, List.getLast?_concat]

theorem hasForeignEnds_chars (q : Quotation) : HasForeignEnds q.chars where
  ne_nil := q.chars_ne_nil
  head := by
    rintro c ⟨⟩
    exact isForeign_quote q.isQuote
  last := by
    rw [getLast?_chars]
    rintro c ⟨⟩
    exact isForeign_quote q.isQuote

theorem hasForeignEnds_listed (q : Quotation) (qs : List Quotation) :
    HasForeignEnds (Quotation.listed (q :: qs)).toList := by
  rw [Quotation.toList_listed_cons]
  induction qs generalizing q with
  | nil =>
    rw [List.flatMap_nil, List.append_nil]
    exact hasForeignEnds_chars q
  | cons next qs ih =>
    rw [List.flatMap_cons, List.append_assoc]
    exact (hasForeignEnds_chars q).append (ih next) [',', ' ']

theorem value_yields_chars : valueMatcher.Yields fun span => ∃ q : Quotation, span = q.chars := by
  apply Matcher.yields_of_append
  intro before text length h
  obtain ⟨q, back, htext, hlength, -⟩ := Quotation.exists_of_valueMatcher h
  exact ⟨q.chars, back, htext, hlength, q.chars_ne_nil, q, rfl⟩

theorem value_yields_hasForeignEnds : valueMatcher.Yields HasForeignEnds := by
  intro before c rest length h
  obtain ⟨q, hspan⟩ := value_yields_chars before c rest length h
  rw [hspan]
  exact hasForeignEnds_chars q

theorem stringList_yields_hasForeignEnds : stringListMatcher.Yields HasForeignEnds := by
  apply Matcher.yields_of_append
  intro before text length h
  obtain ⟨first, second, more, back, htext, hlength⟩ := Quotation.exists_of_stringListMatcher h
  have hends := hasForeignEnds_listed first (second :: more)
  exact ⟨_, back, htext, hlength, hends.ne_nil, hends⟩

end Quotes

theorem hasForeignEnds_of_forall_mem {span : List Char} (hne : span ≠ [])
    (h : ∀ c ∈ span, IsForeign c) : HasForeignEnds span where
  ne_nil := hne
  head c hc := h c (List.mem_of_head? hc)
  last c hc := h c (List.mem_of_getLast? hc)

theorem matcher_yields_hasForeignEnds {kind : EntityKind} (h : kind ≠ .condition) :
    (matcher kind).Yields HasForeignEnds := by
  cases kind with
  | number =>
    intro before c rest length h
    exact hasForeignEnds_of_forall_mem (List.cons_ne_nil _ _)
      (number_yields_isForeign before c rest length h)
  | numberList =>
    intro before c rest length h
    exact hasForeignEnds_of_forall_mem (List.cons_ne_nil _ _)
      (numberList_yields_isForeign before c rest length h)
  | value => exact value_yields_hasForeignEnds
  | stringList => exact stringList_yields_hasForeignEnds
  | condition => exact absurd rfl h

end TablePhrase.Lifting
