import Mathlib.Data.List.Forall2
import TablePhrase.Proofs.Lifting.Guard

/-!
A lifting pass loses nothing. It cuts a text into gaps and spans, puts a placeholder for each span
and returns the spans, values without their quotes. Every span has the shape of its kind, and those
that a comma or a word could go on behind end where they should.
-/

namespace TablePhrase

namespace Lifting

variable {kind : EntityKind} {text front span back : List Char}

/-- The text is what is found where the span stands: a value stands between two equal quotes. -/
def FoundAt (kind : EntityKind) (text : String) (span : List Char) : Prop :=
  match kind with
  | .value => ∃ quote, (quote = '"' ∨ quote = '\'') ∧ span = quote :: (text.toList ++ [quote])
  | _ => span = text.toList

/-- The span is one of its kind in front of the text behind it. -/
def IsSpan (kind : EntityKind) (span back : List Char) : Prop :=
  match kind with
  | .value => (∃ q : Quotation, span = q.chars) ∧ beforeComma back = false
  | .number =>
    (∃ n : NumberSpan, span = n.chars) ∧ AtBoundary span back ∧ beforeComma back = false
  | .stringList => ∃ (first second : Quotation) (more : List Quotation),
    span = (Quotation.listed (first :: second :: more)).toList
  | .numberList => ∃ (first second : NumberSpan) (more : List NumberSpan),
    span = NumberSpan.listed (first :: second :: more)
  | .condition => ∃ c ∈ span.head?, isOperator c = true

theorem Cut.Places.mem_found {cut : Cut} (h : cut.Places front span back) : span ∈ cut.found := by
  obtain ⟨earlier, gap, later, hspans, -, -⟩ := h
  rw [found, hspans]
  simp

theorem Matcher.yields_ne_nil (m : Matcher) : m.Yields (· ≠ []) :=
  fun _ _ _ _ _ => List.cons_ne_nil _ _

theorem eq_of_matched {length : Nat} {piece rest : List Char}
    (hspan : span = (span ++ back).take (max 1 length)) (htext : span ++ back = piece ++ rest)
    (hlength : length = piece.length) (hne : piece ≠ []) : span = piece ∧ back = rest := by
  have hpos : 1 ≤ piece.length := List.length_pos_iff.mpr hne
  rw [htext, hlength, Nat.max_eq_right hpos, List.take_left] at hspan
  rw [hspan] at htext
  exact ⟨hspan, List.append_cancel_left htext⟩

theorem isSpan_of_places (h : ((matcher kind).cut text).Places front span back) :
    IsSpan kind span back := by
  obtain ⟨-, length, hmatch, hspan⟩ := Matcher.of_cut_places h
  cases kind with
  | value =>
    have hvalue : valueMatcher front.reverse (span ++ back) = some length := hmatch
    obtain ⟨q, rest, htext, hlength, hcomma⟩ := Quotation.exists_of_valueMatcher hvalue
    obtain ⟨rfl, rfl⟩ := eq_of_matched hspan htext hlength q.chars_ne_nil
    exact ⟨⟨q, rfl⟩, hcomma⟩
  | number =>
    obtain ⟨n, rest, htext, hlength, hboundary, hcomma⟩ := exists_of_numberMatcher hmatch
    obtain ⟨rfl, rfl⟩ := eq_of_matched hspan htext hlength n.chars_ne_nil
    exact ⟨⟨n, rfl⟩, hboundary, hcomma⟩
  | stringList =>
    have hlist : stringListMatcher front.reverse (span ++ back) = some length := hmatch
    obtain ⟨first, second, more, rest, htext, hlength⟩ :=
      Quotation.exists_of_stringListMatcher hlist
    have hne := (hasForeignEnds_listed first (second :: more)).ne_nil
    exact ⟨first, second, more, (eq_of_matched hspan htext hlength hne).1⟩
  | numberList =>
    obtain ⟨first, second, more, rest, htext, hlength⟩ := exists_of_numberListMatcher hmatch
    have hne := first.listed_cons_ne_nil (second :: more)
    exact ⟨first, second, more, (eq_of_matched hspan htext hlength hne).1⟩
  | condition =>
    obtain ⟨hrun, -⟩ := of_conditionMatcher_span hmatch hspan
    cases span with
    | nil => exact absurd rfl hrun
    | cons c span =>
      refine ⟨c, rfl, ?_⟩
      by_contra hc
      exact hrun (List.takeWhile_cons_of_neg hc)

theorem foundAt_of_mem_found {span : List Char} (h : span ∈ ((matcher kind).cut text).found) :
    FoundAt kind (String.ofList (spanText kind span)) span := by
  cases kind with
  | value =>
    obtain ⟨q, rfl⟩ := value_yields_chars.cutAfter [] text span h
    refine ⟨q.quote, q.isQuote, ?_⟩
    rw [spanText, q.stripQuotes_chars, String.toList_ofList]
    rfl
  | number | numberList | stringList | condition => exact String.toList_ofList.symm

end Lifting

open Lifting

/-- A pass over any text cuts it into gaps and spans, puts the placeholder for each span and returns
what is found at the spans, in their order. No span is empty, and each is one of its kind in front
of the text behind it. -/
theorem liftPass_lossless (kind : EntityKind) (text : String) :
    ∃ cut : Cut, cut.fill id = text.toList ∧
      (liftPass kind text).1 = String.ofList (cut.fill fun _ => kind.placeholder.toList) ∧
      List.Forall₂ (FoundAt kind) (liftPass kind text).2 cut.found ∧
      ∀ front span back, cut.Places front span back →
        text.toList = front ++ (span ++ back) ∧ span ≠ [] ∧ IsSpan kind span back := by
  refine ⟨(matcher kind).cut text.toList, Matcher.fill_id_cutAfter _ [] text.toList, rfl, ?_, ?_⟩
  · have hfound : (liftPass kind text).2 = ((matcher kind).cut text.toList).found.map
        fun span => String.ofList (spanText kind span) := List.map_map
    rw [hfound, List.forall₂_map_left_iff, List.forall₂_same]
    exact fun span hspan => foundAt_of_mem_found hspan
  · intro front span back h
    have hne := (Matcher.yields_ne_nil (matcher kind)).cutAfter [] text.toList span h.mem_found
    exact ⟨(Matcher.of_cut_places h).1, hne, isSpan_of_places h⟩

end TablePhrase
