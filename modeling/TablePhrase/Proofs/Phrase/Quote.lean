import TablePhrase.Proofs.Lifting.Cut
import TablePhrase.Proofs.Lifting.Quotation
import TablePhrase.Proofs.Phrase.Token

/-!
How quoted labels and lists of them are matched, and what is skipped between them. The quote that
closes a label may open a span with the next quote behind it, but never one of a list.
-/

namespace TablePhrase.Lifting

open Text (AtBreak)
open Phrase (IsContent inQuotes)

theorem beforeComma_of_atBreak {rest : List Char} (h : AtBreak rest) :
    beforeComma rest = false := by
  rcases h.eq_nil_or_space with rfl | ⟨rest, rfl⟩
  · rfl
  · rfl

def afterQuote (quote : Char) (text : List Char) : List Char :=
  (text.dropWhile (· != quote)).tail

theorem afterQuote_append {quote : Char} {run : List Char} (hrun : quote ∉ run)
    (rest : List Char) : afterQuote quote (run ++ rest) = afterQuote quote rest := by
  rw [afterQuote, List.dropWhile_append_of_pos, afterQuote]
  intro c hc
  exact bne_iff_ne.mpr fun heq => hrun (heq ▸ hc)

theorem afterQuote_cons (quote : Char) (rest : List Char) :
    afterQuote quote (quote :: rest) = rest := by
  simp [afterQuote]

theorem quoteLength?_of_ne {c : Char} (hdouble : c ≠ '"') (hsingle : c ≠ '\'')
    (rest : List Char) : quoteLength? (c :: rest) = none := by
  simp [quoteLength?, hdouble, hsingle]

theorem drop_of_quoteLength?_eq_some {text : List Char} {length : Nat}
    (h : quoteLength? ('"' :: text) = some length) :
    ('"' :: text).drop length = afterQuote '"' text := by
  obtain ⟨q, rest, htext, rfl⟩ := Quotation.exists_of_quoteLength? h
  have hquote := q.quote_not_mem_content
  rw [htext, List.drop_left]
  rw [Quotation.chars, List.cons_append, List.cons.injEq] at htext
  obtain ⟨hq, rfl⟩ := htext
  rw [← hq] at hquote
  rw [← hq, List.append_assoc, afterQuote_append hquote, List.singleton_append, afterQuote_cons]

theorem isQuotable_of_not_mem_marks {c : Char} (h : c ∉ Phrase.marks) : isQuotable '"' c = true := by
  simp only [Phrase.marks, List.mem_cons, not_or] at h
  simp [isQuotable, h]

def quotationOf {content : List Char} (h : IsContent content) : Quotation where
  quote := '"'
  content := content
  isQuote := .inl rfl
  ne_nil := h.ne_nil
  isQuotable c hc := isQuotable_of_not_mem_marks (h.not_mem_marks c hc)

theorem quoteLength?_inQuotes {content : List Char} (h : IsContent content) (rest : List Char) :
    quoteLength? (inQuotes content ++ rest) = some (inQuotes content).length :=
  (quotationOf h).quoteLength?_chars rest

section Value
variable {before rest : List Char}

theorem valueMatcher_of_ne {c : Char} (hdouble : c ≠ '"') (hsingle : c ≠ '\'')
    (before rest : List Char) : valueMatcher before (c :: rest) = none := by
  rw [valueMatcher, quoteLength?_of_ne hdouble hsingle]

theorem valueMatcher_inQuotes {content : List Char} (h : IsContent content) (before : List Char)
    (hrest : AtBreak rest) :
    valueMatcher before (inQuotes content ++ rest) = some (inQuotes content).length :=
  (quotationOf h).valueMatcher_chars before (beforeComma_of_atBreak hrest)

end Value

section StringList
variable {rest : List Char}

theorem stringListMatcher_of_ne {c : Char} (hdouble : c ≠ '"') (hsingle : c ≠ '\'')
    (before rest : List Char) : stringListMatcher before (c :: rest) = none := by
  rw [stringListMatcher, quoteLength?_of_ne hdouble hsingle]

theorem stringListMatcher_eq_none {text : List Char} (before : List Char)
    (h : ∀ length, quoteLength? text = some length → beforeComma (text.drop length) = false) :
    stringListMatcher before text = none := by
  unfold stringListMatcher
  split
  · next length hlength =>
    simp only [moreQuotes_of_not_beforeComma _ (h length hlength)]
    rfl
  · rfl

theorem stringListMatcher_listed (first second : Phrase.Label) (more : List Phrase.Label)
    (before : List Char) (hrest : AtBreak rest) :
    let listed := [',', ' '].intercalate ((first :: second :: more).map Phrase.Label.quoted)
    stringListMatcher before (listed ++ rest) = some listed.length := by
  have hlisted := Quotation.stringListMatcher_listed (quotationOf first.isContent)
    (quotationOf second.isContent) (more.map fun l => quotationOf l.isContent) before
    (beforeComma_of_atBreak hrest)
  rw [Quotation.toList_listed_cons] at hlisted
  intro listed
  have hquoted : listed = first.quoted ++
      (second :: more).flatMap ([',', ' '] ++ Phrase.Label.quoted ·) := by
    show [',', ' '].intercalate (first.quoted :: (second :: more).map Phrase.Label.quoted) = _
    rw [Text.intercalate_cons, List.flatMap_map]
  have hlabel (l : Phrase.Label) : (quotationOf l.isContent).chars = l.quoted := rfl
  rw [hquoted]
  simpa [List.flatMap_map, hlabel] using hlisted

theorem skips_inQuotes {content : List Char} (h : IsContent content) (before : List Char)
    (hrest : AtBreak rest) (hafter : beforeComma (afterQuote '"' rest) = false) :
    stringListMatcher.Skips before (inQuotes content) rest := by
  have hopen : stringListMatcher before (inQuotes content ++ rest) = none := by
    apply stringListMatcher_eq_none
    intro length hlength
    rw [quoteLength?_inQuotes h] at hlength
    cases hlength
    rw [List.drop_left]
    exact beforeComma_of_atBreak hrest
  refine ⟨hopen, Matcher.skips_append.mpr ⟨?_, ?_, trivial⟩⟩
  · apply Matcher.skips_of_forall
    intro c hc
    have hmark := h.not_mem_marks c hc
    simp only [Phrase.marks, List.mem_cons, not_or] at hmark
    exact stringListMatcher_of_ne hmark.2.2.2.2.1 hmark.2.2.2.2.2.1
  · apply stringListMatcher_eq_none
    intro length hlength
    rw [drop_of_quoteLength?_eq_some hlength]
    exact hafter

theorem beforeComma_afterQuote_inQuotes {content : List Char} (h : IsContent content)
    (rest : List Char) : beforeComma (afterQuote '"' (' ' :: (inQuotes content ++ rest))) = false := by
  obtain ⟨c, tail, rfl⟩ := List.exists_cons_of_ne_nil h.ne_nil
  have hc : c ∉ Phrase.marks := h.not_mem_marks c List.mem_cons_self
  have hspace : '"' ∉ [' '] := by decide
  rw [← List.singleton_append, afterQuote_append hspace, inQuotes, List.cons_append,
    afterQuote_cons]
  unfold beforeComma
  split
  · next heq =>
    cases heq
    exact absurd (by decide) hc
  · rfl

end StringList
end TablePhrase.Lifting
