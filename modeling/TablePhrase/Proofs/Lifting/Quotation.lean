import TablePhrase.Entity.Decoding
import TablePhrase.Lifting.Quote
import TablePhrase.Proofs.Text.Pieces

/-!
Quotations: what the quoted spans of values and lists look like, with either quote. A quotation is
matched as a whole wherever it stands, a list of quotations up to where no comma follows, and
nothing else is matched.
-/

namespace TablePhrase.Lifting

section ClosedRun
variable {allowed : Char → Bool} {quote : Char} {text run : List Char} {length : Nat}

theorem closedRun?_append (hne : run ≠ []) (hrun : ∀ c ∈ run, allowed c = true)
    (hquote : allowed quote = false) (rest : List Char) :
    closedRun? allowed quote (run ++ quote :: rest) = some (run.length + 1) := by
  have hstop : ∀ c ∈ (quote :: rest).head?, allowed c = false := by
    rintro c ⟨⟩
    exact hquote
  have hempty : run.isEmpty = false := by
    cases run with
    | nil => exact absurd rfl hne
    | cons c run => rfl
  rw [closedRun?, Text.takeWhile_append_of_stops hrun hstop,
    Text.dropWhile_append_of_stops hrun hstop, hempty]
  exact if_pos rfl

theorem exists_of_closedRun?_eq_some (h : closedRun? allowed quote text = some length) :
    ∃ run rest, text = run ++ quote :: rest ∧ run ≠ [] ∧ (∀ c ∈ run, allowed c = true) ∧
      length = run.length + 1 := by
  simp only [closedRun?] at h
  split at h
  · next c rest hempty hdrop =>
    split at h
    · next heq =>
      subst heq
      cases h
      refine ⟨text.takeWhile allowed, rest, ?_, ?_, fun d hd => List.mem_takeWhile_imp hd, rfl⟩
      · rw [← hdrop, List.takeWhile_append_dropWhile]
      · exact List.isEmpty_eq_false_iff.mp hempty
    · cases h
  · cases h

end ClosedRun

section StringList
variable {rest : List Char}

theorem moreQuotes_of_not_beforeComma (fuel : Nat) (h : beforeComma rest = false) :
    moreQuotes fuel rest = 0 := by
  unfold moreQuotes
  split
  · rfl
  · cases h
  · rfl

theorem stringListMatcher_append {head : List Char} {more : Nat} (before : List Char)
    (hhead : quoteLength? (head ++ rest) = some head.length)
    (hmore : moreQuotes (head ++ rest).length rest = more) (hpos : more ≠ 0) :
    stringListMatcher before (head ++ rest) = some (head.length + more) := by
  unfold stringListMatcher
  simp only [hhead, List.drop_left, hmore, if_neg hpos]

end StringList

/-- A text in one kind of quotes: at least one character, and no semicolon, vertical tab or quote of
that kind. -/
structure Quotation where
  quote : Char
  content : List Char
  isQuote : quote = '"' ∨ quote = '\''
  ne_nil : content ≠ []
  isQuotable : ∀ c ∈ content, isQuotable quote c = true

namespace Quotation
variable (q : Quotation) {before rest : List Char}

def chars : List Char :=
  q.quote :: (q.content ++ [q.quote])

def listed (qs : List Quotation) : String :=
  Text.join ", " (qs.map fun q => String.ofList q.chars)

theorem chars_ne_nil : q.chars ≠ [] :=
  List.cons_ne_nil _ _

theorem quote_not_mem_content : q.quote ∉ q.content := by
  intro hmem
  have hquotable := q.isQuotable q.quote hmem
  simp [Lifting.isQuotable] at hquotable

theorem stripQuotes_chars : stripQuotes q.chars = q.content := by
  rcases q.isQuote with hquote | hquote <;> simp [chars, stripQuotes, hquote]

theorem quoteLength?_chars (rest : List Char) :
    quoteLength? (q.chars ++ rest) = some q.chars.length := by
  have hclosing : Lifting.isQuotable q.quote q.quote = false := by
    simp [Lifting.isQuotable]
  have hrun := closedRun?_append q.ne_nil q.isQuotable hclosing rest
  rw [chars, List.cons_append, List.append_assoc, List.singleton_append, quoteLength?,
    if_pos (by simpa using q.isQuote), hrun]
  simp

theorem exists_of_quoteLength? {text : List Char} {length : Nat}
    (h : quoteLength? text = some length) :
    ∃ (q : Quotation) (rest : List Char), text = q.chars ++ rest ∧ length = q.chars.length := by
  cases text with
  | nil => cases h
  | cons quote text =>
    rw [quoteLength?] at h
    split at h
    · next hquote =>
      obtain ⟨inner, hinner, rfl⟩ := Option.map_eq_some_iff.mp h
      obtain ⟨content, rest, rfl, hne, hcontent, rfl⟩ := exists_of_closedRun?_eq_some hinner
      refine ⟨⟨quote, content, by simpa using hquote, hne, hcontent⟩, rest, ?_, ?_⟩
      · simp [chars]
      · simp [chars]
    · cases h

theorem exists_of_valueMatcher {before text : List Char} {length : Nat}
    (h : valueMatcher before text = some length) :
    ∃ (q : Quotation) (back : List Char), text = q.chars ++ back ∧ length = q.chars.length ∧
      beforeComma back = false := by
  unfold valueMatcher at h
  split at h
  · next quoted hquoted =>
    obtain ⟨q, back, rfl, rfl⟩ := exists_of_quoteLength? hquoted
    rw [List.drop_left] at h
    split at h
    · cases h
    · next hcomma =>
      cases h
      exact ⟨q, back, rfl, rfl, by simpa using hcomma⟩
  · cases h

theorem valueMatcher_chars (before : List Char) (h : beforeComma rest = false) :
    valueMatcher before (q.chars ++ rest) = some q.chars.length := by
  simp [valueMatcher, q.quoteLength?_chars, h]

theorem moreQuotes_flatMap (qs : List Quotation) (hrest : beforeComma rest = false) {fuel : Nat}
    (hfuel : qs.length ≤ fuel) :
    moreQuotes fuel (qs.flatMap ([',', ' '] ++ ·.chars) ++ rest) =
      (qs.flatMap ([',', ' '] ++ ·.chars)).length := by
  induction qs generalizing fuel with
  | nil => exact moreQuotes_of_not_beforeComma _ hrest
  | cons q qs ih =>
    obtain ⟨fuel, rfl⟩ := Nat.exists_eq_succ_of_ne_zero (Nat.ne_of_gt (Nat.zero_lt_of_lt hfuel))
    have hqs : qs.length ≤ fuel := Nat.le_of_succ_le_succ hfuel
    rw [List.flatMap_cons, List.append_assoc, List.append_assoc]
    show moreQuotes (fuel + 1) (',' :: ' ' :: (q.chars ++ (qs.flatMap _ ++ rest))) = _
    simp only [moreQuotes, quoteLength?_chars, List.drop_left, ih hqs, List.length_append,
      List.length_cons, List.length_nil]
    omega

theorem toList_listed_cons (qs : List Quotation) :
    (listed (q :: qs)).toList = q.chars ++ qs.flatMap ([',', ' '] ++ ·.chars) := by
  have hchars : ((q :: qs).map fun q => String.ofList q.chars).map String.toList =
      q.chars :: qs.map chars := by
    simp
  rw [listed, Text.join, String.toList_intercalate, hchars]
  show [',', ' '].intercalate (q.chars :: qs.map chars) = _
  rw [Text.intercalate_cons, List.flatMap_map]

theorem stringListMatcher_listed (first second : Quotation) (more : List Quotation)
    (before : List Char) (hrest : beforeComma rest = false) :
    stringListMatcher before ((listed (first :: second :: more)).toList ++ rest) =
      some (listed (first :: second :: more)).toList.length := by
  have hpos : ((second :: more).flatMap ([',', ' '] ++ Quotation.chars ·)).length ≠ 0 := by
    simp
  rw [toList_listed_cons, List.append_assoc, List.length_append]
  apply stringListMatcher_append before (first.quoteLength?_chars _) _ hpos
  apply moreQuotes_flatMap (second :: more) hrest
  have hlength := Text.length_le_length_flatMap [',', ' '] (List.cons_ne_nil _ _) chars
    (second :: more)
  rw [List.length_append, List.length_append]
  omega

theorem exists_of_moreQuotes (fuel : Nat) (text : List Char) :
    ∃ (qs : List Quotation) (back : List Char),
      text = qs.flatMap ([',', ' '] ++ ·.chars) ++ back ∧
        moreQuotes fuel text = (qs.flatMap ([',', ' '] ++ ·.chars)).length := by
  fun_induction moreQuotes fuel text with
  | case1 text => exact ⟨[], text, rfl, rfl⟩
  | case2 fuel rest length hlength ih =>
    obtain ⟨q, back, rfl, rfl⟩ := exists_of_quoteLength? hlength
    rw [List.drop_left] at ih ⊢
    obtain ⟨qs, back', rfl, hmore⟩ := ih
    refine ⟨q :: qs, back', by simp, ?_⟩
    rw [hmore, List.flatMap_cons, List.length_append, List.length_append, Nat.add_comm q.chars.length]
    rfl
  | case3 fuel rest => exact ⟨[], _, rfl, rfl⟩
  | case4 fuel text => exact ⟨[], _, rfl, rfl⟩

theorem exists_of_stringListMatcher {before text : List Char} {length : Nat}
    (h : stringListMatcher before text = some length) :
    ∃ (first second : Quotation) (more : List Quotation) (back : List Char),
      text = (listed (first :: second :: more)).toList ++ back ∧
        length = (listed (first :: second :: more)).toList.length := by
  unfold stringListMatcher at h
  split at h
  · next head hhead =>
    obtain ⟨first, rest, rfl, rfl⟩ := exists_of_quoteLength? hhead
    obtain ⟨qs, back, rfl, hmore⟩ := exists_of_moreQuotes (first.chars ++ rest).length rest
    simp only [List.drop_left, hmore] at h
    split at h
    · cases h
    · next hpos =>
      cases h
      cases qs with
      | nil => exact absurd rfl hpos
      | cons second more =>
        refine ⟨first, second, more, back, ?_, ?_⟩
        · rw [toList_listed_cons, List.append_assoc]
        · rw [toList_listed_cons, List.length_append]
  · cases h

end Quotation
end TablePhrase.Lifting
