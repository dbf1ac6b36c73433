import Mathlib.Order.Bounds.Basic
import TablePhrase.Proofs.Lifting.NumberSpan
import TablePhrase.Proofs.Lifting.Place

/-!
The search for a number as a rule about positions. A span is admissible if it has the shape of a
number, a word begins or ends before its first digit and at its end, and no comma follows. From any
position on, the search finds the leftmost admissible span, and of those that start there the
longest one.
-/

namespace TablePhrase.Lifting

open Unicode (isDigit isPlainWord isWord)

def NumberSpan.Starts (n : NumberSpan) (before : List Char) : Prop :=
  AtBoundary (before.reverse ++ (n.sign ++ n.point)) n.whole

/-- The text begins with a number of the length, in front of which and behind which it may be cut,
and no comma follows. -/
def BeginsNumber (before text : List Char) (length : Nat) : Prop :=
  ∃ (n : NumberSpan) (back : List Char), text = n.chars ++ back ∧ length = n.chars.length ∧
    n.Starts before ∧ AtBoundary n.chars back ∧ back.head? ≠ some ','

/-- The characters of a text from `s` to `e` are such a number. -/
def Admissible (text : List Char) (s e : Nat) : Prop :=
  ∃ front back length, text = front ++ back ∧ s = front.length ∧ e = s + length ∧
    BeginsNumber front.reverse back length

/-- Where the first number from a position on starts and ends. -/
def findNumber? (text : List Char) (start : Nat) : Option (Nat × Nat) :=
  (numberMatcher.find? (text.take start).reverse (text.drop start)).map fun found =>
    (start + found.gap.length, start + found.gap.length + found.span.length)

theorem beforeComma_eq_false_iff (text : List Char) :
    beforeComma text = false ↔ text.head? ≠ some ',' := by
  cases text with
  | nil => simp [beforeComma]
  | cons c text =>
    unfold beforeComma
    split
    · next heq =>
      cases heq
      simp
    · next hne =>
      have hc : c ≠ ',' := by
        rintro rfl
        exact hne text rfl
      simpa using hc

theorem stops_of_not_continuesWord {next : Option Char} (h : continuesWord isWord next = false) :
    ∀ c ∈ next, isDigit c = false := by
  rintro c ⟨⟩
  by_contra hdigit
  rw [continuesWord, Option.any_some, isWord_of_isDigit (Bool.not_eq_false _ ▸ hdigit)] at h
  cases h

theorem separator_cases {separator : List Char} (h : separator ∈ [[], ['.'], ['/']]) :
    separator = [] ∨
      ∃ c, separator = [c] ∧ (c = '.' ∨ c = '/') ∧ isDigit c = false ∧ isWord c = false := by
  simp only [List.mem_cons, List.not_mem_nil, or_false] at h
  rcases h with rfl | rfl | rfl
  · exact .inl rfl
  · exact .inr ⟨'.', rfl, .inl rfl, by decide, by decide⟩
  · exact .inr ⟨'/', rfl, .inr rfl, by decide, by decide⟩

namespace NumberSpan
variable (n : NumberSpan)

theorem exists_whole_eq_cons : ∃ digit more, n.whole = digit :: more ∧ isDigit digit = true := by
  obtain ⟨digit, more, hwhole⟩ := List.exists_cons_of_ne_nil n.ne_nil
  refine ⟨digit, more, hwhole, n.digits digit ?_⟩
  rw [hwhole]
  exact List.mem_cons_self

theorem leadLength_chars (back : List Char) :
    leadLength (n.chars ++ back) = (n.sign ++ n.point).length := by
  obtain ⟨digit, more, hwhole, hdigit⟩ := n.exists_whole_eq_cons
  have hlead := leadLength_append n.isSign n.isPoint hdigit
    (more ++ (n.separator ++ n.fraction) ++ back)
  simpa [chars, hwhole] using hlead

theorem starts_iff (before : List Char) :
    n.Starts before ↔
      (n.sign ++ n.point).length ≠ 0 ∨ continuesWord isWord before.head? = false := by
  obtain ⟨digit, more, hwhole, hdigit⟩ := n.exists_whole_eq_cons
  have hword : continuesWord isWord n.whole.head? = true := by
    rw [hwhole]
    exact isWord_of_isDigit hdigit
  have hsign : ∀ mark ∈ [[], ['-'], ['+']], mark.all (!isWord ·) = true := by decide
  have hpoint : ∀ mark ∈ [[], ['.']], mark.all (!isWord ·) = true := by decide
  have hall {mark : List Char} (h : mark.all (!isWord ·) = true) :
      ∀ c ∈ mark, isWord c = false := by
    simpa using h
  have hlead : ∀ c ∈ n.sign ++ n.point, isWord c = false :=
    List.forall_mem_append.mpr ⟨hall (hsign _ n.isSign), hall (hpoint _ n.isPoint)⟩
  rw [Starts, AtBoundary, hword, ne_eq, Bool.not_eq_true]
  by_cases hnil : n.sign ++ n.point = []
  · simp [hnil, List.getLast?_reverse]
  · have hlast : continuesWord isWord (before.reverse ++ (n.sign ++ n.point)).getLast? = false := by
      rw [List.getLast?_append, List.getLast?_eq_some_getLast hnil]
      exact hlead _ (List.getLast_mem hnil)
    exact iff_of_true hlast (.inl (List.length_eq_zero_iff.not.mpr hnil))

theorem drop_leadLength (back : List Char) :
    (n.chars ++ back).drop (leadLength (n.chars ++ back)) =
      n.whole ++ (n.separator ++ n.fraction) ++ back := by
  rw [leadLength_chars, chars, List.append_assoc, List.drop_left]

theorem hasNumberShape_chars : hasNumberShape n.chars = true := by
  have hdrop := n.drop_leadLength []
  obtain ⟨hwhole, hfraction⟩ := List.forall_mem_append.mp n.digits
  simp only [List.append_nil] at hdrop
  simp only [hasNumberShape, hdrop]
  rcases separator_cases n.isSeparator with hnone | ⟨c, hc, hmark, hdigit, -⟩
  · rw [hnone, List.nil_append]
    have hstop : ∀ c ∈ ([] : List Char).head?, isDigit c = false := by simp
    have htake := Text.takeWhile_append_of_stops n.digits hstop
    have hrest := Text.dropWhile_append_of_stops n.digits hstop
    rw [List.append_nil] at htake hrest
    simp [htake, hrest, n.ne_nil]
  · have hstop : ∀ d ∈ (c :: n.fraction).head?, isDigit d = false := by
      rintro d ⟨⟩
      exact hdigit
    rw [hc, List.singleton_append, Text.takeWhile_append_of_stops hwhole hstop,
      Text.dropWhile_append_of_stops hwhole hstop]
    simpa [n.ne_nil, hmark] using hfraction

end NumberSpan

section Longest
variable {before back : List Char}

theorem exists_bodyLength? {whole separator fraction : List Char} (hne : whole ≠ [])
    (hdigits : ∀ c ∈ whole ++ fraction, isDigit c = true)
    (hseparator : separator ∈ [[], ['.'], ['/']])
    (hend : AtBoundary (whole ++ (separator ++ fraction)) back) :
    ∃ length, bodyLength? (whole ++ (separator ++ fraction) ++ back) = some length ∧
      (whole ++ (separator ++ fraction)).length ≤ length := by
  rcases separator_cases hseparator with rfl | ⟨c, rfl, hmark, hdigit, hword⟩
  · rw [List.nil_append] at hend ⊢
    have hnedigits : whole ++ fraction ≠ [] := List.append_ne_nil_of_left_ne_nil hne _
    have hword := (atBoundary_digits_iff hnedigits hdigits).mp hend
    have hstop := stops_of_not_continuesWord hword
    have hpos : (whole ++ fraction).length ≠ 0 := List.length_eq_zero_iff.not.mpr hnedigits
    simp only [bodyLength?, Text.takeWhile_append_of_stops hdigits hstop, List.drop_left,
      if_neg hpos]
    cases back with
    | nil => exact ⟨_, rfl, Nat.le_refl _⟩
    | cons d back =>
      have hd : isWord d = false := hword
      simp only [hd]
      split
      · split
        · exact ⟨_, rfl, by omega⟩
        · split
          · exact ⟨_, rfl, by omega⟩
          · exact ⟨_, rfl, Nat.le_refl _⟩
      · exact ⟨_, rfl, Nat.le_refl _⟩
  · have hstop : ∀ d ∈ (c :: (fraction ++ back)).head?, isDigit d = false := by
      rintro d ⟨⟩
      exact hdigit
    obtain ⟨hwhole, hfraction⟩ := List.forall_mem_append.mp hdigits
    have hpos : whole.length ≠ 0 := List.length_eq_zero_iff.not.mpr hne
    have htext : whole ++ ([c] ++ fraction) ++ back = whole ++ c :: (fraction ++ back) := by simp
    have hlength : (whole ++ ([c] ++ fraction)).length = whole.length + 1 + fraction.length := by
      simp only [List.length_append, List.length_singleton]
      omega
    have hmark' : (decide (c = '.') || decide (c = '/')) = true := by simpa using hmark
    rw [htext, hlength]
    simp only [bodyLength?, Text.takeWhile_append_of_stops hwhole hstop, List.drop_left,
      if_neg hpos, hmark', if_true]
    by_cases hnil : fraction = []
    · subst hnil
      rw [List.append_nil, atBoundary_append_iff (List.cons_ne_nil c [])] at hend
      have hopen : continuesWord isWord back.head? = true := by
        have hlast : continuesWord isWord [c].getLast? = false := hword
        rw [AtBoundary, hlast] at hend
        simpa using hend.symm
      simp only [List.nil_append, List.length_nil, Nat.add_zero, hopen, if_true]
      split
      · exact ⟨_, rfl, by omega⟩
      · exact ⟨_, rfl, Nat.le_refl _⟩
    · rw [← List.append_assoc, atBoundary_append_iff hnil,
        atBoundary_digits_iff hnil hfraction] at hend
      have hposfraction : 0 < fraction.length := List.length_pos_iff.mpr hnil
      simp only [Text.takeWhile_append_of_stops hfraction (stops_of_not_continuesWord hend),
        List.drop_left, hend, hposfraction]
      exact ⟨_, rfl, Nat.le_refl _⟩

theorem exists_numberLength? (n : NumberSpan) (hstart : n.Starts before)
    (hend : AtBoundary n.chars back) :
    ∃ length, numberLength? before (n.chars ++ back) = some length ∧ n.chars.length ≤ length := by
  obtain ⟨inner, hinner, hle⟩ := exists_bodyLength? n.ne_nil n.digits n.isSeparator
    ((atBoundary_append_iff (List.append_ne_nil_of_left_ne_nil n.ne_nil _) _ _).mp hend)
  refine ⟨(n.sign ++ n.point).length + inner, ?_, ?_⟩
  · rw [numberLength?, n.drop_leadLength, hinner, n.leadLength_chars, if_neg]
    · rfl
    · rw [Bool.and_eq_true, decide_eq_true_eq]
      rintro ⟨hlead, hword⟩
      rcases (n.starts_iff before).mp hstart with hne | hbreak
      · exact hne hlead
      · rw [hbreak] at hword
        cases hword
  · rw [NumberSpan.chars, List.length_append]
    exact Nat.add_le_add_left hle _

theorem starts_of_numberLength? {n : NumberSpan} {length : Nat}
    (h : numberLength? before (n.chars ++ back) = some length) : n.Starts before := by
  rw [numberLength?, n.leadLength_chars] at h
  split at h
  · cases h
  · next hlead =>
    rw [n.starts_iff]
    by_cases hzero : (n.sign ++ n.point).length = 0
    · right
      simpa [hzero] using hlead
    · exact .inl hzero

theorem exists_shorterNumber? {text : List Char} {length bound : Nat} (hlt : length < bound)
    (hshape : hasNumberShape (text.take length) = true)
    (hends : isPlainBoundary (text.take length).getLast? (text.drop length).head? = true)
    (hcomma : beforeComma (text.drop length) = false) :
    ∃ longest, shorterNumber? text bound = some longest ∧ length ≤ longest := by
  induction bound with
  | zero => cases hlt
  | succ bound ih =>
    simp only [shorterNumber?]
    split
    · exact ⟨bound, rfl, Nat.le_of_lt_succ hlt⟩
    · next hunfit =>
      apply ih
      apply Nat.lt_of_le_of_ne (Nat.le_of_lt_succ hlt)
      rintro rfl
      exact hunfit (by simp only [hshape, hends, hcomma]; rfl)

theorem exists_numberMatcher {text : List Char} {length : Nat}
    (h : BeginsNumber before text length) :
    ∃ longest, numberMatcher before text = some longest ∧ length ≤ longest := by
  obtain ⟨n, back, rfl, rfl, hstart, hend, hnext⟩ := h
  have hcomma := (beforeComma_eq_false_iff back).mpr hnext
  obtain ⟨longest, hlongest, hle⟩ := exists_numberLength? n hstart hend
  simp only [numberMatcher, hlongest]
  split
  · next hfollowed =>
    have hlt : n.chars.length < longest := by
      apply Nat.lt_of_le_of_ne hle
      rintro rfl
      rw [List.drop_left, hcomma] at hfollowed
      cases hfollowed
    obtain ⟨longer, rest, htext, hlonger, -⟩ := exists_of_numberLength? hlongest
    apply exists_shorterNumber? hlt
    · rw [List.take_left]
      exact n.hasNumberShape_chars
    · rw [List.take_left, List.drop_left]
      exact (isPlainBoundary_iff (hlonger ▸ hlt) htext).mpr hend
    · rwa [List.drop_left]
  · exact ⟨longest, rfl, hle⟩

/-- The matcher finds the longest of the numbers with which a text begins. -/
theorem isGreatest_numberMatcher {text : List Char} {length : Nat}
    (h : numberMatcher before text = some length) :
    IsGreatest {l | BeginsNumber before text l} length := by
  constructor
  · obtain ⟨n, back, rfl, rfl, hend, hcomma⟩ := exists_of_numberMatcher h
    refine ⟨n, back, rfl, rfl, ?_, hend, (beforeComma_eq_false_iff back).mp hcomma⟩
    unfold numberMatcher at h
    split at h
    · next longest hlongest => exact starts_of_numberLength? hlongest
    · cases h
  · intro l hl
    obtain ⟨longest, hlongest, hle⟩ := exists_numberMatcher hl
    rw [h] at hlongest
    cases hlongest
    exact hle

end Longest

section Leftmost
variable {m : Matcher} {before front back : List Char}

theorem Matcher.eq_none_of_find? {found : Match}
    (h : m.find? before (front ++ back) = some found) (hlt : front.length < found.gap.length) :
    m (front.reverse ++ before) back = none := by
  induction front generalizing before found with
  | nil =>
    cases back with
    | nil => cases h
    | cons c back =>
      rw [List.nil_append, find?] at h
      split at h
      · cases h
        cases hlt
      · next hnone => exact hnone
  | cons c front ih =>
    rw [List.cons_append, find?] at h
    split at h
    · cases h
      cases hlt
    · obtain ⟨later, hlater, rfl⟩ := Option.map_eq_some_iff.mp h
      rw [List.reverse_cons, List.append_assoc]
      exact ih hlater (Nat.lt_of_succ_lt_succ hlt)

theorem Matcher.eq_none_of_find?_eq_none (h : m.find? before (front ++ back) = none)
    (hne : back ≠ []) : m (front.reverse ++ before) back = none := by
  induction front generalizing before with
  | nil =>
    cases back with
    | nil => exact absurd rfl hne
    | cons c back =>
      rw [List.nil_append, find?] at h
      split at h
      · cases h
      · next hnone => exact hnone
  | cons c front ih =>
    rw [List.cons_append, find?] at h
    split at h
    · cases h
    · rw [List.reverse_cons, List.append_assoc]
      exact ih (Option.map_eq_none_iff.mp h)

end Leftmost

section Positions
variable {text : List Char} {start s e : Nat}

theorem exists_of_admissible (h : Admissible text s e) (hle : start ≤ s) :
    ∃ gap back length, text.drop start = gap ++ back ∧ s = start + gap.length ∧ e = s + length ∧
      BeginsNumber (gap.reverse ++ (text.take start).reverse) back length := by
  obtain ⟨front, back, length, rfl, rfl, he, hbegins⟩ := h
  refine ⟨front.drop start, back, length, List.drop_append_of_le_length hle, ?_, he, ?_⟩
  · rw [List.length_drop]
    omega
  · rw [← List.reverse_append, List.take_append_of_le_length hle, List.take_append_drop]
    exact hbegins

theorem admissible_of_beginsNumber {gap back : List Char} {length : Nat}
    (hstart : start ≤ text.length)
    (htext : text.drop start = gap ++ back)
    (h : BeginsNumber (gap.reverse ++ (text.take start).reverse) back length) :
    Admissible text (start + gap.length) (start + gap.length + length) := by
  refine ⟨text.take start ++ gap, back, length, ?_, ?_, rfl, ?_⟩
  · rw [List.append_assoc, ← htext, List.take_append_drop]
  · rw [List.length_append, List.length_take_of_le hstart]
  · rwa [List.reverse_append]

theorem BeginsNumber.ne_nil {before back : List Char} {length : Nat}
    (h : BeginsNumber before back length) : back ≠ [] := by
  obtain ⟨n, rest, rfl, -⟩ := h
  exact List.append_ne_nil_of_left_ne_nil n.chars_ne_nil _

theorem not_admissible_of_findNumber?_eq_none (h : findNumber? text start = none)
    (hle : start ≤ s) :
    ¬ Admissible text s e := by
  intro hadmissible
  obtain ⟨gap, back, length, htext, -, -, hbegins⟩ := exists_of_admissible hadmissible hle
  have hnone := Option.map_eq_none_iff.mp h
  rw [htext] at hnone
  obtain ⟨longest, hlongest, -⟩ := exists_numberMatcher hbegins
  rw [Matcher.eq_none_of_find?_eq_none hnone hbegins.ne_nil] at hlongest
  cases hlongest

theorem of_findNumber? (h : findNumber? text start = some (s, e)) :
    IsLeast {s | start ≤ s ∧ ∃ e, Admissible text s e} s ∧
      IsGreatest {e | Admissible text s e} e := by
  obtain ⟨found, hfound, heq⟩ := Option.map_eq_some_iff.mp h
  simp only [Prod.mk.injEq] at heq
  obtain ⟨rfl, rfl⟩ := heq
  have htext : text.drop start = found.gap ++ (found.span ++ found.rest) := by
    rw [Matcher.find?_eq_append hfound, List.append_assoc]
  have hstart : start ≤ text.length := by
    by_contra hlt
    rw [List.drop_of_length_le (Nat.le_of_not_le hlt)] at hfound
    cases hfound
  obtain ⟨length, hlength, hspan⟩ := Matcher.exists_length_of_find? hfound
  obtain ⟨hbegins, hlongest⟩ := isGreatest_numberMatcher hlength
  have hspanlength : found.span.length = length := by
    obtain ⟨n, back, htext, rfl, -⟩ := hbegins
    have hpos : 0 < n.chars.length := List.length_pos_iff.mpr n.chars_ne_nil
    rw [hspan, htext, Nat.max_eq_right hpos, List.take_left]
  rw [hspanlength]
  have hfits := admissible_of_beginsNumber hstart htext hbegins
  refine ⟨⟨⟨Nat.le_add_right _ _, _, hfits⟩, ?_⟩, hfits, ?_⟩
  · rintro s ⟨hle, e, hadmissible⟩
    obtain ⟨gap, back, l, htext', rfl, -, hbegins'⟩ := exists_of_admissible hadmissible hle
    by_contra hlt
    rw [htext'] at hfound
    obtain ⟨l', hl', -⟩ := exists_numberMatcher hbegins'
    rw [Matcher.eq_none_of_find? hfound (by omega)] at hl'
    cases hl'
  · intro e hadmissible
    obtain ⟨gap, back, l, htext', hs, rfl, hbegins'⟩ :=
      exists_of_admissible hadmissible (Nat.le_add_right start _)
    rw [htext] at htext'
    obtain ⟨rfl, rfl⟩ := List.append_inj htext' (Nat.add_left_cancel hs)
    exact Nat.add_le_add_left (hlongest hbegins') _

/-- From any position on, the search finds the number that starts first, and of the numbers that
start there the longest one; it finds none exactly if there is none. -/
theorem findNumber?_leftmost_longest (text : List Char) (start : Nat) :
    (∀ s e, findNumber? text start = some (s, e) ↔
      IsLeast {s | start ≤ s ∧ ∃ e, Admissible text s e} s ∧
        IsGreatest {e | Admissible text s e} e) ∧
      (findNumber? text start = none ↔ ∀ s e, start ≤ s → ¬ Admissible text s e) := by
  constructor
  · intro s e
    refine ⟨of_findNumber?, ?_⟩
    rintro ⟨hs, he⟩
    cases hfound : findNumber? text start with
    | none => exact absurd he.1 (not_admissible_of_findNumber?_eq_none hfound hs.1.1)
    | some found =>
      obtain ⟨s', e'⟩ := found
      obtain ⟨hs', he'⟩ := of_findNumber? hfound
      obtain rfl := hs'.unique hs
      rw [he'.unique he]
  · refine ⟨fun hnone s e hle => not_admissible_of_findNumber?_eq_none hnone hle, ?_⟩
    intro hnever
    cases hfound : findNumber? text start with
    | none => rfl
    | some found =>
      obtain ⟨s, e⟩ := found
      obtain ⟨hs, he⟩ := of_findNumber? hfound
      exact absurd he.1 (hnever s e hs.1.1)

example : findNumber? "rows 1.5, 2".toList 0 = some (5, 7) := by decide +kernel

end Positions
end TablePhrase.Lifting
