import TablePhrase.Proofs.Lifting.Cut
import TablePhrase.Proofs.Lifting.NumberSpan
import TablePhrase.Proofs.Phrase.Quote
import TablePhrase.Proofs.Phrase.Token

/-!
How numerals and lists of them are matched, and what is skipped between them. A match takes neither
commas nor spaces, so that no list starts where no comma stands.
-/

namespace TablePhrase.Lifting

open Text (AtBreak)
open Phrase (Numeral)
open Unicode (isDigit isWord)

theorem bodyLength?_of_not_isDigit {c : Char} (h : isDigit c = false) (rest : List Char) :
    bodyLength? (c :: rest) = none := by
  simp [bodyLength?, h]

theorem numberLength?_of_not_isNumeric {c : Char} (h : isNumeric c = false)
    (before rest : List Char) : numberLength? before (c :: rest) = none := by
  simp only [isNumeric, Bool.or_eq_false_iff, beq_eq_false_iff_ne] at h
  obtain ⟨⟨⟨⟨hdigit, hminus⟩, hplus⟩, hpoint⟩, -⟩ := h
  have hlead := leadLength_of_ne rest hminus hplus hpoint
  simp [numberLength?, hlead, bodyLength?_of_not_isDigit hdigit]

theorem isNumeric_of_numberLength? {before text : List Char} {length : Nat}
    (h : numberLength? before text = some length) : ∀ c ∈ text.take length, isNumeric c = true := by
  obtain ⟨n, back, rfl, rfl, -⟩ := exists_of_numberLength? h
  rw [List.take_left]
  exact fun c hc => n.isNumeric_of_mem hc

theorem beforeComma_of_numberLength? {before piece rest : List Char} {length : Nat}
    (hpiece : ',' ∉ piece) (hrest : AtBreak rest)
    (h : numberLength? before (piece ++ rest) = some length) :
    beforeComma ((piece ++ rest).drop length) = false := by
  have htake := isNumeric_of_numberLength? h
  cases hdrop : (piece ++ rest).drop length with
  | nil => rfl
  | cons c more =>
    unfold beforeComma
    split
    · next heq =>
      cases heq
      have hsplit := List.take_append_drop length (piece ++ rest)
      have hmem : ',' ∈ (piece ++ rest).takeWhile (· != ' ') := by
        rw [← hsplit, hdrop, List.takeWhile_append_of_pos]
        · simp
        · intro c hc
          apply bne_iff_ne.mpr
          rintro rfl
          cases htake ' ' hc
      exact absurd (hrest.mem_of_mem_takeWhile (by decide) hmem) hpiece
    · rfl

theorem moreNumbers_of_not_beforeComma (fuel : Nat) {rest : List Char}
    (h : beforeComma rest = false) : moreNumbers fuel rest = 0 := by
  unfold moreNumbers
  split
  · rfl
  · cases h
  · rfl

theorem numberListMatcher_skips {piece rest : List Char} (before : List Char)
    (hpiece : ',' ∉ piece) (hrest : AtBreak rest) : numberListMatcher.Skips before piece rest := by
  induction piece generalizing before with
  | nil => trivial
  | cons c piece ih =>
    refine ⟨?_, ih (c :: before) (List.not_mem_of_not_mem_cons hpiece)⟩
    unfold numberListMatcher
    split
    · next length hlength =>
      have hcomma := beforeComma_of_numberLength? hpiece hrest hlength
      rw [List.cons_append] at hcomma
      simp only [moreNumbers_of_not_beforeComma _ hcomma]
      rfl
    · rfl

theorem numberMatcher_of_not_isNumeric {c : Char} (h : isNumeric c = false)
    (before rest : List Char) : numberMatcher before (c :: rest) = none := by
  rw [numberMatcher, numberLength?_of_not_isNumeric h]

theorem numberListMatcher_of_not_isNumeric {c : Char} (h : isNumeric c = false)
    (before rest : List Char) : numberListMatcher before (c :: rest) = none := by
  rw [numberListMatcher, numberLength?_of_not_isNumeric h]

section Numeral
variable {before rest : List Char}

def AtDelimiter (text : List Char) : Prop :=
  ∀ c ∈ text.head?, c = ' ' ∨ c = ','

theorem AtDelimiter.stops (h : AtDelimiter rest) {p : Char → Bool} (hspace : p ' ' = false)
    (hcomma : p ',' = false) : ∀ c ∈ rest.head?, p c = false := by
  intro c hc
  rcases h c hc with rfl | rfl
  · exact hspace
  · exact hcomma

theorem continuesWord_eq_false {isWord : Char → Bool} {c : Option Char}
    (h : ∀ d ∈ c, isWord d = false) : continuesWord isWord c = false := by
  cases c with
  | none => rfl
  | some d => exact h d rfl

theorem bodyLength?_whole (digits : Phrase.Run isDigit) (h : AtDelimiter rest) :
    bodyLength? (digits.chars ++ rest) = some digits.chars.length := by
  have htake := Text.takeWhile_append_of_stops digits.all (h.stops (by decide) (by decide))
  have hne : digits.chars.length ≠ 0 := List.length_eq_zero_iff.not.mpr digits.ne_nil
  simp only [bodyLength?, htake, if_neg hne, List.drop_left]
  cases rest with
  | nil => rfl
  | cons c rest =>
    rcases h c rfl with rfl | rfl
    · rfl
    · rfl

theorem bodyLength?_fraction (digits fraction : Phrase.Run isDigit) (h : AtDelimiter rest) :
    bodyLength? (digits.chars ++ '.' :: (fraction.chars ++ rest)) =
      some (digits.chars.length + 1 + fraction.chars.length) := by
  have hpoint : ∀ c ∈ ('.' :: (fraction.chars ++ rest)).head?, isDigit c = false := by
    rintro c ⟨⟩
    decide
  have htake := Text.takeWhile_append_of_stops digits.all hpoint
  have hne : digits.chars.length ≠ 0 := List.length_eq_zero_iff.not.mpr digits.ne_nil
  have hfraction := Text.takeWhile_append_of_stops fraction.all (h.stops (by decide) (by decide))
  have hpos : 0 < fraction.chars.length := List.length_pos_iff.mpr fraction.ne_nil
  have hend := continuesWord_eq_false (h.stops (by decide : isWord ' ' = false) (by decide))
  simp [bodyLength?, htake, hne, hfraction, hpos, hend]

theorem bodyLength?_unsigned (n : Numeral) (h : AtDelimiter rest) :
    bodyLength? (n.unsigned ++ rest) = some n.unsigned.length := by
  unfold Numeral.unsigned
  cases n.fraction with
  | none =>
    rw [List.append_nil]
    exact bodyLength?_whole n.whole h
  | some fraction =>
    have hbody := bodyLength?_fraction n.whole fraction h
    simp only [List.append_assoc, List.cons_append, hbody, List.length_append, List.length_cons]
    rw [Nat.add_assoc, Nat.add_comm 1]

theorem numberLength?_chars (n : Numeral) (hbefore : AtBreak before) (h : AtDelimiter rest) :
    numberLength? before (n.chars ++ rest) = some n.chars.length := by
  have hbody := bodyLength?_unsigned n h
  have hword := continuesWord_eq_false (hbefore.stops (by decide : isWord ' ' = false))
  obtain ⟨digit, tail, hunsigned, hdigit⟩ := n.exists_unsigned_eq_cons
  unfold Numeral.chars
  cases n.negative with
  | true =>
    have hlead : leadLength ('-' :: (n.unsigned ++ rest)) = 1 := by
      rw [hunsigned]
      exact leadLength_append (by decide : ['-'] ∈ _) (by decide : [] ∈ _) hdigit _
    simp [numberLength?, hlead, hbody, Nat.add_comm]
  | false =>
    have hlead : leadLength (n.unsigned ++ rest) = 0 := by
      rw [hunsigned]
      exact leadLength_append (by decide : [] ∈ _) (by decide : [] ∈ _) hdigit _
    simp [numberLength?, hlead, hbody, hword]

theorem AtDelimiter.of_atBreak (h : AtBreak rest) : AtDelimiter rest :=
  fun c hc => .inl (h c hc)

theorem numberMatcher_chars (n : Numeral) (hbefore : AtBreak before) (hrest : AtBreak rest) :
    numberMatcher before (n.chars ++ rest) = some n.chars.length := by
  have hlength := numberLength?_chars n hbefore (.of_atBreak hrest)
  have hcomma : beforeComma ((n.chars ++ rest).drop n.chars.length) = false := by
    rw [List.drop_left]
    exact beforeComma_of_atBreak hrest
  simp only [numberMatcher, hlength, hcomma]
  rfl

theorem atDelimiter_flatMap (numerals : List Numeral) (hrest : AtBreak rest) :
    AtDelimiter (numerals.flatMap ([',', ' '] ++ ·.chars) ++ rest) := by
  cases numerals with
  | nil => exact .of_atBreak hrest
  | cons n numerals =>
    rintro c ⟨⟩
    exact .inr rfl

theorem moreNumbers_flatMap (numerals : List Numeral) (hrest : AtBreak rest) {fuel : Nat}
    (hfuel : numerals.length ≤ fuel) :
    moreNumbers fuel (numerals.flatMap ([',', ' '] ++ ·.chars) ++ rest) =
      (numerals.flatMap ([',', ' '] ++ ·.chars)).length := by
  induction numerals generalizing fuel with
  | nil => exact moreNumbers_of_not_beforeComma _ (beforeComma_of_atBreak hrest)
  | cons n numerals ih =>
    obtain ⟨fuel, rfl⟩ := Nat.exists_eq_succ_of_ne_zero (Nat.ne_of_gt (Nat.zero_lt_of_lt hfuel))
    have hnumerals : numerals.length ≤ fuel := Nat.le_of_succ_le_succ hfuel
    have hlength := numberLength?_chars n (Text.atBreak_space []) (atDelimiter_flatMap numerals hrest)
    rw [List.flatMap_cons, List.append_assoc, List.append_assoc]
    show moreNumbers (fuel + 1) (',' :: ' ' :: (n.chars ++ (numerals.flatMap _ ++ rest))) = _
    simp only [moreNumbers, hlength, List.drop_left, ih hnumerals, List.length_append,
      List.length_cons, List.length_nil]
    omega

theorem numberListMatcher_append {head : List Char} {more : Nat}
    (hhead : numberLength? before (head ++ rest) = some head.length)
    (hmore : moreNumbers (head ++ rest).length rest = more) (hpos : more ≠ 0) :
    numberListMatcher before (head ++ rest) = some (head.length + more) := by
  unfold numberListMatcher
  simp only [hhead, List.drop_left, hmore, if_neg hpos]

theorem numberListMatcher_listed (first second : Numeral) (more : List Numeral)
    (hbefore : AtBreak before) (hrest : AtBreak rest) :
    let listed := [',', ' '].intercalate ((first :: second :: more).map Numeral.chars)
    numberListMatcher before (listed ++ rest) = some listed.length := by
  intro listed
  have hlisted : listed =
      first.chars ++ (second :: more).flatMap ([',', ' '] ++ Numeral.chars ·) := by
    show [',', ' '].intercalate (first.chars :: (second :: more).map Numeral.chars) = _
    rw [Text.intercalate_cons, List.flatMap_map]
  have hpos : ((second :: more).flatMap ([',', ' '] ++ Numeral.chars ·)).length ≠ 0 := by
    simp
  have hhead := numberLength?_chars first hbefore (atDelimiter_flatMap (second :: more) hrest)
  rw [hlisted, List.append_assoc, List.length_append]
  apply numberListMatcher_append hhead _ hpos
  apply moreNumbers_flatMap (second :: more) hrest
  have hmore := Text.length_le_length_flatMap [',', ' '] (List.cons_ne_nil _ _)
    Numeral.chars (second :: more)
  rw [List.length_append, List.length_append]
  omega

end Numeral
end TablePhrase.Lifting
