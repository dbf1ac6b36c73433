import Mathlib.Data.Nat.Digits.Defs
import TablePhrase.Proofs.Literal.NumberText
import TablePhrase.Timestamp

/-!
Reading back the text of a timestamp. Every number in it is padded to the width that the reader
looks at, or stands before a character that is no digit.
-/

namespace TablePhrase.Timestamp

def EndsDigits (rest : List Char) : Prop :=
  ∀ c ∈ rest.head?, c.isDigit = false

section Padded
variable {width n : Nat} {digits rest : List Char}

theorem isDigits_padded (width n : Nat) : IsDigits (padded width n) where
  ne_nil := List.append_ne_nil_of_right_ne_nil _ (Decimal.digits_ne_nil n)
  isDigit := List.forall_mem_append.mpr
    ⟨fun _ hc => isDigit_of_mem_replicate hc, (Decimal.isDigits_digits n).isDigit⟩

theorem value_padded (width n : Nat) : Decimal.value (padded width n) = n := by
  rw [padded, Decimal.value, Nat.ofDigitChars_append, Nat.ofDigitChars_replicate_zero, Nat.mul_zero]
  exact Decimal.value_digits n

theorem length_padded (hwidth : 0 < width) (h : n < 10 ^ width) :
    (padded width n).length = width := by
  have hlength : (Decimal.digits n).length ≤ width := Nat.toDigits_length 10 n width hwidth h
  rw [padded, List.length_append, List.length_replicate]
  omega

theorem exists_padded_eq_cons (width n : Nat) :
    ∃ c cs, padded width n = c :: cs ∧ c.isDigit = true := by
  obtain ⟨c, cs, hpadded⟩ := List.exists_cons_of_ne_nil (isDigits_padded width n).ne_nil
  exact ⟨c, cs, hpadded, (isDigits_padded width n).isDigit c (hpadded ▸ List.mem_cons_self)⟩

theorem skipSpace_of_isSpace_eq_false {c : Char} (h : Unicode.isSpace c = false)
    (rest : List Char) : skipSpace (c :: rest) = c :: rest := by
  rw [skipSpace, List.dropWhile_cons_of_neg (by simp [h])]

theorem skipSpace_padded (width n : Nat) (rest : List Char) :
    skipSpace (padded width n ++ rest) = padded width n ++ rest := by
  obtain ⟨c, cs, hpadded, hc⟩ := exists_padded_eq_cons width n
  rw [hpadded]
  exact skipSpace_of_isSpace_eq_false (Unicode.isSpace_of_isDigit hc) _

theorem takeWhile_take_digits (hdigits : ∀ c ∈ digits, c.isDigit = true)
    (hlength : digits.length ≤ width) (hrest : EndsDigits rest) :
    ((digits ++ rest).take width).takeWhile Char.isDigit = digits := by
  have hstop : ∀ c ∈ (rest.take (width - digits.length)).head?, c.isDigit = false := by
    intro c hc
    rw [List.head?_take] at hc
    split at hc
    · cases hc
    · exact hrest c hc
  rw [List.take_append, List.take_of_length_le hlength, Text.takeWhile_append_of_stops hdigits hstop]

theorem readNumber_padded {bound : Nat} (hlength : (padded width n).length ≤ bound)
    (hrest : EndsDigits rest) : readNumber bound (padded width n ++ rest) = some (n, rest) := by
  have htaken := takeWhile_take_digits (isDigits_padded width n).isDigit hlength hrest
  have hne : (padded width n).isEmpty = false := by simp [(isDigits_padded width n).ne_nil]
  simp [readNumber, htaken, hne, value_padded]

theorem readField_padded (h : n < 100) (hrest : EndsDigits rest) :
    readField 2 (padded 2 n ++ rest) = some (n, rest) := by
  rw [readField, skipSpace_padded]
  exact readNumber_padded (length_padded (by decide) h).le hrest

end Padded

section Parts
variable {rest : List Char}

theorem endsDigits_cons {c : Char} (h : c.isDigit = false) (rest : List Char) :
    EndsDigits (c :: rest) := by
  rintro d ⟨⟩
  exact h

theorem readYear_yearChars (year : Int) (hrest : EndsDigits rest) :
    readYear (yearChars year ++ rest) = some (year, rest) := by
  have hall : readNumber (padded 4 year.natAbs ++ rest).length (padded 4 year.natAbs ++ rest) =
      some (year.natAbs, rest) :=
    readNumber_padded (by simp) hrest
  unfold yearChars
  split
  · next hyear =>
    have hrange : 0 ≤ year ∧ year ≤ 9999 := by simpa using hyear
    obtain ⟨c, cs, hpadded, hc⟩ := exists_padded_eq_cons 4 year.natAbs
    have hread : readNumber 4 (padded 4 year.natAbs ++ rest) = some (year.natAbs, rest) :=
      readNumber_padded (length_padded (by decide) (by omega)).le hrest
    have habs : (year.natAbs : Int) = year := by omega
    rw [readYear, skipSpace_padded, hpadded, List.cons_append]
    rw [hpadded, List.cons_append] at hread
    split
    · next heq =>
      cases heq
      cases hc
    · next heq =>
      cases heq
      cases hc
    · simp only [hread, Option.map_some, habs]
  · next hyear =>
    split
    · next hneg =>
      have habs : -(year.natAbs : Int) = year := by omega
      rw [readYear, List.cons_append, skipSpace_of_isSpace_eq_false (by decide)]
      simp only [hall, Option.map_some, habs]
    · next hneg =>
      have habs : (year.natAbs : Int) = year := by omega
      rw [readYear, List.cons_append, skipSpace_of_isSpace_eq_false (by decide)]
      simp only [hall, Option.map_some, habs]

theorem readMark_cons {mark : Char} (h : Unicode.isSpace mark = false) (rest : List Char) :
    readMark mark (mark :: rest) = some rest := by
  rw [readMark, skipSpace_of_isSpace_eq_false h]
  exact if_pos rfl

theorem readFraction_padded {width n : Nat} (hwidth : 0 < width) (hnine : width ≤ 9)
    (h : n < 10 ^ width) (hrest : EndsDigits rest) :
    readFraction ('.' :: (padded width n ++ rest)) = some (n * 10 ^ (9 - width), rest) := by
  have hlength := length_padded hwidth h
  have htaken :=
    takeWhile_take_digits (isDigits_padded width n).isDigit (hlength.trans_le hnine) hrest
  have hne : (padded width n).isEmpty = false := by simp [(isDigits_padded width n).ne_nil]
  have hleft : rest.dropWhile Char.isDigit = rest := by
    cases rest with
    | nil => rfl
    | cons c rest => rw [List.dropWhile_cons_of_neg (by simp [hrest c rfl])]
  simp [readFraction, htaken, hne, value_padded, hlength, hleft]

theorem readFraction_fractionChars {nanosecond : Nat} (h : nanosecond < 1000000000)
    {c : Char} (hdigit : c.isDigit = false) (hpoint : c ≠ '.') (rest : List Char) :
    readFraction (fractionChars nanosecond ++ c :: rest) = some (nanosecond, c :: rest) := by
  have hrest := endsDigits_cons hdigit rest
  unfold fractionChars
  split
  · next hzero =>
    rw [List.nil_append, readFraction, hzero]
    rintro text ⟨⟩
    exact hpoint rfl
  · split
    · next hmilli =>
      rw [List.cons_append, readFraction_padded (by decide) (by decide) (by omega) hrest]
      have hunits : nanosecond / 1000000 * 10 ^ (9 - 3) = nanosecond := by omega
      rw [hunits]
    · split
      · next hmicro =>
        rw [List.cons_append, readFraction_padded (by decide) (by decide) (by omega) hrest]
        have hunits : nanosecond / 1000 * 10 ^ (9 - 6) = nanosecond := by omega
        rw [hunits]
      · rw [List.cons_append, readFraction_padded (by decide) (by decide) h hrest]
        simp

end Parts

theorem bounds (t : Timestamp) :
    t.month < 100 ∧ t.day < 100 ∧ t.hour < 24 ∧ t.minute < 60 ∧ t.second < 100
      ∧ t.nanosecond < 1000000000 := by
  have hvalid := t.valid
  simp only [isValid, Bool.and_eq_true, decide_eq_true_eq] at hvalid
  have hdays : daysInMonth t.year t.month ≤ 31 := by
    unfold daysInMonth
    split_ifs <;> decide
  omega

theorem ofFields?_self (t : Timestamp) :
    ofFields? t.year t.month t.day t.hour t.minute t.second t.nanosecond = some t := by
  rw [ofFields?, dif_pos t.valid]

theorem toUtc?_zero (t : Timestamp) : t.toUtc? 0 = some t := by
  obtain ⟨-, -, hhour, hminute, -, -⟩ := t.bounds
  have hsame : ¬(((t.hour * 60 + t.minute : Nat) : Int) - 0 < 0) := by omega
  have hday : ((t.hour * 60 + t.minute : Nat) : Int) - 0 < 1440 := by omega
  have hminutes : ((((t.hour * 60 + t.minute : Nat) : Int) - 0) % 1440).toNat =
      t.hour * 60 + t.minute := by omega
  have hhours : (t.hour * 60 + t.minute) / 60 = t.hour := by omega
  have hrest : (t.hour * 60 + t.minute) % 60 = t.minute := by omega
  simp only [toUtc?, if_neg hsame, if_pos hday, hminutes, hhours, hrest]
  exact t.ofFields?_self

theorem readDate_chars (t : Timestamp) {rest : List Char} (hrest : EndsDigits rest) :
    readDate (yearChars t.year ++ '-' :: (padded 2 t.month ++ '-' :: (padded 2 t.day ++ rest))) =
      some ((t.year, t.month, t.day), rest) := by
  obtain ⟨hmonth, hday, -⟩ := t.bounds
  have hmark : ∀ rest, EndsDigits ('-' :: rest) := endsDigits_cons (by decide)
  simp only [readDate, readYear_yearChars t.year (hmark _),
    readMark_cons (by decide : Unicode.isSpace '-' = false),
    readField_padded hmonth (hmark _), readField_padded hday hrest,
    Option.bind_eq_bind, Option.bind_some, Option.pure_def]

theorem readTime_chars (t : Timestamp) {c : Char} (hdigit : c.isDigit = false) (hpoint : c ≠ '.')
    (rest : List Char) :
    readTime (padded 2 t.hour ++ ':' :: (padded 2 t.minute ++ ':' :: (padded 2 t.second
      ++ (fractionChars t.nanosecond ++ c :: rest)))) =
      some ((t.hour, t.minute, t.second, t.nanosecond), c :: rest) := by
  obtain ⟨-, -, hhour, hminute, hsecond, hnano⟩ := t.bounds
  have hmark : ∀ rest, EndsDigits (':' :: rest) := endsDigits_cons (by decide)
  have hfraction : EndsDigits (fractionChars t.nanosecond ++ c :: rest) := by
    unfold fractionChars
    split_ifs
    · exact endsDigits_cons hdigit rest
    all_goals exact endsDigits_cons (by decide) _
  simp only [readTime, readMark_cons (by decide : Unicode.isSpace ':' = false),
    readField_padded (hhour.trans (by decide)) (hmark _),
    readField_padded (hminute.trans (by decide)) (hmark _), readField_padded hsecond hfraction,
    readFraction_fractionChars hnano hdigit hpoint, Option.bind_eq_bind, Option.bind_some,
    Option.pure_def]

theorem parse?_fileText (t : Timestamp) : parse? t.fileText = some t := by
  have hchars : t.fileText.toList =
      yearChars t.year ++ '-' :: (padded 2 t.month ++ '-' :: (padded 2 t.day
        ++ 'T' :: (padded 2 t.hour ++ ':' :: (padded 2 t.minute ++ ':' :: (padded 2 t.second
          ++ (fractionChars t.nanosecond ++ ['Z'])))))) := by
    simp [fileText, fieldChars]
  have hdate := t.readDate_chars (endsDigits_cons (by decide : 'T'.isDigit = false) (padded 2 t.hour
    ++ ':' :: (padded 2 t.minute ++ ':' :: (padded 2 t.second
      ++ (fractionChars t.nanosecond ++ ['Z'])))))
  have htime := t.readTime_chars (by decide : 'Z'.isDigit = false) (by decide) []
  have hoffset : readOffset (skipSpace ['Z']) = some (0, []) := by decide
  have hseparator (rest : List Char) : readSeparator ('T' :: rest) = some rest := rfl
  have hend : (skipSpace []).isEmpty = true := rfl
  simp only [parse?, hchars, hdate, hseparator, htime, hoffset, hend, Option.bind_eq_bind,
    Option.bind_some, if_true, t.ofFields?_self, t.toUtc?_zero]

end TablePhrase.Timestamp
