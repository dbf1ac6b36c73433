import TablePhrase.Json.Reader
import TablePhrase.Proofs.Literal.NumberText

/-!
The number tokens of JSON, apart from how they are read, and that integers and finite doubles are
written as such. A token is read back wherever no number goes on; what it denotes is another
question, since a double is computed from its token by rounding more than once.
-/

namespace TablePhrase

namespace Json

structure IsWhole (text : List Char) : Prop where
  digits : IsDigits text
  lead : text.head? ≠ some '0' ∨ text.length = 1

inductive IsFraction : List Char → Prop
  | none : IsFraction []
  | digits {fraction : List Char} (h : IsDigits fraction) : IsFraction ('.' :: fraction)

inductive IsExponent : List Char → Prop
  | none : IsExponent []
  | signed {sign : Char} {digits : List Char} (hsign : sign = '+' ∨ sign = '-')
      (h : IsDigits digits) : IsExponent ('e' :: sign :: digits)

inductive IsUnsignedToken : List Char → Prop
  | parts {whole fraction exponent : List Char} (hwhole : IsWhole whole)
      (hfraction : IsFraction fraction) (hexponent : IsExponent exponent) :
      IsUnsignedToken (whole ++ (fraction ++ exponent))

inductive IsToken : List Char → Prop
  | positive {text : List Char} (h : IsUnsignedToken text) : IsToken text
  | negative {text : List Char} (h : IsUnsignedToken text) : IsToken ('-' :: text)

def EndsNumber (rest : List Char) : Prop :=
  ∀ c ∈ rest.head?, c.isDigit = false ∧ c ≠ '.' ∧ c ≠ 'e' ∧ c ≠ 'E'

section Reading
variable {text token fraction exponent rest : List Char}

theorem readDigits_append (h : IsDigits text) (hstop : ∀ c ∈ rest.head?, c.isDigit = false) :
    readDigits (text ++ rest) = some (text, rest) := by
  have hne : text.isEmpty = false := by simpa using h.ne_nil
  simp [readDigits, Text.takeWhile_append_of_stops h.isDigit hstop,
    Text.dropWhile_append_of_stops h.isDigit hstop, hne]

theorem readWhole_append (h : IsWhole text) (hstop : ∀ c ∈ rest.head?, c.isDigit = false) :
    readWhole (text ++ rest) = some (text, rest) := by
  have hlead : ¬(text.head? = some '0' ∧ text.length ≠ 1) := by
    rintro ⟨hzero, hlength⟩
    exact h.lead.elim (· hzero) hlength
  rw [readWhole, readDigits_append h.digits hstop]
  simp only [Option.bind_eq_bind, Option.bind_some]
  rw [if_neg (by simpa using hlead)]

theorem readFraction_append (h : IsFraction fraction)
    (hrest : ∀ c ∈ rest.head?, c.isDigit = false ∧ c ≠ '.') :
    readFraction (fraction ++ rest) = some (fraction, rest) := by
  cases h with
  | none =>
    rw [List.nil_append]
    unfold readFraction
    split
    · exact absurd rfl (hrest '.' rfl).2
    · rfl
  | digits h =>
    rw [List.cons_append, readFraction, readDigits_append h fun c hc => (hrest c hc).1]
    rfl

theorem readExponent_append (h : IsExponent exponent) (hrest : EndsNumber rest) :
    readExponent (exponent ++ rest) = some (exponent, rest) := by
  cases h with
  | none =>
    cases rest with
    | nil => rfl
    | cons c rest =>
      obtain ⟨-, -, hsmall, hlarge⟩ := hrest c rfl
      simp [readExponent, hsmall, hlarge]
  | signed hsign h =>
    have hread := readDigits_append h fun c hc => (hrest c hc).1
    rcases hsign with rfl | rfl <;> simp [readExponent, hread]

theorem IsExponent.stops (h : IsExponent exponent) (hrest : EndsNumber rest) :
    ∀ c ∈ (exponent ++ rest).head?, c.isDigit = false ∧ c ≠ '.' := by
  cases h with
  | none => exact fun c hc => ⟨(hrest c hc).1, (hrest c hc).2.1⟩
  | signed hsign h =>
    rintro c ⟨⟩
    decide

theorem IsFraction.stops (h : IsFraction fraction)
    (hrest : ∀ c ∈ rest.head?, c.isDigit = false ∧ c ≠ '.') :
    ∀ c ∈ (fraction ++ rest).head?, c.isDigit = false := by
  cases h with
  | none => exact fun c hc => (hrest c hc).1
  | digits h =>
    rintro c ⟨⟩
    decide

theorem IsWhole.exists_eq_cons (h : IsWhole text) :
    ∃ c cs, text = c :: cs ∧ c.isDigit = true := by
  obtain ⟨c, cs, rfl⟩ := List.exists_cons_of_ne_nil h.digits.ne_nil
  exact ⟨c, cs, rfl, h.digits.isDigit c List.mem_cons_self⟩

theorem IsToken.exists_eq_cons (h : IsToken token) :
    ∃ c cs, token = c :: cs ∧ (c = '-' ∨ c.isDigit = true) := by
  cases h with
  | positive h =>
    obtain ⟨hwhole, -, -⟩ := h
    obtain ⟨c, cs, rfl, hc⟩ := hwhole.exists_eq_cons
    exact ⟨c, _, rfl, .inr hc⟩
  | negative h => exact ⟨'-', _, rfl, .inl rfl⟩

theorem readNumber_token (h : IsToken token) (hrest : EndsNumber rest) :
    readNumber (token ++ rest) = some (token, rest) := by
  cases h with
  | positive h =>
    obtain ⟨hwhole, hfraction, hexponent⟩ := h
    have hread := readWhole_append hwhole (hfraction.stops (hexponent.stops hrest))
    obtain ⟨c, cs, rfl, hc⟩ := hwhole.exists_eq_cons
    have hminus : c ≠ '-' := by
      rintro rfl
      cases hc
    rw [List.cons_append] at hread
    simp [readNumber, hminus, hread, readFraction_append hfraction (hexponent.stops hrest),
      readExponent_append hexponent hrest]
  | negative h =>
    obtain ⟨hwhole, hfraction, hexponent⟩ := h
    have hread := readWhole_append hwhole (hfraction.stops (hexponent.stops hrest))
    simp [readNumber, hread, readFraction_append hfraction (hexponent.stops hrest),
      readExponent_append hexponent hrest]

theorem readScalar_of_numeric {c : Char} (h : c = '-' ∨ c.isDigit = true) (text : List Char) :
    readScalar (c :: text) =
      (readNumber (c :: text)).map fun (token, rest) => (number token, rest) := by
  unfold readScalar
  split
  case h_5 => rfl
  all_goals
    next heq =>
      cases heq
      rcases h with h | h <;> cases h

theorem readScalar_token (h : IsToken token) (hrest : EndsNumber rest) :
    readScalar (token ++ rest) = some (number token, rest) := by
  have hread := readNumber_token h hrest
  obtain ⟨c, cs, rfl, hc⟩ := h.exists_eq_cons
  rw [List.cons_append] at hread ⊢
  rw [readScalar_of_numeric hc, hread]
  rfl

end Reading

end Json

namespace Decimal

/-- Only zero has no digit but zeros, and no zero stands behind it. -/
def Digits.IsReduced (d : Digits) : Prop :=
  d.coefficient = 0 → d.power = 0

section Shortest
variable {n : Neighbourhood} {tie : Tie}

theorem Neighbourhood.pos_of_gridPoint? (hlow : 0 < n.low) {c : Nat}
    (h : n.gridPoint? tie = some c) : 0 < c := by
  simp only [gridPoint?] at h
  split at h
  · next hbelow =>
    obtain rfl := Option.some.inj h
    have hcontains : n.contains (n.value / n.denominator * n.denominator) = true := by
      simp only [Bool.and_eq_true] at hbelow
      exact hbelow.1
    have hpoint : n.low ≤ n.value / n.denominator * n.denominator := by
      unfold contains at hcontains
      split at hcontains <;> simp only [Bool.and_eq_true, decide_eq_true_eq] at hcontains <;> omega
    exact Nat.pos_of_mul_pos_right (Nat.lt_of_lt_of_le hlow hpoint)
  · split at h
    · obtain rfl := Option.some.inj h
      exact Nat.succ_pos _
    · cases h

theorem Neighbourhood.low_inUnits_pos (hlow : 0 < n.low) (power : Int) :
    0 < (n.inUnits power).low :=
  Nat.mul_pos hlow (Nat.pow_pos (by decide))

theorem Digits.coefficient_normalize_pos {d : Digits} (h : 0 < d.coefficient) (fuel : Nat) :
    0 < (d.normalize fuel).coefficient := by
  induction fuel generalizing d with
  | zero => exact h
  | succ fuel ih =>
    rw [normalize]
    split
    · next hzero =>
      simp only [Bool.and_eq_true, decide_eq_true_eq] at hzero
      refine ih ?_
      show 0 < d.coefficient / 10
      omega
    · exact h

theorem isReduced_firstGrid (hlow : 0 < n.low) (power : Int) (fuel : Nat) :
    (firstGrid n tie power fuel).IsReduced := by
  induction fuel generalizing power with
  | zero => exact fun _ => rfl
  | succ fuel ih =>
    rw [firstGrid]
    split
    · next c hpoint =>
      have hc := Neighbourhood.pos_of_gridPoint? (Neighbourhood.low_inUnits_pos hlow power) hpoint
      have hpos := Digits.coefficient_normalize_pos (d := ⟨c, power⟩) hc 20
      exact fun hzero => absurd hzero (Nat.ne_of_gt hpos)
    · exact ih (power - 1)

theorem low_neighbourhood_pos {x : Binary64} (h : x.isZero = false) :
    0 < (neighbourhood x).low := by
  have hmagnitude : x.magnitude ≠ 0 := by simpa [Binary64.isZero] using h
  have hsignificand : 0 < x.significand := by
    unfold Binary64.significand
    split
    · omega
    · exact Nat.add_pos_right _ (Nat.pow_pos (by decide))
  refine Nat.mul_pos ?_ (Nat.pow_pos (by decide))
  split <;> omega

theorem isReduced_shortest {x : Binary64} (h : x.isZero = false) :
    (shortest tie x).IsReduced :=
  isReduced_firstGrid (low_neighbourhood_pos h) _ _

end Shortest
end Decimal

namespace Json
open Decimal

theorem isWhole_digits_append {n zeros : Nat} (h : n = 0 → zeros = 0) :
    IsWhole (digits n ++ List.replicate zeros '0') := by
  refine ⟨(isDigits_digits n).append fun _ => isDigit_of_mem_replicate, ?_⟩
  cases n with
  | zero =>
    rw [h rfl]
    exact .inr rfl
  | succ n =>
    rw [List.head?_append_of_ne_nil _ (digits_ne_nil _)]
    exact .inl (head?_digits_ne_zero n.succ_pos)

theorem isWhole_digits (n : Nat) : IsWhole (digits n) := by
  have h : IsWhole (digits n ++ List.replicate 0 '0') := isWhole_digits_append fun _ => rfl
  rwa [List.replicate_zero, List.append_nil] at h

theorem IsWhole.isUnsignedToken {text : List Char} (h : IsWhole text) : IsUnsignedToken text := by
  simpa using IsUnsignedToken.parts h .none .none

theorem isUnsignedToken_point {whole fraction : List Char} (hwhole : IsWhole whole)
    (hfraction : IsDigits fraction) : IsUnsignedToken (whole ++ '.' :: fraction) := by
  simpa using IsUnsignedToken.parts hwhole (.digits hfraction) .none

theorem isWhole_of_isDigit {c : Char} (h : c.isDigit = true) : IsWhole [c] :=
  ⟨⟨List.cons_ne_nil _ _, List.forall_mem_singleton.mpr h⟩, .inr rfl⟩

theorem isWhole_positional {d : Digits} (hd : d.IsReduced) (h : 0 ≤ d.power) :
    IsWhole d.positional := by
  rw [Digits.positional, if_pos h]
  exact isWhole_digits_append fun hzero => by rw [hd hzero]; rfl

theorem isUnsignedToken_positional {d : Digits} (hd : d.IsReduced) :
    IsUnsignedToken d.positional := by
  by_cases hpower : 0 ≤ d.power
  · exact (isWhole_positional hd hpower).isUnsignedToken
  · have hdigits := isDigits_digits d.coefficient
    have hlead := head?_digits_ne_zero (n := d.coefficient)
      (Nat.pos_of_ne_zero fun hzero => hpower (Int.le_of_eq (hd hzero).symm))
    simp only [Digits.positional, if_neg hpower]
    split
    · next hplaces =>
      refine isUnsignedToken_point
        ⟨⟨?_, fun c hc => hdigits.isDigit c (List.mem_of_mem_take hc)⟩, .inl ?_⟩
        ⟨?_, fun c hc => hdigits.isDigit c (List.mem_of_mem_drop hc)⟩
      · rw [ne_eq, List.take_eq_nil_iff]
        exact not_or.mpr ⟨by omega, digits_ne_nil _⟩
      · rwa [List.head?_take, if_neg (by omega)]
      · rw [ne_eq, List.drop_eq_nil_iff]
        omega
    · exact isUnsignedToken_point (isWhole_of_isDigit (by decide))
        ⟨List.append_ne_nil_of_right_ne_nil _ (digits_ne_nil _),
          List.forall_mem_append.mpr ⟨fun _ => isDigit_of_mem_replicate, hdigits.isDigit⟩⟩

theorem isUnsignedToken_scientific (d : Digits) : IsUnsignedToken d.scientific := by
  have hdigits := isDigits_digits d.coefficient
  have hexponent : IsExponent
      ('e' :: (if d.leading < 0 then '-' else '+') :: digits d.leading.natAbs) := by
    refine .signed ?_ (isDigits_digits _)
    split
    · exact .inr rfl
    · exact .inl rfl
  rw [Digits.scientific]
  obtain ⟨c, cs, heq⟩ := List.exists_cons_of_ne_nil hdigits.ne_nil
  rw [heq] at hdigits
  obtain ⟨hc, hcs⟩ := List.forall_mem_cons.mp hdigits.isDigit
  rw [heq]
  cases cs with
  | nil => exact .parts (isWhole_of_isDigit hc) .none hexponent
  | cons c' cs =>
    exact .parts (isWhole_of_isDigit hc) (.digits ⟨List.cons_ne_nil _ _, hcs⟩) hexponent

theorem isUnsignedToken_digitsText {d : Digits} (hd : d.IsReduced) :
    IsUnsignedToken (Layout.json.digitsText d) := by
  rw [Layout.digitsText]
  split
  · exact isUnsignedToken_scientific d
  · split
    · next hintegral =>
      simp only [Bool.and_eq_true, decide_eq_true_eq] at hintegral
      exact isUnsignedToken_point (isWhole_positional hd hintegral.1) isDigits_zero
    · exact isUnsignedToken_positional hd

theorem isToken_integerText (i : Int) : IsToken (integerText i) := by
  rw [integerText]
  split
  · exact .negative (isWhole_digits _).isUnsignedToken
  · exact .positive (isWhole_digits _).isUnsignedToken

theorem isToken_finiteText (x : Binary64) : IsToken (Layout.json.finiteText x) := by
  have hbody : IsUnsignedToken
      (if x.isZero then ['0', '.', '0']
      else Layout.json.digitsText (shortest Layout.json.tie x)) := by
    split
    · exact isUnsignedToken_point (isWhole_of_isDigit (by decide)) isDigits_zero
    · next hzero =>
      exact isUnsignedToken_digitsText (isReduced_shortest (Bool.eq_false_iff.mpr hzero))
  rw [Layout.finiteText]
  split
  · exact .negative hbody
  · exact .positive hbody

end Json
end TablePhrase
