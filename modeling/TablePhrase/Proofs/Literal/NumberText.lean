import Mathlib.Data.List.Basic
import TablePhrase.Literal.Printer
import TablePhrase.Proofs.Literal.Scalar

/-!
The text of an integer or a finite double is that of a number: digits with a point among them or
none, and a sign in front if it is negative.
-/

namespace TablePhrase

/-- Digits, at least one. -/
structure IsDigits (text : List Char) : Prop where
  ne_nil : text ≠ []
  isDigit : ∀ c ∈ text, c.isDigit = true

/-- A number without a sign. Without a point no zero stands in front of another digit, unless all
of them are. -/
inductive IsUnsignedText : List Char → Prop
  | whole {digits : List Char} (h : IsDigits digits)
      (lead : digits.head? ≠ some '0' ∨ ∀ c ∈ digits, c = '0') : IsUnsignedText digits
  | point {whole fraction : List Char} (hwhole : IsDigits whole) (hfraction : IsDigits fraction) :
      IsUnsignedText (whole ++ '.' :: fraction)

inductive IsNumberText : List Char → Prop
  | positive {text : List Char} (h : IsUnsignedText text) : IsNumberText text
  | negative {text : List Char} (h : IsUnsignedText text) : IsNumberText ('-' :: text)

theorem IsDigits.append {text : List Char} (h : IsDigits text) {more : List Char}
    (hmore : ∀ c ∈ more, c.isDigit = true) : IsDigits (text ++ more) :=
  ⟨List.append_ne_nil_of_left_ne_nil h.ne_nil more,
    List.forall_mem_append.mpr ⟨h.isDigit, hmore⟩⟩

theorem isDigits_zero : IsDigits ['0'] :=
  ⟨List.cons_ne_nil _ _, List.forall_mem_singleton.mpr (by decide)⟩

theorem isDigit_of_mem_replicate {n : Nat} {c : Char} (h : c ∈ List.replicate n '0') :
    c.isDigit = true := by
  rw [List.eq_of_mem_replicate h]
  decide

namespace Decimal

theorem isDigits_digits (n : Nat) : IsDigits (digits n) :=
  ⟨digits_ne_nil n, fun _ => isDigit_of_mem_digits⟩

theorem head?_digits_ne_zero {n : Nat} (h : 0 < n) : (digits n).head? ≠ some '0' := by
  induction n using Nat.strongRecOn with
  | ind n ih =>
    rw [digits, Nat.toDigits_eq_if (by decide)]
    split
    · next hlt =>
      have hall : ∀ n < 10, 0 < n → [n.digitChar].head? ≠ some '0' := by decide
      exact hall n hlt h
    · next hge =>
      have htens := ih (n / 10) (by omega) (by omega)
      rwa [List.head?_append_of_ne_nil _ Nat.toDigits_ne_nil]

theorem lead_digits_append (n zeros : Nat) :
    (digits n ++ List.replicate zeros '0').head? ≠ some '0' ∨
      ∀ c ∈ digits n ++ List.replicate zeros '0', c = '0' := by
  cases n with
  | zero =>
    right
    exact List.forall_mem_append.mpr
      ⟨fun _ => List.eq_of_mem_singleton, fun _ => List.eq_of_mem_replicate⟩
  | succ n =>
    left
    rw [List.head?_append_of_ne_nil _ (digits_ne_nil _)]
    exact head?_digits_ne_zero n.succ_pos

theorem isDigits_positional {d : Digits} (h : 0 ≤ d.power) : IsDigits d.positional := by
  rw [Digits.positional, if_pos h]
  exact (isDigits_digits d.coefficient).append fun _ => isDigit_of_mem_replicate

theorem isUnsignedText_positional (d : Digits) : IsUnsignedText d.positional := by
  by_cases hpower : 0 ≤ d.power
  · refine .whole (isDigits_positional hpower) ?_
    rw [Digits.positional, if_pos hpower]
    exact lead_digits_append _ _
  · have hdigits := (isDigits_digits d.coefficient).isDigit
    simp only [Digits.positional, if_neg hpower]
    split
    · next hplaces =>
      refine .point ⟨?_, fun c hc => hdigits c (List.mem_of_mem_take hc)⟩
        ⟨?_, fun c hc => hdigits c (List.mem_of_mem_drop hc)⟩
      · rw [ne_eq, List.take_eq_nil_iff]
        exact not_or.mpr ⟨by omega, digits_ne_nil _⟩
      · rw [ne_eq, List.drop_eq_nil_iff]
        omega
    · refine .point isDigits_zero ⟨?_, ?_⟩
      · exact List.append_ne_nil_of_right_ne_nil _ (digits_ne_nil _)
      · exact List.forall_mem_append.mpr ⟨fun _ => isDigit_of_mem_replicate, hdigits⟩

theorem isUnsignedText_digitsText (d : Digits) : IsUnsignedText (Layout.plain.digitsText d) := by
  rw [Layout.digitsText, if_neg (by simp [Layout.plain])]
  split
  · next hintegral =>
    have hpower : 0 ≤ d.power := by
      simp only [Bool.and_eq_true, decide_eq_true_eq] at hintegral
      exact hintegral.1
    exact .point (isDigits_positional hpower) isDigits_zero
  · exact isUnsignedText_positional d

theorem isNumberText_plainText {x : Binary64} (h : x.isFinite = true) :
    IsNumberText (plainText x) := by
  have hmagnitude : x.magnitude < Binary64.infiniteMagnitude := of_decide_eq_true h
  have hnan : x.isNaN = false := decide_eq_false (Nat.lt_asymm hmagnitude)
  have hinfinite : x.isInfinite = false := decide_eq_false (Nat.ne_of_lt hmagnitude)
  have hbody : IsUnsignedText
      (if x.isZero then ['0', '.', '0']
      else Layout.plain.digitsText (shortest Layout.plain.tie x)) := by
    split
    · exact .point isDigits_zero isDigits_zero
    · exact isUnsignedText_digitsText _
  rw [plainText, hnan, hinfinite]
  simp only [Bool.false_eq_true, if_false, Layout.finiteText]
  split
  · exact .negative hbody
  · exact .positive hbody

end Decimal

theorem isNumberText_integerText (i : Int) : IsNumberText (integerText i) := by
  have hdigits : IsUnsignedText (Decimal.digits i.natAbs) := by
    have hlead := Decimal.lead_digits_append i.natAbs 0
    rw [List.replicate_zero, List.append_nil] at hlead
    exact .whole (Decimal.isDigits_digits _) hlead
  rw [integerText]
  split
  · exact .negative hdigits
  · exact .positive hdigits

end TablePhrase
