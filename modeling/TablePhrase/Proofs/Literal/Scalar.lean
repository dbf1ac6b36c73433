import Mathlib.Data.List.DropRight
import TablePhrase.Literal.Reader
import TablePhrase.Proofs.Text.Pieces

/-!
Reading back a written string or integer. The writer escapes a carriage return and the reader does
not know that escape, so a string is read back exactly if it holds none.
-/

namespace TablePhrase

namespace Literal

section Quoted
variable {quote : Char} {text : List Char}

theorem readQuoted_cons_of_ne {c : Char} (hbackslash : c ≠ '\\') (hquote : c ≠ quote)
    (rest : List Char) :
    readQuoted quote (c :: rest) =
      (readQuoted quote rest).map fun (content, rest) => (c :: content, rest) := by
  rw [readQuoted]
  · exact if_neg hquote
  · rintro rfl
    exact absurd rfl hbackslash
  · rintro d more rfl
    exact absurd rfl hbackslash

theorem readQuoted_backslash (c : Char) (rest : List Char) :
    readQuoted quote ('\\' :: c :: rest) =
      (unescape? c).bind fun d =>
        (readQuoted quote rest).map fun (content, rest) => (d :: content, rest) := by
  rw [readQuoted]
  cases unescape? c <;> cases readQuoted quote rest <;> rfl

theorem readQuoted_quote (hquote : quote ≠ '\\') (rest : List Char) :
    readQuoted quote (quote :: rest) = some ([], rest) := by
  rw [readQuoted]
  · exact if_pos rfl
  · rintro rfl
    exact absurd rfl hquote
  · rintro d more rfl
    exact absurd rfl hquote

theorem readQuoted_escapeChar (hquote : quote = '\'' ∨ quote = '"') (c : Char)
    (rest : List Char) :
    readQuoted quote (Text.escapeChar quote c ++ rest) =
      if c = '\r' then none
      else (readQuoted quote rest).map fun (content, rest) => (c :: content, rest) := by
  unfold Text.escapeChar
  split
  · next h =>
    subst h
    exact readQuoted_backslash '\\' rest
  · next hbackslash =>
    split
    · next h =>
      subst h
      exact readQuoted_backslash 'n' rest
    · split
      · next h =>
        subst h
        exact readQuoted_backslash 'r' rest
      · split
        · next h =>
          subst h
          exact readQuoted_backslash 't' rest
        · split
          · next h =>
            subst h
            have hunescape : unescape? c = some c := by
              rcases hquote with rfl | rfl <;> rfl
            rw [List.cons_append, List.singleton_append, readQuoted_backslash, hunescape]
            rfl
          · next hne => exact readQuoted_cons_of_ne hbackslash hne rest

theorem readQuoted_escape (hquote : quote = '\'' ∨ quote = '"') (h : '\r' ∉ text)
    (rest : List Char) :
    readQuoted quote (Text.escape quote text ++ quote :: rest) = some (text, rest) := by
  have hne : quote ≠ '\\' := by
    rcases hquote with rfl | rfl <;> decide
  induction text with
  | nil => exact readQuoted_quote hne rest
  | cons c text ih =>
    have hc : c ≠ '\r' := (List.ne_of_not_mem_cons h).symm
    rw [Text.escape, List.flatMap_cons, List.append_assoc, readQuoted_escapeChar hquote, if_neg hc,
      ← Text.escape, ih (List.not_mem_of_not_mem_cons h)]
    rfl

theorem readQuoted_escape_of_mem (hquote : quote = '\'' ∨ quote = '"') (h : '\r' ∈ text)
    (rest : List Char) : readQuoted quote (Text.escape quote text ++ rest) = none := by
  induction text with
  | nil => cases h
  | cons c text ih =>
    rw [Text.escape, List.flatMap_cons, List.append_assoc, readQuoted_escapeChar hquote]
    split
    · rfl
    · next hc =>
      have htext : '\r' ∈ text := (List.mem_cons.mp h).resolve_left (Ne.symm hc)
      rw [← Text.escape, ih htext]
      rfl

end Quoted

theorem preferredQuote_eq (text : List Char) :
    Text.preferredQuote text = '\'' ∨ Text.preferredQuote text = '"' := by
  unfold Text.preferredQuote
  split
  · exact .inr rfl
  · exact .inl rfl

theorem readScalar_quoteWith {quote : Char} (hquote : quote = '\'' ∨ quote = '"')
    (text rest : List Char) :
    readScalar (quote :: (Text.escape quote text ++ rest)) =
      (readQuoted quote (Text.escape quote text ++ rest)).map fun (s, rest) =>
        (str (String.ofList s), rest) := by
  rcases hquote with rfl | rfl
  · rfl
  · rfl

theorem readScalar_quote {s : String} (h : '\r' ∉ s.toList) (rest : List Char) :
    readScalar (Text.quote s.toList ++ rest) = some (str s, rest) := by
  have hquote := preferredQuote_eq s.toList
  rw [Text.quote, Text.quoteWith, List.cons_append, List.append_assoc, readScalar_quoteWith hquote,
    List.singleton_append, readQuoted_escape hquote h]
  simp

theorem readScalar_quote_of_mem {s : String} (h : '\r' ∈ s.toList) (rest : List Char) :
    readScalar (Text.quote s.toList ++ rest) = none := by
  have hquote := preferredQuote_eq s.toList
  rw [Text.quote, Text.quoteWith, List.cons_append, List.append_assoc, readScalar_quoteWith hquote,
    readQuoted_escape_of_mem hquote h]
  rfl

end Literal

namespace Decimal

theorem digits_ne_nil (n : Nat) : digits n ≠ [] :=
  Nat.toDigits_ne_nil

theorem isDigit_of_mem_digits {n : Nat} {c : Char} (h : c ∈ digits n) : c.isDigit = true :=
  Nat.isDigit_of_mem_toDigits (by decide) (by decide) h

theorem value_digits (n : Nat) : value (digits n) = n :=
  Nat.ofDigitChars_toDigits (by decide) (by decide)

theorem fit64?_toInt (i : Int64) : fit64? i.toInt = some i := by
  have hlow : Int64.minValue.toInt ≤ i.toInt := Int64.minValue_le_toInt i
  have hhigh : i.toInt ≤ Int64.maxValue.toInt := Int64.toInt_le i
  rw [fit64?, decide_eq_true hlow, decide_eq_true hhigh, Int64.ofInt_toInt]
  rfl

theorem splitSign_of_isDigit {c : Char} (h : c.isDigit = true) (rest : List Char) :
    splitSign (c :: rest) = (false, c :: rest) := by
  unfold splitSign
  split
  · next heq =>
    cases heq
    cases h
  · next heq =>
    cases heq
    cases h
  · rfl

theorem int64?_of_digits {text : List Char} {negative : Bool} {n : Nat}
    (h : splitSign text = (negative, digits n)) :
    int64? text = fit64? (if negative then -(n : Int) else n) := by
  have hall : (digits n).all Char.isDigit = true :=
    List.all_eq_true.mpr fun c => isDigit_of_mem_digits
  have hne : (digits n).isEmpty = false := by simp [digits_ne_nil]
  simp [int64?, h, hall, hne, value_digits]

theorem int64?_integerText (i : Int64) : int64? (integerText i.toInt) = some i := by
  obtain ⟨c, cs, hdigits⟩ := List.exists_cons_of_ne_nil (digits_ne_nil i.toInt.natAbs)
  unfold integerText
  split
  · next hneg =>
    have hsign : splitSign ('-' :: digits i.toInt.natAbs) = (true, digits i.toInt.natAbs) := rfl
    have habs : -(i.toInt.natAbs : Int) = i.toInt := by omega
    rw [int64?_of_digits hsign, if_pos rfl, habs, fit64?_toInt]
  · next hpos =>
    have hsign : splitSign (digits i.toInt.natAbs) = (false, digits i.toInt.natAbs) := by
      rw [hdigits]
      exact splitSign_of_isDigit (isDigit_of_mem_digits (hdigits ▸ List.mem_cons_self)) cs
    have habs : (i.toInt.natAbs : Int) = i.toInt := by omega
    rw [int64?_of_digits hsign, if_neg Bool.false_ne_true, habs, fit64?_toInt]

end Decimal

namespace Unicode

theorem trim_of_ends {text : List Char} (hfirst : ∀ c ∈ text.head?, isSpace c = false)
    (hlast : ∀ c ∈ text.getLast?, isSpace c = false) : trim text = text := by
  have hdrop : ∀ {cs : List Char}, (∀ c ∈ cs.head?, isSpace c = false) →
      cs.dropWhile isSpace = cs := by
    intro cs hcs
    cases cs with
    | nil => rfl
    | cons c cs => rw [List.dropWhile_cons_of_neg (by simp [hcs c rfl])]
  have hreverse : ∀ c ∈ text.reverse.head?, isSpace c = false := by
    rwa [List.head?_reverse]
  rw [trim, hdrop hfirst, hdrop hreverse, List.reverse_reverse]

theorem trim_of_forall {text : List Char} (h : ∀ c ∈ text, isSpace c = false) :
    trim text = text :=
  trim_of_ends (fun c hc => h c (List.mem_of_head? hc)) (fun c hc => h c (List.mem_of_getLast? hc))

theorem trim_eq_nil_iff {text : List Char} : trim text = [] ↔ ∀ c ∈ text, isSpace c = true := by
  rw [trim, List.reverse_eq_nil_iff, List.dropWhile_eq_nil_iff]
  simp only [List.mem_reverse]
  rw [← List.dropWhile_eq_nil_iff, List.dropWhile_idempotent, List.dropWhile_eq_nil_iff]

theorem isSpace_of_isDigit {c : Char} (h : c.isDigit = true) : isSpace c = false := by
  have hrange : 48 ≤ c.toNat ∧ c.toNat ≤ 57 := by
    simpa [Char.isDigit, UInt32.le_iff_toNat_le] using h
  simp only [isSpace, Bool.or_eq_false_iff, Bool.and_eq_false_iff, decide_eq_false_iff_not,
    beq_eq_false_iff_ne]
  omega

end Unicode

namespace Literal

theorem mem_integerText {i : Int} {c : Char} (h : c ∈ integerText i) :
    c = '-' ∨ c.isDigit = true := by
  unfold integerText at h
  split at h
  · exact (List.mem_cons.mp h).imp_right Decimal.isDigit_of_mem_digits
  · exact .inr (Decimal.isDigit_of_mem_digits h)

theorem number?_integerText (i : Int64) : number? (integerText i.toInt) = some (int i) := by
  have htrim : Unicode.trim (integerText i.toInt) = integerText i.toInt := by
    apply Unicode.trim_of_forall
    intro c hc
    rcases mem_integerText hc with rfl | hc
    · decide
    · exact Unicode.isSpace_of_isDigit hc
  simp [number?, htrim, Decimal.int64?_integerText]

def EndsNumber (rest : List Char) : Prop :=
  ∀ c ∈ rest.head?, c.isDigit = false ∧ c ≠ '.'

theorem splitNumber_of_digits {text rest sign digits : List Char} (hne : digits ≠ [])
    (hdigits : ∀ c ∈ digits, c.isDigit = true) (hrest : EndsNumber rest)
    (h : splitSign text = (sign, digits ++ rest)) :
    splitNumber text = some (sign ++ digits, rest) := by
  have hstop : ∀ c ∈ rest.head?, c.isDigit = false := fun c hc => (hrest c hc).1
  have hempty : digits.isEmpty = false := by simpa using hne
  simp only [splitNumber, h, Text.takeWhile_append_of_stops hdigits hstop,
    Text.dropWhile_append_of_stops hdigits hstop, hempty]
  split
  · exact absurd rfl (hrest '.' rfl).2
  · rfl
  · next heq => cases heq
  · next heq _ => cases heq

theorem splitSign_of_isDigit {c : Char} (h : c.isDigit = true) (rest : List Char) :
    splitSign (c :: rest) = ([], c :: rest) := by
  unfold splitSign
  split
  · next heq =>
    cases heq
    cases h
  · next heq =>
    cases heq
    cases h
  · rfl

theorem splitNumber_integerText (i : Int) {rest : List Char} (hrest : EndsNumber rest) :
    splitNumber (integerText i ++ rest) = some (integerText i, rest) := by
  have hne := Decimal.digits_ne_nil i.natAbs
  have hdigits : ∀ c ∈ Decimal.digits i.natAbs, c.isDigit = true := fun c =>
    Decimal.isDigit_of_mem_digits
  unfold integerText
  split
  · have hsign : splitSign ('-' :: (Decimal.digits i.natAbs ++ rest)) =
        (['-'], Decimal.digits i.natAbs ++ rest) := rfl
    exact splitNumber_of_digits hne hdigits hrest hsign
  · obtain ⟨c, cs, htext⟩ := List.exists_cons_of_ne_nil hne
    have hsign : splitSign (Decimal.digits i.natAbs ++ rest) =
        ([], Decimal.digits i.natAbs ++ rest) := by
      rw [htext]
      exact splitSign_of_isDigit (hdigits c (htext ▸ List.mem_cons_self)) _
    exact splitNumber_of_digits hne hdigits hrest hsign

theorem exists_integerText_eq_cons (i : Int) :
    ∃ c cs, integerText i = c :: cs ∧ (c = '-' ∨ c.isDigit = true) := by
  cases h : integerText i with
  | nil =>
    unfold integerText at h
    split at h
    · cases h
    · exact absurd h (Decimal.digits_ne_nil _)
  | cons c cs => exact ⟨c, cs, rfl, mem_integerText (h ▸ List.mem_cons_self)⟩

theorem readScalar_of_numeric {c : Char}
    (h : c = '-' ∨ c = '+' ∨ c = '.' ∨ c.isDigit = true) (text : List Char) :
    readScalar (c :: text) =
      match splitNumber (c :: text) with
      | some (number, rest) => (number? number).map fun v => (v, rest)
      | none => none := by
  unfold readScalar
  split
  case h_6 => rfl
  all_goals
    next heq =>
      cases heq
      rcases h with h | h | h | h <;> cases h

theorem readScalar_integerText (i : Int64) {rest : List Char} (hrest : EndsNumber rest) :
    readScalar (integerText i.toInt ++ rest) = some (int i, rest) := by
  obtain ⟨c, cs, htext, hc⟩ := exists_integerText_eq_cons i.toInt
  have hsplit := splitNumber_integerText i.toInt hrest
  rw [htext, List.cons_append] at hsplit ⊢
  rw [readScalar_of_numeric (hc.imp_right fun hc => .inr (.inr hc)), hsplit, ← htext]
  simp [number?_integerText]

end Literal
end TablePhrase
