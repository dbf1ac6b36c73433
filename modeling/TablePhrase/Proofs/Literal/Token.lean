import TablePhrase.Proofs.Literal.NumberText
import TablePhrase.Proofs.Literal.Reading

/-!
The scalars of the literal grammar, apart from how they are read: names, numbers and quoted
strings. The reader of scalars takes just these, a number up to where no digit and no point
follows.
-/

namespace TablePhrase.Literal

namespace Grammar

inductive Escape : Char → Char → Prop
  | backslash : Escape '\\' '\\'
  | single : Escape '\'' '\''
  | double : Escape '"' '"'
  | newline : Escape 'n' '\n'
  | tab : Escape 't' '\t'

inductive Quoted (quote : Char) : List Char → List Char → Prop
  | nil : Quoted quote [] []
  | plain {c : Char} {text content : List Char} (hbackslash : c ≠ '\\') (hquote : c ≠ quote)
      (h : Quoted quote text content) : Quoted quote (c :: text) (c :: content)
  | escape {letter c : Char} {text content : List Char} (hescape : Escape letter c)
      (h : Quoted quote text content) : Quoted quote ('\\' :: letter :: text) (c :: content)

inductive Unsigned : List Char → Prop
  | whole {digits : List Char} (h : IsDigits digits) : Unsigned digits
  | point {whole fraction : List Char} (hwhole : IsDigits whole)
      (hfraction : ∀ c ∈ fraction, c.isDigit = true) : Unsigned (whole ++ '.' :: fraction)
  | fraction {fraction : List Char} (h : IsDigits fraction) : Unsigned ('.' :: fraction)

inductive Number : List Char → Prop
  | unsigned {text : List Char} (h : Unsigned text) : Number text
  | minus {text : List Char} (h : Unsigned text) : Number ('-' :: text)
  | plus {text : List Char} (h : Unsigned text) : Number ('+' :: text)

inductive Scalar : List Char → Literal → Prop
  | nullName : Scalar ['N', 'o', 'n', 'e'] null
  | trueName : Scalar ['T', 'r', 'u', 'e'] (bool true)
  | falseName : Scalar ['F', 'a', 'l', 's', 'e'] (bool false)
  | number {text : List Char} {v : Literal} (h : Number text) (hv : number? text = some v) :
      Scalar text v
  | string {quote : Char} {text content : List Char} (hquote : quote = '\'' ∨ quote = '"')
      (h : Quoted quote text content) :
      Scalar (quote :: (text ++ [quote])) (str (String.ofList content))

end Grammar

open Grammar

section Quoted
variable {quote : Char} {text content rest : List Char}

theorem unescape?_eq_some_iff {letter c : Char} : unescape? letter = some c ↔ Escape letter c := by
  constructor
  · intro h
    unfold unescape? at h
    split at h
    · next hself =>
      simp only [Bool.or_eq_true, decide_eq_true_eq, or_assoc] at hself
      cases h
      rcases hself with rfl | rfl | rfl
      · exact .backslash
      · exact .single
      · exact .double
    · split at h
      · next hletter =>
        cases h
        exact hletter ▸ .newline
      · split at h
        · next hletter =>
          cases h
          exact hletter ▸ .tab
        · cases h
  · rintro (_ | _) <;> rfl

theorem exists_of_readQuoted (h : readQuoted quote text = some (content, rest)) :
    ∃ front, text = front ++ quote :: rest ∧ Quoted quote front content := by
  fun_induction readQuoted quote text generalizing content with
  | case1 => cases h
  | case2 => cases h
  | case3 letter text c inner left hread hescape ih =>
    obtain ⟨rfl, rfl⟩ := Prod.mk.inj (Option.some.inj h)
    obtain ⟨front, rfl, hfront⟩ := ih hread
    exact ⟨'\\' :: letter :: front, rfl, .escape (unescape?_eq_some_iff.mp hescape) hfront⟩
  | case4 => cases h
  | case5 text =>
    obtain ⟨rfl, rfl⟩ := Prod.mk.inj (Option.some.inj h)
    exact ⟨[], rfl, .nil⟩
  | case6 c text hlast hescape hne ih =>
    have hbackslash : c ≠ '\\' := by
      rintro rfl
      cases text with
      | nil => exact hlast rfl rfl
      | cons d text => exact hescape d text rfl rfl
    obtain ⟨⟨inner, left⟩, hread, heq⟩ := Option.map_eq_some_iff.mp h
    obtain ⟨rfl, rfl⟩ := Prod.mk.inj heq
    obtain ⟨front, rfl, hfront⟩ := ih hread
    exact ⟨c :: front, rfl, .plain hbackslash hne hfront⟩

theorem readQuoted_of_quoted (hquote : quote ≠ '\\') (h : Quoted quote text content)
    (rest : List Char) : readQuoted quote (text ++ quote :: rest) = some (content, rest) := by
  induction h with
  | nil => exact readQuoted_quote hquote rest
  | plain hbackslash hne h ih =>
    rw [List.cons_append, readQuoted_cons_of_ne hbackslash hne, ih]
    rfl
  | escape hescape h ih =>
    rw [List.cons_append, List.cons_append, readQuoted_backslash,
      unescape?_eq_some_iff.mpr hescape, ih]
    rfl

end Quoted

section Number
variable {text number sign body rest : List Char}

theorem isDigits_takeWhile (h : (body.takeWhile Char.isDigit).isEmpty = false) :
    IsDigits (body.takeWhile Char.isDigit) :=
  ⟨by simpa using h, fun _ hc => List.mem_takeWhile_imp hc⟩

theorem splitSign_cases (text : List Char) :
    splitSign text = ([], text) ∨
      ∃ body, (text = '-' :: body ∧ splitSign text = (['-'], body)) ∨
        (text = '+' :: body ∧ splitSign text = (['+'], body)) := by
  unfold splitSign
  split
  · next body => exact .inr ⟨body, .inl ⟨rfl, rfl⟩⟩
  · next body => exact .inr ⟨body, .inr ⟨rfl, rfl⟩⟩
  · exact .inl rfl

theorem exists_of_splitNumber (hsign : splitSign text = (sign, body))
    (h : splitNumber text = some (number, rest)) :
    ∃ unsigned, number = sign ++ unsigned ∧ body = unsigned ++ rest ∧ Unsigned unsigned := by
  have hbody := List.takeWhile_append_dropWhile (p := Char.isDigit) (l := body)
  simp only [splitNumber, hsign] at h
  split at h
  · next fraction hwhole hpoint =>
    obtain ⟨rfl, rfl⟩ := Prod.mk.inj (Option.some.inj h)
    have hfraction := List.takeWhile_append_dropWhile (p := Char.isDigit) (l := fraction)
    refine ⟨_, List.append_assoc _ _ _, ?_,
      .point (isDigits_takeWhile hwhole) fun _ hc => List.mem_takeWhile_imp hc⟩
    rw [List.append_assoc, List.cons_append, hfraction, ← hpoint, hbody]
  · next hwhole _ =>
    obtain ⟨rfl, rfl⟩ := Prod.mk.inj (Option.some.inj h)
    exact ⟨_, rfl, hbody.symm, .whole (isDigits_takeWhile hwhole)⟩
  · next fraction hwhole hpoint =>
    split at h
    · cases h
    · next hne =>
      obtain ⟨rfl, rfl⟩ := Prod.mk.inj (Option.some.inj h)
      have hfraction := List.takeWhile_append_dropWhile (p := Char.isDigit) (l := fraction)
      refine ⟨_, rfl, ?_, .fraction (isDigits_takeWhile (Bool.eq_false_iff.mpr hne))⟩
      rw [List.isEmpty_iff.mp hwhole, List.nil_append] at hbody
      rw [List.cons_append, hfraction, ← hpoint, hbody]
  · cases h

theorem number_of_splitNumber (h : splitNumber text = some (number, rest)) :
    text = number ++ rest ∧ Number number := by
  rcases splitSign_cases text with hsign | ⟨body, ⟨rfl, hsign⟩ | ⟨rfl, hsign⟩⟩
  all_goals obtain ⟨unsigned, rfl, htext, hunsigned⟩ := exists_of_splitNumber hsign h
  · exact ⟨htext, .unsigned hunsigned⟩
  · exact ⟨congrArg ('-' :: ·) htext, .minus hunsigned⟩
  · exact ⟨congrArg ('+' :: ·) htext, .plus hunsigned⟩

theorem splitNumber_of_unsigned (h : Unsigned number) (hrest : EndsNumber rest)
    (hsign : splitSign text = (sign, number ++ rest)) :
    splitNumber text = some (sign ++ number, rest) := by
  have hstop : ∀ c ∈ rest.head?, c.isDigit = false := fun c hc => (hrest c hc).1
  have hpoint : Char.isDigit '.' = false := rfl
  cases h with
  | whole h => exact splitNumber_of_digits h.ne_nil h.isDigit hrest hsign
  | @point whole fraction hwhole hfraction =>
    have hempty : whole.isEmpty = false := by simpa using hwhole.ne_nil
    rw [List.append_assoc, List.cons_append] at hsign
    have hstopWhole : ∀ c ∈ ('.' :: (fraction ++ rest)).head?, c.isDigit = false := by
      rintro c ⟨⟩
      exact hpoint
    simp only [splitNumber, hsign, Text.takeWhile_append_of_stops hwhole.isDigit hstopWhole,
      Text.dropWhile_append_of_stops hwhole.isDigit hstopWhole, hempty,
      Text.takeWhile_append_of_stops hfraction hstop,
      Text.dropWhile_append_of_stops hfraction hstop, List.append_assoc]
  | @fraction fraction hfraction =>
    have hempty : fraction.isEmpty = false := by simpa using hfraction.ne_nil
    rw [List.cons_append] at hsign
    simp [splitNumber, hsign, hpoint, Text.takeWhile_append_of_stops hfraction.isDigit hstop,
      Text.dropWhile_append_of_stops hfraction.isDigit hstop, hfraction.ne_nil]

theorem Grammar.Unsigned.exists_eq_cons (h : Unsigned number) :
    ∃ c cs, number = c :: cs ∧ (c = '.' ∨ c.isDigit = true) := by
  cases h with
  | whole h =>
    obtain ⟨c, cs, rfl⟩ := List.exists_cons_of_ne_nil h.ne_nil
    exact ⟨c, cs, rfl, .inr (h.isDigit c List.mem_cons_self)⟩
  | point hwhole hfraction =>
    obtain ⟨c, cs, rfl⟩ := List.exists_cons_of_ne_nil hwhole.ne_nil
    exact ⟨c, _, rfl, .inr (hwhole.isDigit c List.mem_cons_self)⟩
  | fraction h => exact ⟨'.', _, rfl, .inl rfl⟩

theorem Grammar.Number.exists_eq_cons (h : Number number) :
    ∃ c cs, number = c :: cs ∧ (c = '-' ∨ c = '+' ∨ c = '.' ∨ c.isDigit = true) := by
  cases h with
  | unsigned h =>
    obtain ⟨c, cs, rfl, hc⟩ := h.exists_eq_cons
    exact ⟨c, cs, rfl, .inr (.inr hc)⟩
  | minus h => exact ⟨'-', _, rfl, .inl rfl⟩
  | plus h => exact ⟨'+', _, rfl, .inr (.inl rfl)⟩

theorem splitNumber_of_number (h : Number number) (hrest : EndsNumber rest) :
    splitNumber (number ++ rest) = some (number, rest) := by
  cases h with
  | unsigned h =>
    obtain ⟨c, cs, rfl, hc⟩ := h.exists_eq_cons
    have hsign : splitSign (c :: cs ++ rest) = ([], c :: cs ++ rest) := by
      rcases hc with rfl | hc
      · rfl
      · exact splitSign_of_isDigit hc _
    exact splitNumber_of_unsigned h hrest hsign
  | @minus number h =>
    have hsign : splitSign ('-' :: number ++ rest) = (['-'], number ++ rest) := rfl
    exact splitNumber_of_unsigned h hrest hsign
  | @plus number h =>
    have hsign : splitSign ('+' :: number ++ rest) = (['+'], number ++ rest) := rfl
    exact splitNumber_of_unsigned h hrest hsign

end Number

section Scalar
variable {text rest : List Char} {v : Literal}

theorem exists_of_readString {quote : Char} {body : List Char} (hquote : quote = '\'' ∨ quote = '"')
    (h : ((readQuoted quote body).map fun (s, rest) => (str (String.ofList s), rest)) =
      some (v, rest)) : ∃ front, quote :: body = front ++ rest ∧ Scalar front v := by
  obtain ⟨⟨content, left⟩, hread, heq⟩ := Option.map_eq_some_iff.mp h
  obtain ⟨rfl, rfl⟩ := Prod.mk.inj heq
  obtain ⟨front, rfl, hfront⟩ := exists_of_readQuoted hread
  exact ⟨quote :: (front ++ [quote]), by simp, .string hquote hfront⟩

theorem exists_of_readScalar (h : readScalar text = some (v, rest)) :
    ∃ front, text = front ++ rest ∧ Scalar front v := by
  unfold readScalar at h
  split at h
  · obtain ⟨rfl, rfl⟩ := Prod.mk.inj (Option.some.inj h)
    exact ⟨_, rfl, .nullName⟩
  · obtain ⟨rfl, rfl⟩ := Prod.mk.inj (Option.some.inj h)
    exact ⟨_, rfl, .trueName⟩
  · obtain ⟨rfl, rfl⟩ := Prod.mk.inj (Option.some.inj h)
    exact ⟨_, rfl, .falseName⟩
  · exact exists_of_readString (.inl rfl) h
  · exact exists_of_readString (.inr rfl) h
  · split at h
    · next number left hsplit =>
      obtain ⟨value, hvalue, heq⟩ := Option.map_eq_some_iff.mp h
      obtain ⟨rfl, rfl⟩ := Prod.mk.inj heq
      obtain ⟨rfl, hnumber⟩ := number_of_splitNumber hsplit
      exact ⟨number, rfl, .number hnumber hvalue⟩
    · cases h

theorem readScalar_of_scalar (h : Scalar text v) (hrest : EndsNumber rest) :
    readScalar (text ++ rest) = some (v, rest) := by
  cases h with
  | nullName => rfl
  | trueName => rfl
  | falseName => rfl
  | number h hv =>
    obtain ⟨c, cs, rfl, hc⟩ := h.exists_eq_cons
    have hsplit := splitNumber_of_number h hrest
    rw [List.cons_append] at hsplit ⊢
    rw [readScalar_of_numeric hc, hsplit]
    simp [hv]
  | @string quote body content hquote h =>
    have hne : quote ≠ '\\' := by
      rcases hquote with rfl | rfl <;> decide
    have hread := readQuoted_of_quoted hne h rest
    rw [List.cons_append, List.append_assoc, List.singleton_append]
    rcases hquote with rfl | rfl
    · change (readQuoted '\'' _).map _ = _
      rw [hread]
      rfl
    · change (readQuoted '"' _).map _ = _
      rw [hread]
      rfl

theorem Grammar.Scalar.exists_eq_cons (h : Scalar text v) :
    ∃ c cs, text = c :: cs ∧ isOpening c = true ∧ c ≠ '[' ∧ c ≠ '{' := by
  cases h with
  | nullName => exact ⟨_, _, rfl, by decide⟩
  | trueName => exact ⟨_, _, rfl, by decide⟩
  | falseName => exact ⟨_, _, rfl, by decide⟩
  | number h =>
    obtain ⟨c, cs, rfl, hc⟩ := h.exists_eq_cons
    refine ⟨c, cs, rfl, ?_⟩
    rcases hc with rfl | rfl | rfl | hc
    · decide
    · decide
    · decide
    · refine ⟨isOpening_of_isDigit hc, ?_, ?_⟩ <;> rintro rfl <;> cases hc
  | @string quote body content hquote h =>
    refine ⟨quote, body ++ [quote], rfl, ?_⟩
    rcases hquote with rfl | rfl <;> decide

end Scalar

end TablePhrase.Literal
