import TablePhrase.Lifting.Basic
import TablePhrase.Proofs.Phrase.Condition
import TablePhrase.Proofs.Phrase.Number

/-!
Lifting a phrase. Each pass finds the tokens of its kind and no others, given what the passes before
it have left, so that all passes together give the template and the entity texts.
-/

namespace TablePhrase.Phrase

open Lifting Text

def isOfKind (kind : EntityKind) (t : Token) : Bool :=
  t.kind? == some kind

section Shown
variable {lifted : List EntityKind} {kind : EntityKind} {t : Token}

theorem shown_of_not_mem (hkind : t.kind? = some kind) (hlifted : kind ∉ lifted) :
    t.shown lifted = t.chars := by
  rw [Token.shown, hkind]
  exact if_neg hlifted

theorem shown_nil (t : Token) : t.shown [] = t.chars := by
  cases hkind : t.kind? with
  | none => rw [Token.shown, hkind]
  | some kind => exact shown_of_not_mem hkind List.not_mem_nil

theorem filled_shown (lifted : List EntityKind) (kind : EntityKind) :
    Separates.filled (Token.shown lifted) (isOfKind kind) (fun _ => kind.placeholder.toList) =
      Token.shown (lifted ++ [kind]) := by
  funext t
  unfold Separates.filled isOfKind Token.shown
  cases t.kind? with
  | none => rfl
  | some other =>
    by_cases hother : other = kind
    · subst hother
      simp
    · simp [hother]

theorem stripQuotes_quoted (l : Label) : stripQuotes l.quoted = l.chars := by
  simp [Label.quoted, stripQuotes]

theorem spanText_chars (hkind : t.kind? = some kind) : spanText kind t.chars = t.entityChars := by
  cases t <;> cases hkind
  case value label => exact stripQuotes_quoted label
  all_goals rfl

/-- What one pass makes of a phrase in which it finds the tokens of its kind. -/
theorem liftKind_spaced (hkind : kind ∉ lifted)
    (h : Separates (matcher kind) (Token.shown lifted) (isOfKind kind)) (ts : List Token) :
    liftKind kind (spaced (Token.shown lifted) ts) =
      (spaced (Token.shown (lifted ++ [kind])) ts,
        (ts.filter (isOfKind kind)).map Token.entityChars) := by
  obtain ⟨hfill, hfound⟩ := h.cut_spaced ts fun _ => kind.placeholder.toList
  rw [filled_shown] at hfill
  unfold liftKind
  simp only [hfill, hfound, List.map_map, Prod.mk.injEq, true_and]
  apply List.map_congr_left
  intro t ht
  have htoken : t.kind? = some kind := beq_iff_eq.mp (List.mem_filter.mp ht).2
  rw [Function.comp_apply, shown_of_not_mem htoken hkind, spanText_chars htoken]

end Shown

section Passes

theorem ne_quotes_of_not_mem_marks {c : Char} (h : c ∉ marks) : c ≠ '"' ∧ c ≠ '\'' := by
  simp only [marks, List.mem_cons, not_or] at h
  exact ⟨h.2.2.2.2.1, h.2.2.2.2.2.1⟩

theorem ne_comma_of_not_mem_marks {c : Char} (h : c ∉ marks) : c ≠ ',' := by
  rintro rfl
  exact h (by decide)

theorem word_not_mem_marks {run : Run Char.isUpper} {c : Char} (h : c ∈ run.chars) : c ∉ marks :=
  hasNoMarks_isUpper.not_mem (run.all c h)

theorem isNumeric_capitals : ∀ n ∈ List.range' 65 26, isNumeric (Char.ofNat n) = false := by
  decide

theorem word_not_isNumeric {run : Run Char.isUpper} {c : Char} (h : c ∈ run.chars) :
    isNumeric c = false := by
  have hupper : 'A'.val ≤ c.val ∧ c.val ≤ 'Z'.val := of_decide_eq_true (run.all c h)
  rw [UInt32.le_iff_toNat_le, UInt32.le_iff_toNat_le] at hupper
  have hrange : c.toNat ∈ List.range' 65 26 := by
    rw [List.mem_range'_1]
    exact ⟨hupper.1, Nat.lt_succ_of_le hupper.2⟩
  have hnumeric := isNumeric_capitals c.toNat hrange
  rwa [Char.ofNat_toNat] at hnumeric

theorem placeholder_ne_quotes (kind : EntityKind) :
    ∀ c ∈ kind.placeholder.toList, c ≠ '"' ∧ c ≠ '\'' := by
  have hall : kind.placeholder.toList.all (fun c => c != '"' && c != '\'') = true := by
    cases kind <;> decide
  simpa using hall

theorem placeholder_not_mem_comma (kind : EntityKind) : ',' ∉ kind.placeholder.toList := by
  cases kind <;> decide

theorem placeholder_not_isNumeric (kind : EntityKind) :
    ∀ c ∈ kind.placeholder.toList, isNumeric c = false := by
  have hall : kind.placeholder.toList.all (!isNumeric ·) = true := by
    cases kind <;> decide
  simpa using hall

theorem numberList_not_mem_marks {numerals : List Numeral} {c : Char}
    (h : c ∈ [',', ' '].intercalate (numerals.map Numeral.chars)) : c = ',' ∨ c = ' ' ∨ c ∉ marks := by
  rcases mem_listed h with h | h | ⟨item, hitem, h⟩
  · exact .inl h
  · exact .inr (.inl h)
  · obtain ⟨n, -, rfl⟩ := List.mem_map.mp hitem
    exact .inr (.inr (Numeral.not_mem_marks h))

theorem stringList_not_mem_marks {labels : List Label} {c : Char}
    (h : c ∈ [',', ' '].intercalate (labels.map Label.quoted)) :
    c = ',' ∨ c = ' ' ∨ c = '"' ∨ c ∉ marks := by
  rcases mem_listed h with h | h | ⟨item, hitem, h⟩
  · exact .inl h
  · exact .inr (.inl h)
  · obtain ⟨l, -, rfl⟩ := List.mem_map.mp hitem
    exact .inr (.inr ((Label.mem_quoted h).imp_right Label.not_mem_marks))

theorem isOperator_chars {t : Token} (h : isOfKind .condition t = false) :
    ∀ c ∈ t.chars, isOperator c = false := by
  intro c hc
  cases t with
  | word run => exact isOperator_of_not_mem_marks (word_not_mem_marks hc)
  | number numeral => exact isOperator_of_not_mem_marks (Numeral.not_mem_marks hc)
  | value label => exact isOperator_quoted label c hc
  | numberList first second more =>
    rcases numberList_not_mem_marks hc with rfl | rfl | hc
    · rfl
    · rfl
    · exact isOperator_of_not_mem_marks hc
  | stringList first second more =>
    rcases stringList_not_mem_marks hc with rfl | rfl | rfl | hc
    · rfl
    · rfl
    · rfl
    · exact isOperator_of_not_mem_marks hc
  | condition condition => cases h

theorem separates_condition :
    Separates (matcher .condition) (Token.shown []) (isOfKind .condition) where
  space := conditionMatcher_of_not_isOperator (by decide : isOperator ' ' = false)
  ne_nil := by
    intro t ht
    cases t <;> cases ht
    case condition c => exact List.append_ne_nil_of_left_ne_nil c.operator.ne_nil _
  span := by
    intro t ht before hbefore ts
    cases t <;> cases ht
    case condition c => exact conditionMatcher_chars c hbefore (atBreak_trailing _ ts)
  skips := by
    intro t ht before _ ts
    apply Matcher.skips_of_forall
    rw [shown_nil]
    exact fun c hc => conditionMatcher_of_not_isOperator (isOperator_chars ht c hc)

theorem ne_quotes_of_shown_condition {t : Token} (hvalue : isOfKind .value t = false)
    (hlist : isOfKind .stringList t = false) :
    ∀ c ∈ t.shown [.condition], c ≠ '"' ∧ c ≠ '\'' := by
  intro c hc
  cases t with
  | word run => exact ne_quotes_of_not_mem_marks (word_not_mem_marks hc)
  | number numeral => exact ne_quotes_of_not_mem_marks (Numeral.not_mem_marks hc)
  | value label => cases hvalue
  | numberList first second more =>
    rcases numberList_not_mem_marks hc with rfl | rfl | hc
    · decide
    · decide
    · exact ne_quotes_of_not_mem_marks hc
  | stringList first second more => cases hlist
  | condition condition => exact placeholder_ne_quotes .condition c hc

theorem exists_eq_value {t : Token} (h : isOfKind .value t = true) : ∃ label, t = .value label := by
  cases t <;> cases h
  exact ⟨_, rfl⟩

theorem exists_eq_stringList {t : Token} (h : isOfKind .stringList t = true) :
    ∃ first second more, t = .stringList first second more := by
  cases t <;> cases h
  exact ⟨_, _, _, rfl⟩

theorem exists_eq_condition {t : Token} (h : isOfKind .condition t = true) :
    ∃ condition, t = .condition condition := by
  cases t <;> cases h
  exact ⟨_, rfl⟩

theorem beforeComma_afterQuote_trailing (ts : List Token) :
    beforeComma (afterQuote '"' (trailing (Token.shown [.condition]) ts)) = false := by
  induction ts with
  | nil => rfl
  | cons t ts ih =>
    show beforeComma (afterQuote '"' (' ' :: (t.shown [.condition] ++ trailing _ ts))) = false
    cases hvalue : isOfKind .value t with
    | true =>
      obtain ⟨label, rfl⟩ := exists_eq_value hvalue
      exact beforeComma_afterQuote_inQuotes label.isContent _
    | false =>
      cases hlist : isOfKind .stringList t with
      | true =>
        obtain ⟨first, second, more, rfl⟩ := exists_eq_stringList hlist
        show beforeComma (afterQuote '"' (' ' :: (List.intercalate _
          (first.quoted :: (second :: more).map Label.quoted) ++ _))) = false
        rw [intercalate_cons, List.append_assoc]
        exact beforeComma_afterQuote_inQuotes first.isContent _
      | false =>
        have hquote : '"' ∉ ' ' :: t.shown [.condition] := by
          apply List.not_mem_cons_of_ne_of_not_mem (by decide)
          exact fun hmem => (ne_quotes_of_shown_condition hvalue hlist '"' hmem).1 rfl
        rw [← List.cons_append, afterQuote_append hquote]
        exact ih

theorem separates_stringList :
    Separates (matcher .stringList) (Token.shown [.condition]) (isOfKind .stringList) where
  space := stringListMatcher_of_ne (by decide : ' ' ≠ '"') (by decide)
  ne_nil := by
    intro t ht
    cases t <;> cases ht
    case stringList first second more =>
      show List.intercalate _ (first.quoted :: (second :: more).map Label.quoted) ≠ []
      rw [intercalate_cons]
      exact List.cons_ne_nil _ _
  span := by
    intro t ht before _ ts
    cases t <;> cases ht
    case stringList first second more =>
      exact stringListMatcher_listed first second more before (atBreak_trailing _ ts)
  skips := by
    intro t ht before _ ts
    cases hvalue : isOfKind .value t with
    | true =>
      obtain ⟨label, rfl⟩ := exists_eq_value hvalue
      exact skips_inQuotes label.isContent before (atBreak_trailing _ ts)
        (beforeComma_afterQuote_trailing ts)
    | false =>
      apply Matcher.skips_of_forall
      intro c hc
      obtain ⟨hdouble, hsingle⟩ := ne_quotes_of_shown_condition hvalue ht c hc
      exact stringListMatcher_of_ne hdouble hsingle

theorem not_mem_comma_of_shown {t : Token} (h : isOfKind .numberList t = false) :
    ',' ∉ t.shown [.condition, .stringList] := by
  intro hc
  cases t with
  | word run => exact ne_comma_of_not_mem_marks (word_not_mem_marks hc) rfl
  | number numeral => exact ne_comma_of_not_mem_marks (Numeral.not_mem_marks hc) rfl
  | value label =>
    rcases Label.mem_quoted hc with hc | hc
    · cases hc
    · exact ne_comma_of_not_mem_marks (Label.not_mem_marks hc) rfl
  | numberList first second more => cases h
  | stringList first second more => exact placeholder_not_mem_comma .stringList hc
  | condition condition => exact placeholder_not_mem_comma .condition hc

theorem separates_numberList :
    Separates (matcher .numberList) (Token.shown [.condition, .stringList])
      (isOfKind .numberList) where
  space := numberListMatcher_of_not_isNumeric (by decide : isNumeric ' ' = false)
  ne_nil := by
    intro t ht
    cases t <;> cases ht
    case numberList first second more =>
      show List.intercalate _ (first.chars :: (second :: more).map Numeral.chars) ≠ []
      rw [intercalate_cons]
      exact List.append_ne_nil_of_left_ne_nil first.chars_ne_nil _
  span := by
    intro t ht before hbefore ts
    cases t <;> cases ht
    case numberList first second more =>
      exact numberListMatcher_listed first second more hbefore (atBreak_trailing _ ts)
  skips := by
    intro t ht before _ ts
    exact numberListMatcher_skips before (not_mem_comma_of_shown ht) (atBreak_trailing _ ts)

theorem ne_quotes_of_shown_lists {t : Token} (h : isOfKind .value t = false) :
    ∀ c ∈ t.shown [.condition, .stringList, .numberList], c ≠ '"' ∧ c ≠ '\'' := by
  intro c hc
  cases t with
  | word run => exact ne_quotes_of_not_mem_marks (word_not_mem_marks hc)
  | number numeral => exact ne_quotes_of_not_mem_marks (Numeral.not_mem_marks hc)
  | value label => cases h
  | numberList first second more => exact placeholder_ne_quotes .numberList c hc
  | stringList first second more => exact placeholder_ne_quotes .stringList c hc
  | condition condition => exact placeholder_ne_quotes .condition c hc

theorem separates_value :
    Separates (matcher .value) (Token.shown [.condition, .stringList, .numberList])
      (isOfKind .value) where
  space := valueMatcher_of_ne (by decide : ' ' ≠ '"') (by decide)
  ne_nil := by
    intro t ht
    cases t <;> cases ht
    case value label => exact List.cons_ne_nil _ _
  span := by
    intro t ht before _ ts
    cases t <;> cases ht
    case value label => exact valueMatcher_inQuotes label.isContent before (atBreak_trailing _ ts)
  skips := by
    intro t ht before _ ts
    apply Matcher.skips_of_forall
    intro c hc
    obtain ⟨hdouble, hsingle⟩ := ne_quotes_of_shown_lists ht c hc
    exact valueMatcher_of_ne hdouble hsingle

theorem not_isNumeric_of_shown {t : Token} (h : isOfKind .number t = false) :
    ∀ c ∈ t.shown [.condition, .stringList, .numberList, .value], isNumeric c = false := by
  intro c hc
  cases t with
  | word run => exact word_not_isNumeric hc
  | number numeral => cases h
  | value label => exact placeholder_not_isNumeric .value c hc
  | numberList first second more => exact placeholder_not_isNumeric .numberList c hc
  | stringList first second more => exact placeholder_not_isNumeric .stringList c hc
  | condition condition => exact placeholder_not_isNumeric .condition c hc

theorem separates_number :
    Separates (matcher .number) (Token.shown [.condition, .stringList, .numberList, .value])
      (isOfKind .number) where
  space := numberMatcher_of_not_isNumeric (by decide : isNumeric ' ' = false)
  ne_nil := by
    intro t ht
    cases t <;> cases ht
    case number numeral => exact numeral.chars_ne_nil
  span := by
    intro t ht before hbefore ts
    cases t <;> cases ht
    case number numeral => exact numberMatcher_chars numeral hbefore (atBreak_trailing _ ts)
  skips := by
    intro t ht before _ ts
    apply Matcher.skips_of_forall
    exact fun c hc => numberMatcher_of_not_isNumeric (not_isNumeric_of_shown ht c hc)

end Passes

theorem shown_liftOrder (t : Token) :
    t.shown EntityKind.liftOrder = t.shown EntityKind.groundOrder := by
  unfold Token.shown
  cases t.kind? with
  | none => rfl
  | some kind =>
    simp only [if_pos (EntityKind.mem_liftOrder kind), if_pos (EntityKind.mem_groundOrder kind)]

theorem liftKinds_spaced (ts : List Token) :
    liftKinds EntityKind.liftOrder (spaced (Token.shown []) ts) =
      (spaced (Token.shown EntityKind.liftOrder) ts,
        EntityKind.liftOrder.map fun kind =>
          (kind, (ts.filter (isOfKind kind)).map Token.entityChars)) := by
  have hcondition := liftKind_spaced (by decide) separates_condition ts
  have hstringList := liftKind_spaced (by decide) separates_stringList ts
  have hnumberList := liftKind_spaced (by decide) separates_numberList ts
  have hvalue := liftKind_spaced (by decide) separates_value ts
  have hnumber := liftKind_spaced (by decide) separates_number ts
  simp only [List.nil_append, List.cons_append] at hcondition hstringList hnumberList hvalue hnumber
  simp only [EntityKind.liftOrder, liftKinds, hcondition, hstringList, hnumberList, hvalue, hnumber,
    List.map_cons, List.map_nil]

theorem lookup_map_liftOrder (found : EntityKind → List (List Char)) (kind : EntityKind) :
    (EntityKind.liftOrder.map fun k => (k, found k)).lookup kind = some (found kind) := by
  cases kind <;> rfl

theorem lift_text (ts : List Token) : lift (text ts) = ⟨template ts, entities ts⟩ := by
  have htext : (text ts).toList = spaced (Token.shown []) ts := toList_render [] ts
  have htemplate : String.ofList (spaced (Token.shown EntityKind.liftOrder) ts) = template ts := by
    apply String.toList_injective
    rw [String.toList_ofList, template, toList_render, funext shown_liftOrder]
  unfold lift
  simp only [htext, liftKinds_spaced, htemplate, lookup_map_liftOrder, Option.getD_some, List.map_map]
  rfl

end TablePhrase.Phrase
