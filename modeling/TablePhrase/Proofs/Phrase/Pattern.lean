import Mathlib.Data.List.Chain
import TablePhrase.Proofs.Phrase.Lifting

/-!
Templates in which some values are written out: words, slots and literals with single spaces between
them. Lifting finds the literals, in their order, and nothing else. Only where a literal stands
directly behind a slot, the bracket that closes the slot would make a condition with it.
-/

namespace TablePhrase

namespace Unicode

def Ranges.areApart (ranges others : Ranges) : Bool :=
  ranges.all fun (first, last) => others.all fun (low, high) => last.blt low || high.blt first

theorem Ranges.not_contains_of_areApart {ranges others : Ranges}
    (h : ranges.areApart others = true) {c : Char} (hc : ranges.contains c = true) :
    others.contains c = false := by
  rw [contains, List.any_eq_false]
  obtain ⟨⟨first, last⟩, hrange, hbounds⟩ := List.any_eq_true.mp hc
  rintro ⟨low, high⟩ hother
  have hapart := List.all_eq_true.mp (List.all_eq_true.mp h _ hrange) _ hother
  simp only [Bool.or_eq_true, Bool.and_eq_true, decide_eq_true_eq, Nat.blt_eq] at hbounds hapart ⊢
  omega

theorem areApart_alphabetic_decimal : alphabeticRanges.areApart decimalRanges = true := by
  decide +kernel

theorem isDecimal_ascii :
    ∀ n < 0x80, isAlphabetic (Char.ofNat n) = true → isDecimal (Char.ofNat n) = false := by
  decide +kernel

theorem isDigit_of_isAlphabetic {c : Char} (h : isAlphabetic c = true) : isDigit c = false := by
  have hdecimal : isDecimal c = false := by
    by_cases hascii : c.toNat < 0x80
    · rw [← Char.ofNat_toNat c] at h ⊢
      exact isDecimal_ascii c.toNat hascii h
    · rw [isAlphabetic, if_neg hascii] at h
      rw [isDecimal, if_neg hascii]
      exact Ranges.not_contains_of_areApart areApart_alphabetic_decimal h
  rw [isDigit, hdecimal]
  rfl

end Unicode

namespace Pattern

open Lifting Phrase Text

/-- A word of letters, the placeholder of an entity, or a value of letters in double quotes. -/
inductive Part
  | word (run : Run Unicode.isAlphabetic)
  | slot (kind : EntityKind)
  | literal (letters : Run Unicode.isAlphabetic)

namespace Part

def isSlot : Part → Bool
  | slot _ => true
  | _ => false

def literal? : Part → Option String
  | literal letters => some (String.ofList letters.chars)
  | _ => none

def isLiteral (p : Part) : Bool :=
  p.literal?.isSome

def chars : Part → List Char
  | word run => run.chars
  | slot kind => kind.placeholder.toList
  | literal letters => inQuotes letters.chars

def lifted : Part → List Char
  | literal _ => EntityKind.value.placeholder.toList
  | p => p.chars

end Part

def text (parts : List Part) : String :=
  join " " (parts.map fun p => String.ofList p.chars)

def template (parts : List Part) : String :=
  join " " (parts.map fun p => String.ofList p.lifted)

def literals (parts : List Part) : List String :=
  parts.filterMap Part.literal?

/-- No literal stands directly behind a slot. -/
def IsLiftable (parts : List Part) : Prop :=
  parts.IsChain fun p q => p.isSlot = true → q.isLiteral = false

instance (parts : List Part) : Decidable (IsLiftable parts) :=
  inferInstanceAs (Decidable (parts.IsChain _))

theorem hasNoMarks_isAlphabetic : HasNoMarks Unicode.isAlphabetic := by
  unfold HasNoMarks
  decide

theorem isNumeric_of_isAlphabetic {c : Char} (h : Unicode.isAlphabetic c = true) :
    isNumeric c = false := by
  have hne (d : Char) (hd : Unicode.isAlphabetic d = false) : (c == d) = false := by
    rw [beq_eq_false_iff_ne]
    rintro rfl
    rw [h] at hd
    cases hd
  rw [isNumeric, Unicode.isDigit_of_isAlphabetic h, hne '-' (by decide), hne '+' (by decide),
    hne '.' (by decide), hne '/' (by decide)]
  rfl

section Letters
variable {letters : Run Unicode.isAlphabetic}

theorem not_mem_marks {c : Char} (h : c ∈ letters.chars) : c ∉ marks :=
  hasNoMarks_isAlphabetic.not_mem (letters.all c h)

theorem isContent (letters : Run Unicode.isAlphabetic) : IsContent letters.chars :=
  hasNoMarks_isAlphabetic.isContent letters

end Letters

section Skips
variable {m : Matcher} {piece : Part → List Char}

theorem skips_trailing (hspace : ∀ before rest, m before (' ' :: rest) = none)
    (hpart : ∀ p ps, IsLiftable (p :: ps) → ∀ before, m.Skips before (piece p) (trailing piece ps))
    {parts : List Part} (h : IsLiftable parts) (before : List Char) :
    m.Skips before (trailing piece parts) [] := by
  induction parts generalizing before with
  | nil => trivial
  | cons p ps ih =>
    have hskips := hpart p ps h (' ' :: before)
    rw [← List.append_nil (trailing piece ps)] at hskips
    refine ⟨hspace before _, Matcher.skips_append.mpr ⟨hskips, ih h.tail _⟩⟩

theorem skips_spaced (hspace : ∀ before rest, m before (' ' :: rest) = none)
    (hpart : ∀ p ps, IsLiftable (p :: ps) → ∀ before, m.Skips before (piece p) (trailing piece ps))
    {parts : List Part} (h : IsLiftable parts) : m.Skips [] (spaced piece parts) [] := by
  cases parts with
  | nil => trivial
  | cons p ps =>
    have hskips := hpart p ps h []
    rw [← List.append_nil (trailing piece ps)] at hskips
    exact Matcher.skips_append.mpr ⟨hskips, skips_trailing hspace hpart h.tail _⟩

end Skips

section Passes
variable {p : Part} {ps parts : List Part}

theorem unquoted_trailing (hp : p.isSlot = true) (h : IsLiftable (p :: ps)) :
    Unquoted (trailing Part.chars ps) := by
  cases ps with
  | nil => nofun
  | cons q ps =>
    have hq : q.isLiteral = false := (List.isChain_cons_cons.mp h).1 hp
    show ∀ c ∈ (q.chars ++ trailing Part.chars ps).head?, c ≠ '"' ∧ c ≠ '\''
    cases q with
    | word run =>
      obtain ⟨c, rest, hrun⟩ := List.exists_cons_of_ne_nil run.ne_nil
      rw [Part.chars, hrun]
      rintro _ ⟨⟩
      exact ne_quotes_of_not_mem_marks (not_mem_marks (hrun ▸ List.mem_cons_self))
    | slot kind =>
      rw [Part.chars, EntityKind.placeholder_toList]
      rintro _ ⟨⟩
      decide
    | literal letters => cases hq

theorem skips_condition (p : Part) (ps : List Part) (h : IsLiftable (p :: ps))
    (before : List Char) : conditionMatcher.Skips before p.chars (trailing Part.chars ps) := by
  cases p with
  | word run =>
    apply Matcher.skips_of_forall
    exact fun c hc =>
      conditionMatcher_of_not_isOperator (isOperator_of_not_mem_marks (not_mem_marks hc))
  | slot kind => exact skips_placeholder kind before (atBreak_trailing _ ps) (unquoted_trailing rfl h)
  | literal letters =>
    apply Matcher.skips_of_forall
    intro c hc
    apply conditionMatcher_of_not_isOperator
    rcases mem_inQuotes hc with rfl | hc
    · rfl
    · exact isOperator_of_not_mem_marks (not_mem_marks hc)

theorem ne_quotes_chars (hp : p.isLiteral = false) : ∀ c ∈ p.chars, c ≠ '"' ∧ c ≠ '\'' := by
  cases p with
  | word run => exact fun c hc => ne_quotes_of_not_mem_marks (not_mem_marks hc)
  | slot kind => exact placeholder_ne_quotes kind
  | literal letters => cases hp

theorem exists_eq_literal (hp : p.isLiteral = true) : ∃ letters, p = .literal letters := by
  cases p <;> cases hp
  exact ⟨_, rfl⟩

theorem beforeComma_afterQuote_trailing_chars (ps : List Part) :
    beforeComma (afterQuote '"' (trailing Part.chars ps)) = false := by
  induction ps with
  | nil => rfl
  | cons p ps ih =>
    show beforeComma (afterQuote '"' (' ' :: (p.chars ++ trailing Part.chars ps))) = false
    cases hp : p.isLiteral with
    | true =>
      obtain ⟨letters, rfl⟩ := exists_eq_literal hp
      exact beforeComma_afterQuote_inQuotes (isContent letters) _
    | false =>
      have hquote : '"' ∉ ' ' :: p.chars := by
        apply List.not_mem_cons_of_ne_of_not_mem (by decide)
        exact fun hmem => (ne_quotes_chars hp '"' hmem).1 rfl
      rw [← List.cons_append, afterQuote_append hquote]
      exact ih

theorem skips_stringList (p : Part) (ps : List Part) (before : List Char) :
    stringListMatcher.Skips before p.chars (trailing Part.chars ps) := by
  cases hp : p.isLiteral with
  | true =>
    obtain ⟨letters, rfl⟩ := exists_eq_literal hp
    exact skips_inQuotes (isContent letters) before (atBreak_trailing _ ps)
      (beforeComma_afterQuote_trailing_chars ps)
  | false =>
    apply Matcher.skips_of_forall
    intro c hc
    obtain ⟨hdouble, hsingle⟩ := ne_quotes_chars hp c hc
    exact stringListMatcher_of_ne hdouble hsingle

theorem not_mem_comma_chars (p : Part) : ',' ∉ p.chars := by
  intro hc
  cases p with
  | word run => exact ne_comma_of_not_mem_marks (not_mem_marks hc) rfl
  | slot kind => exact placeholder_not_mem_comma kind hc
  | literal letters =>
    rcases mem_inQuotes hc with hc | hc
    · cases hc
    · exact ne_comma_of_not_mem_marks (not_mem_marks hc) rfl

theorem skips_numberList (p : Part) (ps : List Part) (before : List Char) :
    numberListMatcher.Skips before p.chars (trailing Part.chars ps) :=
  numberListMatcher_skips before (not_mem_comma_chars p) (atBreak_trailing _ ps)

theorem separates_literals : Separates (matcher .value) Part.chars Part.isLiteral where
  space := valueMatcher_of_ne (by decide : ' ' ≠ '"') (by decide)
  ne_nil := by
    intro p hp
    obtain ⟨letters, rfl⟩ := exists_eq_literal hp
    exact List.cons_ne_nil _ _
  span := by
    intro p hp before _ ps
    obtain ⟨letters, rfl⟩ := exists_eq_literal hp
    exact valueMatcher_inQuotes (isContent letters) before (atBreak_trailing _ ps)
  skips := by
    intro p hp before _ ps
    apply Matcher.skips_of_forall
    exact fun c hc => valueMatcher_of_ne (ne_quotes_chars hp c hc).1 (ne_quotes_chars hp c hc).2

theorem lifted_not_isNumeric (p : Part) : ∀ c ∈ p.lifted, isNumeric c = false := by
  intro c hc
  cases p with
  | word run => exact isNumeric_of_isAlphabetic (run.all c hc)
  | slot kind => exact placeholder_not_isNumeric kind c hc
  | literal letters => exact placeholder_not_isNumeric .value c hc

theorem skips_number (p : Part) (ps : List Part) (before : List Char) :
    numberMatcher.Skips before p.lifted (trailing Part.lifted ps) := by
  apply Matcher.skips_of_forall
  exact fun c hc => numberMatcher_of_not_isNumeric (lifted_not_isNumeric p c hc)

theorem liftKind_of_skips {kind : EntityKind} {text : List Char}
    (h : (matcher kind).Skips [] text []) : liftKind kind text = (text, []) := by
  have hcut := Matcher.cutAfter_append_of_skips h
  rw [List.append_nil, Matcher.cutAfter_nil] at hcut
  rw [liftKind, Matcher.cut, hcut]
  simp [Cut.prepend, Cut.fill, Cut.found]

theorem filled_literals :
    Separates.filled Part.chars Part.isLiteral (fun _ => EntityKind.value.placeholder.toList) =
      Part.lifted := by
  funext p
  cases p <;> rfl

theorem map_spanText_literals (parts : List Part) :
    (((parts.filter Part.isLiteral).map Part.chars).map (spanText .value)).map String.ofList =
      literals parts := by
  induction parts with
  | nil => rfl
  | cons p ps ih =>
    cases p with
    | literal letters =>
      have hstrip : stripQuotes (inQuotes letters.chars) = letters.chars := by
        simp [inQuotes, stripQuotes]
      show String.ofList (stripQuotes (inQuotes letters.chars)) :: _ = String.ofList _ :: _
      rw [hstrip, ih]
      rfl
    | word run => exact ih
    | slot kind => exact ih

theorem liftKind_value (parts : List Part) :
    liftKind .value (spaced Part.chars parts) =
      (spaced Part.lifted parts,
        ((parts.filter Part.isLiteral).map Part.chars).map (spanText .value)) := by
  obtain ⟨hfill, hfound⟩ :=
    separates_literals.cut_spaced parts fun _ => EntityKind.value.placeholder.toList
  rw [filled_literals] at hfill
  unfold liftKind
  simp only [hfill, hfound]

theorem liftKinds_spaced_chars (h : IsLiftable parts) :
    liftKinds EntityKind.liftOrder (spaced Part.chars parts) =
      (spaced Part.lifted parts,
        EntityKind.liftOrder.map fun kind =>
          (kind, if kind = .value then
            ((parts.filter Part.isLiteral).map Part.chars).map (spanText .value) else [])) := by
  have hcondition : liftKind .condition (spaced Part.chars parts) = (spaced Part.chars parts, []) :=
    liftKind_of_skips (skips_spaced
      (conditionMatcher_of_not_isOperator (by decide : isOperator ' ' = false)) skips_condition h)
  have hstringList : liftKind .stringList (spaced Part.chars parts) =
      (spaced Part.chars parts, []) :=
    liftKind_of_skips (skips_spaced
      (stringListMatcher_of_ne (by decide : ' ' ≠ '"') (by decide))
      (fun p ps _ => skips_stringList p ps) h)
  have hnumberList : liftKind .numberList (spaced Part.chars parts) =
      (spaced Part.chars parts, []) :=
    liftKind_of_skips (skips_spaced
      (numberListMatcher_of_not_isNumeric (by decide : isNumeric ' ' = false))
      (fun p ps _ => skips_numberList p ps) h)
  have hnumber : liftKind .number (spaced Part.lifted parts) = (spaced Part.lifted parts, []) :=
    liftKind_of_skips (skips_spaced
      (numberMatcher_of_not_isNumeric (by decide : isNumeric ' ' = false))
      (fun p ps _ => skips_number p ps) h)
  simp only [EntityKind.liftOrder, liftKinds, hcondition, hstringList, hnumberList,
    liftKind_value, hnumber, List.map_cons, List.map_nil]
  rfl

end Passes

theorem lift_pattern {parts : List Part} (h : IsLiftable parts) :
    lift (text parts) = ⟨template parts, .ofKind .value (literals parts)⟩ := by
  have htext : (text parts).toList = spaced Part.chars parts := toList_join_space _ parts
  have htemplate : String.ofList (spaced Part.lifted parts) = template parts := by
    apply String.toList_injective
    rw [String.toList_ofList, template, toList_join_space]
  unfold lift
  simp only [htext, liftKinds_spaced_chars h, htemplate, lookup_map_liftOrder, Option.getD_some]
  congr 1
  apply EntityTexts.ext_get
  intro kind
  rw [EntityTexts.ofKind, EntityTexts.get_ofFn, EntityTexts.get_ofFn]
  split
  · exact map_spanText_literals parts
  · rfl

section Template

def Part.emptied : Part → Part
  | literal _ => slot .value
  | p => p

theorem chars_emptied (p : Part) : p.emptied.chars = p.lifted := by
  cases p <;> rfl

theorem isLiteral_emptied (p : Part) : p.emptied.isLiteral = false := by
  cases p <;> rfl

theorem spaced_emptied (parts : List Part) :
    spaced Part.chars (parts.map Part.emptied) = spaced Part.lifted parts := by
  rw [spaced_map, funext chars_emptied]

theorem isLiftable_emptied (parts : List Part) : IsLiftable (parts.map Part.emptied) := by
  rw [IsLiftable, List.isChain_map]
  have hliteral (p q : Part) : p.emptied.isSlot = true → q.emptied.isLiteral = false :=
    fun _ => isLiteral_emptied q
  exact (List.pairwise_of_forall hliteral).isChain

theorem plain_of_mem_spaced_lifted {parts : List Part} {c : Char}
    (h : c ∈ spaced Part.lifted parts) : (c ≠ '"' ∧ c ≠ '\'') ∧ isNumeric c = false := by
  rcases mem_spaced h with rfl | ⟨p, -, hc⟩
  · decide
  · refine ⟨?_, lifted_not_isNumeric p c hc⟩
    rw [← chars_emptied] at hc
    exact ne_quotes_chars (isLiteral_emptied p) c hc

theorem liftKind_spaced_lifted (kind : EntityKind) (parts : List Part) :
    liftKind kind (spaced Part.lifted parts) = (spaced Part.lifted parts, []) := by
  apply liftKind_of_skips
  cases kind with
  | condition =>
    rw [← spaced_emptied]
    exact skips_spaced (conditionMatcher_of_not_isOperator (by decide : isOperator ' ' = false))
      skips_condition (isLiftable_emptied parts)
  | stringList =>
    apply Matcher.skips_of_forall
    intro c hc
    obtain ⟨⟨hdouble, hsingle⟩, -⟩ := plain_of_mem_spaced_lifted hc
    exact stringListMatcher_of_ne hdouble hsingle
  | value =>
    apply Matcher.skips_of_forall
    intro c hc
    obtain ⟨⟨hdouble, hsingle⟩, -⟩ := plain_of_mem_spaced_lifted hc
    exact valueMatcher_of_ne hdouble hsingle
  | numberList =>
    apply Matcher.skips_of_forall
    exact fun c hc => numberListMatcher_of_not_isNumeric (plain_of_mem_spaced_lifted hc).2
  | number =>
    apply Matcher.skips_of_forall
    exact fun c hc => numberMatcher_of_not_isNumeric (plain_of_mem_spaced_lifted hc).2

theorem liftKinds_of_fixed {text : List Char} (h : ∀ kind, liftKind kind text = (text, []))
    (kinds : List EntityKind) : liftKinds kinds text = (text, kinds.map fun kind => (kind, [])) := by
  induction kinds with
  | nil => rfl
  | cons kind kinds ih =>
    rw [liftKinds, h kind]
    simp only [ih, List.map_cons]

/-- A template of words and placeholders is left as it is, by every pass and by all of them. -/
theorem lift_template (parts : List Part) :
    (∀ kind, liftPass kind (template parts) = (template parts, [])) ∧
      lift (template parts) = ⟨template parts, .empty⟩ := by
  have htemplate : (template parts).toList = spaced Part.lifted parts := toList_join_space _ parts
  have hfixed (kind : EntityKind) :
      liftKind kind (template parts).toList = ((template parts).toList, []) := by
    rw [htemplate]
    exact liftKind_spaced_lifted kind parts
  constructor
  · intro kind
    rw [liftPass, hfixed kind]
    simp only [String.ofList_toList, List.map_nil]
  · unfold lift
    simp only [liftKinds_of_fixed hfixed, lookup_map_liftOrder, Option.getD_some, List.map_nil,
      String.ofList_toList]
    rfl

end Template
end Pattern
end TablePhrase
