import TablePhrase.Proofs.Entity.Placeholder
import TablePhrase.Proofs.Lifting.Cut
import TablePhrase.Proofs.Lifting.Operator
import TablePhrase.Proofs.Phrase.Quote
import TablePhrase.Proofs.Phrase.Token

/-!
How conditions are matched. The operator is the longest run of operator characters, because neither
a guard nor a placeholder can end in it: each of them closes behind letters, and no operator
character follows the letters of an operand.
-/

namespace TablePhrase.Lifting

open EntityKind (placeholder_toList)
open Text (AtBreak)
open Phrase (Condition Label)

theorem conditionMatcher_of_not_isOperator {c : Char} (h : isOperator c = false)
    (before rest : List Char) : conditionMatcher before (c :: rest) = none := by
  simp [conditionMatcher, quotedCondition?, bareCondition?, bareFrom, h]

/-- The text of a placeholder or a guard, from behind its first operator characters on, closes
before any space. -/
def Closes (token : List Char) : Prop :=
  '>' ∈ token.dropWhile isOperator ∧ (token.dropWhile isOperator).all (· != ' ') = true

theorem closes_guard : ∀ guard ∈ guards, Closes guard := by
  unfold Closes
  decide

theorem closes_placeholder (kind : EntityKind) : Closes kind.placeholder.toList := by
  unfold Closes
  cases kind <;> decide

theorem not_prefix_of_closes {token operators body rest : List Char} (htoken : Closes token)
    (hoperators : ∀ c ∈ operators, isOperator c = true) (hne : body ≠ [])
    (hbody : ∀ c ∈ body, isOperator c = false) (hrest : AtBreak rest) :
    ¬ token <+: operators ++ (body ++ rest) := by
  rintro ⟨more, htext⟩
  obtain ⟨hclose, hspace⟩ := htoken
  have hdrop := congrArg (List.dropWhile isOperator) htext
  rw [Text.dropWhile_append_of_stops hoperators (Text.stops_append hne hbody), List.dropWhile_append,
    if_neg (by rw [List.isEmpty_iff]; exact List.ne_nil_of_mem hclose)] at hdrop
  have hmem : '>' ∈ (body ++ rest).takeWhile (· != ' ') := by
    rw [← hdrop, List.takeWhile_append_of_pos (List.all_eq_true.mp hspace)]
    exact List.mem_append_left _ hclose
  have hoperator := hbody '>' (hrest.mem_of_mem_takeWhile (by decide) hmem)
  revert hoperator
  decide

theorem isOperator_quoted (l : Label) : ∀ c ∈ l.quoted, isOperator c = false := by
  intro c hc
  rcases Label.mem_quoted hc with rfl | hc
  · rfl
  · exact Phrase.isOperator_of_not_mem_marks (Label.not_mem_marks hc)

theorem isOperator_operand (o : Phrase.Operand) : ∀ c ∈ o.chars, isOperator c = false := by
  cases o with
  | quoted label => exact isOperator_quoted label
  | bare run =>
    intro c hc
    apply Phrase.isOperator_of_not_mem_marks
    exact Phrase.hasNoMarks_isLetterOrDigit.not_mem (run.all c hc)

theorem exists_operand_eq_cons (o : Phrase.Operand) : ∃ c tail, o.chars = c :: tail ∧ c ≠ ' ' := by
  cases o with
  | quoted label => exact ⟨'"', _, rfl, by decide⟩
  | bare run =>
    obtain ⟨c, tail, hchars⟩ := List.exists_cons_of_ne_nil run.ne_nil
    refine ⟨c, tail, hchars, ?_⟩
    rintro rfl
    have hspace := run.all ' ' (hchars ▸ List.mem_cons_self)
    revert hspace
    decide

section Body
variable (c : Condition) {rest : List Char}

theorem isOperator_body : ∀ d ∈ c.body, isOperator d = false := by
  intro d hd
  rcases List.mem_append.mp hd with hd | hd
  · split at hd
    · rw [List.mem_singleton.mp hd]
      rfl
    · cases hd
  · exact isOperator_operand c.operand d hd

theorem body_ne_nil : c.body ≠ [] := by
  obtain ⟨d, tail, hoperand, -⟩ := exists_operand_eq_cons c.operand
  rw [Condition.body, hoperand]
  simp

theorem spaceLength_body (rest : List Char) :
    spaceLength (c.body ++ rest) = if c.isSpaced then 1 else 0 := by
  obtain ⟨d, tail, hoperand, hd⟩ := exists_operand_eq_cons c.operand
  rw [Condition.body, hoperand]
  cases c.isSpaced with
  | true => rfl
  | false => exact spaceLength_of_ne hd (tail ++ rest)

theorem drop_body (rest : List Char) :
    (c.body ++ rest).drop (if c.isSpaced then 1 else 0) = c.operand.chars ++ rest := by
  rw [Condition.body]
  cases c.isSpaced <;> rfl

theorem length_body : c.body.length = (if c.isSpaced then 1 else 0) + c.operand.chars.length := by
  rw [Condition.body, List.length_append]
  cases c.isSpaced <;> rfl

theorem takeWhile_isOperator (rest : List Char) :
    (c.operator.chars ++ (c.body ++ rest)).takeWhile isOperator = c.operator.chars :=
  Text.takeWhile_append_of_stops c.operator.all
    (Text.stops_append (body_ne_nil c) (isOperator_body c))

end Body

section Operands
variable {rest : List Char}

theorem operandsLength_of_ne {c : Char} (hdouble : c ≠ '"') (hsingle : c ≠ '\'') (fuel : Nat)
    (rest : List Char) : operandsLength fuel (c :: rest) = 0 := by
  cases fuel <;> simp [operandsLength, hdouble, hsingle]

theorem operandsLength_of_atBreak (fuel : Nat) (h : AtBreak rest) : operandsLength fuel rest = 0 := by
  rcases h.eq_nil_or_space with rfl | ⟨rest, rfl⟩
  · cases fuel <;> rfl
  · exact operandsLength_of_ne (by decide) (by decide) fuel rest

theorem isOperandChar_of_not_mem_marks {c : Char} (h : c ∉ Phrase.marks) :
    isOperandChar c = true := by
  simp only [Phrase.marks, List.mem_cons, not_or] at h
  simp [isOperandChar, h]

theorem operandsLength_quoted (l : Label) {fuel : Nat} (hfuel : fuel ≠ 0) (hrest : AtBreak rest) :
    operandsLength fuel (l.quoted ++ rest) = l.quoted.length := by
  obtain ⟨fuel, rfl⟩ := Nat.exists_eq_succ_of_ne_zero hfuel
  have hrun := closedRun?_append l.chars_ne_nil
    (fun c hc => isOperandChar_of_not_mem_marks (Label.not_mem_marks hc))
    (by decide : isOperandChar '"' = false) rest
  have hdrop : (l.chars ++ '"' :: rest).drop (l.chars.length + 1) = rest := by
    rw [← List.drop_drop, List.drop_left]
    rfl
  rw [Label.quoted, List.cons_append, List.append_assoc, List.singleton_append]
  simp only [operandsLength, hrun, hdrop, operandsLength_of_atBreak fuel hrest]
  simp

end Operands

section Match
variable (c : Condition) {before rest : List Char}

theorem quotedCondition?_of_operands {length : Nat}
    (hoperands : operandsLength (c.body ++ rest).length (c.operand.chars ++ rest) = length) :
    quotedCondition? (c.operator.chars ++ (c.body ++ rest)) =
      if length = 0 then none
      else some (c.operator.chars.length + (if c.isSpaced then 1 else 0) + length) := by
  have hne : c.operator.chars.length ≠ 0 := List.length_eq_zero_iff.not.mpr c.operator.ne_nil
  unfold quotedCondition?
  simp only [takeWhile_isOperator, if_neg hne, List.drop_left, spaceLength_body, drop_body,
    hoperands]

theorem endsPlaceholder_eq_false (hbefore : AtBreak before) :
    endsPlaceholder (c.operator.chars.reverse ++ before) = false := by
  unfold endsPlaceholder placeholders
  rw [List.any_eq_false]
  intro token htoken
  obtain ⟨kind, -, rfl⟩ := List.mem_map.mp htoken
  obtain ⟨d, tail, hreverse, hoperator, hspace⟩ : ∃ d tail,
      kind.placeholder.toList.reverse = '>' :: d :: tail ∧ isOperator d = false ∧ d ≠ ' ' := by
    cases kind <;> exact ⟨_, _, rfl, by decide, by decide⟩
  rw [hreverse, List.isPrefixOf_iff_prefix]
  rintro ⟨more, htext⟩
  cases hoperators : c.operator.chars.reverse with
  | nil => exact c.operator.ne_nil (List.reverse_eq_nil_iff.mp hoperators)
  | cons first others =>
    rw [hoperators] at htext
    -- before the last operator character stands another one, a space or nothing, but no letter
    cases others with
    | nil =>
      cases before with
      | nil => cases htext
      | cons e before =>
        cases htext
        exact hspace (hbefore _ rfl)
    | cons second others =>
      have hsecond : second ∈ c.operator.chars := by
        rw [← List.mem_reverse, hoperators]
        exact List.mem_cons_of_mem first List.mem_cons_self
      simp only [List.cons_append, List.cons.injEq] at htext
      rw [htext.2.1, c.operator.all second hsecond] at hoperator
      cases hoperator

theorem bareFrom_append {run rest : List Char} {operand : Nat} (hne : run ≠ [])
    (hends : endsPlaceholder (run.reverse ++ before) = false)
    (hoperand : ((rest.drop (spaceLength rest)).takeWhile (!Unicode.isSpace ·)).length = operand)
    (hpos : operand ≠ 0) :
    bareFrom before (run ++ rest) run.length = some (run.length + spaceLength rest + operand) := by
  cases hrun : run.length with
  | zero => exact absurd (List.length_eq_zero_iff.mp hrun) hne
  | succ length =>
    rw [bareFrom, ← hrun]
    simp only [List.take_left, List.drop_left, hends, hoperand]
    simp [hpos]

theorem bareCondition?_of_bare {run : Phrase.Run Phrase.isLetterOrDigit}
    (hoperand : c.operand = .bare run) (hbefore : AtBreak before) (hrest : AtBreak rest) :
    bareCondition? before (c.operator.chars ++ (c.body ++ rest)) =
      some (c.operator.chars.length + c.body.length) := by
  have hguard : guards.any (·.isPrefixOf (c.operator.chars ++ (c.body ++ rest))) = false := by
    rw [List.any_eq_false]
    intro guard hguard
    rw [List.isPrefixOf_iff_prefix]
    exact not_prefix_of_closes (closes_guard guard hguard) c.operator.all (body_ne_nil c)
      (isOperator_body c) hrest
  have hrun : ((c.body ++ rest).drop (spaceLength (c.body ++ rest))).takeWhile
      (!Unicode.isSpace ·) = c.operand.chars := by
    rw [spaceLength_body, drop_body, hoperand]
    apply Text.takeWhile_append_of_stops
    · intro d hd
      rw [Phrase.isSpace_of_isLetterOrDigit (run.all d hd)]
      rfl
    · exact hrest.stops (by decide)
  have hne : c.operand.chars.length ≠ 0 := by
    rw [hoperand]
    exact List.length_eq_zero_iff.not.mpr run.ne_nil
  have hbare := bareFrom_append c.operator.ne_nil (endsPlaceholder_eq_false c hbefore)
    (congrArg List.length hrun) hne
  rw [bareCondition?, hguard, takeWhile_isOperator, if_neg Bool.false_ne_true, hbare,
    spaceLength_body, length_body, Nat.add_assoc]

theorem conditionMatcher_chars (hbefore : AtBreak before) (hrest : AtBreak rest) :
    conditionMatcher before (c.chars ++ rest) = some c.chars.length := by
  rw [Condition.chars, List.append_assoc, List.length_append]
  unfold conditionMatcher
  cases hoperand : c.operand with
  | quoted label =>
    have hfuel : (c.body ++ rest).length ≠ 0 := by
      have hbody := List.length_eq_zero_iff.not.mpr (body_ne_nil c)
      rw [List.length_append]
      omega
    have hlength : operandsLength (c.body ++ rest).length (c.operand.chars ++ rest) =
        c.operand.chars.length := by
      rw [hoperand]
      exact operandsLength_quoted label hfuel hrest
    have hpos : c.operand.chars.length ≠ 0 := by
      rw [hoperand]
      exact Nat.succ_ne_zero _
    rw [quotedCondition?_of_operands c hlength, if_neg hpos, length_body, Nat.add_assoc]
  | bare run =>
    have hlength : operandsLength (c.body ++ rest).length (c.operand.chars ++ rest) = 0 := by
      obtain ⟨d, tail, hrun⟩ := List.exists_cons_of_ne_nil run.ne_nil
      have hd := Phrase.hasNoMarks_isLetterOrDigit.not_mem
        (run.all d (hrun ▸ List.mem_cons_self))
      simp only [Phrase.marks, List.mem_cons, not_or] at hd
      rw [hoperand, Phrase.Operand.chars, hrun]
      exact operandsLength_of_ne hd.2.2.2.2.1 hd.2.2.2.2.2.1 _ _
    rw [quotedCondition?_of_operands c hlength, if_pos rfl]
    exact bareCondition?_of_bare c hoperand hbefore hrest

end Match

section Placeholder
variable {before rest : List Char}

def Unquoted (text : List Char) : Prop :=
  ∀ c ∈ (text.drop (spaceLength text)).head?, c ≠ '"' ∧ c ≠ '\''

theorem Unquoted.not_beginsQuoted (h : Unquoted rest) :
    ¬ BeginsQuoted (rest.drop (spaceLength rest)) := by
  rintro ⟨quote, content, more, hquote, -, -, htext⟩
  obtain ⟨hdouble, hsingle⟩ := h quote (by rw [htext]; rfl)
  exact hquote.elim hdouble hsingle

theorem quotedCondition?_eq_none {c : Char} (hc : isOperator c = true)
    (hstop : ∀ d ∈ rest.head?, isOperator d = false) (h : Unquoted rest) :
    quotedCondition? (c :: rest) = none := by
  rw [Option.eq_none_iff_forall_ne_some]
  intro length hlength
  have hrun : ∀ d ∈ [c], isOperator d = true := List.forall_mem_singleton.mpr hc
  obtain ⟨-, -, hquoted⟩ := of_quotedCondition? hrun hstop hlength
  exact h.not_beginsQuoted hquoted

theorem isOperator_name (kind : EntityKind) : ∀ c ∈ kind.name.toList, isOperator c = false := by
  have hall : kind.name.toList.all (!isOperator ·) = true := by
    cases kind <;> decide
  simpa using hall

theorem exists_name_eq_cons (kind : EntityKind) :
    ∃ d name, kind.name.toList = d :: name ∧ isOperator d = false ∧
      ∀ more, Unquoted (d :: more) := by
  cases kind <;> refine ⟨_, _, rfl, by decide, ?_⟩ <;> rintro more c ⟨⟩ <;> decide

theorem conditionMatcher_opening (kind : EntityKind) (before rest : List Char) :
    conditionMatcher before (kind.placeholder.toList ++ rest) = none := by
  have hquoted : quotedCondition? (kind.placeholder.toList ++ rest) = none := by
    obtain ⟨d, name, hname, hoperator, hunquoted⟩ := exists_name_eq_cons kind
    rw [placeholder_toList, hname]
    apply quotedCondition?_eq_none (by decide) _ (hunquoted _)
    rintro c ⟨⟩
    exact hoperator
  have hguard : guards.any (·.isPrefixOf (kind.placeholder.toList ++ rest)) = true := by
    rw [List.any_eq_true]
    refine ⟨kind.placeholder.toList, List.mem_append_left _ ?_, ?_⟩
    · exact List.mem_map_of_mem kind.mem_groundOrder
    · exact List.isPrefixOf_iff_prefix.mpr (List.prefix_append _ rest)
  simp only [conditionMatcher, hquoted, bareCondition?, if_pos hguard]

theorem conditionMatcher_closing (kind : EntityKind) (hrest : AtBreak rest) (h : Unquoted rest) :
    conditionMatcher (kind.name.toList.reverse ++ '<' :: before) ('>' :: rest) = none := by
  have hstop : ∀ d ∈ rest.head?, isOperator d = false := hrest.stops (by decide)
  have hends : endsPlaceholder ('>' :: (kind.name.toList.reverse ++ '<' :: before)) = true := by
    rw [endsPlaceholder, List.any_eq_true]
    refine ⟨kind.placeholder.toList, List.mem_map_of_mem kind.mem_groundOrder, ?_⟩
    rw [List.isPrefixOf_iff_prefix, placeholder_toList]
    simp
  have hrun : ∀ d ∈ ['>'], isOperator d = true := List.forall_mem_singleton.mpr rfl
  rw [Option.eq_none_iff_forall_ne_some]
  intro length hlength
  obtain ⟨-, -, hquoted⟩ := of_conditionMatcher hrun hstop hlength
  exact h.not_beginsQuoted (hquoted rfl hends)

/-- A placeholder is no part of a condition, unless a quoted text follows. -/
theorem skips_placeholder (kind : EntityKind) (before : List Char) (hrest : AtBreak rest)
    (h : Unquoted rest) : conditionMatcher.Skips before kind.placeholder.toList rest := by
  have hopen := conditionMatcher_opening kind before rest
  rw [placeholder_toList] at hopen ⊢
  refine ⟨hopen, Matcher.skips_append.mpr ⟨?_, conditionMatcher_closing kind hrest h, trivial⟩⟩
  apply Matcher.skips_of_forall
  exact fun c hc => conditionMatcher_of_not_isOperator (isOperator_name kind c hc)

end Placeholder
end TablePhrase.Lifting
