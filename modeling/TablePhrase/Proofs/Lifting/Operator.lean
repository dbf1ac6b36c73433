import TablePhrase.Lifting.Condition
import TablePhrase.Proofs.Lifting.Quotation

/-!
The operators of conditions. Whatever condition is matched has all the operators that it starts
with, be it as its operator run or, if no operand follows them, the last of them as its operand.
-/

namespace TablePhrase.Lifting

def BeginsQuoted (text : List Char) : Prop :=
  ∃ (quote : Char) (content rest : List Char), (quote = '"' ∨ quote = '\'') ∧
    content ≠ [] ∧ (∀ c ∈ content, isOperandChar c = true) ∧
    text = quote :: (content ++ quote :: rest)

section Run
variable {before run rest : List Char} {length : Nat}

theorem beginsQuoted_of_operandsLength {fuel : Nat} {text : List Char}
    (h : operandsLength fuel text ≠ 0) : BeginsQuoted text := by
  unfold operandsLength at h
  split at h
  · exact absurd rfl h
  · next fuel quote text =>
    split at h
    · next hquote =>
      split at h
      · next inner hinner =>
        obtain ⟨content, rest, rfl, hne, hcontent, -⟩ := exists_of_closedRun?_eq_some hinner
        exact ⟨quote, content, rest, by simpa using hquote, hne, hcontent, rfl⟩
      · exact absurd rfl h
    · exact absurd rfl h
  · exact absurd rfl h

theorem of_quotedCondition? (hrun : ∀ c ∈ run, isOperator c = true)
    (hstop : ∀ c ∈ rest.head?, isOperator c = false)
    (h : quotedCondition? (run ++ rest) = some length) :
    run ≠ [] ∧ run.length ≤ length ∧ BeginsQuoted (rest.drop (spaceLength rest)) := by
  simp only [quotedCondition?, Text.takeWhile_append_of_stops hrun hstop, List.drop_left] at h
  split at h
  · cases h
  · next hne =>
    split at h
    · cases h
    · next hoperands =>
      cases h
      refine ⟨fun hnil => hne (congrArg List.length hnil), ?_,
        beginsQuoted_of_operandsLength hoperands⟩
      rw [Nat.add_assoc]
      exact Nat.le_add_right _ _

theorem isSpace_of_isOperator {c : Char} (h : isOperator c = true) :
    Unicode.isSpace c = false := by
  simp only [isOperator, Bool.or_eq_true, beq_iff_eq] at h
  rcases h with ((rfl | rfl) | rfl) | rfl <;> rfl

theorem spaceLength_of_ne {c : Char} (h : c ≠ ' ') (rest : List Char) :
    spaceLength (c :: rest) = 0 := by
  unfold spaceLength
  split
  · next heq =>
    cases heq
    exact absurd rfl h
  · rfl

def bareLength (text : List Char) : Nat :=
  spaceLength text + ((text.drop (spaceLength text)).takeWhile (!Unicode.isSpace ·)).length

theorem length_le_bareLength (hrun : ∀ c ∈ run, isOperator c = true) (rest : List Char) :
    run.length ≤ bareLength (run ++ rest) := by
  cases run with
  | nil => exact Nat.zero_le _
  | cons c run =>
    have hplain : ∀ d ∈ c :: run, (!Unicode.isSpace d) = true := by
      intro d hd
      rw [isSpace_of_isOperator (hrun d hd)]
      rfl
    have hne : c ≠ ' ' := by
      rintro rfl
      exact absurd (hplain ' ' List.mem_cons_self) (by decide)
    have hspace : spaceLength (c :: run ++ rest) = 0 := spaceLength_of_ne hne (run ++ rest)
    rw [bareLength, hspace, List.drop_zero, List.takeWhile_append_of_pos hplain, Nat.zero_add,
      List.length_append]
    exact Nat.le_add_right _ _

theorem of_bareFrom (hrun : ∀ c ∈ run, isOperator c = true) {bound : Nat}
    (hbound : bound ≤ run.length) (h : bareFrom before (run ++ rest) bound = some length) :
    run ≠ [] ∧ run.length ≤ length ∧
      (run.length = 1 → endsPlaceholder (run.reverse ++ before) = false) := by
  induction bound with
  | zero => cases h
  | succ bound ih =>
    rw [bareFrom] at h
    split at h
    · exact ih (Nat.le_of_succ_le hbound) h
    · next hends =>
      rw [Bool.or_eq_true, not_or] at hends
      refine ⟨?_, ?_, ?_⟩
      · rintro rfl
        cases hbound
      · have hleft : ∀ c ∈ run.drop (bound + 1), isOperator c = true := fun c hc =>
          hrun c (List.mem_of_mem_drop hc)
        have hoperand := length_le_bareLength hleft rest
        rw [← List.drop_append_of_le_length hbound, bareLength, List.length_drop] at hoperand
        rw [Option.some.injEq] at h
        omega
      · intro hone
        have hwhole : (run ++ rest).take (bound + 1) = run := by
          rw [show bound + 1 = run.length by omega, List.take_left]
        rw [hwhole] at hends
        exact Bool.eq_false_iff.mpr hends.1

theorem of_conditionMatcher (hrun : ∀ c ∈ run, isOperator c = true)
    (hstop : ∀ c ∈ rest.head?, isOperator c = false)
    (h : conditionMatcher before (run ++ rest) = some length) :
    run ≠ [] ∧ run.length ≤ length ∧
      (run.length = 1 → endsPlaceholder (run.reverse ++ before) = true →
        BeginsQuoted (rest.drop (spaceLength rest))) := by
  unfold conditionMatcher at h
  split at h
  · next quoted hquoted =>
    cases h
    obtain ⟨hne, hle, hbegins⟩ := of_quotedCondition? hrun hstop hquoted
    exact ⟨hne, hle, fun _ _ => hbegins⟩
  · rw [bareCondition?, Text.takeWhile_append_of_stops hrun hstop] at h
    split at h
    · cases h
    · obtain ⟨hne, hle, hends⟩ := of_bareFrom hrun (Nat.le_refl _) h
      refine ⟨hne, hle, fun hone htrue => ?_⟩
      rw [hends hone] at htrue
      cases htrue

end Run

end TablePhrase.Lifting
