import Mathlib.Data.List.Basic
import TablePhrase.Proofs.Text.Pieces
import TablePhrase.Proofs.Text.Search

/-!
Replacing every occurrence of a needle in a text made of pieces. A piece in which none begins is
kept; what stands before a place that occurrences may cross is replaced by itself up to there.
-/

namespace TablePhrase.Text

variable {needle replacement piece front text rest : List Char}

theorem replaceAll_nil (needle replacement : List Char) :
    replaceAll needle replacement [] = [] := by
  rw [replaceAll]

theorem replaceAll_cons_skip {c : Char} (h : ¬ needle <+: c :: text)
    (replacement : List Char) :
    replaceAll needle replacement (c :: text) = c :: replaceAll needle replacement text := by
  rw [replaceAll, isPrefixOf_eq_false h, if_neg Bool.false_ne_true]

theorem replaceAll_append_of_avoids (h : Avoids needle piece rest) (replacement : List Char) :
    replaceAll needle replacement (piece ++ rest) =
      piece ++ replaceAll needle replacement rest := by
  induction piece with
  | nil => rfl
  | cons c piece ih =>
    rw [List.cons_append, replaceAll_cons_skip h.1, ih h.2]
    rfl

theorem replaceAll_needle_append (hne : needle ≠ []) (replacement rest : List Char) :
    replaceAll needle replacement (needle ++ rest) =
      replacement ++ replaceAll needle replacement rest := by
  obtain ⟨c, tail, rfl⟩ := List.exists_cons_of_ne_nil hne
  have hstarts : (c :: tail).isPrefixOf (c :: (tail ++ rest)) = true :=
    List.isPrefixOf_iff_prefix.mpr (List.prefix_append (c :: tail) rest)
  rw [List.cons_append, replaceAll, if_pos hstarts, List.length_cons, Nat.add_sub_cancel,
    List.drop_left]

section Break

theorem exists_of_not_atBreak (h : ¬ AtBreak text) : ∃ c rest, text = c :: rest ∧ c ≠ ' ' := by
  cases text with
  | nil => exact absurd atBreak_nil h
  | cons c rest =>
    refine ⟨c, rest, rfl, ?_⟩
    rintro rfl
    exact h (atBreak_space rest)

theorem not_atBreak_cons {c : Char} (h : c ≠ ' ') (rest : List Char) : ¬ AtBreak (c :: rest) :=
  fun hbreak => h (hbreak c rfl)

theorem not_atBreak_append (h : ¬ AtBreak text) (rest : List Char) : ¬ AtBreak (text ++ rest) := by
  obtain ⟨c, text, rfl, hc⟩ := exists_of_not_atBreak h
  exact not_atBreak_cons hc _

theorem not_atBreak_replaceAll (hne : needle ≠ []) (hreplacement : ¬ AtBreak replacement)
    (h : ¬ AtBreak text) : ¬ AtBreak (replaceAll needle replacement text) := by
  obtain ⟨c, text, rfl, hc⟩ := exists_of_not_atBreak h
  by_cases hstarts : needle <+: c :: text
  · obtain ⟨after, hafter⟩ := hstarts
    rw [← hafter, replaceAll_needle_append hne]
    exact not_atBreak_append hreplacement _
  · rw [replaceAll_cons_skip hstarts]
    exact not_atBreak_cons hc _

end Break

section Begins

theorem exists_first_of_not_avoids (h : ¬ Avoids needle piece rest) :
    ∃ front back after, piece = front ++ back ∧ back ≠ [] ∧ Avoids needle front (back ++ rest) ∧
      back ++ rest = needle ++ after := by
  induction piece with
  | nil => exact absurd trivial h
  | cons c piece ih =>
    by_cases hstarts : needle <+: c :: (piece ++ rest)
    · obtain ⟨after, hafter⟩ := hstarts
      exact ⟨[], c :: piece, after, rfl, List.cons_ne_nil _ _, trivial, hafter.symm⟩
    · obtain ⟨front, back, after, rfl, hback, hfront, hafter⟩ :=
        ih fun hpiece => h ⟨hstarts, hpiece⟩
      refine ⟨c :: front, back, after, rfl, hback, ⟨?_, hfront⟩, hafter⟩
      rwa [← List.append_assoc]

theorem not_avoids_of_isPrefix {back : List Char} (hback : back ≠ [])
    (h : needle <+: back ++ rest) :
    ¬ Avoids needle (front ++ back) rest := by
  intro havoids
  obtain ⟨c, back, rfl⟩ := List.exists_cons_of_ne_nil hback
  exact (avoids_append.mp havoids).2.1 h

theorem not_avoids_of_isInfix (hne : needle ≠ []) (h : needle <:+: piece) (rest : List Char) :
    ¬ Avoids needle piece rest := by
  obtain ⟨front, back, rfl⟩ := h
  rw [List.append_assoc]
  refine not_avoids_of_isPrefix (List.append_ne_nil_of_left_ne_nil hne back) ?_
  exact ⟨back ++ rest, (List.append_assoc ..).symm⟩

end Begins

section Crossing

/-- Some occurrences of the needle, all within the text, are replaced. -/
inductive Replaced (needle replacement : List Char) : List Char → List Char → Prop
  | nil : Replaced needle replacement [] []
  | skip (c : Char) {text done : List Char} (h : Replaced needle replacement text done) :
      Replaced needle replacement (c :: text) (c :: done)
  | hit {text done : List Char} (h : Replaced needle replacement text done) :
      Replaced needle replacement (needle ++ text) (replacement ++ done)

theorem exists_of_needle_prefix (h : needle <+: front ++ rest) :
    (∃ more, front = needle ++ more) ∨
      ∃ after, front ++ rest = needle ++ after ∧ front.length < needle.length := by
  obtain ⟨after, hafter⟩ := h
  rcases List.append_eq_append_iff.mp hafter with ⟨more, hfront, -⟩ | ⟨more, hneedle, -⟩
  · exact .inl ⟨more, hfront⟩
  · cases more with
    | nil => exact .inl ⟨[], by rw [hneedle, List.append_nil, List.append_nil]⟩
    | cons d more =>
      refine .inr ⟨after, hafter.symm, ?_⟩
      rw [hneedle, List.length_append, List.length_cons]
      omega

/-- The text up to some place is replaced by itself, unless an occurrence crosses the place. -/
theorem replaceAll_append_cases (hne : needle ≠ []) (replacement front rest : List Char) :
    (∃ done, Replaced needle replacement front done ∧
        replaceAll needle replacement (front ++ rest) =
          done ++ replaceAll needle replacement rest) ∨
      ∃ start cross done after, front = start ++ cross ∧ cross ≠ [] ∧
        Replaced needle replacement start done ∧ cross ++ rest = needle ++ after ∧
        cross.length < needle.length ∧
        replaceAll needle replacement (front ++ rest) =
          done ++ (replacement ++ replaceAll needle replacement after) := by
  -- an occurrence takes several characters at once, so the induction is on the length
  generalize hlength : front.length = length
  induction length using Nat.strong_induction_on generalizing front with
  | _ length ih =>
    cases front with
    | nil => exact .inl ⟨[], .nil, rfl⟩
    | cons c front =>
      by_cases hstarts : needle <+: c :: front ++ rest
      · rcases exists_of_needle_prefix hstarts with ⟨more, hmore⟩ | ⟨after, hafter, hcross⟩
        · have hshort : more.length < length := by
            have hpos : 0 < needle.length := List.length_pos_iff.mpr hne
            rw [← hlength, hmore, List.length_append]
            omega
          rw [hmore, List.append_assoc, replaceAll_needle_append hne]
          rcases ih more.length hshort more rfl with ⟨done, hdone, hall⟩ |
            ⟨start, cross, done, after, rfl, hcross, hdone, hafter, hlt, hall⟩
          · exact .inl ⟨replacement ++ done, hdone.hit, by rw [hall, List.append_assoc]⟩
          · refine .inr ⟨needle ++ start, cross, replacement ++ done, after, ?_, hcross, hdone.hit,
              hafter, hlt, by rw [hall, List.append_assoc]⟩
            rw [List.append_assoc]
        · refine .inr ⟨[], c :: front, [], after, rfl, List.cons_ne_nil _ _, .nil, hafter, hcross,
            ?_⟩
          rw [hafter, replaceAll_needle_append hne]
          rfl
      · have hshort : front.length < length := by
          rw [← hlength]
          exact Nat.lt_succ_self _
        rw [List.cons_append] at hstarts ⊢
        rw [replaceAll_cons_skip hstarts]
        rcases ih front.length hshort front rfl with ⟨done, hdone, hall⟩ |
          ⟨start, cross, done, after, rfl, hcross, hdone, hafter, hlt, hall⟩
        · exact .inl ⟨c :: done, hdone.skip c, by rw [hall]; rfl⟩
        · exact .inr ⟨c :: start, cross, c :: done, after, rfl, hcross, hdone.skip c, hafter, hlt,
            by rw [hall]; rfl⟩

theorem Replaced.eq_nil {done : List Char} (h : Replaced needle replacement [] done)
    (hne : needle ≠ []) : done = [] := by
  generalize htext : ([] : List Char) = text at h
  cases h with
  | nil => rfl
  | skip c h => cases htext
  | hit h => exact absurd (List.append_eq_nil_iff.mp htext.symm).1 hne

theorem Replaced.concat_cases {c : Char} {done : List Char}
    (h : Replaced needle replacement (front ++ [c]) done) (hne : needle ≠ []) :
    (∃ start, done = start ++ [c] ∧ Replaced needle replacement front start) ∨
      c ∈ needle.getLast? ∧ ∃ start, done = start ++ replacement := by
  generalize htext : front ++ [c] = text at h
  induction h generalizing front with
  | nil => cases List.append_ne_nil_of_right_ne_nil front (List.cons_ne_nil c []) htext
  | @skip d text done h ih =>
    cases front with
    | nil =>
      obtain ⟨rfl, rfl⟩ := List.cons.inj htext
      exact .inl ⟨[], by rw [h.eq_nil hne]; rfl, .nil⟩
    | cons e front =>
      obtain ⟨rfl, htail⟩ := List.cons.inj htext
      rcases ih htail with ⟨start, rfl, hstart⟩ | ⟨hc, start, rfl⟩
      · exact .inl ⟨e :: start, rfl, hstart.skip e⟩
      · exact .inr ⟨hc, e :: start, rfl⟩
  | @hit text done h ih =>
    rcases List.eq_nil_or_concat' text with rfl | ⟨text, d, rfl⟩
    · rw [List.append_nil] at htext
      rw [h.eq_nil hne, ← htext, List.append_nil]
      exact .inr ⟨by simp, [], rfl⟩
    · rw [← List.append_assoc] at htext
      obtain ⟨rfl, hd⟩ := List.append_inj' htext rfl
      obtain rfl : c = d := List.singleton_inj.mp hd
      rcases ih rfl with ⟨start, rfl, hstart⟩ | ⟨hc, start, rfl⟩
      · exact .inl ⟨replacement ++ start, (List.append_assoc ..).symm, hstart.hit⟩
      · exact .inr ⟨hc, replacement ++ start, (List.append_assoc ..).symm⟩

end Crossing

section Pieces
variable {τ : Type} {shown : τ → List Char} {t : τ} {ts : List τ}

/-- The needle begins in no piece other than those it is. -/
def IsWhole (needle : List Char) (shown : τ → List Char) (ts : List τ) : Prop :=
  ∀ t back, t :: back <:+ ts →
    shown t = needle ∨ Avoids needle (shown t) (trailing shown back)

theorem isWhole_nil (needle : List Char) (shown : τ → List Char) : IsWhole needle shown [] :=
  fun _ _ hsuffix => absurd (List.suffix_nil.mp hsuffix) (List.cons_ne_nil _ _)

theorem IsWhole.of_cons (h : IsWhole needle shown (t :: ts)) : IsWhole needle shown ts :=
  fun u back hsuffix => h u back (hsuffix.trans (List.suffix_cons t ts))

theorem isWhole_cons (h : shown t = needle ∨ Avoids needle (shown t) (trailing shown ts))
    (hts : IsWhole needle shown ts) : IsWhole needle shown (t :: ts) := by
  intro u back hsuffix
  rcases List.suffix_cons_iff.mp hsuffix with hall | hsuffix
  · obtain ⟨rfl, rfl⟩ := List.cons.inj hall
    exact h
  · exact hts u back hsuffix

theorem replaceAll_shown (hne : needle ≠ []) (replacement : List Char)
    (h : shown t = needle ∨ Avoids needle (shown t) rest) :
    replaceAll needle replacement (shown t ++ rest) =
      (if shown t = needle then replacement else shown t) ++
        replaceAll needle replacement rest := by
  by_cases hshown : shown t = needle
  · rw [if_pos hshown, hshown, replaceAll_needle_append hne]
  · rw [if_neg hshown, replaceAll_append_of_avoids (h.resolve_left hshown)]

theorem not_prefix_space (hne : needle ≠ []) (hspace : ' ' ∉ needle.head?) (text : List Char) :
    ¬ needle <+: ' ' :: text := by
  obtain ⟨c, tail, rfl⟩ := List.exists_cons_of_ne_nil hne
  intro hprefix
  have hc : c = ' ' := (List.cons_prefix_cons.mp hprefix).1
  exact hspace (hc ▸ rfl)

theorem replaceAll_trailing (hne : needle ≠ []) (hspace : ' ' ∉ needle.head?)
    (replacement : List Char) (h : IsWhole needle shown ts) :
    replaceAll needle replacement (trailing shown ts) =
      trailing (fun t => if shown t = needle then replacement else shown t) ts := by
  induction ts with
  | nil => exact replaceAll_nil needle replacement
  | cons t ts ih =>
    have ht := h t ts List.suffix_rfl
    rw [trailing_cons, trailing_cons, replaceAll_cons_skip (not_prefix_space hne hspace _),
      replaceAll_shown hne replacement ht, ih h.of_cons]

theorem replaceAll_spaced (hne : needle ≠ []) (hspace : ' ' ∉ needle.head?)
    (replacement : List Char) (h : IsWhole needle shown ts) :
    replaceAll needle replacement (spaced shown ts) =
      spaced (fun t => if shown t = needle then replacement else shown t) ts := by
  cases ts with
  | nil => exact replaceAll_nil needle replacement
  | cons t ts =>
    have ht := h t ts List.suffix_rfl
    rw [spaced, spaced, replaceAll_shown hne replacement ht,
      replaceAll_trailing hne hspace replacement h.of_cons]

end Pieces
end TablePhrase.Text
