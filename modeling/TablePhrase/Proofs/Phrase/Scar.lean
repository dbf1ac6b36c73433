import TablePhrase.Proofs.Phrase.Occurrence

/-!
Scars: placeholders with a part of a token beside them. Replacing an entity wherever its text occurs
never mends one, and templates have none.
-/

namespace TablePhrase.Phrase

open Text

section Scars
variable {kind : EntityKind} {v : Token} {front back text after done : List Char}

/-- A placeholder stands in the text with a part of a token beside it. -/
def Scarred (text : List Char) : Prop :=
  ∃ (kind : EntityKind) (front back : List Char),
    text = front ++ (kind.placeholder.toList ++ back) ∧ Cuts front back

theorem LeavesOff.append_left (h : LeavesOff front) (before : List Char) :
    LeavesOff (before ++ front) := by
  rcases h with ⟨c, hc, hspace⟩ | hlist
  · refine .inl ⟨c, ?_, hspace⟩
    rw [List.getLast?_append, hc]
    rfl
  · exact .inr (hlist.trans (List.suffix_append before front))

theorem Cuts.append_left (h : Cuts front after) (before : List Char) :
    Cuts (before ++ front) after :=
  h.imp_right fun hfront => hfront.append_left before

theorem Scarred.append_left (h : Scarred text) (before : List Char) : Scarred (before ++ text) := by
  obtain ⟨kind, front, back, rfl, hcuts⟩ := h
  exact ⟨kind, before ++ front, back, (List.append_assoc ..).symm, hcuts.append_left before⟩

theorem not_atBreak_placeholder (kind : EntityKind) : ¬ AtBreak kind.placeholder.toList := by
  rw [EntityKind.placeholder_toList]
  exact not_atBreak_cons (by decide) _

theorem leavesOff_placeholder (kind : EntityKind) (before : List Char) :
    LeavesOff (before ++ kind.placeholder.toList) :=
  (leavesOff_of_placeholder (List.append_nil _).symm
    (EntityKind.placeholder_ne_nil kind)).append_left before

theorem not_placeholder_infix_chars (kind : EntityKind) (t : Token) :
    ¬ kind.placeholder.toList <:+: t.chars := fun hpart =>
  not_avoids_of_isInfix (EntityKind.placeholder_ne_nil kind) hpart []
    (avoids_chars kind t atBreak_nil)

theorem LeavesOff.replaced (h : LeavesOff front) (hv : isOfKind kind v = true)
    (hdone : Replaced v.chars kind.placeholder.toList front done) : LeavesOff done := by
  have hne := chars_ne_nil v
  rcases h with ⟨c, hc, hspace⟩ | ⟨start, rfl⟩
  · obtain ⟨start, rfl⟩ : ∃ start, front = start ++ [c] :=
      ⟨_, (List.dropLast_append_getLast? c hc).symm⟩
    rcases hdone.concat_cases hne with ⟨start, rfl, -⟩ | ⟨-, start, rfl⟩
    · exact .inl ⟨c, by simp, hspace⟩
    · exact leavesOff_placeholder kind start
  · have hsplit : start ++ [',', ' '] = start ++ [','] ++ [' '] := by simp
    rw [hsplit] at hdone
    rcases hdone.concat_cases hne with ⟨comma, rfl, hcomma⟩ | ⟨hlast, -⟩
    · rcases hcomma.concat_cases hne with ⟨start, rfl, -⟩ | ⟨hlast, -⟩
      · exact .inr ⟨start, by simp⟩
      · exact absurd rfl (closes_of_isOfKind hv _ hlast).2
    · exact absurd rfl (closes_of_isOfKind hv _ hlast).1

theorem not_atBreak_replaced (h : ¬ AtBreak text) :
    ¬ AtBreak (replaceAll v.chars kind.placeholder.toList text) :=
  not_atBreak_replaceAll (chars_ne_nil v) (not_atBreak_placeholder kind) h

theorem scarred_of_cuts (h : Cuts front after) :
    Scarred (front ++ (kind.placeholder.toList ++
      replaceAll v.chars kind.placeholder.toList after)) :=
  ⟨kind, front, _, rfl, h.imp_left not_atBreak_replaced⟩

theorem scarred_replaceAll_placeholder (other : EntityKind) (h : Cuts front back) :
    Scarred (front ++ replaceAll v.chars kind.placeholder.toList
      (other.placeholder.toList ++ back)) := by
  by_cases havoids : Avoids v.chars other.placeholder.toList back
  · rw [replaceAll_append_of_avoids havoids]
    exact ⟨other, front, _, rfl, h.imp_left not_atBreak_replaced⟩
  · obtain ⟨start, rest, after, hother, hrest, hstart, htext⟩ := exists_first_of_not_avoids havoids
    rw [hother, List.append_assoc, replaceAll_append_of_avoids hstart, htext,
      replaceAll_needle_append (chars_ne_nil v), ← List.append_assoc]
    refine scarred_of_cuts ?_
    cases start with
    | nil =>
      -- the entity does not hold the placeholder, so some of it is left behind
      rw [List.nil_append] at hother
      rw [← hother] at htext
      exact .inl (not_atBreak_of_placeholder (not_placeholder_infix_chars other v) htext).1
    | cons c start =>
      exact .inr ((leavesOff_of_placeholder hother (List.cons_ne_nil c start)).append_left front)

theorem Scarred.replaceAll (h : Scarred text) (hv : isOfKind kind v = true) :
    Scarred (replaceAll v.chars kind.placeholder.toList text) := by
  obtain ⟨other, front, back, rfl, hcuts⟩ := h
  rcases replaceAll_append_cases (chars_ne_nil v) kind.placeholder.toList front
      (other.placeholder.toList ++ back) with
    ⟨done, hdone, hall⟩ | ⟨start, cross, done, after, rfl, -, -, hafter, hlength, hall⟩
  · rw [hall]
    exact scarred_replaceAll_placeholder other
      (hcuts.imp_right fun hfront => hfront.replaced hv hdone)
  · -- the occurrence that crosses into the placeholder ends in it
    obtain ⟨tail, htail, htext⟩ : ∃ tail, v.chars = cross ++ tail ∧
        other.placeholder.toList ++ back = tail ++ after := by
      rcases List.append_eq_append_iff.mp hafter with ⟨tail, hchars, htext⟩ | ⟨more, hcross, -⟩
      · exact ⟨tail, hchars, htext⟩
      · rw [hcross, List.length_append] at hlength
        omega
    have hwhole : ¬ other.placeholder.toList <:+: tail := fun hpart =>
      not_placeholder_infix_chars other v (hpart.trans (htail ▸ (List.suffix_append _ _).isInfix))
    rw [hall]
    exact scarred_of_cuts (.inl (not_atBreak_of_placeholder hwhole htext).1)

theorem append_placeholder_ne_nil (kind : EntityKind) (front back : List Char) :
    front ++ (kind.placeholder.toList ++ back) ≠ [] := by
  apply List.append_ne_nil_of_right_ne_nil
  exact List.append_ne_nil_of_left_ne_nil (EntityKind.placeholder_ne_nil kind) back

end Scars

section Template
variable {kind : EntityKind} {front back text : List Char}

theorem not_mem_comma_template (ts : List Token) :
    ',' ∉ spaced (Token.shown EntityKind.groundOrder) ts := by
  intro hmem
  rcases mem_spaced hmem with hspace | ⟨t, -, ht⟩
  · cases hspace
  · cases t with
    | word run => exact ne_comma_of_not_mem_marks (word_not_mem_marks ht) rfl
    | number numeral => exact placeholder_not_mem_comma .number ht
    | value label => exact placeholder_not_mem_comma .value ht
    | numberList first second more => exact placeholder_not_mem_comma .numberList ht
    | stringList first second more => exact placeholder_not_mem_comma .stringList ht
    | condition condition => exact placeholder_not_mem_comma .condition ht

theorem eq_placeholder_of_shown {t : Token} {rest : List Char}
    (hshown : t.shown EntityKind.groundOrder = front ++ '<' :: text)
    (htext : '<' :: text ++ rest = kind.placeholder.toList ++ back) : front = [] ∧ back = rest := by
  have hplaceholder : ∃ other : EntityKind,
      t.shown EntityKind.groundOrder = other.placeholder.toList := by
    cases hkind : t.kind? with
    | some other => exact ⟨other, shown_of_isOfKind (beq_iff_eq.mpr hkind) other.mem_groundOrder⟩
    | none =>
      cases t <;> cases hkind
      next run =>
        have hmem : '<' ∈ run.chars := by
          rw [show run.chars = _ from hshown]
          exact List.mem_append_right _ List.mem_cons_self
        exact absurd (by decide) (word_not_mem_marks hmem)
  obtain ⟨other, hother⟩ := hplaceholder
  rw [hother] at hshown
  cases front with
  | cons c front =>
    have htail := EntityKind.opens_not_mem_placeholder_tail other
    rw [hshown] at htail
    exact absurd (List.mem_append_right front List.mem_cons_self) htail
  | nil =>
    rw [List.nil_append] at hshown
    rw [← hshown] at htext
    by_cases hkind : other = kind
    · subst hkind
      exact ⟨rfl, (List.append_cancel_left htext).symm⟩
    · exact absurd ⟨back, htext.symm⟩ (EntityKind.not_prefix_other_placeholder hkind rest)

theorem atBreak_of_template {ts : List Token}
    (h : trailing (Token.shown EntityKind.groundOrder) ts =
      front ++ (kind.placeholder.toList ++ back)) :
    front.getLast? = some ' ' ∧ AtBreak back := by
  induction ts generalizing front with
  | nil => exact absurd h.symm (append_placeholder_ne_nil kind front back)
  | cons t ts ih =>
    have hopens := EntityKind.placeholder_toList kind
    rw [trailing_cons] at h
    cases front with
    | nil =>
      rw [hopens] at h
      cases (List.cons.inj h).1
    | cons c front =>
      obtain ⟨rfl, htail⟩ := List.cons.inj h
      rcases List.append_eq_append_iff.mp htail with ⟨more, rfl, hmore⟩ | ⟨more, hshown, hback⟩
      · obtain ⟨hlast, hback⟩ := ih hmore
        refine ⟨?_, hback⟩
        rw [← List.cons_append, List.getLast?_append, hlast]
        rfl
      · cases more with
        | nil =>
          have hempty : trailing (Token.shown EntityKind.groundOrder) ts =
              [] ++ (kind.placeholder.toList ++ back) :=
            hback.symm
          cases (ih hempty).1
        | cons d more =>
          obtain rfl : '<' = d := by
            rw [hopens] at hback
            exact (List.cons.inj hback).1
          obtain ⟨rfl, rfl⟩ := eq_placeholder_of_shown hshown hback.symm
          exact ⟨rfl, atBreak_trailing _ ts⟩

theorem not_scarred_template (ts : List Token) :
    ¬ Scarred (spaced (Token.shown EntityKind.groundOrder) ts) := by
  rintro ⟨kind, front, back, htext, hcuts⟩
  cases ts with
  | nil => exact absurd htext.symm (append_placeholder_ne_nil kind front back)
  | cons t ts =>
    have htrailing : trailing (Token.shown EntityKind.groundOrder) (t :: ts) =
        ' ' :: front ++ (kind.placeholder.toList ++ back) :=
      congrArg (' ' :: ·) htext
    obtain ⟨hlast, hbreak⟩ := atBreak_of_template htrailing
    rcases hcuts with hcuts | ⟨c, hc, hspace⟩ | ⟨start, hcomma⟩
    · exact hcuts hbreak
    · rw [List.getLast?_cons, hc, Option.getD_some] at hlast
      exact hspace (Option.some.inj hlast)
    · apply not_mem_comma_template (t :: ts)
      rw [htext, ← hcomma]
      simp

end Template
end TablePhrase.Phrase
