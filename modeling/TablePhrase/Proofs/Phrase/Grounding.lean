import TablePhrase.Grounding
import TablePhrase.Proofs.Entity.Placeholder
import TablePhrase.Proofs.Phrase.Lifting
import TablePhrase.Proofs.Text.Search

/-!
Grounding the template of a phrase. Kind by kind, placeholders are replaced from left to right,
because neither words nor tokens nor the placeholders of other kinds hold one of the kind. This
gives the phrase back, and lifting it gives the template and the entity texts back.
-/

namespace TablePhrase.Phrase

open Text
open EntityKind (avoids_other_placeholder avoids_placeholder_of_not_mem placeholder_ne_nil)
open Lifting (Closes closes_placeholder not_prefix_of_closes isOperator_body body_ne_nil)

section Avoids
variable {kind : EntityKind} {rest : List Char}

theorem avoids_condition (kind : EntityKind) (c : Condition) (hrest : AtBreak rest) :
    Avoids kind.placeholder.toList c.chars rest := by
  have hoperators (operators : List Char) (hall : ∀ d ∈ operators, Lifting.isOperator d = true) :
      Avoids kind.placeholder.toList operators (c.body ++ rest) := by
    induction operators with
    | nil => trivial
    | cons d operators ih =>
      refine ⟨?_, ih fun e he => hall e (List.mem_cons_of_mem d he)⟩
      exact not_prefix_of_closes (closes_placeholder kind) hall (body_ne_nil c) (isOperator_body c)
        hrest
  refine avoids_append.mpr ⟨hoperators _ c.operator.all, avoids_placeholder_of_not_mem kind ?_ rest⟩
  intro hmem
  cases isOperator_body c '<' hmem

theorem avoids_chars (kind : EntityKind) (t : Token) (hrest : AtBreak rest) :
    Avoids kind.placeholder.toList t.chars rest := by
  cases hcondition : isOfKind .condition t with
  | true =>
    cases t <;> cases hcondition
    exact avoids_condition kind _ hrest
  | false =>
    apply avoids_placeholder_of_not_mem
    intro hmem
    cases isOperator_chars hcondition '<' hmem

theorem avoids_shown {lifted : List EntityKind} {t : Token}
    (h : isOfKind kind t = true → kind ∉ lifted) (hrest : AtBreak rest) :
    Avoids kind.placeholder.toList (t.shown lifted) rest := by
  unfold Token.shown
  split
  · next other hother =>
    split
    · next hmem =>
      apply avoids_other_placeholder
      rintro rfl
      exact h (beq_iff_eq.mpr hother) hmem
    · exact avoids_chars kind t hrest
  · exact avoids_chars kind t hrest

end Avoids

section Counts

theorem shown_of_isOfKind {kind : EntityKind} {lifted : List EntityKind} {t : Token}
    (ht : isOfKind kind t = true) (hkind : kind ∈ lifted) :
    t.shown lifted = kind.placeholder.toList := by
  rw [Token.shown, beq_iff_eq.mp ht]
  exact if_pos hkind

theorem count_shown_append (kind : EntityKind) (t : Token) {rest : List Char} (hrest : AtBreak rest) :
    count kind.placeholder.toList (t.shown EntityKind.groundOrder ++ rest) =
      (if isOfKind kind t then 1 else 0) + count kind.placeholder.toList rest := by
  cases ht : isOfKind kind t with
  | true =>
    rw [shown_of_isOfKind ht kind.mem_groundOrder, count_needle_append (placeholder_ne_nil kind),
      Nat.add_comm]
    rfl
  | false =>
    rw [count_append_of_avoids (avoids_shown (by rw [ht]; nofun) hrest)]
    exact (Nat.zero_add _).symm

theorem count_trailing (kind : EntityKind) (ts : List Token) :
    count kind.placeholder.toList (trailing (Token.shown EntityKind.groundOrder) ts) =
      (ts.filter (isOfKind kind)).length := by
  induction ts with
  | nil => simp [trailing, count]
  | cons t ts ih =>
    have hspace := avoids_placeholder_of_not_mem kind (by decide : '<' ∉ [' '])
      (t.shown EntityKind.groundOrder ++ trailing (Token.shown EntityKind.groundOrder) ts)
    show count _ ([' '] ++ (t.shown _ ++ trailing _ ts)) = _
    rw [count_append_of_avoids hspace, count_shown_append kind t (atBreak_trailing _ ts), ih]
    cases ht : isOfKind kind t <;> simp [ht, Nat.add_comm]

theorem count_template (kind : EntityKind) (ts : List Token) :
    count kind.placeholder.toList (template ts).toList = (ts.filter (isOfKind kind)).length := by
  rw [template, toList_render]
  cases ts with
  | nil => simp [spaced, count]
  | cons t ts =>
    rw [spaced, count_shown_append kind t (atBreak_trailing _ ts), count_trailing]
    cases ht : isOfKind kind t <;> simp [ht, Nat.add_comm]

theorem counts_template (ts : List Token) :
    EntityCounts.ofTemplate (template ts) = (entities ts).counts := by
  apply EntityCounts.ext_get
  intro kind
  rw [EntityCounts.ofTemplate, EntityCounts.get_ofFn, count_template, EntityTexts.counts,
    EntityCounts.get_ofFn, entities, EntityTexts.get_ofFn, List.length_map]
  rfl

end Counts

section Substitution
variable {kind : EntityKind} {lifted : List EntityKind}

/-- The texts put in the place of the first placeholders of the kind, one after another. -/
def groundKind (kind : EntityKind) (texts : List String) (action : List Char) : List Char :=
  texts.foldl (fun action text =>
    replaceFirst kind.placeholder.toList (kind.grounded text).toList action) action

theorem foldl_mapIdx {α β γ : Type} (f : Nat → α → β) (g : γ → β → γ) (h : γ → α → γ)
    (hg : ∀ c i a, g c (f i a) = h c a) (xs : List α) (c : γ) :
    (xs.mapIdx f).foldl g c = xs.foldl h c := by
  induction xs generalizing f c with
  | nil => rfl
  | cons x xs ih =>
    rw [List.mapIdx_cons, List.foldl_cons, List.foldl_cons, hg]
    exact ih (fun i => f (i + 1)) (fun c i a => hg c (i + 1) a) (h c x)

theorem substitute_eq_foldl (texts : EntityTexts) (action : List Char) :
    Grounding.substitute Grounding.groundedText texts.items action =
      EntityKind.groundOrder.foldl (fun action kind => groundKind kind (texts.get kind) action)
        action := by
  rw [Grounding.substitute, EntityTexts.items, List.foldl_flatMap]
  congr 1
  funext action kind
  rw [groundKind]
  apply foldl_mapIdx
  exact fun _ _ _ => rfl

theorem grounded_entityChars {t : Token} (ht : isOfKind kind t = true) :
    (kind.grounded (String.ofList t.entityChars)).toList = t.chars := by
  have htoken : t.kind? = some kind := beq_iff_eq.mp ht
  cases t <;> cases htoken
  case value label => simp [EntityKind.grounded, Token.entityChars, Token.chars, Label.quoted]
  all_goals exact String.toList_ofList

def textsOfKind (kind : EntityKind) (ts : List Token) : List String :=
  (ts.filter (isOfKind kind)).map fun t => String.ofList t.entityChars

theorem textsOfKind_cons (kind : EntityKind) (t : Token) (ts : List Token) :
    textsOfKind kind (t :: ts) = textsOfKind kind [t] ++ textsOfKind kind ts := by
  rw [textsOfKind, textsOfKind, textsOfKind, ← List.map_append, ← List.filter_append]
  rfl

theorem groundKind_piece (hkind : kind ∉ lifted) {front : List Char}
    (hfront : ∀ rest, Avoids kind.placeholder.toList front rest) (t : Token) (rest : List Char) :
    groundKind kind (textsOfKind kind [t]) (front ++ (t.shown (kind :: lifted) ++ rest)) =
      front ++ (t.shown lifted ++ rest) := by
  cases ht : isOfKind kind t with
  | true =>
    have htexts : textsOfKind kind [t] = [String.ofList t.entityChars] := by
      simp [textsOfKind, ht]
    rw [htexts, groundKind, List.foldl_cons, List.foldl_nil, grounded_entityChars ht,
      shown_of_isOfKind ht List.mem_cons_self, replaceFirst_append_of_avoids (hfront _),
      replaceFirst_needle_append (placeholder_ne_nil kind),
      shown_of_not_mem (beq_iff_eq.mp ht) hkind]
  | false =>
    have htexts : textsOfKind kind [t] = [] := by
      simp [textsOfKind, ht]
    have hshown : t.shown (kind :: lifted) = t.shown lifted := by
      unfold Token.shown
      cases hother : t.kind? with
      | none => rfl
      | some other =>
        have hne : other ≠ kind := by
          rintro rfl
          rw [isOfKind, hother, beq_self_eq_true] at ht
          cases ht
        simp [hne]
    rw [htexts, hshown]
    rfl

theorem groundKind_append (kind : EntityKind) (texts more : List String) (action : List Char) :
    groundKind kind (texts ++ more) action = groundKind kind more (groundKind kind texts action) := by
  rw [groundKind, List.foldl_append]
  rfl

theorem groundKind_trailing (hkind : kind ∉ lifted) {front : List Char}
    (hfront : ∀ rest, AtBreak rest → Avoids kind.placeholder.toList front rest) (ts : List Token) :
    groundKind kind (textsOfKind kind ts)
        (front ++ trailing (Token.shown (kind :: lifted)) ts) =
      front ++ trailing (Token.shown lifted) ts := by
  -- `front` is grounded already, and no placeholder of the kind begins in it
  induction ts generalizing front with
  | nil => rfl
  | cons t ts ih =>
    have hspace : ∀ rest, Avoids kind.placeholder.toList (front ++ [' ']) rest := by
      intro rest
      exact avoids_append.mpr ⟨hfront _ (atBreak_space rest),
        avoids_placeholder_of_not_mem kind (by decide) rest⟩
    have hfront' : ∀ rest, AtBreak rest →
        Avoids kind.placeholder.toList (front ++ [' '] ++ t.shown lifted) rest := by
      intro rest hrest
      exact avoids_append.mpr ⟨hspace _, avoids_shown (fun _ => hkind) hrest⟩
    have hpiece := groundKind_piece hkind hspace t (trailing (Token.shown (kind :: lifted)) ts)
    have hrest := ih hfront'
    simp only [List.append_assoc, List.cons_append, List.nil_append] at hpiece hrest
    rw [textsOfKind_cons, groundKind_append]
    show groundKind kind _ (groundKind kind _
      (front ++ ' ' :: (t.shown _ ++ trailing (Token.shown (kind :: lifted)) ts))) = _
    rw [hpiece, hrest]
    rfl

/-- Grounding a kind shows its tokens as they are spoken. -/
theorem groundKind_spaced (hkind : kind ∉ lifted) (ts : List Token) :
    groundKind kind (textsOfKind kind ts) (spaced (Token.shown (kind :: lifted)) ts) =
      spaced (Token.shown lifted) ts := by
  cases ts with
  | nil => rfl
  | cons t ts =>
    have hempty : ∀ rest, Avoids kind.placeholder.toList [] rest := fun _ => trivial
    have hshown : ∀ rest, AtBreak rest → Avoids kind.placeholder.toList (t.shown lifted) rest :=
      fun rest hrest => avoids_shown (fun _ => hkind) hrest
    have hpiece := groundKind_piece hkind hempty t (trailing (Token.shown (kind :: lifted)) ts)
    have hrest := groundKind_trailing hkind hshown ts
    simp only [List.nil_append] at hpiece
    rw [textsOfKind_cons, groundKind_append, spaced, spaced, hpiece, hrest]

theorem foldl_groundKind {kinds : List EntityKind} (hkinds : kinds.Nodup) (ts : List Token) :
    kinds.foldl (fun action kind => groundKind kind (textsOfKind kind ts) action)
      (spaced (Token.shown kinds) ts) = spaced (Token.shown []) ts := by
  induction kinds with
  | nil => rfl
  | cons kind kinds ih =>
    obtain ⟨hkind, hkinds⟩ := List.nodup_cons.mp hkinds
    rw [List.foldl_cons, groundKind_spaced hkind]
    exact ih hkinds

theorem grounded_template (ts : List Token) :
    String.ofList (Grounding.substitute Grounding.groundedText (entities ts).items
      (template ts).toList) = text ts := by
  have hfold := foldl_groundKind (by decide : EntityKind.groundOrder.Nodup) ts
  apply String.toList_injective
  rw [String.toList_ofList, substitute_eq_foldl, template, text, toList_render, toList_render,
    ← hfold]
  congr 1
  funext action kind
  rw [entities, EntityTexts.get_ofFn]
  rfl

end Substitution

/-- The template of a phrase and its entity texts combine to the phrase, and lifting the phrase
gives both back. -/
theorem lift_recombine (ts : List Token) :
    ∃ c, recombine (template ts) (entities ts) = .ok c ∧ c.grounded = text ts ∧
      lift c.grounded = ⟨template ts, entities ts⟩ := by
  refine ⟨_, if_pos (counts_template ts), grounded_template ts, ?_⟩
  exact (congrArg lift (grounded_template ts)).trans (lift_text ts)

end TablePhrase.Phrase
