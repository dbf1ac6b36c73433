import Mathlib.Algebra.GroupWithZero.Nat
import TablePhrase.Proofs.Lifting.Spans
import TablePhrase.Proofs.Phrase.Grounding
import TablePhrase.Proofs.Template.Combination
import TablePhrase.Proofs.Text.Count

/-!
Lifting conserves placeholders. A pass puts in one placeholder for each text that it finds, and the
ones that it meets stay in the text or go with a text that it finds. What is missing from the
template in the end is therefore held by entities, and template and entities combine exactly if no
entity holds a placeholder.
-/

namespace TablePhrase.Lifting

open Text
open EntityKind (beginsOnce_placeholder count_placeholder fences_placeholder placeholder_toList)

section Placeholder
variable {c : Char} (kind : EntityKind)

theorem HasForeignEnds.fences {span : List Char} (h : HasForeignEnds span) :
    Fences kind.placeholder.toList span :=
  fences_of_not_mem h.ne_nil (fun c hc => h.head c hc kind) (fun c hc => h.last c hc kind)

theorem count_eq_zero_of_isForeign {text : List Char} (h : ∀ c ∈ text, IsForeign c) :
    count kind.placeholder.toList text = 0 := by
  have hopens : '<' ∉ text := by
    intro hmem
    apply h '<' hmem kind
    rw [placeholder_toList]
    exact List.mem_cons_self
  rw [placeholder_toList]
  exact count_eq_zero_of_not_mem hopens

theorem count_append_of_isForeign (hc : IsForeign c) (front back : List Char) :
    count kind.placeholder.toList (front ++ c :: back) =
      count kind.placeholder.toList front + count kind.placeholder.toList back := by
  have hmem : ∀ d ∈ [c], IsForeign d := List.forall_mem_singleton.mpr hc
  have hends : HasForeignEnds [c] := hasForeignEnds_of_forall_mem (List.cons_ne_nil c []) hmem
  rw [← List.singleton_append, (hends.fences kind).count_append (beginsOnce_placeholder kind),
    count_eq_zero_of_isForeign kind hmem, Nat.zero_add]

end Placeholder

theorem count_stripQuotes (kind : EntityKind) (span : List Char) :
    count kind.placeholder.toList (stripQuotes span) = count kind.placeholder.toList span := by
  cases span with
  | nil => rfl
  | cons q rest =>
    rw [stripQuotes]
    split
    · next hquotes =>
      simp only [Bool.and_eq_true, Bool.or_eq_true, decide_eq_true_eq] at hquotes
      obtain ⟨hquote, hlast⟩ := hquotes
      have hforeign := isForeign_quote hquote
      obtain ⟨content, rfl⟩ := List.getLast?_eq_some_iff.mp hlast
      have hopening := count_append_of_isForeign kind hforeign [] (content ++ [q])
      have hclosing := count_append_of_isForeign kind hforeign content []
      rw [count] at hopening hclosing
      rw [List.dropLast_concat]
      rw [List.nil_append] at hopening
      omega
    · rfl

theorem count_spanText (kind other : EntityKind) (span : List Char) :
    count kind.placeholder.toList (spanText other span) = count kind.placeholder.toList span := by
  cases other with
  | value => exact count_stripQuotes kind span
  | number | numberList | stringList | condition => rfl

namespace Cut
variable {needle : List Char}

def outside (needle : List Char) (cut : Cut) : Nat :=
  (cut.spans.map fun (gap, _) => count needle gap).sum + count needle cut.tail

def inside (needle : List Char) (f : List Char → List Char) (cut : Cut) : Nat :=
  (cut.found.map fun span => count needle (f span)).sum

section Cons
variable (gap span tail : List Char) (spans : List (List Char × List Char))
  (f : List Char → List Char)

theorem fill_cons :
    fill ⟨(gap, span) :: spans, tail⟩ f = gap ++ (f span ++ fill ⟨spans, tail⟩ f) := by
  simp [fill]

theorem outside_cons :
    outside needle ⟨(gap, span) :: spans, tail⟩ =
      count needle gap + outside needle ⟨spans, tail⟩ := by
  simp [outside, Nat.add_assoc]

theorem inside_cons :
    inside needle f ⟨(gap, span) :: spans, tail⟩ =
      count needle (f span) + inside needle f ⟨spans, tail⟩ := by
  simp [inside, found]

end Cons

theorem count_fill (hneedle : BeginsOnce needle) (f : List Char → List Char) (cut : Cut)
    (hf : ∀ span ∈ cut.found, Fences needle (f span)) :
    count needle (cut.fill f) = cut.outside needle + cut.inside needle f := by
  obtain ⟨spans, tail⟩ := cut
  induction spans with
  | nil => simp [fill, outside, inside, found]
  | cons first spans ih =>
    obtain ⟨gap, span⟩ := first
    obtain ⟨hspan, hspans⟩ := List.forall_mem_cons.mp hf
    replace hspan : Fences needle (f span) := hspan
    rw [fill_cons, outside_cons, inside_cons, hspan.count_append hneedle, ih hspans]
    omega

theorem le_count_fill (hneedle : BeginsOnce needle) (f : List Char → List Char) (cut : Cut) :
    cut.outside needle + cut.inside needle f ≤ count needle (cut.fill f) := by
  obtain ⟨spans, tail⟩ := cut
  induction spans with
  | nil => simp [fill, outside, inside, found]
  | cons first spans ih =>
    obtain ⟨gap, span⟩ := first
    rw [fill_cons, outside_cons, inside_cons]
    have hgap := count_add_le_count_append hneedle gap (f span ++ fill ⟨spans, tail⟩ f)
    have hspan := count_add_le_count_append hneedle (f span) (fill ⟨spans, tail⟩ f)
    omega

end Cut

section Passes
variable {text : List Char}

def held (kind : EntityKind) (texts : List (List Char)) : Nat :=
  (texts.map (count kind.placeholder.toList)).sum

theorem outside_add_inside_le (kind other : EntityKind) (text : List Char) :
    ((matcher other).cut text).outside kind.placeholder.toList +
        ((matcher other).cut text).inside kind.placeholder.toList id ≤
      count kind.placeholder.toList text := by
  have hle := Cut.le_count_fill (beginsOnce_placeholder kind) id ((matcher other).cut text)
  rwa [Matcher.cut, Matcher.fill_id_cutAfter] at hle

theorem outside_add_inside_eq (kind : EntityKind) {other : EntityKind} (h : other ≠ .condition)
    (text : List Char) :
    ((matcher other).cut text).outside kind.placeholder.toList +
        ((matcher other).cut text).inside kind.placeholder.toList id =
      count kind.placeholder.toList text := by
  have hends := (matcher_yields_hasForeignEnds h).cutAfter [] text
  have hcount := Cut.count_fill (beginsOnce_placeholder kind) id ((matcher other).cut text)
    fun span hspan => (hends span hspan).fences kind
  rw [Matcher.cut, Matcher.fill_id_cutAfter] at hcount
  exact hcount.symm

theorem held_liftKind (kind other : EntityKind) (text : List Char) :
    held kind (liftKind other text).2 =
      ((matcher other).cut text).inside kind.placeholder.toList id := by
  unfold held liftKind Cut.inside
  rw [List.map_map]
  congr 1
  apply List.map_congr_left
  exact fun span _ => count_spanText kind other span

theorem count_liftKind (kind other : EntityKind) (text : List Char) :
    count kind.placeholder.toList (liftKind other text).1 =
      ((matcher other).cut text).outside kind.placeholder.toList +
        if kind = other then (liftKind other text).2.length else 0 := by
  unfold liftKind
  rw [Cut.count_fill (beginsOnce_placeholder kind) _ _ fun _ _ => fences_placeholder kind other]
  congr 1
  simp only [Cut.inside, count_placeholder, List.map_const', List.sum_replicate_nat,
    List.length_map]
  split <;> simp

theorem held_liftKind_le (kind other : EntityKind) (text : List Char) :
    held kind (liftKind other text).2 ≤ count kind.placeholder.toList text := by
  rw [held_liftKind]
  exact Nat.le_trans (Nat.le_add_left _ _) (outside_add_inside_le kind other text)

theorem held_liftKind_of_isForeign (kind other : EntityKind)
    (h : (matcher other).Yields fun span => ∀ c ∈ span, IsForeign c) (text : List Char) :
    held kind (liftKind other text).2 = 0 := by
  rw [held_liftKind, Cut.inside, List.sum_eq_zero_iff_forall_eq_nat, List.forall_mem_map]
  exact fun span hspan => count_eq_zero_of_isForeign kind (h.cutAfter [] text span hspan)

/-- A pass takes no placeholder apart and makes none but for the texts that it finds. Conditions may
begin or end anywhere, but their pass is the first and meets no placeholders. -/
theorem liftKind_balance (kind : EntityKind) {other : EntityKind}
    (h : other = .condition → count kind.placeholder.toList text = 0) :
    count kind.placeholder.toList (liftKind other text).1 + held kind (liftKind other text).2 =
      count kind.placeholder.toList text +
        if kind = other then (liftKind other text).2.length else 0 := by
  rw [count_liftKind, held_liftKind]
  by_cases hother : other = .condition
  · have hle := outside_add_inside_le kind other text
    rw [h hother] at hle ⊢
    omega
  · have heq := outside_add_inside_eq kind hother text
    omega

theorem liftKinds_balance (kind : EntityKind) {kinds : List EntityKind}
    (hkinds : EntityKind.condition ∉ kinds) (text : List Char) :
    count kind.placeholder.toList (liftKinds kinds text).1 +
        ((liftKinds kinds text).2.map fun pass => held kind pass.2).sum =
      count kind.placeholder.toList text +
        ((liftKinds kinds text).2.map fun pass =>
          if kind = pass.1 then pass.2.length else 0).sum := by
  induction kinds generalizing text with
  | nil => rfl
  | cons other kinds ih =>
    have hother : other ≠ .condition := (List.ne_of_not_mem_cons hkinds).symm
    have hpass := liftKind_balance kind (fun heq => absurd heq hother : _ → count _ text = 0)
    have hrest := ih (List.not_mem_of_not_mem_cons hkinds) (liftKind other text).1
    simp only [liftKinds, List.map_cons, List.sum_cons]
    omega

theorem liftKinds_liftOrder_balance {kind : EntityKind}
    (h : count kind.placeholder.toList text = 0) :
    count kind.placeholder.toList (liftKinds EntityKind.liftOrder text).1 +
        ((liftKinds EntityKind.liftOrder text).2.map fun pass => held kind pass.2).sum =
      ((liftKinds EntityKind.liftOrder text).2.map fun pass =>
        if kind = pass.1 then pass.2.length else 0).sum := by
  have hcondition : EntityKind.condition ∉ EntityKind.liftOrder.tail := by decide
  have hfirst := liftKind_balance kind fun _ : EntityKind.condition = _ => h
  have hrest := liftKinds_balance kind hcondition (liftKind .condition text).1
  simp only [EntityKind.liftOrder, List.tail_cons] at hrest
  simp only [EntityKind.liftOrder, liftKinds, List.map_cons, List.sum_cons] at hrest ⊢
  omega

end Passes

section Lift
variable {text : String} {kind : EntityKind}

def foundTexts (text : String) (kind : EntityKind) : List (List Char) :=
  ((liftKinds EntityKind.liftOrder text.toList).2.lookup kind).getD []

theorem found_eq_map_foundTexts (text : String) :
    (liftKinds EntityKind.liftOrder text.toList).2 =
      EntityKind.liftOrder.map fun kind => (kind, foundTexts text kind) :=
  rfl

theorem get_entities_lift (text : String) (kind : EntityKind) :
    (lift text).entities.get kind = (foundTexts text kind).map String.ofList :=
  EntityTexts.get_ofFn _ kind

theorem held_foundTexts_eq_zero {other : EntityKind}
    (h : count kind.placeholder.toList text.toList = 0) (hvalue : other ≠ .value)
    (hlist : other ≠ .stringList) : held kind (foundTexts text other) = 0 := by
  cases other with
  | number => exact held_liftKind_of_isForeign kind .number number_yields_isForeign _
  | numberList => exact held_liftKind_of_isForeign kind .numberList numberList_yields_isForeign _
  | condition => exact Nat.le_zero.mp (h ▸ held_liftKind_le kind .condition text.toList)
  | value => exact absurd rfl hvalue
  | stringList => exact absurd rfl hlist

theorem lift_balance (h : count kind.placeholder.toList text.toList = 0) :
    count kind.placeholder.toList (lift text).text.toList +
        (held kind (foundTexts text .value) + held kind (foundTexts text .stringList)) =
      (foundTexts text kind).length := by
  have hpasses := liftKinds_liftOrder_balance h
  have hlength : (EntityKind.liftOrder.map fun other =>
      if kind = other then (foundTexts text other).length else 0).sum =
        (foundTexts text kind).length := by
    cases kind <;> simp [EntityKind.liftOrder]
  have hheld : (EntityKind.liftOrder.map fun other => held kind (foundTexts text other)).sum =
      held kind (foundTexts text .value) + held kind (foundTexts text .stringList) := by
    have hnumber : held kind (foundTexts text .number) = 0 :=
      held_foundTexts_eq_zero h (by decide) (by decide)
    have hnumberList : held kind (foundTexts text .numberList) = 0 :=
      held_foundTexts_eq_zero h (by decide) (by decide)
    have hcondition : held kind (foundTexts text .condition) = 0 :=
      held_foundTexts_eq_zero h (by decide) (by decide)
    simp only [EntityKind.liftOrder, List.map_cons, List.map_nil, List.sum_cons, List.sum_nil]
    omega
  rw [found_eq_map_foundTexts, List.map_map, List.map_map] at hpasses
  rw [← hlength, ← hheld, lift, String.toList_ofList]
  exact hpasses

end Lift
end TablePhrase.Lifting

namespace TablePhrase

open EntityKind (beginsOnce_placeholder)
open Lifting (foundTexts get_entities_lift held lift_balance)

/-- The placeholders of a kind inside quoted entity texts. -/
def EntityTexts.swallowed (texts : EntityTexts) (kind : EntityKind) : Nat :=
  ((texts.values ++ texts.stringLists).map fun entity =>
    Text.count kind.placeholder.toList entity.toList).sum

theorem swallowed_lift (text : String) (kind : EntityKind) :
    (lift text).entities.swallowed kind =
      held kind (foundTexts text .value) + held kind (foundTexts text .stringList) := by
  have hvalues : (lift text).entities.values = (foundTexts text .value).map String.ofList :=
    get_entities_lift text .value
  have hstringLists :
      (lift text).entities.stringLists = (foundTexts text .stringList).map String.ofList :=
    get_entities_lift text .stringList
  simp only [EntityTexts.swallowed, hvalues, hstringLists, List.map_append, List.sum_append_nat,
    List.map_map, held]
  simp only [Function.comp_def, String.toList_ofList]

theorem EntityTexts.swallowed_eq_zero_iff (texts : EntityTexts) (kind : EntityKind) :
    texts.swallowed kind = 0 ↔
      ∀ entity ∈ texts.values ++ texts.stringLists,
        ¬ kind.placeholder.toList <:+: entity.toList := by
  rw [swallowed, List.sum_eq_zero_iff_forall_eq_nat, List.forall_mem_map]
  simp only [Text.count_eq_zero_iff (beginsOnce_placeholder kind)]

/-- Of a text without placeholders, every entity has its placeholder in the template or inside a
quoted entity that a later pass has found. Template and entities therefore combine exactly if no
quoted entity holds a placeholder. -/
theorem lift_conserves_placeholders (text : String)
    (h : ∀ kind : EntityKind, ¬ kind.placeholder.toList <:+: text.toList) :
    (∀ kind, (EntityCounts.ofTemplate (lift text).text).get kind +
        (lift text).entities.swallowed kind = (lift text).entities.counts.get kind) ∧
      ((∃ c, recombine (lift text).text (lift text).entities = .ok c) ↔
        ∀ entity ∈ (lift text).entities.values ++ (lift text).entities.stringLists,
          ∀ kind : EntityKind, ¬ kind.placeholder.toList <:+: entity.toList) := by
  have hcounts : ∀ kind, (EntityCounts.ofTemplate (lift text).text).get kind +
      (lift text).entities.swallowed kind = (lift text).entities.counts.get kind := by
    intro kind
    have hnone := (Text.count_eq_zero_iff (beginsOnce_placeholder kind)).mpr (h kind)
    rw [EntityCounts.ofTemplate, EntityTexts.counts, EntityCounts.get_ofFn, EntityCounts.get_ofFn,
      swallowed_lift, lift_balance hnone, get_entities_lift, List.length_map]
  refine ⟨hcounts, (exists_recombine_eq_ok_iff _ _).trans ?_⟩
  constructor
  · intro heq entity hentity kind
    have hkind := hcounts kind
    rw [heq, Nat.add_eq_left] at hkind
    exact ((lift text).entities.swallowed_eq_zero_iff kind).mp hkind entity hentity
  · intro hnone
    apply EntityCounts.ext_get
    intro kind
    have hkind := ((lift text).entities.swallowed_eq_zero_iff kind).mpr fun entity hentity =>
      hnone entity hentity kind
    rw [← hcounts kind, hkind, Nat.add_zero]

theorem recombine_lift_rows :
    let text := "ROWS 1, 2 OF \"a\" >= 3"
    (∀ kind : EntityKind, ¬ kind.placeholder.toList <:+: text.toList) ∧
      ∃ c, recombine (lift text).text (lift text).entities = .ok c := by
  intro text
  have hplain : ∀ kind : EntityKind, ¬ kind.placeholder.toList <:+: text.toList := by
    intro kind
    cases kind <;> decide +kernel
  have hquoted : (lift text).entities.values ++ (lift text).entities.stringLists = ["a"] := by
    decide +kernel
  refine ⟨hplain, (lift_conserves_placeholders text hplain).2.mpr ?_⟩
  rw [hquoted, List.forall_mem_singleton]
  intro kind
  cases kind <;> decide +kernel

/-- The pass for lists of numbers comes before the one for values and finds a list inside quotes. -/
theorem recombine_lift_quoted_numberList :
    let text := "\"1, 2\""
    (∀ kind : EntityKind, ¬ kind.placeholder.toList <:+: text.toList) ∧
      recombine (lift text).text (lift text).entities =
        .error ⟨"<value>", ⟨0, 1, 0, 0, 0⟩, ⟨0, 1, 1, 0, 0⟩⟩ := by
  intro text
  have hlift : lift text = ⟨"<value>", ⟨[], ["<number_list>"], ["1, 2"], [], []⟩⟩ := by
    decide +kernel
  have htemplate : EntityCounts.ofTemplate "<value>" = ⟨0, 1, 0, 0, 0⟩ := by
    decide +kernel
  constructor
  · intro kind
    cases kind <;> decide +kernel
  · rw [hlift, recombine, htemplate]
    rfl

end TablePhrase
