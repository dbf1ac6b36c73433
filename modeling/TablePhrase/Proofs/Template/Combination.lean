import Mathlib.Data.List.Perm.Basic
import TablePhrase.Grounding

/-!
What a template and entities combine to. There has to be one entity for each placeholder, kind by
kind, and the template with numbered placeholders depends on nothing else; the order of the values
only shows in the grounded action and in the decoded entities.
-/

namespace TablePhrase

def Combination.ofTexts (template : String) (texts : EntityTexts) : Combination where
  grounded := .ofList (Grounding.substitute Grounding.groundedText texts.items template.toList)
  lifted := .ofList (Grounding.substitute Grounding.indexedText texts.items template.toList)
  entities := .ofTexts texts

theorem recombine_eq_ok_iff {template : String} {texts : EntityTexts} {combination : Combination} :
    recombine template texts = .ok combination ↔
      EntityCounts.ofTemplate template = texts.counts ∧ combination = .ofTexts template texts := by
  rw [recombine]
  split
  · next h => exact ⟨fun heq => ⟨h, (Except.ok.inj heq).symm⟩, fun heq => congrArg _ heq.2.symm⟩
  · next h => exact ⟨nofun, fun heq => absurd heq.1 h⟩

theorem exists_recombine_eq_ok_iff (template : String) (texts : EntityTexts) :
    (∃ c, recombine template texts = .ok c) ↔ EntityCounts.ofTemplate template = texts.counts :=
  ⟨fun ⟨_, h⟩ => (recombine_eq_ok_iff.mp h).1, fun h => ⟨_, recombine_eq_ok_iff.mpr ⟨h, rfl⟩⟩⟩

namespace EntityTexts

variable {texts other third : EntityTexts}

/-- The values may stand in another order, all other entities are the same. -/
structure Reorders (texts other : EntityTexts) : Prop where
  values : texts.values.Perm other.values
  others : ∀ kind, kind ≠ .value → texts.get kind = other.get kind

theorem Reorders.refl (texts : EntityTexts) : texts.Reorders texts :=
  ⟨.refl _, fun _ _ => rfl⟩

theorem Reorders.symm (h : texts.Reorders other) : other.Reorders texts :=
  ⟨h.values.symm, fun kind hkind => (h.others kind hkind).symm⟩

theorem Reorders.trans (h : texts.Reorders other) (h' : other.Reorders third) :
    texts.Reorders third :=
  ⟨h.values.trans h'.values, fun kind hkind => (h.others kind hkind).trans (h'.others kind hkind)⟩

theorem Reorders.counts_eq (h : texts.Reorders other) : texts.counts = other.counts := by
  apply EntityCounts.ext_get
  intro kind
  rw [counts, counts, EntityCounts.get_ofFn, EntityCounts.get_ofFn]
  by_cases hkind : kind = .value
  · subst hkind
    exact h.values.length_eq
  · rw [h.others kind hkind]

theorem map_slot_items : texts.items.map (fun item => (item.kind, item.index)) =
    EntityKind.groundOrder.flatMap fun kind =>
      (List.range (texts.counts.get kind)).map fun index => (kind, index) := by
  rw [items, List.map_flatMap]
  refine List.flatMap_congr fun kind _ => ?_
  rw [counts, EntityCounts.get_ofFn]
  refine List.ext_getElem (by simp) fun i _ _ => ?_
  simp

theorem Reorders.lifted_eq (h : texts.Reorders other) (template : String) :
    (Combination.ofTexts template texts).lifted = (Combination.ofTexts template other).lifted := by
  have hslots : texts.items.map (fun item => (item.kind, item.index)) =
      other.items.map fun item => (item.kind, item.index) := by
    rw [map_slot_items, map_slot_items, h.counts_eq]
  have hsubstitute (items : List Item) :
      Grounding.substitute Grounding.indexedText items template.toList =
        (items.map fun item => (item.kind, item.index)).foldl
          (fun action (slot : EntityKind × Nat) =>
            Text.replaceFirst slot.1.placeholder.toList (slot.1.indexed slot.2).toList action)
          template.toList := by
    rw [List.foldl_map]
    rfl
  rw [Combination.ofTexts, Combination.ofTexts, hsubstitute, hsubstitute, hslots]

end EntityTexts
end TablePhrase
