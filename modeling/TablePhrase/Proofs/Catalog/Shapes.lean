import Mathlib.Data.List.OfFn
import TablePhrase.Catalog.Basic
import TablePhrase.Entity.Texts

/-!
What holds of an entry of the catalog for all entities that its template asks for, by the shape of
those: how many there are of each kind.
-/

namespace TablePhrase

theorem EntityTexts.counts_eq_iff {texts : EntityTexts} {a b c d e : Nat} :
    texts.counts = ⟨a, b, c, d, e⟩ ↔ texts.numbers.length = a ∧ texts.values.length = b ∧
      texts.numberLists.length = c ∧ texts.stringLists.length = d ∧
      texts.conditions.length = e := by
  rw [counts, EntityCounts.ofFn, EntityCounts.mk.injEq]
  rfl

namespace Catalog

def Entry.Always (P : Plan → String → EntityTexts → Prop) (entry : Entry) : Prop :=
  ∀ texts : EntityTexts, texts.counts = .ofTemplate entry.template →
    P entry.plan entry.template texts

variable {template : String} {plan : Plan} {P : Plan → String → EntityTexts → Prop}

theorem always_of_counts {n v nl sl c : Nat}
    (hcounts : EntityCounts.ofTemplate template = ⟨n, v, nl, sl, c⟩)
    (h : ∀ template (numbers : Fin n → String) (values : Fin v → String)
      (numberLists : Fin nl → String) (stringLists : Fin sl → String) (conditions : Fin c → String),
      P plan template ⟨.ofFn numbers, .ofFn values, .ofFn numberLists, .ofFn stringLists,
        .ofFn conditions⟩) :
    Entry.Always P ⟨template, plan⟩ := by
  intro texts htexts
  obtain ⟨rfl, rfl, rfl, rfl, rfl⟩ := EntityTexts.counts_eq_iff.mp (htexts.trans hcounts)
  have hget := h template texts.numbers.get texts.values.get texts.numberLists.get
    texts.stringLists.get texts.conditions.get
  simpa only [List.ofFn_get] using hget

theorem always_of_none (hcounts : EntityCounts.ofTemplate template = ⟨0, 0, 0, 0, 0⟩)
    (h : ∀ template, P plan template ⟨[], [], [], [], []⟩) :
    Entry.Always P ⟨template, plan⟩ :=
  always_of_counts hcounts fun template _ _ _ _ _ => h template

theorem always_of_number (hcounts : EntityCounts.ofTemplate template = ⟨1, 0, 0, 0, 0⟩)
    (h : ∀ template a, P plan template ⟨[a], [], [], [], []⟩) :
    Entry.Always P ⟨template, plan⟩ :=
  always_of_counts hcounts fun template numbers _ _ _ _ => h template (numbers 0)

theorem always_of_value (hcounts : EntityCounts.ofTemplate template = ⟨0, 1, 0, 0, 0⟩)
    (h : ∀ template a, P plan template ⟨[], [a], [], [], []⟩) :
    Entry.Always P ⟨template, plan⟩ :=
  always_of_counts hcounts fun template _ values _ _ _ => h template (values 0)

theorem always_of_two_values (hcounts : EntityCounts.ofTemplate template = ⟨0, 2, 0, 0, 0⟩)
    (h : ∀ template a b, P plan template ⟨[], [a, b], [], [], []⟩) :
    Entry.Always P ⟨template, plan⟩ :=
  always_of_counts hcounts fun template _ values _ _ _ => h template (values 0) (values 1)

theorem always_of_three_values (hcounts : EntityCounts.ofTemplate template = ⟨0, 3, 0, 0, 0⟩)
    (h : ∀ template a b c, P plan template ⟨[], [a, b, c], [], [], []⟩) :
    Entry.Always P ⟨template, plan⟩ :=
  always_of_counts hcounts fun template _ values _ _ _ =>
    h template (values 0) (values 1) (values 2)

theorem always_of_number_value (hcounts : EntityCounts.ofTemplate template = ⟨1, 1, 0, 0, 0⟩)
    (h : ∀ template a b, P plan template ⟨[a], [b], [], [], []⟩) :
    Entry.Always P ⟨template, plan⟩ :=
  always_of_counts hcounts fun template numbers values _ _ _ =>
    h template (numbers 0) (values 0)

theorem always_of_numberList (hcounts : EntityCounts.ofTemplate template = ⟨0, 0, 1, 0, 0⟩)
    (h : ∀ template a, P plan template ⟨[], [], [a], [], []⟩) :
    Entry.Always P ⟨template, plan⟩ :=
  always_of_counts hcounts fun template _ _ numberLists _ _ => h template (numberLists 0)

theorem always_of_stringList (hcounts : EntityCounts.ofTemplate template = ⟨0, 0, 0, 1, 0⟩)
    (h : ∀ template a, P plan template ⟨[], [], [], [a], []⟩) :
    Entry.Always P ⟨template, plan⟩ :=
  always_of_counts hcounts fun template _ _ _ stringLists _ => h template (stringLists 0)

end Catalog
end TablePhrase
