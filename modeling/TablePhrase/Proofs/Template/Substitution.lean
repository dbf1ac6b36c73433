import Mathlib.Data.List.Induction
import TablePhrase.Grounding
import TablePhrase.Proofs.Entity.Decoded
import TablePhrase.Proofs.Template.Slots

/-!
Grounding as substitution. Entities are put in one after another, each for the first placeholder of
its kind in the text so far. This is the same as filling all slots of the template at once if none
of these placeholders is in front of the slot, in particular not in the entities there. An entity
that holds a placeholder can be rewritten itself.
-/

namespace TablePhrase

open EntityTexts (Item)

namespace Filling

variable {text : Item → String} {items : List Item} {kind : EntityKind} {index : Nat}

def ofItems (text : Item → String) (items : List Item) : Filling :=
  items.foldl (fun filling item => filling.put item.kind item.index (text item)) .empty

theorem ofItems_concat (text : Item → String) (items : List Item) (item : Item) :
    ofItems text (items ++ [item]) = (ofItems text items).put item.kind item.index (text item) :=
  List.foldl_concat ..

theorem exists_mem_of_ofItems_eq_some {shown : String}
    (h : ofItems text items kind index = some shown) :
    ∃ item ∈ items, (item.kind = kind ∧ item.index = index) ∧ text item = shown := by
  induction items using List.reverseRecOn with
  | nil => cases h
  | append_singleton items item ih =>
    rw [ofItems_concat, put] at h
    split at h
    · next heq => exact ⟨item, by simp, ⟨heq.1.symm, heq.2.symm⟩, Option.some.inj h⟩
    · obtain ⟨other, hmem, hother⟩ := ih h
      exact ⟨other, List.mem_append_left _ hmem, hother⟩

theorem ofItems_ne_none {item : Item} (h : item ∈ items) :
    ofItems text items item.kind item.index ≠ none := by
  induction items using List.reverseRecOn with
  | nil => cases h
  | append_singleton items last ih =>
    rw [ofItems_concat, put]
    split
    · exact Option.some_ne_none _
    · next hne =>
      rcases List.mem_append.mp h with hmem | hlast
      · exact ih hmem
      · rw [List.mem_singleton] at hlast
        exact absurd (by simp [hlast]) hne

theorem shown_ofItems (text : Item → String) (items : List Item) (kind : EntityKind)
    (index : Nat) :
    (ofItems text items kind index = none ∧
      (Piece.slot kind index).shown (ofItems text items) = kind.placeholder.toList) ∨
    ∃ item ∈ items, (Piece.slot kind index).shown (ofItems text items) = (text item).toList := by
  cases hplaced : ofItems text items kind index with
  | none =>
    left
    rw [Piece.shown, hplaced]
    exact ⟨rfl, rfl⟩
  | some shown =>
    right
    obtain ⟨item, hitem, -, rfl⟩ := exists_mem_of_ofItems_eq_some hplaced
    rw [Piece.shown, hplaced]
    exact ⟨item, hitem, rfl⟩

end Filling

namespace EntityTexts

variable {texts : EntityTexts} (text : Item → String)

def filling (texts : EntityTexts) (text : Item → String) : Filling :=
  fun kind index => (texts.get kind)[index]?.map fun entity => text ⟨kind, index, entity⟩

theorem ofItems_items : Filling.ofItems text texts.items = texts.filling text := by
  funext kind index
  rw [filling]
  cases hplaced : Filling.ofItems text texts.items kind index with
  | none =>
    cases hentity : (texts.get kind)[index]? with
    | none => rfl
    | some entity =>
      have hmem : ⟨kind, index, entity⟩ ∈ texts.items := mem_items_iff.mpr hentity
      exact absurd hplaced (Filling.ofItems_ne_none hmem)
  | some shown =>
    obtain ⟨item, hitem, ⟨rfl, rfl⟩, rfl⟩ := Filling.exists_mem_of_ofItems_eq_some hplaced
    rw [mem_items_iff.mp hitem]
    rfl

theorem ofItems_take_items_eq_none {n : Nat} (hn : n < texts.items.length) :
    Filling.ofItems text (texts.items.take n) texts.items[n].kind texts.items[n].index = none := by
  apply Option.eq_none_iff_forall_ne_some.mpr
  intro shown hshown
  obtain ⟨item, hitem, ⟨hkind, hindex⟩, -⟩ := Filling.exists_mem_of_ofItems_eq_some hshown
  obtain ⟨m, hm, rfl⟩ := List.mem_take_iff_getElem.mp hitem
  have horder := List.pairwise_iff_getElem.mp (@pairwise_index_lt_items texts)
  exact Nat.ne_of_lt (horder m n (by omega) hn (by omega) hkind) hindex

theorem exists_mem_take_items {n : Nat} (hn : n < texts.items.length) {index : Nat}
    (hindex : index < texts.items[n].index) :
    ∃ entity, ⟨texts.items[n].kind, index, entity⟩ ∈ texts.items.take n := by
  have hentity := mem_items_iff.mp (List.getElem_mem hn)
  have hbound := (List.getElem?_eq_some_iff.mp hentity).1
  have hearlierBound : index < (texts.get texts.items[n].kind).length :=
    Nat.lt_trans hindex hbound
  have hmem : ⟨texts.items[n].kind, index, (texts.get texts.items[n].kind)[index]⟩ ∈ texts.items :=
    mem_items_iff.mpr (List.getElem?_eq_getElem hearlierBound)
  obtain ⟨m, hm, hitem⟩ := List.mem_iff_getElem.mp hmem
  have hkind : texts.items[m].kind = texts.items[n].kind := by rw [hitem]
  have hposition : texts.items[m].index = index := by rw [hitem]
  have horder := List.pairwise_iff_getElem.mp (@pairwise_index_lt_items texts)
  have hearlier : m < n := by
    rcases Nat.lt_trichotomy m n with hlt | rfl | hgt
    · exact hlt
    · exact absurd hindex (by omega)
    · have hlater := horder n m hn hm hgt hkind.symm
      omega
  exact ⟨_, List.mem_take_iff_getElem.mpr ⟨m, Nat.lt_min.mpr ⟨hearlier, hm⟩, hitem⟩⟩

end EntityTexts

namespace Template

open EntityKind Text Grounding

variable {text : Item → String} {texts : EntityTexts} {template : String} {kind : EntityKind}
  {index : Nat}

theorem fill_put_of_not_mem {ps : List Piece} (h : .slot kind index ∉ ps) (filling : Filling)
    (text : String) : fill (filling.put kind index text) ps = fill filling ps := by
  apply List.flatMap_congr
  intro p hp
  cases p with
  | char c => rfl
  | slot k i =>
    have hne : ¬(k = kind ∧ i = index) := by
      rintro ⟨rfl, rfl⟩
      exact h hp
    rw [Piece.shown, Piece.shown, Filling.put, if_neg hne]

theorem replaceFirst_fill {ps : List Piece} {filling : Filling}
    (hslot : ps.count (.slot kind index) = 1) (hempty : filling kind index = none)
    (hfront : ¬ kind.placeholder.toList <:+: fill filling (before ps kind index))
    (text : String) :
    replaceFirst kind.placeholder.toList text.toList (fill filling ps) =
      fill (filling.put kind index text) ps := by
  obtain ⟨back, hps, hbefore, hback⟩ := exists_before hslot
  generalize before ps kind index = front at hps hbefore hfront
  subst hps
  have hshown : (Piece.slot kind index).shown filling = kind.placeholder.toList := by
    rw [Piece.shown, hempty]
    rfl
  have hput : (Piece.slot kind index).shown (filling.put kind index text) = text.toList := by
    rw [Piece.shown, Filling.put, if_pos ⟨rfl, rfl⟩]
    rfl
  rw [fill_append, fill_append, fill_cons, fill_cons, fill_put_of_not_mem hbefore,
    fill_put_of_not_mem hback, hshown, hput]
  exact replaceFirst_append_of_not_infix (beginsOnce_placeholder kind) hfront _ _

theorem count_slot_of_mem_items (hcounts : texts.counts = .ofTemplate template) {item : Item}
    (hitem : item ∈ texts.items) :
    (pieces template.toList).count (.slot item.kind item.index) = 1 := by
  have hbound := (List.getElem?_eq_some_iff.mp (EntityTexts.mem_items_iff.mp hitem)).1
  have hcount : (texts.get item.kind).length =
      count item.kind.placeholder.toList template.toList := by
    have hkind := congrArg (·.get item.kind) hcounts
    simpa only [EntityTexts.counts, EntityCounts.ofTemplate, EntityCounts.get_ofFn] using hkind
  rw [pieces, count_slot_piecesFrom, if_pos (by omega)]

/-- The template with all slots filled at once. -/
def instantiate (text : Item → String) (texts : EntityTexts) (template : String) : String :=
  String.ofList (fill (texts.filling text) (pieces template.toList))

/-- No entity is put in behind a placeholder of its kind: when its turn comes, the text in front of
its slot, with the entities so far, holds none. -/
def Undisturbed (text : Item → String) (texts : EntityTexts) (template : String) : Prop :=
  ∀ n, (hn : n < texts.items.length) →
    ¬ texts.items[n].kind.placeholder.toList <:+:
      fill (.ofItems text (texts.items.take n))
        (before (pieces template.toList) texts.items[n].kind texts.items[n].index)

instance : Decidable (Undisturbed text texts template) :=
  inferInstanceAs (Decidable (∀ n, (hn : n < texts.items.length) →
    ¬ texts.items[n].kind.placeholder.toList <:+:
      fill (.ofItems text (texts.items.take n))
        (before (pieces template.toList) texts.items[n].kind texts.items[n].index)))

theorem substitute_take_eq_fill (hcounts : texts.counts = .ofTemplate template)
    (h : Undisturbed text texts template) {n : Nat} (hn : n ≤ texts.items.length) :
    substitute text (texts.items.take n) template.toList =
      fill (.ofItems text (texts.items.take n)) (pieces template.toList) := by
  induction n with
  | zero => exact (fill_empty_piecesFrom _ _).symm
  | succ n ih =>
    have hslot := count_slot_of_mem_items hcounts (List.getElem_mem hn)
    have hempty := EntityTexts.ofItems_take_items_eq_none text hn
    rw [List.take_succ_eq_append_getElem hn, Filling.ofItems_concat,
      ← replaceFirst_fill hslot hempty (h n hn), ← ih (Nat.le_of_succ_le hn)]
    exact List.foldl_concat ..

theorem substitute_eq_instantiate (hcounts : texts.counts = .ofTemplate template)
    (h : Undisturbed text texts template) :
    String.ofList (substitute text texts.items template.toList) =
      instantiate text texts template := by
  have hall := substitute_take_eq_fill hcounts h (Nat.le_refl _)
  rw [List.take_length, EntityTexts.ofItems_items] at hall
  rw [hall, instantiate]

/-- Entities never disturb if no placeholder begins in them, and none ends there that the template
has begun. -/
theorem undisturbed_of_avoids (hcounts : texts.counts = .ofTemplate template)
    (havoids : ∀ item ∈ texts.items, ∀ (kind : EntityKind) rest,
      Avoids kind.placeholder.toList (text item).toList rest)
    (hbreak : .char '<' ∉ pieces template.toList ∨ ∀ item ∈ texts.items, ∀ kind : EntityKind,
      ∃ c ∈ (text item).toList.head?, c ∉ kind.placeholder.toList.tail) :
    Undisturbed text texts template := by
  intro n hn
  have hslot := count_slot_of_mem_items hcounts (List.getElem_mem hn)
  obtain ⟨back, hps, -, -⟩ := exists_before hslot
  have hclear : CharsClear (pieces template.toList) := charsClear_piecesFrom _ _
  have hincrease := slots_increase (fun _ => 0) template.toList
  change (pieces template.toList).Pairwise _ at hincrease
  rw [hps] at hclear hincrease
  apply not_infix_fill hclear.of_append
  · rcases hbreak with hstray | hheads
    · left
      intro hmem
      apply hstray
      rw [hps]
      exact List.mem_append_left _ hmem
    · right
      intro k i _
      rcases Filling.shown_ofItems text (texts.items.take n) k i with
        ⟨-, hshown⟩ | ⟨item, hitem, hshown⟩
      · refine ⟨'<', ?_, opens_not_mem_placeholder_tail _⟩
        rw [hshown, placeholder_toList]
        rfl
      · rw [hshown]
        exact hheads item (List.mem_of_mem_take hitem) _
  · intro k i hmem rest
    rcases Filling.shown_ofItems text (texts.items.take n) k i with
      ⟨hempty, hshown⟩ | ⟨item, hitem, hshown⟩
    · rw [hshown]
      apply avoids_other_placeholder
      rintro rfl
      -- the slots of the same kind in front are filled
      have hlt := (List.pairwise_append.mp hincrease).2.2 _ hmem _ List.mem_cons_self _ _ _ rfl rfl
      obtain ⟨entity, hentity⟩ := EntityTexts.exists_mem_take_items hn hlt
      exact Filling.ofItems_ne_none hentity hempty
    · rw [hshown]
      exact havoids item (List.mem_of_mem_take hitem) _ rest

/-- A template and as many entities as it has placeholders combine to the template with all slots
filled at once, whatever the entities hold, if none of them is disturbed. None is if no placeholder
begins in an entity, and none that the template has begun goes on there. -/
theorem recombine_eq_instantiate (template : String) (texts : EntityTexts)
    (hcounts : texts.counts = .ofTemplate template) :
    (Undisturbed groundedText texts template →
      ∃ c, recombine template texts = .ok c ∧
        c.grounded = instantiate groundedText texts template) ∧
    ((∀ item ∈ texts.items, ∀ (kind : EntityKind) rest,
        Avoids kind.placeholder.toList (groundedText item).toList rest) →
      (.char '<' ∉ pieces template.toList ∨ ∀ item ∈ texts.items, ∀ kind : EntityKind,
        ∃ c ∈ (groundedText item).toList.head?, c ∉ kind.placeholder.toList.tail) →
      Undisturbed groundedText texts template) :=
  ⟨fun h => ⟨_, if_pos hcounts.symm, substitute_eq_instantiate hcounts h⟩,
    undisturbed_of_avoids hcounts⟩

theorem recombine_spoken_placeholders :
    let template := "SHOW <number> OF <value> <condition>"
    let texts : EntityTexts := ⟨["3"], ["<number>"], [], [], ["< <value>"]⟩
    let parts : EntityTexts := ⟨["3"], ["<condition"], [], [], [">= value>"]⟩
    (texts.counts = .ofTemplate template ∧ Undisturbed groundedText texts template ∧
      ∃ c, recombine template texts = .ok c ∧
        c.grounded = "SHOW 3 OF \"<number>\" < <value>") ∧
    parts.counts = .ofTemplate template ∧
      (∀ item ∈ parts.items, ∀ (kind : EntityKind) rest,
        Avoids kind.placeholder.toList (groundedText item).toList rest) ∧
      .char '<' ∉ pieces template.toList ∧ Undisturbed groundedText parts template := by
  intro template texts parts
  have hcounts : texts.counts = .ofTemplate template := by decide +kernel
  have hundisturbed : Undisturbed groundedText texts template := by decide +kernel
  have hinstance : instantiate groundedText texts template =
      "SHOW 3 OF \"<number>\" < <value>" := by decide +kernel
  have hparts : parts.counts = .ofTemplate template := by decide +kernel
  have hstray : .char '<' ∉ pieces template.toList := by decide +kernel
  have havoids : ∀ item ∈ parts.items, ∀ (kind : EntityKind) rest,
      Avoids kind.placeholder.toList (groundedText item).toList rest := by
    intro item hitem kind rest
    change item ∈ [⟨.number, 0, "3"⟩, ⟨.value, 0, "<condition"⟩, ⟨.condition, 0, ">= value>"⟩]
      at hitem
    simp only [List.mem_cons, List.not_mem_nil, or_false] at hitem
    rcases hitem with rfl | rfl | rfl
    · exact avoids_placeholder_of_not_mem kind (by decide) rest
    · cases kind <;> simp [Avoids, groundedText, grounded, placeholder, name]
    · exact avoids_placeholder_of_not_mem kind (by decide) rest
  obtain ⟨c, hc, hgrounded⟩ := (recombine_eq_instantiate template texts hcounts).1 hundisturbed
  exact ⟨⟨hcounts, hundisturbed, c, hc, hgrounded.trans hinstance⟩, hparts, havoids, hstray,
    (recombine_eq_instantiate template parts hparts).2 havoids (.inl hstray)⟩

/-- A value that holds a placeholder of its own kind is rewritten by the next one. -/
theorem recombine_rewrites_entity :
    let template := "<value> <value>"
    let texts : EntityTexts := ⟨[], ["<value>", "b"], [], [], []⟩
    texts.counts = .ofTemplate template ∧
      instantiate groundedText texts template = "\"<value>\" \"b\"" ∧
      ∃ c, recombine template texts = .ok c ∧ c.grounded = "\"\"b\"\" <value>" ∧
        c.grounded ≠ instantiate groundedText texts template := by
  intro template texts
  have hcounts : texts.counts = .ofTemplate template := by decide +kernel
  have hinstance : instantiate groundedText texts template = "\"<value>\" \"b\"" := by
    decide +kernel
  have hgrounded : String.ofList (substitute groundedText texts.items template.toList) =
      "\"\"b\"\" <value>" := by decide +kernel
  refine ⟨hcounts, hinstance, _, if_pos hcounts.symm, hgrounded, ?_⟩
  rw [hinstance]
  exact fun h => absurd (hgrounded.symm.trans h) (by decide)

end Template
end TablePhrase
