import TablePhrase.Proofs.Template.Combination
import TablePhrase.Proofs.Template.Substitution

/-!
The lifted form of an action: its placeholders with numbers. No numbered placeholder is taken for
one without a number, so that every entity finds the placeholder of its own number, whatever else
stands in the template; without the numbers the template is back.
-/

namespace TablePhrase.Template

open EntityKind Text Grounding

def numbering : Filling :=
  fun kind index => some (kind.indexed index)

def indicesOf (kind : EntityKind) (ps : List Piece) : List Nat :=
  ps.filterMap fun
    | .slot k index => if k = kind then some index else none
    | .char _ => none

/-- The pieces make up the template, the placeholders of each kind are their slots, numbered from
zero, and there is no placeholder besides. -/
structure Numbers (ps : List Piece) (template : List Char) : Prop where
  unnumbered : fill .empty ps = template
  indices : ∀ kind : EntityKind,
    indicesOf kind ps = List.range (count kind.placeholder.toList template)
  clear : CharsClear ps

section Pieces
variable {kind : EntityKind}

theorem indicesOf_slot_cons (kind other : EntityKind) (index : Nat) (ps : List Piece) :
    indicesOf kind (.slot other index :: ps) =
      if other = kind then index :: indicesOf kind ps else indicesOf kind ps := by
  unfold indicesOf
  split
  · next heq => exact List.filterMap_cons_some (if_pos heq)
  · next hne => exact List.filterMap_cons_none (if_neg hne)

theorem indicesOf_piecesFrom (seen : EntityKind → Nat) (text : List Char) (kind : EntityKind) :
    indicesOf kind (piecesFrom seen text) =
      List.range' (seen kind) (count kind.placeholder.toList text) := by
  induction text using text_induction generalizing seen with
  | nil =>
    rw [piecesFrom, count]
    rfl
  | placeholder other rest ih =>
    rw [piecesFrom_placeholder_append, count_placeholder_append]
    rw [indicesOf_slot_cons, ih]
    by_cases hkind : kind = other
    · subst hkind
      rw [if_pos rfl, if_pos rfl, Function.update_self, Nat.add_comm 1, List.range'_succ]
    · rw [if_neg (Ne.symm hkind), if_neg hkind, Function.update_of_ne hkind, Nat.zero_add]
  | char c cs hkind ih =>
    rw [piecesFrom_cons hkind, count_cons_of_kindAt? hkind, ← ih]
    rfl

theorem numbers_pieces (template : List Char) : Numbers (pieces template) template where
  unnumbered := fill_empty_piecesFrom _ template
  indices := by
    intro kind
    rw [pieces, indicesOf_piecesFrom, List.range_eq_range']
  clear := charsClear_piecesFrom _ template

theorem not_prefix_indexed (kind other : EntityKind) (index : Nat) (rest : List Char) :
    ¬ kind.placeholder.toList <+: (other.indexed index).toList ++ rest := by
  obtain ⟨digit, digits, hdigits⟩ :=
    List.exists_cons_of_ne_nil (Nat.toDigits_ne_nil (n := index) (b := 10))
  have hdigit : digit.isDigit = true :=
    Nat.isDigit_of_mem_toDigits (by decide) (by decide) (hdigits ▸ List.mem_cons_self)
  have hne : ∀ c : Char, c.isDigit = false → c ≠ digit := by
    rintro c hc rfl
    rw [hc] at hdigit
    cases hdigit
  rw [toList_indexed, hdigits]
  cases kind <;> cases other <;>
    simp [placeholder, name, hne '>' (by decide), hne '_' (by decide)]

theorem avoids_indexed (kind other : EntityKind) (index : Nat) (rest : List Char) :
    Avoids kind.placeholder.toList (other.indexed index).toList rest := by
  have hstarts := not_prefix_indexed kind other index rest
  rw [toList_indexed] at hstarts ⊢
  refine ⟨hstarts, avoids_placeholder_of_not_mem kind ?_ rest⟩
  intro hmem
  rcases List.mem_append.mp hmem with hname | hnumber
  · revert hname
    cases other <;> decide
  · rcases List.mem_append.mp hnumber with hdigit | hclose
    · have hdigit := Nat.isDigit_of_mem_toDigits (by decide) (by decide) hdigit
      cases hdigit
    · rw [List.mem_singleton] at hclose
      cases hclose

end Pieces

section Combination
variable {template : String} {texts : EntityTexts}

theorem undisturbed_indexedText (hcounts : texts.counts = .ofTemplate template) :
    Undisturbed indexedText texts template := by
  refine undisturbed_of_avoids hcounts (fun item _ kind rest => ?_) (.inr fun item _ kind => ?_)
  · exact avoids_indexed kind item.kind item.index rest
  · refine ⟨'<', ?_, opens_not_mem_placeholder_tail kind⟩
    rw [indexedText, toList_indexed]
    rfl

theorem instantiate_indexedText (hcounts : texts.counts = .ofTemplate template) :
    instantiate indexedText texts template =
      String.ofList (fill numbering (pieces template.toList)) := by
  apply congrArg String.ofList
  apply List.flatMap_congr
  intro p hp
  cases p with
  | char c => rfl
  | slot kind index =>
    have hindex : index ∈ indicesOf kind (pieces template.toList) :=
      List.mem_filterMap.mpr ⟨_, hp, if_pos rfl⟩
    have hcount : (texts.get kind).length = count kind.placeholder.toList template.toList := by
      have hkind := congrArg (·.get kind) hcounts
      simpa only [EntityTexts.counts, EntityCounts.ofTemplate, EntityCounts.get_ofFn] using hkind
    rw [(numbers_pieces template.toList).indices kind, List.mem_range, ← hcount] at hindex
    rw [Piece.shown, Piece.shown, EntityTexts.filling, List.getElem?_eq_getElem hindex]
    rfl

/-- A template and entities combine exactly if there are as many placeholders as entities of every
kind. The lifted form is then the template with each placeholder numbered among those of its kind,
and the decoded entities are those of the texts, each under the placeholder of its own number. -/
theorem recombine_numbers_placeholders (template : String) (texts : EntityTexts) :
    ((∃ c, recombine template texts = .ok c) ↔
      ∀ kind : EntityKind,
        count kind.placeholder.toList template.toList = (texts.get kind).length) ∧
    ∀ c, recombine template texts = .ok c →
      (∃ ps, Numbers ps template.toList ∧ c.lifted = String.ofList (fill numbering ps)) ∧
      c.entities.size = texts.size ∧
      ∀ key v, c.entities.bindings.get? key = some v ↔
        ∃ (kind : EntityKind) (index : Nat) (text : String),
          (texts.get kind)[index]? = some text ∧ kind.indexed index = key ∧ kind.decode text = v := by
  refine ⟨?_, fun c hc => ?_⟩
  · rw [exists_recombine_eq_ok_iff]
    constructor
    · intro hcounts kind
      have hkind := congrArg (·.get kind) hcounts
      simpa only [EntityTexts.counts, EntityCounts.ofTemplate, EntityCounts.get_ofFn] using hkind
    · intro hcounts
      apply EntityCounts.ext_get
      intro kind
      rw [EntityCounts.ofTemplate, EntityTexts.counts, EntityCounts.get_ofFn,
        EntityCounts.get_ofFn, hcounts kind]
  · obtain ⟨hcounts, rfl⟩ := recombine_eq_ok_iff.mp hc
    refine ⟨⟨_, numbers_pieces _, ?_⟩, DecodedEntities.size_ofTexts texts, fun key v => ?_⟩
    · have hnumbered := substitute_eq_instantiate hcounts.symm (undisturbed_indexedText hcounts.symm)
      rw [instantiate_indexedText hcounts.symm] at hnumbered
      exact hnumbered
    · rw [Combination.ofTexts, DecodedEntities.get?_bindings_eq_some_iff]
      constructor
      · rintro ⟨item, hitem, rfl, rfl⟩
        exact ⟨_, _, _, EntityTexts.mem_items_iff.mp hitem, rfl, rfl⟩
      · rintro ⟨kind, index, text, htext, rfl, rfl⟩
        exact ⟨⟨kind, index, text⟩, EntityTexts.mem_items_iff.mpr htext, rfl, rfl⟩

end Combination
end TablePhrase.Template
