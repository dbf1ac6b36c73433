import TablePhrase.Proofs.Entity.Decoded
import TablePhrase.Proofs.Lifting.Conservation
import TablePhrase.Proofs.Literal.Agreement
import TablePhrase.Proofs.Resolution.Selection

/-!
Templates that speak of a column. The entities of what is offered are those of the utterance and
then those of the template. A template that speaks of a column takes its columns before its other
values unless a column is first already, so that its first value is a column if any value is.
-/

namespace TablePhrase

open Text (infix_append_cons_iff occurs_iff_infix)

namespace Workspace
variable {w : Workspace}

def IsColumn (w : Workspace) (name : String) : Prop :=
  ∃ d ∈ w.datasets, .str name ∈ d.schema.columns

theorem isColumn_str_iff {name : String} : w.isColumn (.str name) = true ↔ w.IsColumn name := by
  have hcolumn (d : Dataset) :
      d.schema.hasColumn (.str name) = true ↔ .str name ∈ d.schema.columns :=
    Literal.isOption_str_iff
  rw [isColumn, columnOwners, Bool.not_eq_true', List.isEmpty_eq_false_iff, ne_eq,
    List.map_eq_nil_iff, List.filter_eq_nil_iff]
  simp only [hcolumn, not_forall, not_not, exists_prop, IsColumn]

instance (name : String) : Decidable (w.IsColumn name) :=
  decidable_of_iff _ isColumn_str_iff

theorem isColumn_str (name : String) : w.isColumn (.str name) = decide (w.IsColumn name) :=
  Bool.eq_iff_iff.mpr (isColumn_str_iff.trans decide_eq_true_iff.symm)

end Workspace

/-- The text has the words in it by which a template speaks of a column. -/
def SpeaksOfColumn (text : String) : Prop :=
  "ON COLUMN".toList <:+: text.toList

instance (text : String) : Decidable (SpeaksOfColumn text) :=
  decidable_of_iff (Text.occurs "ON COLUMN".toList text.toList = true) <|
    occurs_iff_infix text.toList

section Placeholders
open Lifting
variable {needle piece back : List Char}

theorem infix_of_infix_append (hpiece : ∀ c ∈ piece, c ∉ needle) (h : needle <:+: piece ++ back) :
    needle <:+: back := by
  induction piece with
  | nil => exact h
  | cons c piece ih =>
    obtain ⟨hc, hpiece⟩ := List.forall_mem_cons.mp hpiece
    rcases (infix_append_cons_iff hc [] (piece ++ back)).mp h with hnil | hrest
    · rw [List.infix_nil.mp hnil]
      exact List.nil_infix
    · exact ih hpiece hrest

theorem Lifting.Cut.infix_of_fill {c : Char} (hpiece : ∀ d ∈ c :: piece, d ∉ needle) {cut : Cut}
    (h : needle <:+: cut.fill fun _ => c :: piece) : needle <:+: cut.fill id := by
  obtain ⟨spans, tail⟩ := cut
  induction spans with
  | nil => exact h
  | cons first spans ih =>
    obtain ⟨gap, span⟩ := first
    rw [fill_cons] at h ⊢
    obtain ⟨hc, hrest⟩ := List.forall_mem_cons.mp hpiece
    rcases (infix_append_cons_iff hc gap _).mp h with hgap | hlater
    · exact hgap.trans (List.prefix_append _ _).isInfix
    · have hlater := ih (infix_of_infix_append hrest hlater)
      exact hlater.trans ((List.suffix_append _ _).trans (List.suffix_append _ _)).isInfix

theorem infix_of_liftKind (hneedle : ∀ kind : EntityKind, ∀ c ∈ kind.placeholder.toList, c ∉ needle)
    {kind : EntityKind} {text : List Char} (h : needle <:+: (liftKind kind text).1) :
    needle <:+: text := by
  have hpiece := hneedle kind
  rw [EntityKind.placeholder_toList] at hpiece
  have hfill : needle <:+: ((matcher kind).cut text).fill fun _ => kind.placeholder.toList := h
  rw [EntityKind.placeholder_toList] at hfill
  rw [← (matcher kind).fill_id_cutAfter [] text]
  exact Cut.infix_of_fill hpiece hfill

theorem infix_of_liftKinds
    (hneedle : ∀ kind : EntityKind, ∀ c ∈ kind.placeholder.toList, c ∉ needle)
    (kinds : List EntityKind) {text : List Char} (h : needle <:+: (liftKinds kinds text).1) :
    needle <:+: text := by
  induction kinds generalizing text with
  | nil => exact h
  | cons kind kinds ih => exact infix_of_liftKind hneedle (ih h)

end Placeholders

namespace Candidate
open Lifting (liftKinds)

variable {workspace : Workspace} {spoken merged texts : EntityTexts} {c : Candidate}

theorem speaksOfColumn_of_form (h : SpeaksOfColumn c.form) :
    SpeaksOfColumn c.template := by
  have hneedle : ∀ kind : EntityKind, ∀ d ∈ kind.placeholder.toList, d ∉ "ON COLUMN".toList := by
    intro kind d hd
    have hall : (kind.placeholder.toList.all fun d => !"ON COLUMN".toList.contains d) = true := by
      cases kind <;> decide
    simpa using List.all_eq_true.mp hall d hd
  have hform : c.form.toList = (liftKinds EntityKind.liftOrder c.template.toList).1 :=
    String.toList_ofList
  rw [SpeaksOfColumn, hform] at h
  exact infix_of_liftKinds hneedle EntityKind.liftOrder h

/-- The values are put in another order: the template speaks of a column, and some value is one but
not the first. -/
def Moves (workspace : Workspace) (form : String) (values : List String) : Prop :=
  SpeaksOfColumn form ∧ (∃ value ∈ values, workspace.IsColumn value) ∧
    ∀ value ∈ values.head?, ¬ workspace.IsColumn value

instance (form : String) (values : List String) : Decidable (Moves workspace form values) :=
  inferInstanceAs (Decidable (_ ∧ _ ∧ _))

def withColumnsFirst (workspace : Workspace) (values : List String) : List String :=
  values.filter (workspace.IsColumn ·) ++ values.filter (¬ workspace.IsColumn ·)

theorem columnsFirst_eq (workspace : Workspace) (values : List String) :
    columnsFirst workspace values =
      if (∃ value ∈ values, workspace.IsColumn value) ∧
          ∀ value ∈ values.head?, ¬ workspace.IsColumn value then
        withColumnsFirst workspace values
      else values := by
  have hstays : (!(values.any fun value => decide (workspace.IsColumn value)) ||
      values.head?.any fun value => decide (workspace.IsColumn value)) = true ↔
      ¬((∃ value ∈ values, workspace.IsColumn value) ∧
        ∀ value ∈ values.head?, ¬ workspace.IsColumn value) := by
    rw [not_and_or, Bool.or_eq_true, Bool.not_eq_true', List.any_eq_false, Option.any_eq_true]
    simp only [decide_eq_true_eq, not_exists, not_forall, not_and, not_not, Option.mem_def,
      exists_prop]
  rw [columnsFirst, withColumnsFirst]
  simp only [Workspace.isColumn_str, decide_not, hstays, ite_not]

theorem exists_head_columnsFirst {values : List String}
    (h : ∃ value ∈ values, workspace.IsColumn value) :
    ∃ value, (columnsFirst workspace values)[0]? = some value ∧ workspace.IsColumn value := by
  rw [columnsFirst_eq, ← List.head?_eq_getElem?]
  split
  · obtain ⟨value, hvalue, hcolumn⟩ := h
    have hmem : value ∈ values.filter (workspace.IsColumn ·) :=
      List.mem_filter.mpr ⟨hvalue, decide_eq_true hcolumn⟩
    obtain ⟨first, rest, hcolumns⟩ := List.exists_cons_of_ne_nil (List.ne_nil_of_mem hmem)
    have hfirst : first ∈ values.filter (workspace.IsColumn ·) := hcolumns ▸ List.mem_cons_self
    refine ⟨first, ?_, of_decide_eq_true (List.mem_filter.mp hfirst).2⟩
    rw [withColumnsFirst, hcolumns]
    rfl
  · next hstays =>
    have hhead : ¬ ∀ value ∈ values.head?, ¬ workspace.IsColumn value := fun hnone =>
      hstays ⟨h, hnone⟩
    simpa using hhead

/-- The texts are the merged ones. Only the values may be in another order, with all columns first
and otherwise as before. -/
structure ColumnsLead (workspace : Workspace) (form : String) (merged texts : EntityTexts) :
    Prop where
  perm : ∀ kind, (texts.get kind).Perm (merged.get kind)
  others : ∀ kind, kind ≠ .value → texts.get kind = merged.get kind
  kept : ¬ Moves workspace form merged.values → texts.values = merged.values
  moved : Moves workspace form merged.values →
    texts.values = withColumnsFirst workspace merged.values
  first : SpeaksOfColumn form → (∃ value ∈ merged.values, workspace.IsColumn value) →
    ∃ value, texts.values[0]? = some value ∧ workspace.IsColumn value

theorem values_textsFor : (textsFor workspace spoken c).values =
    if SpeaksOfColumn c.form then
      columnsFirst workspace (spoken ++ (lift c.template).entities).values
    else (spoken ++ (lift c.template).entities).values := by
  have hspeaks : Text.occurs "ON COLUMN".toList (lift c.template).text.toList = true ↔
      SpeaksOfColumn c.form := occurs_iff_infix _
  rw [textsFor, entities, apply_ite EntityTexts.values]
  exact if_congr hspeaks rfl rfl

theorem columnsLead_textsFor : ColumnsLead workspace c.form
    (spoken ++ (lift c.template).entities) (textsFor workspace spoken c) where
  perm kind := by
    by_cases hkind : kind = .value
    · subst hkind
      exact textsFor_reorders.values
    · rw [textsFor_reorders.others kind hkind]
  others := textsFor_reorders.others
  kept h := by
    rw [values_textsFor]
    split
    · next hspeaks =>
      rw [columnsFirst_eq]
      exact if_neg fun hmoves => h ⟨hspeaks, hmoves⟩
    · rfl
  moved h := by
    rw [values_textsFor, if_pos h.1, columnsFirst_eq]
    exact if_pos h.2
  first hspeaks hany := by
    rw [values_textsFor, if_pos hspeaks]
    exact exists_head_columnsFirst hany

end Candidate

open Candidate

/-- What is offered for an utterance has the texts of the utterance and then those of the template,
kind by kind. Only a template that speaks of a column may move its values, which then has its
columns first, and whose first value is a column if any is. -/
theorem resolve_takes_columns_first (settings : Settings) (utterance : String)
    (candidates : List Candidate) (workspace : Workspace) {resolved : List ResolvedCandidate}
    (h : resolve settings utterance candidates workspace = .candidates resolved) :
    ∀ r ∈ resolved, ∃ c ∈ candidates, ∃ texts,
      r.trainingUtterance = c.utterance ∧ recombine c.form texts = .ok r.combination ∧
      ColumnsLead workspace c.form ((lift utterance).entities ++ (lift c.template).entities) texts ∧
      (SpeaksOfColumn c.form → SpeaksOfColumn c.template) ∧
      (∀ kind index, r.combination.entities.get? kind index =
        (texts.get kind)[index]?.map kind.decode) ∧
      (SpeaksOfColumn c.form →
        (∃ value ∈ (lift utterance).entities.values ++ (lift c.template).entities.values,
          workspace.IsColumn value) →
        ∃ value, r.combination.entities.get? .value 0 = some (.str value) ∧
          workspace.IsColumn value) := by
  intro r hr
  obtain ⟨i, hi, rfl⟩ := exists_of_mem_resolved h hr
  have hgroundable := ((isSelection_selected settings _ candidates).isFirst i hi).1.2
  have hoffers := offers_offerAt workspace hgroundable
  have hentities (kind : EntityKind) (index : Nat) :
      (offerAt workspace utterance candidates i).combination.entities.get? kind index =
        ((textsFor workspace (lift utterance).entities (candidates.get i)).get
          kind)[index]?.map kind.decode := DecodedEntities.get?_ofTexts _ kind index
  refine ⟨candidates.get i, List.get_mem candidates i, _, hoffers.trainingUtterance,
    hoffers.combination, columnsLead_textsFor, speaksOfColumn_of_form, hentities, ?_⟩
  intro hspeaks hany
  obtain ⟨value, hvalue, hcolumn⟩ := columnsLead_textsFor.first hspeaks hany
  refine ⟨value, ?_, hcolumn⟩
  rw [hentities, EntityTexts.get, hvalue]
  rfl

def letteredWorkspace : Workspace :=
  Workspace.empty.insert ⟨"df", ⟨["A", "B"], []⟩⟩

def strippingCandidate : Candidate :=
  ⟨"on column a strip b", "ON COLUMN <value> STRIP <value>", .ofQuotient false 4 5⟩

theorem resolve_takes_second_column :
    let utterance := "strip \"(m)\" from column \"B\""
    let offered := offerAt letteredWorkspace utterance [strippingCandidate] 0
    resolve .standard utterance [strippingCandidate] letteredWorkspace = .candidates [offered] ∧
      offered.combination.grounded = "ON COLUMN \"B\" STRIP \"(m)\"" ∧
      ∃ value, offered.combination.entities.get? .value 0 = some (.str value) ∧
        letteredWorkspace.IsColumn value := by
  intro utterance offered
  have hselected : selected .standard (lift utterance).entities [strippingCandidate] = [0] := by
    decide +kernel
  have hresolve : resolve .standard utterance [strippingCandidate] letteredWorkspace =
      .candidates [offered] := resolve_of_selected_singleton hselected _
  obtain ⟨c, hc, texts, -, -, -, -, -, hfirst⟩ :=
    resolve_takes_columns_first .standard utterance [strippingCandidate] letteredWorkspace hresolve
      offered List.mem_cons_self
  obtain rfl := List.mem_singleton.mp hc
  exact ⟨hresolve, by decide +kernel,
    hfirst (by decide +kernel) ⟨"B", by decide +kernel, by decide⟩⟩

end TablePhrase
