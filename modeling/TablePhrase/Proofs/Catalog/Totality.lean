import TablePhrase.Grounding
import TablePhrase.Proofs.Catalog.Coverage
import TablePhrase.Proofs.Catalog.Shapes
import TablePhrase.Proofs.Session.Refusal

/-!
The catalog serves every grounding of its templates: the operation can be selected in any session
that is not finalized, and it carries all entities. Outside its templates there is only the missing
operation, which no session selects.
-/

namespace TablePhrase.Catalog

open Operation

def Entry.IsServed (entry : Entry) : Prop :=
  ∀ texts : EntityTexts, texts.counts = .ofTemplate entry.template →
    Serves entry.plan entry.template texts

theorem isServed_of_mem_entries : ∀ entry ∈ entries, entry.IsServed := by
  simp only [entries, List.forall_mem_cons]
  exact ⟨always_of_value (by decide +kernel) serves_toDatetime,
    always_of_value (by decide +kernel) serves_toNumeric,
    always_of_value (by decide +kernel) serves_readCsv,
    always_of_none (by decide +kernel) serves_showInformation,
    always_of_none (by decide +kernel) serves_describe,
    always_of_none (by decide +kernel) serves_showFirstRows,
    always_of_number (by decide +kernel) serves_showFirstNumberRows,
    always_of_none (by decide +kernel) serves_showMissing,
    always_of_none (by decide +kernel) serves_dropMissing,
    always_of_value (by decide +kernel) serves_dropMissingFrom,
    always_of_value (by decide +kernel) serves_fillMissing_value,
    always_of_number (by decide +kernel) serves_fillMissing_number,
    always_of_none (by decide +kernel) serves_dropDuplicates,
    always_of_value (by decide +kernel) serves_changeDatatype,
    always_of_two_values (by decide +kernel) serves_changeDatatype_column,
    always_of_number (by decide +kernel) serves_roundTo,
    always_of_number_value (by decide +kernel) serves_roundTo_column,
    always_of_two_values (by decide +kernel) serves_rename,
    always_of_value (by decide +kernel) serves_rename_columns,
    always_of_none (by decide +kernel) serves_melt,
    always_of_stringList (by decide +kernel) serves_meltWith,
    always_of_value (by decide +kernel) serves_filter,
    always_of_stringList (by decide +kernel) serves_filter_labels,
    always_of_value (by decide +kernel) serves_setIndex,
    always_of_none (by decide +kernel) serves_resetIndex,
    always_of_value (by decide +kernel) serves_sortValues,
    always_of_none (by decide +kernel) serves_assign,
    always_of_value (by decide +kernel) serves_assignAs,
    always_of_value (by decide +kernel) serves_groupBy,
    always_of_stringList (by decide +kernel) serves_groupBy_labels,
    always_of_value (by decide +kernel) serves_aggregate,
    always_of_none (by decide +kernel) serves_saveCsv,
    always_of_value (by decide +kernel) serves_saveCsvAs,
    always_of_none (by decide +kernel) serves_deleteColumns,
    always_of_value (by decide +kernel) serves_deleteColumns_value,
    always_of_stringList (by decide +kernel) serves_deleteColumns_labels,
    always_of_none (by decide +kernel) serves_deleteRows,
    always_of_number (by decide +kernel) serves_deleteRows_number,
    always_of_numberList (by decide +kernel) serves_deleteRows_numbers,
    always_of_two_values (by decide +kernel) serves_strip,
    always_of_value (by decide +kernel) serves_split,
    always_of_two_values (by decide +kernel) serves_split_separator,
    always_of_none (by decide +kernel) serves_replaceValues,
    always_of_three_values (by decide +kernel) serves_replaceValues_column,
    always_of_two_values (by decide +kernel) serves_joinOn,
    always_of_none (by decide +kernel) serves_extract,
    always_of_two_values (by decide +kernel) serves_extract_column,
    always_of_value (by decide +kernel) serves_uniqueValues, nofun⟩

theorem plan?_of_mem {template : String} {texts : EntityTexts} (hmem : template ∈ templates)
    (hcounts : texts.counts = .ofTemplate template) :
    ∃ op target name, plan? template (.ofTexts texts) = some op ∧ name ≠ missingName ∧
      op.Calls target name ∧ ∀ v ∈ texts.literals, op.Carries v := by
  obtain ⟨listed, hlisted, htemplate⟩ := List.mem_map.mp hmem
  have hisSome : (entries.find? (·.template == template)).isSome := by
    rw [List.find?_isSome]
    exact ⟨listed, hlisted, beq_iff_eq.mpr htemplate⟩
  -- the first entry with the template need not be the one listed above
  obtain ⟨entry, hentry⟩ := Option.isSome_iff_exists.mp hisSome
  have hfound := List.find?_some hentry
  have heq : entry.template = template := beq_iff_eq.mp hfound
  have hserved := isServed_of_mem_entries entry (List.mem_of_find?_eq_some hentry) texts
  rw [heq] at hserved
  obtain ⟨op, target, name, hplan, hop⟩ := hserved hcounts
  refine ⟨op, target, name, ?_, hop⟩
  rw [plan?, hentry]
  exact hplan

theorem plan?_of_not_mem {template : String} (h : template ∉ templates)
    (entities : DecodedEntities) : plan? template entities = none := by
  have hnone : entries.find? (·.template == template) = none := by
    rw [List.find?_eq_none]
    intro entry hentry heq
    exact h (List.mem_map.mpr ⟨entry, hentry, beq_iff_eq.mp heq⟩)
  rw [plan?, hnone]
  rfl

theorem run_select_of_calls {op : Operation} {target : CallTarget} {name : String}
    (hname : name ≠ missingName) (hcalls : op.Calls target name) (dataset : Dataset) {s : Session}
    (hs : s.phase ≠ .finalized) :
    ∃ t, (Session.select op dataset).run s = .ok .configured t := by
  obtain ⟨ps, hps⟩ := hcalls.exists_parameters_eq_ok
  have himplemented : op.isImplemented = true := by
    rw [isImplemented, hcalls.name_eq]
    exact bne_iff_ne.mpr hname
  exact ⟨_, Session.run_select_eq_ok_iff.mpr ⟨hs, himplemented, ps, hps, rfl, rfl⟩⟩

/-- A template of the catalog with as many entities as it asks for becomes an operation whose
arguments and adjustments are for parameters of its signature, that any session selects unless it
is finalized, and that carries every entity. Any other template becomes the missing operation,
which every session refuses to select. -/
theorem resolve_total (template : String) :
    (template ∈ templates → ∀ texts : EntityTexts, texts.counts = .ofTemplate template →
      ∃ c op, recombine template texts = .ok c ∧ resolve template c.entities = op ∧
        op.isImplemented = true ∧
        (∀ p ∈ op.arguments.keys, p ∈ (signature op.target op.name).map (·.name)) ∧
        (∀ p ∈ op.adjustments.keys, p ∈ (signature op.target op.name).map (·.name)) ∧
        (∀ dataset s, s.phase ≠ .finalized →
          ∃ t, (Session.select op dataset).run s = .ok .configured t) ∧
        ∀ key v, c.entities.bindings.get? key = some v → op.Carries v) ∧
    (template ∉ templates → ∀ entities, resolve template entities = .missing template ∧
      ∀ dataset s, (Session.select (resolve template entities) dataset).run s =
        .error (if s.phase = .finalized then .finalized else .notImplemented template) s) := by
  constructor
  · intro hmem texts hcounts
    obtain ⟨op, target, name, hplan, hname, hcalls, hcarries⟩ := plan?_of_mem hmem hcounts
    obtain ⟨rfl, rfl, harguments, hadjustments⟩ := hcalls
    refine ⟨_, op, if_pos hcounts.symm, ?_, ?_, harguments, hadjustments, ?_, ?_⟩
    · rw [resolve, hplan]
      rfl
    · exact bne_iff_ne.mpr hname
    · intro dataset s hs
      exact run_select_of_calls hname ⟨rfl, rfl, harguments, hadjustments⟩ dataset hs
    · intro key v hv
      exact hcarries v (DecodedEntities.mem_literals_of_get?_eq_some texts hv)
  · intro hmem entities
    have hmissing : resolve template entities = .missing template := by
      rw [resolve, plan?_of_not_mem hmem]
      rfl
    refine ⟨hmissing, fun dataset s => ?_⟩
    rw [hmissing, Session.run_select]
    split
    · rfl
    · rfl

end TablePhrase.Catalog
