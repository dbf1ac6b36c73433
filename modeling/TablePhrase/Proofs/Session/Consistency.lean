import TablePhrase.Proofs.Literal.Agreement
import TablePhrase.Proofs.Operation.Filling
import TablePhrase.Proofs.Session.Refresh

/-!
Consistent sessions: arguments, options, warnings and code are what the parameters, the axis, the
scope and the dataset say, and values are among their options. Every run of a session stays
consistent as long as the labels of its datasets are plain.
-/

namespace TablePhrase

/-- The labels on the side of a schema that a parameter of this kind looks at. -/
def ParameterKind.side (kind : ParameterKind) (axis : Axis) (schema : Schema) : List Literal :=
  match kind, axis with
  | schemaColumns, _ => schema.columns
  | schemaIndex, _ => schema.indexLabels
  | schemaAxis, .columns | schemaAxisOpposite, .index => schema.columns
  | schemaAxis, .index | schemaAxisOpposite, .columns => schema.indexLabels
  | _, _ => []

theorem ParameterKind.labels_eq_side {kind : ParameterKind} (h : kind.isSchemaDependent = true)
    (axis : Axis) (schema : Schema) : kind.labels axis schema = kind.side axis schema ++ [.null] := by
  cases kind <;> cases axis <;> first | rfl | cases h

theorem ParameterKind.side_plain {kind : ParameterKind} {axis : Axis} {dataset : Dataset}
    (h : dataset.HasPlainLabels) : ∀ label ∈ kind.side axis dataset.schema, label.IsPlainLabel := by
  intro label hlabel
  apply h label
  unfold side at hlabel
  split at hlabel
  all_goals first
    | exact List.mem_append_left _ hlabel
    | exact List.mem_append_right _ hlabel
    | cases hlabel

/-- The parameter depends on labels, and its value is not among them. -/
def ParameterState.isUnresolved (axis : Axis) (dataset : Dataset) (p : ParameterState) : Bool :=
  p.kind.isSchemaDependent && !isAdmitted (p.kind.side axis dataset.schema ++ [.null]) p.value

def ScopeState.isUnresolved (dataset : Dataset) (scope : ScopeState) : Bool :=
  !isAdmitted (dataset.schema.columns ++ [.null]) scope.value

theorem isAdmitted_of_mem {options : List Literal} {v : Literal} (hv : v.IsPlainLabel)
    (hmem : v ∈ options) : isAdmitted options v = true := by
  have hoption : Literal.isOption options v = true :=
    List.any_eq_true.mpr ⟨v, hmem, Literal.agrees_self hv.2⟩
  cases v with
  | list items => cases hv.1
  | _ => exact hoption

theorem Literal.isNull_iff {v : Literal} : v.isNull = true ↔ v = .null := by
  cases v <;> simp [isNull]

theorem offersLabel_eq_false_iff {labels : List Literal} :
    offersLabel (labels ++ [.null]) = false ↔ ∀ label ∈ labels, label = .null := by
  unfold offersLabel
  rw [List.any_eq_false]
  constructor
  · intro h label hlabel
    have hnull := h label (List.mem_append_left _ hlabel)
    exact Literal.isNull_iff.mp (by simpa using hnull)
  · intro h label hlabel
    rcases List.mem_append.mp hlabel with hlabel | hlabel
    · rw [h label hlabel]
      decide
    · rw [List.mem_singleton.mp hlabel]
      decide

section Revalidation
variable {name dataset : String} {labels : List Literal} {value : Literal}

theorem revalidate_fst_admitted (hplain : ∀ label ∈ labels, label.IsPlainLabel) :
    isAdmitted (labels ++ [.null]) (revalidate name (labels ++ [.null]) dataset value).1 = true ∨
      ∀ label ∈ labels, label = .null := by
  unfold revalidate
  split
  · next hadmitted => exact .inl hadmitted
  · split
    · left
      cases labels with
      | nil => exact isAdmitted_of_mem Literal.isPlainLabel_null (List.mem_singleton_self _)
      | cons label labels =>
        exact isAdmitted_of_mem (hplain label List.mem_cons_self) List.mem_cons_self
    · next hoffers => exact .inr (offersLabel_eq_false_iff.mp (by simpa using hoffers))

theorem revalidate_snd_of_admitted {options : List Literal}
    (h : isAdmitted options (revalidate name options dataset value).1 = true) :
    (revalidate name options dataset value).2 = none := by
  unfold revalidate at h ⊢
  split
  · rfl
  · next hvalue =>
    split
    · rfl
    · next hoffers =>
      rw [if_neg hvalue, if_neg hoffers] at h
      exact absurd h hvalue

theorem revalidate_snd_of_not_admitted (hplain : ∀ label ∈ labels, label.IsPlainLabel)
    (h : isAdmitted (labels ++ [.null]) (revalidate name (labels ++ [.null]) dataset value).1 =
      false) :
    (revalidate name (labels ++ [.null]) dataset value).2 =
      some ⟨name, (revalidate name (labels ++ [.null]) dataset value).1, dataset⟩ := by
  have hnull : ∀ label ∈ labels, label = .null :=
    (revalidate_fst_admitted hplain).resolve_left (Bool.eq_false_iff.mp h)
  have hoffers : ¬offersLabel (labels ++ [.null]) = true := by
    simp [offersLabel_eq_false_iff.mpr hnull]
  unfold revalidate at h ⊢
  split
  · next hvalue =>
    rw [if_pos hvalue, hvalue] at h
    cases h
  · rfl

end Revalidation

namespace ParameterState
variable {axis : Axis} {dataset : Dataset} {p : ParameterState}

theorem refresh_of_axis (h : p.kind = .axis) :
    p.refresh axis dataset = ({ p with value := axis.name }, none) := by
  rw [refresh, if_pos h]

theorem refresh_of_schemaDependent (h : p.kind.isSchemaDependent = true) :
    p.refresh axis dataset =
      ({ p with
          value := (revalidate p.name (p.kind.side axis dataset.schema ++ [.null]) dataset.name
            p.value).1
          options := some (p.kind.side axis dataset.schema ++ [.null]) },
        (revalidate p.name (p.kind.side axis dataset.schema ++ [.null]) dataset.name p.value).2) := by
  have hkind : p.kind ≠ .axis := by
    intro hkind
    rw [hkind] at h
    cases h
  rw [refresh, if_neg hkind, if_pos h, p.kind.labels_eq_side h]

theorem refresh_snd_of_not_schemaDependent (h : p.kind.isSchemaDependent = false) :
    (p.refresh axis dataset).2 = none := by
  unfold refresh
  split
  · rfl
  · rw [if_neg (by simp [h])]

theorem refresh_snd_of_resolved (h : (p.refresh axis dataset).1.isUnresolved axis dataset = false) :
    (p.refresh axis dataset).2 = none := by
  cases hkind : p.kind.isSchemaDependent with
  | false => exact refresh_snd_of_not_schemaDependent hkind
  | true =>
    rw [refresh_of_schemaDependent hkind] at h ⊢
    apply revalidate_snd_of_admitted
    simpa [isUnresolved, hkind] using h

theorem refresh_snd_of_unresolved (hplain : dataset.HasPlainLabels)
    (h : (p.refresh axis dataset).1.isUnresolved axis dataset = true) :
    (p.refresh axis dataset).2 =
      some ⟨(p.refresh axis dataset).1.name, (p.refresh axis dataset).1.value, dataset.name⟩ := by
  obtain ⟨hkind, hvalue⟩ := Bool.and_eq_true_iff.mp h
  rw [refresh_kind] at hkind
  rw [refresh_of_schemaDependent hkind] at hvalue ⊢
  exact revalidate_snd_of_not_admitted (ParameterKind.side_plain hplain) (by simpa using hvalue)

theorem filterMap_refresh (hplain : dataset.HasPlainLabels) (ps : List ParameterState) :
    (ps.map (refresh axis dataset)).filterMap (·.2) =
      (((ps.map (refresh axis dataset)).map (·.1)).filter (·.isUnresolved axis dataset)).map fun p =>
        ⟨p.name, p.value, dataset.name⟩ := by
  induction ps with
  | nil => rfl
  | cons p ps ih =>
    simp only [List.map_cons]
    cases h : (p.refresh axis dataset).1.isUnresolved axis dataset with
    | false =>
      rw [List.filterMap_cons_none (refresh_snd_of_resolved h), List.filter_cons_of_neg (by simp [h]),
        ih]
    | true =>
      rw [List.filterMap_cons_some (refresh_snd_of_unresolved hplain h),
        List.filter_cons_of_pos h, List.map_cons, ih]

end ParameterState

namespace ScopeState
variable {dataset : Dataset} {scope : ScopeState}

theorem refresh_admitted (hplain : dataset.HasPlainLabels) :
    isAdmitted (dataset.schema.columns ++ [.null]) (scope.refresh dataset).1.value = true ∨
      ∀ label ∈ dataset.schema.columns, label = .null :=
  revalidate_fst_admitted fun label hlabel => hplain label (List.mem_append_left _ hlabel)

theorem toList_refresh_snd (hplain : dataset.HasPlainLabels) :
    (scope.refresh dataset).2.toList =
      ([(scope.refresh dataset).1].filter (·.isUnresolved dataset)).map fun scope =>
        ⟨scope.kind.key, scope.value, dataset.name⟩ := by
  have hcolumns : ∀ label ∈ dataset.schema.columns, label.IsPlainLabel :=
    fun label hlabel => hplain label (List.mem_append_left _ hlabel)
  cases h : isAdmitted (dataset.schema.columns ++ [.null]) (scope.refresh dataset).1.value with
  | false =>
    have hsnd : (scope.refresh dataset).2 = _ := revalidate_snd_of_not_admitted hcolumns h
    rw [hsnd, List.filter_cons_of_pos (by simp [isUnresolved, h])]
    rfl
  | true =>
    have hsnd : (scope.refresh dataset).2 = none := revalidate_snd_of_admitted h
    rw [hsnd, List.filter_cons_of_neg (by simp [isUnresolved, h])]
    rfl

end ScopeState

namespace Session

def signatureNames (s : Session) : List String :=
  (s.operation.map fun op => (signature op.target op.name).map (·.name)).getD []

/-- All that follows from the parameters, the axis, the scope and the dataset is up to date. -/
structure Consistent (s : Session) : Prop where
  code_eq : s.code = s.call s.settings.moduleAlias
  names_eq : s.parameters.map (·.name) = s.signatureNames
  arguments_eq :
    s.arguments = (s.parameters.filter fun p => !p.isDefault).map fun p => (p.name, p.value)
  axis_eq : ∀ p ∈ s.parameters, p.kind = .axis → p.value = .str s.axis.name
  options_eq : ∀ p ∈ s.parameters, p.kind.isSchemaDependent = true →
    p.options = some (p.kind.side s.axis s.dataset.schema ++ [.null])
  value_admitted : ∀ p ∈ s.parameters, p.kind.isSchemaDependent = true →
    isAdmitted (p.kind.side s.axis s.dataset.schema ++ [.null]) p.value = true ∨
      ∀ label ∈ p.kind.side s.axis s.dataset.schema, label = .null
  scope_options_eq : ∀ scope ∈ s.scope, scope.options = s.dataset.schema.columns ++ [.null]
  scope_admitted : ∀ scope ∈ s.scope,
    isAdmitted (s.dataset.schema.columns ++ [.null]) scope.value = true ∨
      ∀ label ∈ s.dataset.schema.columns, label = .null
  warnings_eq : s.warnings =
    ((s.parameters.filter (·.isUnresolved s.axis s.dataset)).map fun p =>
        ⟨p.name, p.value, s.dataset.name⟩) ++
      (s.scope.toList.filter (·.isUnresolved s.dataset)).map fun scope =>
        ⟨scope.kind.key, scope.value, s.dataset.name⟩

theorem mem_parameters_refresh {s : Session} {p : ParameterState} (h : p ∈ (refresh s).parameters) :
    ∃ q ∈ s.parameters, (q.refresh s.axis s.dataset).1 = p := by
  have hmap : p ∈ (s.parameters.map (ParameterState.refresh s.axis s.dataset)).map (·.1) := h
  obtain ⟨checked, hchecked, rfl⟩ := List.mem_map.mp hmap
  obtain ⟨q, hq, rfl⟩ := List.mem_map.mp hchecked
  exact ⟨q, hq, rfl⟩

theorem mem_scope_refresh {s : Session} {scope : ScopeState} (h : scope ∈ (refresh s).scope) :
    ∃ before ∈ s.scope, (before.refresh s.dataset).1 = scope := by
  have hmap : ((s.scope.map (ScopeState.refresh s.dataset)).map (·.1)) = some scope := h
  obtain ⟨checked, hchecked, rfl⟩ := Option.map_eq_some_iff.mp hmap
  obtain ⟨before, hbefore, rfl⟩ := Option.map_eq_some_iff.mp hchecked
  exact ⟨before, hbefore, rfl⟩

theorem consistent_refresh {s : Session} (hnames : s.parameters.map (·.name) = s.signatureNames)
    (hplain : s.dataset.HasPlainLabels) : (refresh s).Consistent where
  code_eq := rfl
  names_eq := by
    show ((s.parameters.map (ParameterState.refresh s.axis s.dataset)).map (·.1)).map (·.name) =
      s.signatureNames
    rw [List.map_map, List.map_map, ← hnames]
    exact List.map_congr_left fun p _ => ParameterState.refresh_name
  arguments_eq := rfl
  axis_eq := by
    intro p hp hkind
    obtain ⟨q, -, rfl⟩ := mem_parameters_refresh hp
    rw [ParameterState.refresh_kind] at hkind
    rw [ParameterState.refresh_of_axis hkind]
    rfl
  options_eq := by
    intro p hp hkind
    obtain ⟨q, -, rfl⟩ := mem_parameters_refresh hp
    rw [ParameterState.refresh_kind] at hkind ⊢
    rw [ParameterState.refresh_of_schemaDependent hkind]
    rfl
  value_admitted := by
    intro p hp hkind
    obtain ⟨q, -, rfl⟩ := mem_parameters_refresh hp
    rw [ParameterState.refresh_kind] at hkind ⊢
    rw [ParameterState.refresh_of_schemaDependent hkind]
    exact revalidate_fst_admitted (ParameterKind.side_plain hplain)
  scope_options_eq := by
    intro scope hscope
    obtain ⟨scope', -, rfl⟩ := mem_scope_refresh hscope
    rfl
  scope_admitted := by
    intro scope hscope
    obtain ⟨scope', -, rfl⟩ := mem_scope_refresh hscope
    exact ScopeState.refresh_admitted hplain
  warnings_eq := by
    show (s.parameters.map (ParameterState.refresh s.axis s.dataset)).filterMap (·.2) ++
      ((s.scope.map (ScopeState.refresh s.dataset)).bind (·.2)).toList = _
    rw [ParameterState.filterMap_refresh hplain]
    have hscope : (refresh s).scope = (s.scope.map (ScopeState.refresh s.dataset)).map (·.1) := rfl
    rw [hscope]
    cases s.scope with
    | none => rfl
    | some scope => exact congrArg _ (ScopeState.toList_refresh_snd hplain)

theorem consistent_configure {op : Operation} {dataset : Dataset} {ps : List ParameterState}
    {s : Session} (hps : op.parameters = .ok ps) (hplain : dataset.HasPlainLabels) :
    (configure op dataset ps s).Consistent :=
  consistent_refresh (Operation.names_of_parameters hps) hplain

theorem Consistent.render {s : Session} (h : s.Consistent) (binding : ReturnBinding) :
    (render { s with binding := binding }).Consistent :=
  { h with code_eq := rfl }

theorem Consistent.freeze {s : Session} (h : s.Consistent) :
    ({ s with phase := .finalized } : Session).Consistent :=
  { h with code_eq := h.code_eq }

theorem consistent_new (settings : Settings) : (new settings).Consistent where
  code_eq := rfl
  names_eq := rfl
  arguments_eq := rfl
  axis_eq := nofun
  options_eq := nofun
  value_admitted := nofun
  scope_options_eq := nofun
  scope_admitted := nofun
  warnings_eq := rfl

theorem Transition.keeps_consistent {datasets : List Dataset} {s t : Session}
    (hdatasets : ∀ d ∈ datasets, d.HasPlainLabels) (h : Transition datasets s t)
    (hs : s.Consistent ∧ s.dataset.HasPlainLabels) : t.Consistent ∧ t.dataset.HasPlainLabels := by
  obtain ⟨hconsistent, hplain⟩ := hs
  cases h with
  | configure _ _ hps hmem =>
    have hdataset := hdatasets _ hmem
    exact ⟨consistent_configure hps hdataset, hdataset⟩
  | restart _ _ _ hps =>
    exact ⟨(consistent_configure hps hplain).render s.binding, hplain⟩
  | turn _ => exact ⟨consistent_refresh hconsistent.names_eq hplain, hplain⟩
  | move _ hmem =>
    have hdataset := hdatasets _ hmem
    exact ⟨consistent_refresh hconsistent.names_eq hdataset, hdataset⟩
  | assign _ _ _ _ =>
    refine ⟨consistent_refresh ?_ hplain, hplain⟩
    exact (names_setValue _ _ _).trans hconsistent.names_eq
  | restrict _ _ => exact ⟨consistent_refresh hconsistent.names_eq hplain, hplain⟩
  | rebind _ => exact ⟨hconsistent.render _, hplain⟩
  | freeze _ => exact ⟨hconsistent.freeze, hplain⟩

/-- A session is consistent after any requests, granted or refused, and has the settings that it was
started with, as long as the labels of the datasets that they bring along are plain. -/
theorem consistent_after_run (settings : Settings) (requests : List Request)
    (hplain : ∀ r ∈ requests, ∀ d ∈ r.datasets, d.HasPlainLabels) :
    (run requests (new settings)).2.Consistent ∧
      (run requests (new settings)).2.settings = settings := by
  have hkept := run_keeps (P := fun s => s.Consistent ∧ s.dataset.HasPlainLabels)
    Transition.keeps_consistent hplain ⟨consistent_new settings, Dataset.hasPlainLabels_empty⟩
  exact ⟨hkept.1, settings_run requests (new settings)⟩

/-- Sorting by a column, turned to the rows, moved to a dataset without labels, and finalized; the
last request is refused. -/
def sortingRequests : List Request :=
  let sort : Operation :=
    Operation.plain "SORT VALUES BY <value>" .table "sort_values" "Sort by the values."
      |>.argument "by" "b"
      |>.adjust "by" (.several .schemaAxisOpposite)
  [.select sort ⟨"df", ⟨["a", "b", .null], [.int 0, .int 1]⟩⟩, .setAxis .columns,
    .setParameter "by" (.int 7), .setDataset ⟨"empty", .empty⟩, .setParameterText "by" "c", .finalize,
    .reset]

theorem consistent_after_sortingRequests :
    let s := (run sortingRequests (new .standard)).2
    let first := (run (sortingRequests.take 1) (new .standard)).2
    (∀ r ∈ sortingRequests, ∀ d ∈ r.datasets, d.HasPlainLabels) ∧
      s.Consistent ∧ s.settings = .standard ∧
      (first.parameter? "by").map (·.options) = some (some [.str "a", .str "b", .null, .null]) ∧
      first.code = "df = df.sort_values(by='b')" ∧
      (s.parameter? "by").map (fun p => (p.value, p.options)) = some (.str "c", some [.null]) ∧
      s.arguments.map (·.1) = ["by", "axis"] ∧ s.warnings.map (·.parameter) = ["by"] ∧
      s.code = "empty = empty.sort_values(by='c', axis='columns')" := by
  intro s first
  have hplain : ∀ r ∈ sortingRequests, ∀ d ∈ r.datasets, d.HasPlainLabels := by decide
  obtain ⟨hconsistent, hsettings⟩ := consistent_after_run .standard sortingRequests hplain
  exact ⟨hplain, hconsistent, hsettings, rfl, by decide +kernel, rfl, rfl, rfl, by decide +kernel⟩

end Session
end TablePhrase
