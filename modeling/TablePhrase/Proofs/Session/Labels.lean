import TablePhrase.Proofs.Session.Consistency
import TablePhrase.Proofs.Workspace.Ownership

/-!
The label that an operation names. It is an argument or the scope, and is looked up on one side of
the dataset: a session that selects the operation keeps the label if that side has it. Owning a
label and admitting it are two tests, which agree on labels that hold no lists of their own; so in
a workspace a label that names columns is kept wherever some dataset has them.
-/

namespace TablePhrase

section Membership
variable {labels : List Literal} {label : Literal}

/-- No item of the label is a list. -/
def Literal.IsFlat : Literal → Prop
  | .list items => ∀ item ∈ items, item.asList? = none
  | _ => True

theorem Schema.hasLabel_of_asList?_eq_none (h : label.asList? = none) :
    hasLabel labels label = Literal.isOption labels label := by
  cases label with
  | list items => cases h
  | _ => rfl

theorem Literal.isOption_append (labels more : List Literal) (label : Literal) :
    isOption (labels ++ more) label = (isOption labels label || isOption more label) :=
  List.any_append

theorem isAdmitted_of_hasLabel (hflat : label.IsFlat) (h : Schema.hasLabel labels label = true)
    (more : List Literal) : isAdmitted (labels ++ more) label = true := by
  have hoption : ∀ {v : Literal}, v.asList? = none → Schema.hasLabel labels v = true →
      Literal.isOption (labels ++ more) v = true := by
    intro v hv hlabel
    rw [Schema.hasLabel_of_asList?_eq_none hv] at hlabel
    rw [Literal.isOption_append, hlabel, Bool.true_or]
  cases label with
  | list items =>
    rw [Schema.hasLabel, Bool.and_eq_true] at h
    have hitems := Schema.hasLabels_eq_true_iff.mp h.2
    exact List.all_eq_true.mpr fun item hitem => hoption (hflat item hitem) (hitems item hitem)
  | _ => exact hoption rfl h

example :
    Schema.hasLabel ["a", "b"] (.list [.list ["a", "b"]]) = true ∧
      isAdmitted ["a", "b"] (.list [.list ["a", "b"]]) = false :=
  ⟨rfl, rfl⟩

end Membership

/-- Where an operation has a label that it names. -/
inductive LabelPlace
  | argument (name : String)
  | scope
deriving DecidableEq

namespace LabelPlace

def label? (op : Operation) : LabelPlace → Option Literal
  | argument name => op.arguments.get? name
  | scope => op.scope

def value? (s : Session) : LabelPlace → Option Literal
  | argument name => (s.parameter? name).map (·.value)
  | scope => s.scope.map (·.value)

def key : LabelPlace → String
  | argument name => name
  | scope => ScopeKind.subsetColumns.key

end LabelPlace

/-- The operation can be selected, and the session then looks the label up on that side. -/
inductive Operation.LooksUp (op : Operation) (label : Literal) :
    LabelPlace → (Schema → List Literal) → Prop
  | argument {ps : List ParameterState} {name : String} {p : ParameterState}
      {side : Schema → List Literal} (parameters : op.parameters = .ok ps)
      (found : ps.find? (·.name == name) = some p) (value : p.value = label)
      (dependent : p.kind.isSchemaDependent = true)
      (side_eq : ∀ schema, p.kind.side (Session.startingAxis ps) schema = side schema) :
      LooksUp op label (.argument name) side
  | scope {ps : List ParameterState} (parameters : op.parameters = .ok ps)
      (scope : op.startingScope = some ⟨.subsetColumns, label, [], .dropdown⟩) :
      LooksUp op label .scope (·.columns)

theorem revalidate_snd_parameter {name dataset : String} {options : List Literal} {value : Literal}
    {warning : Warning} (h : (revalidate name options dataset value).2 = some warning) :
    warning.parameter = name := by
  unfold revalidate at h
  split at h
  · cases h
  · split at h
    · cases h
    · cases h
      rfl

theorem ParameterState.refresh_snd_parameter {axis : Axis} {dataset : Dataset} {p : ParameterState}
    {warning : Warning} (h : (p.refresh axis dataset).2 = some warning) :
    warning.parameter = p.name := by
  cases hkind : p.kind.isSchemaDependent with
  | false =>
    rw [refresh_snd_of_not_schemaDependent hkind] at h
    cases h
  | true =>
    rw [refresh_of_schemaDependent hkind] at h
    exact revalidate_snd_parameter h

theorem ScopeState.refresh_snd_parameter {dataset : Dataset} {scope : ScopeState}
    {warning : Warning} (h : (scope.refresh dataset).2 = some warning) :
    warning.parameter = scope.kind.key :=
  revalidate_snd_parameter h

namespace Session

theorem mem_warnings_refresh {s : Session} {warning : Warning}
    (h : warning ∈ (refresh s).warnings) :
    (∃ p ∈ s.parameters, (p.refresh s.axis s.dataset).2 = some warning) ∨
      ∃ scope, s.scope = some scope ∧ (scope.refresh s.dataset).2 = some warning := by
  have hsplit : warning ∈
      (s.parameters.map (ParameterState.refresh s.axis s.dataset)).filterMap (·.2) ++
      ((s.scope.map (ScopeState.refresh s.dataset)).bind (·.2)).toList := h
  rcases List.mem_append.mp hsplit with hp | hscope
  · obtain ⟨checked, hchecked, hwarning⟩ := List.mem_filterMap.mp hp
    obtain ⟨p, hp, rfl⟩ := List.mem_map.mp hchecked
    exact .inl ⟨p, hp, hwarning⟩
  · obtain ⟨checked, hchecked, hwarning⟩ := Option.bind_eq_some_iff.mp (Option.mem_toList.mp hscope)
    obtain ⟨scope, hscope, rfl⟩ := Option.map_eq_some_iff.mp hchecked
    exact .inr ⟨scope, hscope, hwarning⟩

theorem refresh_snd_of_mem_warnings {s : Session} (hnames : (s.parameters.map (·.name)).Nodup)
    {p : ParameterState} (hp : p ∈ s.parameters) (hscope : ∀ kind : ScopeKind, p.name ≠ kind.key)
    {warning : Warning} (h : warning ∈ (refresh s).warnings) (hname : warning.parameter = p.name) :
    (p.refresh s.axis s.dataset).2 = some warning := by
  rcases mem_warnings_refresh h with ⟨q, hq, hfrom⟩ | ⟨scope, -, hfrom⟩
  · have hqname : q.name = p.name := (ParameterState.refresh_snd_parameter hfrom).symm.trans hname
    rwa [List.inj_on_of_nodup_map hnames hq hp hqname] at hfrom
  · have hkey : p.name = scope.kind.key :=
      hname.symm.trans (ScopeState.refresh_snd_parameter hfrom)
    exact absurd hkey (hscope _)

end Session

namespace Operation
open Session

variable {op : Operation} {label : Literal} {place : LabelPlace} {side : Schema → List Literal}

theorem nodup_names_of_parameters {ps : List ParameterState} (h : op.parameters = .ok ps) :
    (ps.map (·.name)).Nodup := by
  rw [names_of_parameters h]
  exact nodup_parameterNames op.target op.name

theorem name_ne_scope_key_of_parameters {ps : List ParameterState} {p : ParameterState}
    (h : op.parameters = .ok ps) (hp : p ∈ ps) (kind : ScopeKind) : p.name ≠ kind.key := by
  intro hkey
  apply scope_key_not_mem_parameterNames kind op.target op.name
  rw [← hkey, ← names_of_parameters h]
  exact List.mem_map_of_mem hp

theorem parameter?_configure {ps : List ParameterState} {p : ParameterState}
    (hps : op.parameters = .ok ps) (hp : p ∈ ps) (dataset : Dataset) (s : Session) :
    (configure op dataset ps s).parameter? p.name =
      some (p.refresh (startingAxis ps) dataset).1 := by
  have hparameters : (configure op dataset ps s).parameters =
      ps.map fun p => (p.refresh (startingAxis ps) dataset).1 := parameters_refresh _
  have hnames : ((configure op dataset ps s).parameters.map (·.name)).Nodup := by
    rw [hparameters, List.map_map]
    have hsame : ps.map ((·.name) ∘ fun p => (p.refresh (startingAxis ps) dataset).1) =
        ps.map (·.name) := List.map_congr_left fun _ _ => ParameterState.refresh_name
    rw [hsame]
    exact nodup_names_of_parameters hps
  have hmem : (p.refresh (startingAxis ps) dataset).1 ∈ (configure op dataset ps s).parameters := by
    rw [hparameters]
    exact List.mem_map_of_mem hp
  have hfound := find?_name_eq_some hnames hmem
  rwa [ParameterState.refresh_name] at hfound

/-- A session that selects the operation has the label as far as the side admits it, and warns about
it only if the side does not. -/
theorem LooksUp.run_select (h : op.LooksUp label place side)
    (himplemented : op.isImplemented = true) (dataset : Dataset) {s : Session}
    (hs : s.phase ≠ .finalized) :
    ∃ t, (select op dataset).run s = .ok .configured t ∧ t.dataset = dataset ∧
      place.value? t =
        some (revalidate place.key (side dataset.schema ++ [.null]) dataset.name label).1 ∧
      ∀ warning ∈ t.warnings, warning.parameter = place.key →
        (revalidate place.key (side dataset.schema ++ [.null]) dataset.name label).2 =
          some warning := by
  cases h with
  | @argument ps name p _ hps hfound hvalue hdependent hside =>
    have hp : p ∈ ps := List.mem_of_find?_eq_some hfound
    have hpname : p.name = name := by simpa using List.find?_some hfound
    subst hpname
    have hrefresh : p.refresh (startingAxis ps) dataset = _ :=
      ParameterState.refresh_of_schemaDependent hdependent
    rw [hside, hvalue] at hrefresh
    refine ⟨_, run_select_eq_ok_iff.mpr ⟨hs, himplemented, ps, hps, rfl, rfl⟩, rfl, ?_, ?_⟩
    · rw [LabelPlace.value?, parameter?_configure hps hp, hrefresh]
      rfl
    · intro warning hwarning hname
      have hfrom := refresh_snd_of_mem_warnings (nodup_names_of_parameters hps) hp
        (name_ne_scope_key_of_parameters hps hp) hwarning hname
      rw [← hfrom]
      exact (congrArg Prod.snd hrefresh).symm
  | @scope ps hps hscope =>
    refine ⟨_, run_select_eq_ok_iff.mpr ⟨hs, himplemented, ps, hps, rfl, rfl⟩, rfl, ?_, ?_⟩
    · show (refresh _).scope.map (·.value) = _
      rw [scope_refresh]
      show (op.startingScope.map _).map _ = _
      rw [hscope]
      rfl
    · intro warning hwarning hname
      rcases mem_warnings_refresh hwarning with ⟨q, hq, hfrom⟩ | ⟨scope, hstarting, hfrom⟩
      · have hkey : q.name = ScopeKind.subsetColumns.key :=
          (ParameterState.refresh_snd_parameter hfrom).symm.trans hname
        exact absurd hkey (name_ne_scope_key_of_parameters hps hq _)
      · cases hscope.symm.trans hstarting
        exact hfrom

structure NamesLabel (op : Operation) (place : LabelPlace) (label : Literal)
    (side : Schema → List Literal) : Prop where
  implemented : op.isImplemented = true
  label?_eq : place.label? op = some label
  namedLabels_eq : Workspace.namedLabels op = [label]
  looksUp : op.LooksUp label place side
  flat : label.IsFlat

namespace NamesLabel

variable {w : Workspace} {d : Dataset} {s : Session}

theorem datasetFor_eq (h : op.NamesLabel place label side) (w : Workspace) :
    w.datasetFor op = (w.datasetOwning label w.activeName?).bind w.dataset? := by
  rw [Workspace.datasetFor, h.namedLabels_eq]
  rfl

theorem run_selectIn (h : op.NamesLabel place label side)
    (hdataset : w.datasetFor op = some d) (hs : s.phase ≠ .finalized) :
    ∃ t, (Session.selectIn op w).run s = .ok .configured t ∧ t.dataset = d ∧
      place.value? t = some (revalidate place.key (side d.schema ++ [.null]) d.name label).1 ∧
      ∀ warning ∈ t.warnings, warning.parameter = place.key →
        (revalidate place.key (side d.schema ++ [.null]) d.name label).2 = some warning := by
  rw [Session.selectIn, hdataset]
  exact h.looksUp.run_select h.implemented d hs

theorem revalidate_of_hasLabel (h : op.NamesLabel place label side) {schema : Schema}
    (hlabel : Schema.hasLabel (side schema) label = true) (name dataset : String) :
    revalidate name (side schema ++ [.null]) dataset label = (label, none) :=
  if_pos (isAdmitted_of_hasLabel h.flat hlabel _)

theorem run_selectIn_of_column (h : op.NamesLabel place label (·.columns))
    (hnames : w.names.Nodup) (hd : d ∈ w.datasets)
    (hcolumn : d.schema.hasColumn label = true) (hs : s.phase ≠ .finalized) :
    ∃ t, (Session.selectIn op w).run s = .ok .configured t ∧ t.dataset ∈ w.datasets ∧
      t.dataset.schema.hasColumn label = true ∧ place.value? t = some label ∧
      ∀ warning ∈ t.warnings, warning.parameter ≠ place.key := by
  obtain ⟨owner, howner, howns, hchosen⟩ :=
    Workspace.exists_datasetOwning_of_column hd hcolumn w.activeName?
  have hdataset : w.datasetFor op = some owner := by
    rw [h.datasetFor_eq, hchosen]
    exact Workspace.dataset?_of_mem hnames howner
  obtain ⟨t, hrun, rfl, hvalue, hwarnings⟩ := h.run_selectIn hdataset hs
  rw [h.revalidate_of_hasLabel howns] at hvalue hwarnings
  exact ⟨t, hrun, howner, howns, hvalue,
    fun warning hmem hkey => nomatch hwarnings warning hmem hkey⟩

/-- A label that names rows is looked up in the active dataset, unless this lacks it as a column
and another dataset has it. -/
theorem datasetFor_of_active (h : op.NamesLabel place label side)
    (hnames : w.names.Nodup) (hactive : w.activeDataset? = some d)
    (hindex : d.schema.hasIndexLabel label = true) :
    w.datasetFor op = some (w.settle (·.schema.hasColumn label) d) := by
  have hd := Workspace.mem_datasets_of_active hactive
  have hstays : w.settle (·.schema.hasIndexLabel label) d = d := Workspace.settle_of_owns hindex
  rw [h.datasetFor_eq, Workspace.activeName?_of_active hactive,
    Workspace.datasetOwning_of_mem hnames hd, hstays]
  exact Workspace.dataset?_of_mem hnames (Workspace.settle_mem hd)

end NamesLabel
end Operation
end TablePhrase
