import TablePhrase.Proofs.Session.Transition

/-!
Bringing a session up to date. Doing it twice changes nothing more, whatever the labels are, and
every run leaves a session that is up to date.
-/

namespace TablePhrase

theorem revalidate_revalidate (name : String) (options : List Literal) (dataset : String)
    (value : Literal) :
    revalidate name options dataset (revalidate name options dataset value).1 =
      revalidate name options dataset value := by
  cases hadmitted : isAdmitted options value with
  | true => simp [revalidate, hadmitted]
  | false =>
    cases hoffers : offersLabel options with
    -- the first option need not be admitted, as when it is a list or a NaN
    | true => simp [revalidate, hadmitted, hoffers]
    | false => simp [revalidate, hadmitted, hoffers]

namespace ParameterState
variable {axis : Axis} {dataset : Dataset} {p : ParameterState}

theorem refresh_name : (p.refresh axis dataset).1.name = p.name := by
  unfold refresh
  split
  · rfl
  · split <;> rfl

theorem refresh_kind : (p.refresh axis dataset).1.kind = p.kind := by
  unfold refresh
  split
  · rfl
  · split <;> rfl

theorem refresh_refresh (axis : Axis) (dataset : Dataset) (p : ParameterState) :
    (p.refresh axis dataset).1.refresh axis dataset = p.refresh axis dataset := by
  unfold refresh
  by_cases haxis : p.kind = .axis
  · simp [haxis]
  · cases hschema : p.kind.isSchemaDependent with
    | true => simp [haxis, hschema, revalidate_revalidate]
    | false => simp [haxis, hschema]

theorem refresh_withValue (axis : Axis) (dataset : Dataset) (p : ParameterState) (value : Literal) :
    ({ (p.refresh axis dataset).1 with value := value } : ParameterState).refresh axis dataset =
      ({ p with value := value } : ParameterState).refresh axis dataset := by
  unfold refresh
  by_cases haxis : p.kind = .axis
  · simp [haxis]
  · cases hschema : p.kind.isSchemaDependent with
    | true => simp [haxis, hschema]
    | false => simp [haxis, hschema]

end ParameterState

theorem ScopeState.refresh_refresh (dataset : Dataset) (scope : ScopeState) :
    (scope.refresh dataset).1.refresh dataset = scope.refresh dataset := by
  simp [refresh, revalidate_revalidate]

namespace Session
variable {s t : Session}

/-- What a session brought up to date depends on. -/
structure SameBasis (s t : Session) : Prop where
  settings_eq : s.settings = t.settings
  phase_eq : s.phase = t.phase
  operation_eq : s.operation = t.operation
  dataset_eq : s.dataset = t.dataset
  axis_eq : s.axis = t.axis
  binding_eq : s.binding = t.binding
  parameters_eq : s.parameters.map (ParameterState.refresh s.axis s.dataset) =
    t.parameters.map (ParameterState.refresh t.axis t.dataset)
  scope_eq : s.scope.map (ScopeState.refresh s.dataset) = t.scope.map (ScopeState.refresh t.dataset)

theorem SameBasis.refresh_eq (h : SameBasis s t) : refresh s = refresh t := by
  obtain ⟨hsettings, hphase, hoperation, hdataset, haxis, hbinding, hparameters, hscope⟩ := h
  cases s
  cases t
  simp only at hsettings hphase hoperation hdataset haxis hbinding hparameters hscope
  subst hsettings hphase hoperation hdataset haxis hbinding
  simp only [refresh, hparameters, hscope]
  rfl

theorem parameters_refresh (s : Session) :
    (refresh s).parameters = s.parameters.map fun p => (p.refresh s.axis s.dataset).1 :=
  List.map_map

theorem scope_refresh (s : Session) :
    (refresh s).scope = s.scope.map fun scope => (scope.refresh s.dataset).1 :=
  Option.map_map ..

theorem map_refresh_parameters_refresh (s : Session) :
    (refresh s).parameters.map (ParameterState.refresh s.axis s.dataset) =
      s.parameters.map (ParameterState.refresh s.axis s.dataset) := by
  rw [parameters_refresh, List.map_map]
  exact List.map_congr_left fun p _ => p.refresh_refresh s.axis s.dataset

theorem map_refresh_scope_refresh (s : Session) :
    (refresh s).scope.map (ScopeState.refresh s.dataset) =
      s.scope.map (ScopeState.refresh s.dataset) := by
  rw [scope_refresh, Option.map_map]
  exact Option.map_congr fun scope _ => scope.refresh_refresh s.dataset

theorem refresh_refresh (s : Session) : refresh (refresh s) = refresh s :=
  SameBasis.refresh_eq ⟨rfl, rfl, rfl, rfl, rfl, rfl, map_refresh_parameters_refresh s,
    map_refresh_scope_refresh s⟩

/-- Deriving anew would change nothing. -/
def IsCurrent (s : Session) : Prop :=
  refresh s = s

theorem isCurrent_refresh (s : Session) : (refresh s).IsCurrent :=
  refresh_refresh s

theorem IsCurrent.rebind (h : s.IsCurrent) (binding : ReturnBinding) :
    (render { s with binding := binding }).IsCurrent := by
  have hrefresh : refresh (render { s with binding := binding }) =
      render { refresh s with binding := binding } := rfl
  rw [IsCurrent, hrefresh, h]

theorem IsCurrent.freeze (h : s.IsCurrent) :
    ({ s with phase := .finalized } : Session).IsCurrent := by
  have hrefresh : refresh { s with phase := .finalized } =
      { refresh s with phase := .finalized } := rfl
  rw [IsCurrent, hrefresh, h]

theorem isCurrent_new (settings : Settings) : (new settings).IsCurrent := rfl

theorem Transition.keeps_current {datasets : List Dataset} (h : Transition datasets s t)
    (hs : s.IsCurrent) : t.IsCurrent := by
  cases h with
  | configure => exact isCurrent_refresh _
  | restart => exact (isCurrent_refresh _).rebind s.binding
  | turn => exact isCurrent_refresh _
  | move => exact isCurrent_refresh _
  | assign => exact isCurrent_refresh _
  | restrict => exact isCurrent_refresh _
  | rebind => exact hs.rebind _
  | freeze => exact hs.freeze

theorem isCurrent_run (settings : Settings) (requests : List Request) :
    (run requests (new settings)).2.IsCurrent :=
  run_keeps_always (fun h hs => h.keeps_current hs) requests (isCurrent_new settings)

theorem IsCurrent.parameters_eq (h : s.IsCurrent) :
    (s.parameters.map fun p => (p.refresh s.axis s.dataset).1) = s.parameters :=
  (parameters_refresh s).symm.trans (congrArg Session.parameters h)

theorem IsCurrent.parameter_eq (h : s.IsCurrent) {p : ParameterState} (hp : p ∈ s.parameters) :
    (p.refresh s.axis s.dataset).1 = p :=
  List.map_inj_left.mp (h.parameters_eq.trans (List.map_id _).symm) p hp

theorem IsCurrent.scope_eq (h : s.IsCurrent) :
    (s.scope.map fun scope => (scope.refresh s.dataset).1) = s.scope :=
  (scope_refresh s).symm.trans (congrArg Session.scope h)

end Session
end TablePhrase
