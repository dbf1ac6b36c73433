import TablePhrase.Proofs.Session.Consistency
import TablePhrase.Proofs.Session.Independence

/-!
A scope and a label that are typed as text. A parameter that offers labels takes the text for a
label before it reads it, whereas a scope takes what the text reads as. So a column is picked by its
name as a parameter, but as a scope only if the name reads as itself.
-/

namespace TablePhrase

/-- A value as a scope takes it: the empty text lifts the restriction. -/
def Literal.asScope : Literal → Literal
  | .str "" => .null
  | value => value

theorem Literal.asScope_eq_str_iff {v : Literal} {s : String} (hs : s ≠ "") :
    v.asScope = .str s ↔ v = .str s := by
  unfold asScope
  split
  · constructor
    · rintro ⟨⟩
    · rintro ⟨⟩
      exact absurd rfl hs
  · rfl

theorem revalidate_fst_of_mem {columns : List Literal} {label : String}
    (hlabel : .str label ∈ columns) (name dataset : String) (value : Literal) :
    (revalidate name (columns ++ [.null]) dataset value).1 =
      if isAdmitted (columns ++ [.null]) value then value else columns.headD .null := by
  have hoffers : offersLabel (columns ++ [.null]) = true :=
    List.any_eq_true.mpr ⟨.str label, List.mem_append_left _ hlabel, rfl⟩
  have hhead : (columns ++ [Literal.null]).headD .null = columns.headD .null := by
    cases columns <;> rfl
  rw [revalidate, if_pos hoffers, hhead]
  split <;> rfl

theorem isAdmitted_str_of_mem {options : List Literal} {label : String}
    (h : .str label ∈ options) : isAdmitted options (.str label) = true :=
  Literal.isOption_str_iff.mpr h

/-- A column with a name is what is chosen exactly if its name reads as itself, or reads as nothing
that could be chosen and the column is the first. -/
theorem revalidate_fst_eq_str_iff {columns : List Literal} {label : String}
    (hlabel : .str label ∈ columns) (hne : label ≠ "") (name dataset : String) (value : Literal) :
    (revalidate name (columns ++ [.null]) dataset value.asScope).1 = .str label ↔
      value = .str label ∨
        isAdmitted (columns ++ [.null]) value.asScope = false ∧ columns.head? = some (.str label) := by
  rw [revalidate_fst_of_mem hlabel]
  have hvalue : value.asScope = .str label ↔ value = .str label := Literal.asScope_eq_str_iff hne
  cases hadmitted : isAdmitted (columns ++ [.null]) value.asScope with
  | true => simp [hvalue]
  | false =>
    have hother : value ≠ .str label := by
      intro heq
      rw [hvalue.mpr heq, isAdmitted_str_of_mem (List.mem_append_left _ hlabel)] at hadmitted
      cases hadmitted
    cases columns with
    | nil => cases hlabel
    | cons column columns => simp [hother]

theorem ParameterState.ofTyped_of_schemaDependent {p : ParameterState}
    (h : p.kind.isSchemaDependent = true) (text : String) :
    p.ofTyped text = .ok (typedLabel p.options text) := by
  unfold ofTyped
  cases hkind : p.kind <;> first | rfl | (rw [hkind] at h; cases h)

theorem ParameterState.refresh_of_admitted {axis : Axis} {dataset : Dataset} {p : ParameterState}
    (h : p.kind.isSchemaDependent = true)
    (hvalue : isAdmitted (p.kind.labels axis dataset.schema) p.value = true) :
    p.refresh axis dataset =
      ({ p with options := some (p.kind.labels axis dataset.schema) }, none) := by
  rw [refresh_of_schemaDependent h, ← ParameterKind.labels_eq_side h, revalidate, if_pos hvalue]

theorem ParameterKind.coerce_of_schemaDependent {kind : ParameterKind}
    (h : kind.isSchemaDependent = true) (value : Literal) : kind.coerce value = .ok value := by
  cases kind <;> first | rfl | cases h

namespace Session
open Edit

variable {s t : Session} {u : Unit}

/-- The scope is what is chosen for a value in the dataset. -/
def Chooses (s : Session) (value : Literal) : Prop :=
  ∃ scope, s.scope = some scope ∧
    scope.value = (revalidate scope.kind.key s.dataset.schema.columnOptions s.dataset.name value).1

theorem isEditable_of_run {β : Type} {f : Unit → Edit β} {b : β}
    (h : (ensureEditable >>= f).run s = .ok b t) : s.IsEditable :=
  (run_ensureEditable_bind_eq_ok_iff.mp h).1

theorem chooses_of_setScope {value : Literal} (h : (setScope value).run s = .ok u t) :
    t.IsCurrent ∧ t.Chooses value.asScope := by
  rw [run_setScope (isEditable_of_run h)] at h
  cases hscope : s.scope with
  | none => simp [ValueEdit.decision, hscope] at h
  | some scope =>
    simp only [ValueEdit.decision, hscope, Option.isSome_some, if_true] at h
    cases h
    have hput : (refresh (s.put .scope value.asScope)).scope =
        some (({ scope with value := value.asScope } : ScopeState).refresh s.dataset).1 := by
      rw [scope_refresh]
      simp only [put, hscope, Option.map_some]
    exact ⟨isCurrent_refresh _, _, hput, rfl⟩

theorem of_setParameter {name : String} {value : Literal}
    (h : (setParameter name value).run s = .ok u t) :
    ∃ p, s.parameter? name = some p ∧
      ((p.kind = .axis ∧ ∃ axis, t = refresh { s with axis := axis, phase := .refining }) ∨
        (p.kind ≠ .axis ∧
          ∃ v, p.kind.coerce value = .ok v ∧ t = refresh (s.put (.parameter name) v))) := by
  obtain ⟨-, hset⟩ := run_ensureEditable_bind_eq_ok_iff.mp h
  obtain ⟨p, hfound, hp⟩ := run_findParameter_bind_eq_ok_iff.mp hset
  refine ⟨p, hfound, ?_⟩
  split at hp
  · next haxis =>
    split at hp
    · obtain ⟨-, hturn⟩ := run_ensureEditable_bind_eq_ok_iff.mp hp
      cases hturn
      exact .inl ⟨haxis, _, rfl⟩
    · cases hp
  · next haxis =>
    obtain ⟨v, hv, hassign⟩ := run_checked_bind_eq_ok_iff.mp hp
    cases hassign
    exact .inr ⟨haxis, v, hv, rfl⟩

theorem IsCurrent.keeps_of_setParameter {name : String} {value : Literal} (hs : s.IsCurrent)
    (h : (setParameter name value).run s = .ok u t) :
    t.IsCurrent ∧ t.scope = s.scope ∧ t.dataset = s.dataset := by
  obtain ⟨p, -, ⟨-, axis, rfl⟩ | ⟨-, v, -, rfl⟩⟩ := of_setParameter h
  · exact ⟨isCurrent_refresh _, (scope_refresh _).trans hs.scope_eq, rfl⟩
  · exact ⟨isCurrent_refresh _, (scope_refresh _).trans hs.scope_eq, rfl⟩

theorem IsCurrent.keeps_of_setParameterText {name text : String} (hs : s.IsCurrent)
    (h : (setParameterText name text).run s = .ok u t) :
    t.IsCurrent ∧ t.scope = s.scope ∧ t.dataset = s.dataset := by
  obtain ⟨-, hset⟩ := run_ensureEditable_bind_eq_ok_iff.mp h
  obtain ⟨p, -, hp⟩ := run_findParameter_bind_eq_ok_iff.mp hset
  obtain ⟨value, -, hvalue⟩ := run_checked_bind_eq_ok_iff.mp hp
  exact hs.keeps_of_setParameter hvalue

theorem parameter?_refresh (s : Session) (name : String) :
    (refresh s).parameter? name =
      (s.parameter? name).map fun p => (p.refresh s.axis s.dataset).1 := by
  rw [parameter?, parameters_refresh, List.find?_map]
  congr 2
  funext p
  simp [ParameterState.refresh_name]

theorem parameter?_put (s : Session) (name : String) (value : Literal) :
    (s.put (.parameter name) value).parameter? name =
      (s.parameter? name).map fun p => { p with value := value } := by
  have hfind (ps : List ParameterState) : (setValue name value ps).find? (·.name == name) =
      (ps.find? (·.name == name)).map fun p => { p with value := value } := by
    induction ps with
    | nil => rfl
    | cons p ps ih =>
      rw [setValue, List.map_cons, ← setValue]
      by_cases hp : p.name = name
      · simp [hp]
      · simp [hp, ih]
  exact hfind s.parameters

theorem IsCurrent.options_eq {p : ParameterState} (hs : s.IsCurrent) (hp : p ∈ s.parameters)
    (hkind : p.kind.isSchemaDependent = true) :
    p.options = some (p.kind.labels s.axis s.dataset.schema) := by
  rw [← hs.parameter_eq hp, ParameterState.refresh_kind,
    ParameterState.refresh_of_schemaDependent hkind, ParameterKind.labels_eq_side hkind]

theorem IsCurrent.picks_label {name label : String} {p : ParameterState} (hs : s.IsCurrent)
    (h : (setParameterText name label).run s = .ok u t) (hfound : t.parameter? name = some p)
    (hkind : p.kind.isSchemaDependent = true)
    (hlabel : .str label ∈ p.kind.labels t.axis t.dataset.schema) : p.value = .str label := by
  obtain ⟨-, hset⟩ := run_ensureEditable_bind_eq_ok_iff.mp h
  obtain ⟨q, hq, htyped⟩ := run_findParameter_bind_eq_ok_iff.mp hset
  obtain ⟨typed, htext, hvalue⟩ := run_checked_bind_eq_ok_iff.mp htyped
  obtain ⟨q', hq', hcases⟩ := of_setParameter hvalue
  obtain rfl : q = q' := Option.some.inj (hq.symm.trans hq')
  rcases hcases with ⟨haxis, axis, rfl⟩ | ⟨-, v, hv, rfl⟩
  · rw [parameter?_refresh] at hfound
    have hp := Option.some.inj ((congrArg (Option.map _) hq).symm.trans hfound)
    rw [← hp, ParameterState.refresh_kind, haxis] at hkind
    cases hkind
  · rw [parameter?_refresh, parameter?_put, hq] at hfound
    obtain rfl := Option.some.inj hfound
    rw [ParameterState.refresh_kind] at hkind hlabel
    replace hkind : q.kind.isSchemaDependent = true := hkind
    replace hlabel : .str label ∈ q.kind.labels s.axis s.dataset.schema := hlabel
    have hoptions := hs.options_eq (List.mem_of_find?_eq_some hq) hkind
    have hadmitted := isAdmitted_str_of_mem hlabel
    have htyped : typedLabel q.options label = .str label := by
      rw [typedLabel, hoptions]
      exact if_pos hadmitted
    rw [ParameterState.ofTyped_of_schemaDependent hkind, htyped] at htext
    cases htext
    rw [ParameterKind.coerce_of_schemaDependent hkind] at hv
    cases hv
    have hkept := ParameterState.refresh_of_admitted (p := { q with value := .str label }) hkind
      hadmitted
    exact congrArg (fun refreshed => refreshed.1.value) hkept

end Session
end TablePhrase
