import TablePhrase.Proofs.Session.Selection

/-!
Edits of single values. An edit decides on a value by its own target alone, puts it in place and
brings the session up to date. In a session that is up to date already, edits of different targets
therefore neither touch each other's targets nor depend on their order.
-/

namespace TablePhrase

theorem Request.perform_of_done {r : Request} {x : Edit Unit} (h : r.edit = do x; return .done)
    (s : Session) :
    r.perform s =
      match x.run s with
      | .ok _ t => (.ok .done, t)
      | .error e t => (.error e, t) := by
  rw [perform, h, EStateM.run_bind]
  cases x.run s <;> rfl

namespace Session
open Edit

inductive Target
  | parameter (name : String)
  | scope
deriving DecidableEq

inductive ValueEdit
  | parameter (name : String) (value : Literal)
  | parameterText (name text : String)
  | scope (value : Literal)

namespace ValueEdit

def target : ValueEdit → Target
  | parameter name _ | parameterText name _ => .parameter name
  | scope _ => .scope

def request : ValueEdit → Request
  | parameter name value => .setParameter name value
  | parameterText name text => .setParameterText name text
  | scope value => .setScope value

/-- The edit does not address an axis parameter, which turns the whole operation. -/
def AvoidsAxis (e : ValueEdit) (s : Session) : Prop :=
  ∀ p ∈ s.parameters, e.target = .parameter p.name → p.kind ≠ .axis

instance (e : ValueEdit) (s : Session) : Decidable (e.AvoidsAxis s) :=
  inferInstanceAs (Decidable (∀ p ∈ s.parameters, e.target = .parameter p.name → p.kind ≠ .axis))

def demanded (s : Session) (name : String) : Except RefineError ParameterState :=
  match s.parameter? name with
  | some p => .ok p
  | none => .error (.unknownParameter s.operationName name)

def assigned (s : Session) (name : String) (value : Literal) : Except RefineError Literal :=
  match demanded s name with
  | .ok p => (p.kind.coerce value).mapError (.invalidValue name)
  | .error err => .error err

/-- The value that an edit puts in place, or why it is refused. -/
def decision (s : Session) : ValueEdit → Except RefineError Literal
  | parameter name value => assigned s name value
  | parameterText name text =>
    match demanded s name with
    | .ok p =>
      match (p.ofTyped text).mapError (.invalidValue p.name) with
      | .ok value => assigned s name value
      | .error err => .error err
    | .error err => .error err
  | scope value =>
    if s.scope.isSome then .ok (match value with | .str "" => .null | value => value)
    else .error (.noScope s.operationName)

end ValueEdit

/-- A value put in place, before the session is brought up to date. -/
def put (s : Session) (target : Target) (value : Literal) : Session :=
  match target with
  | .parameter name =>
    { s with parameters := setValue name value s.parameters, phase := .refining }
  | .scope =>
    { s with scope := s.scope.map fun scope => { scope with value := value }, phase := .refining }

def others (target : Target) (s : Session) : List ParameterState :=
  s.parameters.filter fun p => decide (target ≠ .parameter p.name)

variable {s t : Session} {target : Target} {e f : ValueEdit}

theorem run_ensureEditable_bind {β : Type} (h : s.IsEditable) (f : Unit → Edit β) :
    (ensureEditable >>= f).run s = (f ()).run s := by
  rw [EStateM.run_bind, run_ensureEditable_eq_ok_iff.mpr ⟨h, rfl⟩]

theorem run_findParameter_bind {β : Type} (name : String) (f : ParameterState → Edit β) :
    (findParameter name >>= f).run s =
      match ValueEdit.demanded s name with
      | .ok p => (f p).run s
      | .error err => .error err s := by
  unfold ValueEdit.demanded
  cases hfound : s.parameter? name with
  | none =>
    simp [findParameter, hfound]
    rfl
  | some p => simp [findParameter, hfound]

theorem run_checked_bind {β : Type} (name : String) (value : Except ValueFault Literal)
    (f : Literal → Edit β) :
    (checked name value >>= f).run s =
      match value.mapError (.invalidValue name) with
      | .ok v => (f v).run s
      | .error err => .error err s := by
  cases value <;> rfl

theorem ValueEdit.AvoidsAxis.kind_ne {name : String} {p : ParameterState} (h : e.AvoidsAxis s)
    (htarget : e.target = .parameter name) (hp : ValueEdit.demanded s name = .ok p) :
    p.kind ≠ .axis := by
  unfold ValueEdit.demanded at hp
  split at hp
  · next hfound =>
    cases hp
    exact h p (List.mem_of_find?_eq_some hfound) (name_of_parameter? hfound ▸ htarget)
  · cases hp

theorem run_setParameter {name : String} (value : Literal) (heditable : s.IsEditable)
    (haxis : ∀ p, ValueEdit.demanded s name = .ok p → p.kind ≠ .axis) :
    (setParameter name value).run s =
      match ValueEdit.assigned s name value with
      | .ok v => .ok () (refresh (s.put (.parameter name) v))
      | .error err => .error err s := by
  unfold setParameter ValueEdit.assigned
  rw [run_ensureEditable_bind heditable, run_findParameter_bind]
  cases hp : ValueEdit.demanded s name with
  | error err => rfl
  | ok p =>
    simp only [if_neg (haxis p hp), run_checked_bind]
    rfl

theorem run_setParameterText {name : String} (text : String) (heditable : s.IsEditable)
    (haxis : ∀ p, ValueEdit.demanded s name = .ok p → p.kind ≠ .axis) :
    (setParameterText name text).run s =
      match (ValueEdit.parameterText name text).decision s with
      | .ok v => .ok () (refresh (s.put (.parameter name) v))
      | .error err => .error err s := by
  unfold setParameterText
  rw [run_ensureEditable_bind heditable, run_findParameter_bind]
  simp only [ValueEdit.decision]
  cases ValueEdit.demanded s name with
  | error err => rfl
  | ok p =>
    simp only [run_checked_bind]
    cases (p.ofTyped text).mapError (RefineError.invalidValue p.name) with
    | error err => rfl
    | ok value => exact run_setParameter value heditable haxis

theorem run_setScope (heditable : s.IsEditable) (value : Literal) :
    (setScope value).run s =
      match (ValueEdit.scope value).decision s with
      | .ok v => .ok () (refresh (s.put .scope v))
      | .error err => .error err s := by
  unfold setScope ValueEdit.decision
  rw [run_ensureEditable_bind heditable, run_get_bind]
  cases hscope : s.scope with
  | none => rfl
  | some scope =>
    have hput (v : Literal) : s.put .scope v =
        { s with scope := some { scope with value := v }, phase := .refining } := by
      simp only [put, hscope, Option.map_some]
    exact congrArg (fun t => EStateM.Result.ok () (refresh t)) (hput _).symm

theorem perform_valueEdit (heditable : s.IsEditable) (haxis : e.AvoidsAxis s) :
    e.request.perform s =
      match e.decision s with
      | .ok value => (.ok .done, refresh (s.put e.target value))
      | .error err => (.error err, s) := by
  cases e with
  | parameter name value =>
    rw [Request.perform_of_done rfl, run_setParameter value heditable fun p => haxis.kind_ne rfl]
    simp only [ValueEdit.decision]
    cases ValueEdit.assigned s name value <;> rfl
  | parameterText name text =>
    rw [Request.perform_of_done rfl, run_setParameterText text heditable fun p => haxis.kind_ne rfl]
    cases (ValueEdit.parameterText name text).decision s <;> rfl
  | scope value =>
    rw [Request.perform_of_done rfl, run_setScope heditable value]
    cases (ValueEdit.scope value).decision s <;> rfl

/-- Apart from the value of the target, the later session has what the earlier one had. -/
structure KeepsAllBut (target : Target) (s t : Session) : Prop where
  others_eq : others target t = others target s
  scope_eq : target ≠ .scope → t.scope = s.scope
  axis_eq : t.axis = s.axis
  dataset_eq : t.dataset = s.dataset
  binding_eq : t.binding = s.binding
  operation_eq : t.operation = s.operation

theorem KeepsAllBut.refl (target : Target) (s : Session) : KeepsAllBut target s s :=
  ⟨rfl, fun _ => rfl, rfl, rfl, rfl, rfl⟩

theorem filter_map_of_spared {α : Type} {keep : α → Bool} {g : α → α} {l : List α}
    (hkeep : ∀ p ∈ l, keep (g p) = keep p) (hg : ∀ p ∈ l, keep p = true → g p = p) :
    (l.map g).filter keep = l.filter keep := by
  induction l with
  | nil => rfl
  | cons p l ih =>
    obtain ⟨hkeepp, hkeepl⟩ := List.forall_mem_cons.mp hkeep
    obtain ⟨hgp, hgl⟩ := List.forall_mem_cons.mp hg
    rw [List.map_cons, List.filter_cons, List.filter_cons, hkeepp, ih hkeepl hgl]
    split
    · next hp => rw [hgp hp]
    · rfl

theorem parameters_refresh_put (name : String) (value : Literal) (s : Session) :
    (refresh (s.put (.parameter name) value)).parameters = s.parameters.map fun p =>
      ((if p.name = name then { p with value := value } else p).refresh s.axis s.dataset).1 :=
  (parameters_refresh _).trans List.map_map

theorem IsCurrent.keepsAllBut_put (h : s.IsCurrent) (target : Target) (value : Literal) :
    KeepsAllBut target s (refresh (s.put target value)) := by
  refine ⟨?_, fun htarget => ?_, ?_, ?_, ?_, ?_⟩
  · cases target with
    | parameter name =>
      rw [others, parameters_refresh_put]
      apply filter_map_of_spared
      · intro p _
        rw [ParameterState.refresh_name]
        split <;> rfl
      · intro p hp hother
        have hname : p.name ≠ name := fun heq => by simp [heq] at hother
        rw [if_neg hname]
        exact h.parameter_eq hp
    | scope =>
      have hparameters : (refresh (s.put .scope value)).parameters = s.parameters :=
        (parameters_refresh _).trans h.parameters_eq
      rw [others, hparameters]
      rfl
  · cases target with
    | parameter name => exact (scope_refresh _).trans h.scope_eq
    | scope => exact absurd rfl htarget
  all_goals cases target <;> rfl

theorem put_comm {other : Target} (hne : target ≠ other) (value more : Literal) (s : Session) :
    (s.put target value).put other more = (s.put other more).put target value := by
  cases target with
  | scope =>
    cases other with
    | scope => exact absurd rfl hne
    | parameter name => rfl
  | parameter name =>
    cases other with
    | scope => rfl
    | parameter otherName =>
      have hname : name ≠ otherName := fun heq => hne (congrArg Target.parameter heq)
      simp only [put, setValue, List.map_map]
      congr 1
      refine List.map_congr_left fun p _ => ?_
      simp only [Function.comp_apply]
      by_cases hp : p.name = name
      · simp [hp, hname]
      · by_cases hother : p.name = otherName
        · simp [hother, hname.symm]
        · simp [hp, hother]

theorem refresh_put_refresh (s : Session) (target : Target) (value : Literal) :
    refresh ((refresh s).put target value) = refresh (s.put target value) := by
  apply SameBasis.refresh_eq
  cases target with
  | parameter name =>
    refine ⟨rfl, rfl, rfl, rfl, rfl, rfl, ?_, map_refresh_scope_refresh s⟩
    show ((refresh s).parameters.map _).map (ParameterState.refresh s.axis s.dataset) =
      (s.parameters.map _).map (ParameterState.refresh s.axis s.dataset)
    rw [parameters_refresh, List.map_map, List.map_map, List.map_map]
    refine List.map_congr_left fun p _ => ?_
    have hname : (p.refresh s.axis s.dataset).1.name = p.name := ParameterState.refresh_name
    simp only [Function.comp_apply]
    by_cases hp : p.name = name
    · rw [if_pos (hname.trans hp), if_pos hp]
      exact p.refresh_withValue s.axis s.dataset value
    · rw [if_neg (hname ▸ hp), if_neg hp]
      exact p.refresh_refresh s.axis s.dataset
  | scope =>
    refine ⟨rfl, rfl, rfl, rfl, rfl, rfl, map_refresh_parameters_refresh s, ?_⟩
    show ((refresh s).scope.map _).map (ScopeState.refresh s.dataset) =
      (s.scope.map _).map (ScopeState.refresh s.dataset)
    rw [scope_refresh]
    cases s.scope <;> rfl

theorem parameter?_eq_find?_others {name : String} (h : target ≠ .parameter name) (s : Session) :
    s.parameter? name = (others target s).find? (·.name == name) := by
  rw [others, List.find?_filter, parameter?]
  congr 1
  funext p
  by_cases hp : p.name = name
  · simp [hp, h]
  · simp [hp]

theorem KeepsAllBut.parameter?_eq (h : KeepsAllBut target s t) {name : String}
    (hname : target ≠ .parameter name) : t.parameter? name = s.parameter? name := by
  rw [parameter?_eq_find?_others hname, parameter?_eq_find?_others hname, h.others_eq]

theorem KeepsAllBut.decision_eq (h : KeepsAllBut target s t) (hne : target ≠ e.target) :
    e.decision t = e.decision s := by
  have hname : t.operationName = s.operationName := by rw [operationName, h.operation_eq]; rfl
  have hdemanded {name : String} (htarget : target ≠ .parameter name) :
      ValueEdit.demanded t name = ValueEdit.demanded s name := by
    rw [ValueEdit.demanded, h.parameter?_eq htarget, hname]
    rfl
  cases e with
  | parameter name value =>
    simp only [ValueEdit.decision, ValueEdit.assigned, hdemanded hne]
  | parameterText name text =>
    simp only [ValueEdit.decision, ValueEdit.assigned, hdemanded hne]
  | scope value => simp only [ValueEdit.decision, h.scope_eq hne, hname]

theorem KeepsAllBut.avoidsAxis (h : KeepsAllBut target s t) (hne : target ≠ e.target)
    (haxis : e.AvoidsAxis s) : e.AvoidsAxis t := by
  intro p hp htarget
  have hother : p ∈ others target t := by
    apply List.mem_filter.mpr
    exact ⟨hp, decide_eq_true fun heq => hne (heq.trans htarget.symm)⟩
  rw [h.others_eq] at hother
  exact haxis p (List.mem_filter.mp hother).1 htarget

def answerOf : Except RefineError Literal → Except RefineError Answer
  | .ok _ => .ok .done
  | .error err => .error err

def settle (s : Session) (target : Target) : Except RefineError Literal → Session
  | .ok value => s.put target value
  | .error _ => s

theorem perform_eq_settle (hcurrent : s.IsCurrent) (heditable : s.IsEditable)
    (haxis : e.AvoidsAxis s) :
    e.request.perform s =
      (answerOf (e.decision s), refresh (s.settle e.target (e.decision s))) := by
  rw [perform_valueEdit heditable haxis]
  cases e.decision s with
  | ok value => rfl
  | error err => exact congrArg (Prod.mk _) hcurrent.symm

theorem keepsAllBut_perform (hcurrent : s.IsCurrent) (heditable : s.IsEditable)
    (haxis : e.AvoidsAxis s) : KeepsAllBut e.target s (e.request.perform s).2 := by
  rw [perform_valueEdit heditable haxis]
  cases e.decision s with
  | ok value => exact hcurrent.keepsAllBut_put e.target value
  | error err => exact .refl e.target s

theorem isEditable_perform (heditable : s.IsEditable) (haxis : e.AvoidsAxis s) :
    (e.request.perform s).2.IsEditable := by
  rw [perform_valueEdit heditable haxis]
  cases e.decision s with
  | ok value => cases e <;> exact .inr rfl
  | error err => exact heditable

theorem settle_comm (hne : e.target ≠ f.target) (d c : Except RefineError Literal) :
    (s.settle e.target d).settle f.target c = (s.settle f.target c).settle e.target d := by
  cases d with
  | error err => rfl
  | ok value =>
    cases c with
    | error err => rfl
    | ok more => exact put_comm hne value more s

theorem refresh_settle_refresh (s : Session) (target : Target) (d : Except RefineError Literal) :
    refresh ((refresh s).settle target d) = refresh (s.settle target d) := by
  cases d with
  | ok value => exact refresh_put_refresh s target value
  | error err => exact refresh_refresh s

theorem run_pair (hcurrent : s.IsCurrent) (heditable : s.IsEditable) (hne : e.target ≠ f.target)
    (he : e.AvoidsAxis s) (hf : f.AvoidsAxis s) :
    run [e.request, f.request] s =
      ([answerOf (e.decision s), answerOf (f.decision s)],
        refresh ((s.settle e.target (e.decision s)).settle f.target (f.decision s))) := by
  have hkeeps := keepsAllBut_perform hcurrent heditable he
  have heditable' := isEditable_perform heditable he
  rw [perform_eq_settle hcurrent heditable he] at hkeeps heditable'
  have hsecond := perform_eq_settle (isCurrent_refresh _) heditable' (hkeeps.avoidsAxis hne hf)
  rw [hkeeps.decision_eq hne, refresh_settle_refresh] at hsecond
  rw [run_cons, perform_eq_settle hcurrent heditable he, run_cons, hsecond]
  rfl

/-- After any run, two edits of different targets get the same answers in either order and lead to
the same session, and neither changes anything but the value of its target. -/
theorem independent_edits_commute (settings : Settings) (requests : List Request) (e f : ValueEdit)
    (heditable : (run requests (new settings)).2.IsEditable) (hne : e.target ≠ f.target)
    (he : e.AvoidsAxis (run requests (new settings)).2)
    (hf : f.AvoidsAxis (run requests (new settings)).2) :
    let s := (run requests (new settings)).2
    (∃ a b t, run [e.request, f.request] s = ([a, b], t) ∧
      run [f.request, e.request] s = ([b, a], t)) ∧
    KeepsAllBut e.target s (e.request.perform s).2 ∧
    KeepsAllBut f.target s (f.request.perform s).2 := by
  intro s
  have hcurrent : s.IsCurrent := isCurrent_run settings requests
  refine ⟨?_, keepsAllBut_perform hcurrent heditable he, keepsAllBut_perform hcurrent heditable hf⟩
  refine ⟨_, _, _, run_pair hcurrent heditable hne he hf, ?_⟩
  rw [run_pair hcurrent heditable hne.symm hf he, settle_comm hne]

def scopedRequests : List Request :=
  [.select sortByB.scopable lettersDataset, .setScope (.str "c")]

theorem independent_edits_of_scopedRequests :
    let s := (run scopedRequests (new .standard)).2
    let e : ValueEdit := .parameterText "by" "z"
    let f : ValueEdit := .scope (.list ["a", "b"])
    s.IsEditable ∧ e.target ≠ f.target ∧ e.AvoidsAxis s ∧ f.AvoidsAxis s ∧
    (∃ a b t, run [e.request, f.request] s = ([a, b], t) ∧
      run [f.request, e.request] s = ([b, a], t) ∧
      t.code = "df[['a', 'b']] = df[['a', 'b']].sort_values(by='a')") ∧
    KeepsAllBut e.target s (e.request.perform s).2 ∧
    KeepsAllBut f.target s (f.request.perform s).2 ∧
    (s.parameter? "by").map (fun p => (p.value, p.options)) =
      some (.str "b", some [.str "a", .str "b", .null, .null]) ∧
    s.code = "df[\"a\"] = df[\"a\"].sort_values(by='b')" ∧
    (e.request.perform s).2.code = "df[\"a\"] = df[\"a\"].sort_values(by='a')" ∧
    (f.request.perform s).2.code = "df[['a', 'b']] = df[['a', 'b']].sort_values(by='b')" := by
  intro s e f
  have heditable : s.IsEditable := .inr (by decide)
  have hne : e.target ≠ f.target := by decide
  have he : e.AvoidsAxis s := by decide
  have hf : f.AvoidsAxis s := by decide
  obtain ⟨⟨a, b, t, hone, hother⟩, hkeeps⟩ :=
    independent_edits_commute .standard scopedRequests e f heditable hne he hf
  have hcode : (run [e.request, f.request] s).2.code =
      "df[['a', 'b']] = df[['a', 'b']].sort_values(by='a')" := by decide +kernel
  rw [hone] at hcode
  exact ⟨heditable, hne, he, hf, ⟨a, b, t, hone, hother, hcode⟩, hkeeps.1, hkeeps.2, rfl,
    by decide +kernel, by decide +kernel, by decide +kernel⟩

end Session
end TablePhrase
