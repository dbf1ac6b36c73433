import TablePhrase.Proofs.Session.Refusal

/-!
Granted requests. A granted request has one of eight effects, made of what it brings along. What is
left of an effect when only the datasets are known is a transition. A property that all effects or
all transitions keep holds after every run.
-/

namespace TablePhrase

namespace Request

def operation? : Request → Option Operation
  | select op _ | selectIn op _ => some op
  | _ => none

/-- The request sets the parameter to the value: the one given, or the one that the text given
denotes, as the kind of the parameter takes it. -/
def Gives (r : Request) (p : ParameterState) (v : Literal) : Prop :=
  match r with
  | setParameter name value => p.name = name ∧ p.kind.coerce value = .ok v
  | setParameterText name text =>
    p.name = name ∧ ∃ value, p.ofTyped text = .ok value ∧ p.kind.coerce value = .ok v
  | _ => False

end Request

namespace Session
open Edit

/-- What a granted request that brings datasets along makes of a session. -/
inductive Transition (datasets : List Dataset) (s : Session) : Session → Prop
  | configure {op : Operation} {dataset : Dataset} {ps : List ParameterState}
      (phase : s.phase ≠ .finalized) (implemented : op.isImplemented = true)
      (parameters : op.parameters = .ok ps) (mem : dataset ∈ datasets) :
      Transition datasets s (configure op dataset ps s)
  | restart {op : Operation} {ps : List ParameterState} (editable : s.IsEditable)
      (selected : s.operation = some op) (implemented : op.isImplemented = true)
      (parameters : op.parameters = .ok ps) :
      Transition datasets s
        (render { Session.configure op s.dataset ps s with binding := s.binding })
  | turn {axis : Axis} (editable : s.IsEditable) :
      Transition datasets s (refresh { s with axis := axis, phase := .refining })
  | move {dataset : Dataset} (editable : s.IsEditable) (mem : dataset ∈ datasets) :
      Transition datasets s (refresh { s with dataset := dataset })
  | assign {name : String} {p : ParameterState} {value coerced : Literal}
      (editable : s.IsEditable) (found : s.parameter? name = some p) (kind : p.kind ≠ .axis)
      (checked : p.kind.coerce value = .ok coerced) :
      Transition datasets s
        (refresh { s with parameters := setValue name coerced s.parameters, phase := .refining })
  | restrict {scope : ScopeState} {value : Literal} (editable : s.IsEditable)
      (scopable : s.scope = some scope) :
      Transition datasets s
        (refresh { s with scope := some { scope with value := value }, phase := .refining })
  | rebind {binding : ReturnBinding} (editable : s.IsEditable) :
      Transition datasets s (render { s with binding := binding })
  | freeze (editable : s.IsEditable) : Transition datasets s { s with phase := .finalized }

inductive Effect (r : Request) (s : Session) : Session → Prop
  | configure {op : Operation} {dataset : Dataset} {ps : List ParameterState}
      (phase : s.phase ≠ .finalized) (implemented : op.isImplemented = true)
      (parameters : op.parameters = .ok ps) (brought : r.operation? = some op)
      (mem : dataset ∈ r.datasets) : Effect r s (configure op dataset ps s)
  | restart {op : Operation} {ps : List ParameterState} (editable : s.IsEditable)
      (selected : s.operation = some op) (implemented : op.isImplemented = true)
      (parameters : op.parameters = .ok ps) :
      Effect r s (render { Session.configure op s.dataset ps s with binding := s.binding })
  | turn {axis : Axis} (editable : s.IsEditable) :
      Effect r s (refresh { s with axis := axis, phase := .refining })
  | move {dataset : Dataset} (editable : s.IsEditable) (mem : dataset ∈ r.datasets) :
      Effect r s (refresh { s with dataset := dataset })
  | assign {name : String} {p : ParameterState} {v : Literal} (editable : s.IsEditable)
      (found : s.parameter? name = some p) (kind : p.kind ≠ .axis) (given : r.Gives p v) :
      Effect r s
        (refresh { s with parameters := setValue name v s.parameters, phase := .refining })
  | restrict {scope : ScopeState} {value : Literal} (editable : s.IsEditable)
      (scopable : s.scope = some scope) :
      Effect r s
        (refresh { s with scope := some { scope with value := value }, phase := .refining })
  | rebind {binding : ReturnBinding} (editable : s.IsEditable) :
      Effect r s (render { s with binding := binding })
  | freeze (editable : s.IsEditable) : Effect r s { s with phase := .finalized }

variable {r : Request} {datasets : List Dataset} {s t : Session}

theorem Transition.settings_eq (h : Transition datasets s t) : t.settings = s.settings := by
  cases h <;> rfl

theorem Effect.transition (h : Effect r s t) : Transition r.datasets s t := by
  cases h with
  | configure hphase himplemented hps _ hmem => exact .configure hphase himplemented hps hmem
  | restart heditable hop himplemented hps => exact .restart heditable hop himplemented hps
  | turn heditable => exact .turn heditable
  | move heditable hmem => exact .move heditable hmem
  | assign heditable hfound hkind hgiven =>
    cases r with
    | setParameter name value => exact .assign heditable hfound hkind hgiven.2
    | setParameterText name text =>
      obtain ⟨-, value, -, hchecked⟩ := hgiven
      exact .assign heditable hfound hkind hchecked
    | _ => cases hgiven
  | restrict heditable hscope => exact .restrict heditable hscope
  | rebind heditable => exact .rebind heditable
  | freeze heditable => exact .freeze heditable

theorem name_of_parameter? {name : String} {p : ParameterState}
    (h : s.parameter? name = some p) : p.name = name := by
  simpa using List.find?_some h

theorem exists_run_of_run_bind_pure {α β : Type} {x : Edit α} {g : α → β} {b : β}
    (h : (x >>= fun a => pure (g a)).run s = .ok b t) : ∃ a, x.run s = .ok a t := by
  obtain ⟨a, u, hu, hpure⟩ := run_bind_eq_ok_iff.mp h
  cases hpure
  exact ⟨a, hu⟩

theorem run_ensureEditable_bind_eq_ok_iff {β : Type} {f : Unit → Edit β} {b : β} :
    (ensureEditable >>= f).run s = .ok b t ↔ s.IsEditable ∧ (f ()).run s = .ok b t := by
  simp only [run_bind_eq_ok_iff, run_ensureEditable_eq_ok_iff]
  constructor
  · rintro ⟨_, _, ⟨heditable, rfl⟩, h⟩
    exact ⟨heditable, h⟩
  · rintro ⟨heditable, h⟩
    exact ⟨(), s, ⟨heditable, rfl⟩, h⟩

theorem run_findParameter_bind_eq_ok_iff {β : Type} {name : String} {f : ParameterState → Edit β}
    {b : β} :
    (findParameter name >>= f).run s = .ok b t ↔
      ∃ p, s.parameter? name = some p ∧ (f p).run s = .ok b t := by
  simp only [run_bind_eq_ok_iff, run_findParameter_eq_ok_iff]
  constructor
  · rintro ⟨p, _, ⟨hfound, rfl⟩, h⟩
    exact ⟨p, hfound, h⟩
  · rintro ⟨p, hfound, h⟩
    exact ⟨p, s, ⟨hfound, rfl⟩, h⟩

theorem run_checked_bind_eq_ok_iff {β : Type} {name : String} {value : Except ValueFault Literal}
    {f : Literal → Edit β} {b : β} :
    (checked name value >>= f).run s = .ok b t ↔
      ∃ v, value = .ok v ∧ (f v).run s = .ok b t := by
  cases value with
  | ok v =>
    have hrun : (checked name (.ok v) >>= f).run s = (f v).run s := rfl
    rw [hrun]
    simp
  | error fault =>
    have hrun : (checked name (.error fault) >>= f).run s = .error (.invalidValue name fault) s :=
      rfl
    rw [hrun]
    simp

theorem effect_of_select {op : Operation} {dataset : Dataset} {phase : Phase}
    (hbrought : r.operation? = some op) (hmem : dataset ∈ r.datasets)
    (h : (select op dataset).run s = .ok phase t) : Effect r s t := by
  obtain ⟨hphase, himplemented, ps, hps, -, rfl⟩ := run_select_eq_ok_iff.mp h
  exact .configure hphase himplemented hps hbrought hmem

theorem effect_of_reset {phase : Phase} (h : reset.run s = .ok phase t) : Effect r s t := by
  obtain ⟨heditable, hreset⟩ := run_ensureEditable_bind_eq_ok_iff.mp h
  rw [run_get_bind] at hreset
  split at hreset
  · cases hreset
  · next op hop =>
    obtain ⟨_, u, hselect, hu⟩ := run_bind_eq_ok_iff.mp hreset
    cases hu
    obtain ⟨-, himplemented, ps, hps, -, rfl⟩ := run_select_eq_ok_iff.mp hselect
    exact .restart heditable hop himplemented hps

theorem effect_of_setAxis {axis : Axis} {u : Unit} (h : (setAxis axis).run s = .ok u t) :
    Effect r s t := by
  obtain ⟨heditable, hturn⟩ := run_ensureEditable_bind_eq_ok_iff.mp h
  cases hturn
  exact .turn heditable

theorem effect_of_setDataset {dataset : Dataset} {u : Unit} (hmem : dataset ∈ r.datasets)
    (h : (setDataset dataset).run s = .ok u t) : Effect r s t := by
  obtain ⟨heditable, hmove⟩ := run_ensureEditable_bind_eq_ok_iff.mp h
  cases hmove
  exact .move heditable hmem

theorem effect_of_setParameter {name : String} {value : Literal} {u : Unit}
    (hgives : ∀ p v, s.parameter? name = some p → p.kind.coerce value = .ok v → r.Gives p v)
    (h : (setParameter name value).run s = .ok u t) : Effect r s t := by
  obtain ⟨heditable, hset⟩ := run_ensureEditable_bind_eq_ok_iff.mp h
  obtain ⟨p, hfound, hp⟩ := run_findParameter_bind_eq_ok_iff.mp hset
  split at hp
  · split at hp
    · exact effect_of_setAxis hp
    · cases hp
  · next hkind =>
    obtain ⟨v, hchecked, hassign⟩ := run_checked_bind_eq_ok_iff.mp hp
    cases hassign
    exact .assign heditable hfound hkind (hgives p v hfound hchecked)

theorem effect_of_setParameterText {name text : String} {u : Unit}
    (h : (setParameterText name text).run s = .ok u t) :
    Effect (.setParameterText name text) s t := by
  obtain ⟨-, hset⟩ := run_ensureEditable_bind_eq_ok_iff.mp h
  obtain ⟨p, hfound, hp⟩ := run_findParameter_bind_eq_ok_iff.mp hset
  obtain ⟨value, htyped, hvalue⟩ := run_checked_bind_eq_ok_iff.mp hp
  refine effect_of_setParameter (fun q v hq hchecked => ?_) hvalue
  rw [hfound] at hq
  cases hq
  exact ⟨name_of_parameter? hfound, value, htyped, hchecked⟩

theorem effect_of_setScope {value : Literal} {u : Unit} (h : (setScope value).run s = .ok u t) :
    Effect r s t := by
  obtain ⟨heditable, hset⟩ := run_ensureEditable_bind_eq_ok_iff.mp h
  rw [run_get_bind] at hset
  split at hset
  · cases hset
  · next scope hscope =>
    cases hset
    exact .restrict heditable hscope

theorem effect_of_setBinding {binding : ReturnBinding} {u : Unit}
    (h : (setBinding binding).run s = .ok u t) : Effect r s t := by
  obtain ⟨heditable, hrebind⟩ := run_ensureEditable_bind_eq_ok_iff.mp h
  cases hrebind
  exact .rebind heditable

theorem effect_of_finalize {code : String} (h : finalize.run s = .ok code t) : Effect r s t := by
  obtain ⟨heditable, -, rfl⟩ := run_finalize_eq_ok_iff.mp h
  exact .freeze heditable

end Session

namespace Workspace

theorem mem_datasets_of_dataset? {w : Workspace} {name : String} {d : Dataset}
    (h : w.dataset? name = some d) : d ∈ w.datasets :=
  List.mem_of_find?_eq_some h

theorem mem_datasets_of_datasetFor {w : Workspace} {op : Operation} {d : Dataset}
    (h : w.datasetFor op = some d) : d ∈ w.datasets := by
  unfold datasetFor at h
  obtain ⟨name, -, hname⟩ := Option.bind_eq_some_iff.mp h
  exact mem_datasets_of_dataset? hname

end Workspace

namespace Request
open Edit Session

theorem effect_of_granted {r : Request} {s t : Session} {answer : Answer}
    (h : r.edit.run s = .ok answer t) : Effect r s t := by
  cases r with
  | select op dataset =>
    obtain ⟨_, hu⟩ := exists_run_of_run_bind_pure h
    exact effect_of_select rfl (List.mem_singleton_self dataset) hu
  | selectIn op workspace =>
    obtain ⟨_, hu⟩ := exists_run_of_run_bind_pure h
    unfold Session.selectIn at hu
    split at hu
    · next dataset hdataset =>
      exact effect_of_select rfl (Workspace.mem_datasets_of_datasetFor hdataset) hu
    · cases hu
  | switchDataset workspace name =>
    obtain ⟨_, hu⟩ := exists_run_of_run_bind_pure h
    unfold Session.switchDataset at hu
    split at hu
    · next dataset hdataset =>
      exact effect_of_setDataset (Workspace.mem_datasets_of_dataset? hdataset) hu
    · cases hu
  | reset =>
    obtain ⟨_, hu⟩ := exists_run_of_run_bind_pure h
    exact effect_of_reset hu
  | setAxis axis =>
    obtain ⟨_, hu⟩ := exists_run_of_run_bind_pure h
    exact effect_of_setAxis hu
  | setDataset dataset =>
    obtain ⟨_, hu⟩ := exists_run_of_run_bind_pure h
    exact effect_of_setDataset (List.mem_singleton_self dataset) hu
  | setParameter name value =>
    obtain ⟨_, hu⟩ := exists_run_of_run_bind_pure h
    exact effect_of_setParameter (fun _ _ hfound hchecked => ⟨name_of_parameter? hfound, hchecked⟩)
      hu
  | setParameterText name text =>
    obtain ⟨_, hu⟩ := exists_run_of_run_bind_pure h
    exact effect_of_setParameterText hu
  | setScope value =>
    obtain ⟨_, hu⟩ := exists_run_of_run_bind_pure h
    exact effect_of_setScope hu
  | setBinding binding =>
    obtain ⟨_, hu⟩ := exists_run_of_run_bind_pure h
    exact effect_of_setBinding hu
  | finalize =>
    obtain ⟨_, hu⟩ := exists_run_of_run_bind_pure h
    exact effect_of_finalize hu

theorem transition_of_edit {α : Type} {e : Edit α} {g : α → Answer} {r : Request} {s t : Session}
    {a : α} (hr : r.edit = e >>= fun a => pure (g a)) (h : e.run s = .ok a t) :
    Transition r.datasets s t := by
  have hgranted : r.edit.run s = .ok (g a) t := by
    rw [hr]
    exact Edit.run_bind_eq_ok_iff.mpr ⟨a, t, h, rfl⟩
  exact (effect_of_granted hgranted).transition

/-- A request leaves the session as it was or has its effect. -/
theorem perform_eq_or_effect (r : Request) (s : Session) :
    (r.perform s).2 = s ∨ Effect r s (r.perform s).2 := by
  unfold perform
  cases hrun : r.edit.run s with
  | ok answer t => exact .inr (effect_of_granted hrun)
  | error e t => exact .inl (isAtomic_edit r hrun)

end Request

namespace Session

theorem run_keeps_of_effect {P : Session → Prop} {rs : List Request}
    (hstep : ∀ r ∈ rs, ∀ {s t : Session}, Effect r s t → P s → P t) {s : Session} (hs : P s) :
    P (run rs s).2 := by
  induction rs generalizing s with
  | nil => exact hs
  | cons r rs ih =>
    rw [run_cons]
    refine ih (fun q hq => hstep q (List.mem_cons_of_mem r hq)) ?_
    rcases r.perform_eq_or_effect s with h | h
    · rwa [h]
    · exact hstep r List.mem_cons_self h hs

/-- What all transitions keep, as long as only such datasets are brought along, every run keeps. -/
theorem run_keeps {P : Session → Prop} {allowed : Dataset → Prop}
    (hstep : ∀ {datasets : List Dataset} {s t : Session},
      (∀ d ∈ datasets, allowed d) → Transition datasets s t → P s → P t)
    {rs : List Request} (hrs : ∀ r ∈ rs, ∀ d ∈ r.datasets, allowed d) {s : Session} (hs : P s) :
    P (run rs s).2 :=
  run_keeps_of_effect (fun r hr _ _ h => hstep (hrs r hr) h.transition) hs

theorem run_keeps_always {P : Session → Prop}
    (hstep : ∀ {datasets : List Dataset} {s t : Session}, Transition datasets s t → P s → P t)
    (rs : List Request) {s : Session} (hs : P s) : P (run rs s).2 :=
  run_keeps_of_effect (fun _ _ _ _ h => hstep h.transition) hs

theorem settings_run (rs : List Request) (s : Session) : (run rs s).2.settings = s.settings :=
  run_keeps_always (P := fun t => t.settings = s.settings)
    (fun htransition ht => htransition.settings_eq.trans ht) rs rfl

end Session
end TablePhrase
