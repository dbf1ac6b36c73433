import TablePhrase.Proofs.Session.Request

/-!
Refused requests. An edit is atomic if its refusal leaves the session as it was. Edits that check
before they change are atomic, and so is every request. A finalized session refuses all of them.
-/

namespace TablePhrase

namespace Edit
variable {α β : Type}

theorem run_bind_eq_ok_iff {x : Edit α} {f : α → Edit β} {s t : Session} {b : β} :
    (x >>= f).run s = .ok b t ↔ ∃ a u, x.run s = .ok a u ∧ (f a).run u = .ok b t := by
  rw [EStateM.run_bind]
  cases x.run s <;> simp [and_assoc]

theorem run_bind_eq_error_iff {x : Edit α} {f : α → Edit β} {s t : Session} {e : RefineError} :
    (x >>= f).run s = .error e t ↔
      x.run s = .error e t ∨ ∃ a u, x.run s = .ok a u ∧ (f a).run u = .error e t := by
  rw [EStateM.run_bind]
  cases x.run s <;> simp [and_assoc]

def ReadsOnly (x : Edit α) : Prop :=
  ∀ ⦃s t : Session⦄ ⦃a : α⦄, x.run s = .ok a t → t = s

def IsGranted (x : Edit α) : Prop :=
  ∀ s : Session, ∃ a t, x.run s = .ok a t

/-- A refusal of the edit leaves the session as it was. -/
def IsAtomic (x : Edit α) : Prop :=
  ∀ ⦃s t : Session⦄ ⦃e : RefineError⦄, x.run s = .error e t → t = s

def IsRefusedIn (s : Session) (x : Edit α) : Prop :=
  ∃ e, x.run s = .error e s

theorem IsRefusedIn.bind {s : Session} {x : Edit α} (hx : IsRefusedIn s x) (f : α → Edit β) :
    IsRefusedIn s (x >>= f) := by
  obtain ⟨e, he⟩ := hx
  exact ⟨e, run_bind_eq_error_iff.mpr (.inl he)⟩

theorem isRefusedIn_throw (s : Session) (e : RefineError) : IsRefusedIn s (throw e : Edit α) :=
  ⟨e, rfl⟩

theorem IsGranted.isAtomic {x : Edit α} (hx : IsGranted x) : IsAtomic x := by
  intro s t e h
  obtain ⟨a, u, hu⟩ := hx s
  rw [hu] at h
  cases h

theorem IsGranted.bind {x : Edit α} {f : α → Edit β} (hx : IsGranted x)
    (hf : ∀ a, IsGranted (f a)) : IsGranted (x >>= f) := by
  intro s
  obtain ⟨a, u, hu⟩ := hx s
  obtain ⟨b, t, ht⟩ := hf a u
  exact ⟨b, t, run_bind_eq_ok_iff.mpr ⟨a, u, hu, ht⟩⟩

/-- Checks may come one after another before the session is changed. -/
theorem IsAtomic.bind_of_readsOnly {x : Edit α} {f : α → Edit β} (hx : IsAtomic x)
    (hr : ReadsOnly x) (hf : ∀ a, IsAtomic (f a)) : IsAtomic (x >>= f) := by
  intro s t e h
  rcases run_bind_eq_error_iff.mp h with h | ⟨a, u, hu, h⟩
  · exact hx h
  · rw [hf a h]
    exact hr hu

/-- After a change nothing may be refused any more. -/
theorem IsAtomic.bind_of_isGranted {x : Edit α} {f : α → Edit β} (hx : IsAtomic x)
    (hf : ∀ a, IsGranted (f a)) : IsAtomic (x >>= f) := by
  intro s t e h
  rcases run_bind_eq_error_iff.mp h with h | ⟨a, u, _, h⟩
  · exact hx h
  · obtain ⟨b, v, hv⟩ := hf a u
    rw [hv] at h
    cases h

theorem isGranted_pure (a : α) : IsGranted (pure a) := fun s => ⟨a, s, rfl⟩

theorem isGranted_get : IsGranted (get : Edit Session) := fun s => ⟨s, s, rfl⟩

theorem isGranted_modify (f : Session → Session) : IsGranted (modify f) := fun s => ⟨(), f s, rfl⟩

theorem readsOnly_get : ReadsOnly (get : Edit Session) := by
  intro s t a h
  cases h
  rfl

theorem run_get_bind (f : Session → Edit β) (s : Session) :
    (get >>= f).run s = (f s).run s := rfl

theorem isAtomic_throw (e : RefineError) : IsAtomic (throw e : Edit α) := by
  intro s t e h
  cases h
  rfl

theorem isAtomic_ofExcept (x : Except RefineError α) : IsAtomic (ofExcept x : Edit α) := by
  cases x with
  | ok a => exact (isGranted_pure a).isAtomic
  | error e => exact isAtomic_throw e

theorem readsOnly_ofExcept (x : Except RefineError α) : ReadsOnly (ofExcept x : Edit α) := by
  intro s t a h
  cases x with
  | ok b =>
    cases h
    rfl
  | error e => cases h

theorem isAtomic_get_bind {f : Session → Edit β} (hf : ∀ s, IsAtomic (f s)) :
    IsAtomic (get >>= f) :=
  isGranted_get.isAtomic.bind_of_readsOnly readsOnly_get hf

end Edit

namespace Session
open Edit

/-- An operation is selected and the session is not finalized. -/
def IsEditable (s : Session) : Prop :=
  s.phase = .configured ∨ s.phase = .refining

theorem isAtomic_ensureEditable : IsAtomic ensureEditable := by
  apply isAtomic_get_bind
  intro s
  cases s.phase with
  | uninitialized => exact isAtomic_throw _
  | finalized => exact isAtomic_throw _
  | configured => exact (isGranted_pure ()).isAtomic
  | refining => exact (isGranted_pure ()).isAtomic

theorem run_ensureEditable_eq_ok_iff {s t : Session} {u : Unit} :
    ensureEditable.run s = .ok u t ↔ s.IsEditable ∧ t = s := by
  rw [IsEditable]
  cases hphase : s.phase <;> simp [ensureEditable, hphase, eq_comm]

theorem readsOnly_ensureEditable : ReadsOnly ensureEditable := by
  intro s t u h
  exact (run_ensureEditable_eq_ok_iff.mp h).2

theorem isAtomic_ensureEditable_bind {β : Type} {f : Unit → Edit β} (hf : IsAtomic (f ())) :
    IsAtomic (ensureEditable >>= f) :=
  isAtomic_ensureEditable.bind_of_readsOnly readsOnly_ensureEditable fun _ => hf

theorem run_select (op : Operation) (dataset : Dataset) (s : Session) :
    (select op dataset).run s =
      if s.phase = .finalized then .error .finalized s
      else if op.isImplemented = false then .error (.notImplemented op.template) s
      else
        match op.parameters with
        | .ok ps => .ok .configured (configure op dataset ps s)
        | .error e => .error e s := by
  by_cases hphase : s.phase = .finalized
  · simp [select, hphase]
  · cases himp : op.isImplemented with
    | false => simp [select, hphase, himp]
    | true =>
      cases hps : op.parameters with
      | ok ps =>
        simp [select, hphase, himp, hps]
        rfl
      | error e =>
        simp [select, hphase, himp, hps]
        rfl

theorem run_select_eq_ok_iff {op : Operation} {dataset : Dataset} {s t : Session} {phase : Phase} :
    (select op dataset).run s = .ok phase t ↔
      s.phase ≠ .finalized ∧ op.isImplemented = true ∧
        ∃ ps, op.parameters = .ok ps ∧ phase = .configured ∧ t = configure op dataset ps s := by
  rw [run_select]
  by_cases hphase : s.phase = .finalized
  · simp [hphase]
  · cases op.isImplemented with
    | false => simp [hphase]
    | true => cases op.parameters <;> simp [hphase, eq_comm]

theorem isAtomic_select (op : Operation) (dataset : Dataset) : IsAtomic (select op dataset) := by
  intro s t e h
  rw [run_select] at h
  split at h
  · cases h
    rfl
  · split at h
    · cases h
      rfl
    · split at h
      · cases h
      · cases h
        rfl

theorem isAtomic_selectIn (op : Operation) (workspace : Workspace) :
    IsAtomic (selectIn op workspace) := by
  unfold selectIn
  split
  · exact isAtomic_select _ _
  · exact isAtomic_throw _

theorem isAtomic_setDataset (dataset : Dataset) : IsAtomic (setDataset dataset) :=
  isAtomic_ensureEditable_bind (isGranted_modify _).isAtomic

theorem isAtomic_switchDataset (workspace : Workspace) (name : String) :
    IsAtomic (switchDataset workspace name) := by
  unfold switchDataset
  split
  · exact isAtomic_setDataset _
  · exact isAtomic_throw _

theorem isAtomic_reset : IsAtomic reset := by
  apply isAtomic_ensureEditable_bind
  apply isAtomic_get_bind
  intro s
  split
  · exact isAtomic_throw _
  · refine (isAtomic_select _ _).bind_of_isGranted fun _ => ?_
    refine (isGranted_modify _).bind fun _ => ?_
    exact isGranted_get.bind fun _ => isGranted_pure _

theorem isAtomic_setAxis (axis : Axis) : IsAtomic (setAxis axis) :=
  isAtomic_ensureEditable_bind (isGranted_modify _).isAtomic

theorem isAtomic_findParameter (name : String) : IsAtomic (findParameter name) := by
  apply isAtomic_get_bind
  intro s
  split
  · exact (isGranted_pure _).isAtomic
  · exact isAtomic_throw _

theorem run_findParameter_eq_ok_iff {name : String} {s t : Session} {p : ParameterState} :
    (findParameter name).run s = .ok p t ↔ s.parameter? name = some p ∧ t = s := by
  rw [findParameter, run_get_bind]
  cases hparameter : s.parameter? name with
  | none => exact ⟨nofun, nofun⟩
  | some q => simp [eq_comm]

theorem readsOnly_findParameter (name : String) : ReadsOnly (findParameter name) := by
  intro s t p h
  exact (run_findParameter_eq_ok_iff.mp h).2

theorem isAtomic_checked_bind {β : Type} (name : String) (value : Except ValueFault Literal)
    {f : Literal → Edit β} (hf : ∀ v, IsAtomic (f v)) : IsAtomic (checked name value >>= f) :=
  (isAtomic_ofExcept _).bind_of_readsOnly (readsOnly_ofExcept _) hf

theorem isAtomic_findParameter_bind {β : Type} (name : String) {f : ParameterState → Edit β}
    (hf : ∀ p, IsAtomic (f p)) : IsAtomic (findParameter name >>= f) :=
  (isAtomic_findParameter name).bind_of_readsOnly (readsOnly_findParameter name) hf

theorem isAtomic_setParameter (name : String) (value : Literal) :
    IsAtomic (setParameter name value) := by
  apply isAtomic_ensureEditable_bind
  apply isAtomic_findParameter_bind
  intro p
  split
  · split
    · exact isAtomic_setAxis _
    · exact isAtomic_throw _
  · exact isAtomic_checked_bind name _ fun _ => (isGranted_modify _).isAtomic

theorem isAtomic_setParameterText (name text : String) : IsAtomic (setParameterText name text) := by
  apply isAtomic_ensureEditable_bind
  apply isAtomic_findParameter_bind
  intro p
  exact isAtomic_checked_bind p.name _ fun v => isAtomic_setParameter name v

theorem isAtomic_setScope (value : Literal) : IsAtomic (setScope value) := by
  apply isAtomic_ensureEditable_bind
  apply isAtomic_get_bind
  intro s
  split
  · exact isAtomic_throw _
  · exact (isGranted_modify _).isAtomic

theorem isAtomic_setBinding (binding : ReturnBinding) : IsAtomic (setBinding binding) :=
  isAtomic_ensureEditable_bind (isGranted_modify _).isAtomic

theorem isAtomic_finalize : IsAtomic finalize := by
  apply isAtomic_ensureEditable_bind
  apply IsGranted.isAtomic
  refine (isGranted_modify _).bind fun _ => ?_
  exact isGranted_get.bind fun _ => isGranted_pure _

theorem run_finalize_eq_ok_iff {s t : Session} {code : String} :
    finalize.run s = .ok code t ↔
      s.IsEditable ∧ code = s.code ∧ t = { s with phase := .finalized } := by
  unfold finalize
  rw [run_bind_eq_ok_iff]
  constructor
  · rintro ⟨_, u, hu, h⟩
    obtain ⟨heditable, rfl⟩ := run_ensureEditable_eq_ok_iff.mp hu
    cases h
    exact ⟨heditable, rfl, rfl⟩
  · rintro ⟨heditable, rfl, rfl⟩
    exact ⟨(), s, run_ensureEditable_eq_ok_iff.mpr ⟨heditable, rfl⟩, rfl⟩

theorem isRefusedIn_ensureEditable {s : Session} (h : s.phase = .finalized) :
    IsRefusedIn s ensureEditable := by
  refine ⟨.finalized, ?_⟩
  simp [ensureEditable, h]

theorem isRefusedIn_select {s : Session} (h : s.phase = .finalized) (op : Operation)
    (dataset : Dataset) : IsRefusedIn s (select op dataset) := by
  refine ⟨.finalized, ?_⟩
  rw [run_select, if_pos h]

end Session

namespace Request
open Edit Session

theorem isAtomic_edit (r : Request) : IsAtomic r.edit := by
  cases r with
  | select op dataset =>
    exact (isAtomic_select op dataset).bind_of_isGranted fun _ => isGranted_pure _
  | selectIn op workspace =>
    exact (isAtomic_selectIn op workspace).bind_of_isGranted fun _ => isGranted_pure _
  | switchDataset workspace name =>
    exact (isAtomic_switchDataset workspace name).bind_of_isGranted fun _ => isGranted_pure _
  | reset => exact isAtomic_reset.bind_of_isGranted fun _ => isGranted_pure _
  | setAxis axis => exact (isAtomic_setAxis axis).bind_of_isGranted fun _ => isGranted_pure _
  | setDataset dataset =>
    exact (isAtomic_setDataset dataset).bind_of_isGranted fun _ => isGranted_pure _
  | setParameter name value =>
    exact (isAtomic_setParameter name value).bind_of_isGranted fun _ => isGranted_pure _
  | setParameterText name text =>
    exact (isAtomic_setParameterText name text).bind_of_isGranted fun _ => isGranted_pure _
  | setScope value => exact (isAtomic_setScope value).bind_of_isGranted fun _ => isGranted_pure _
  | setBinding binding =>
    exact (isAtomic_setBinding binding).bind_of_isGranted fun _ => isGranted_pure _
  | finalize => exact isAtomic_finalize.bind_of_isGranted fun _ => isGranted_pure _

theorem perform_of_refused {r : Request} {s : Session} {e : RefineError}
    (h : (r.perform s).1 = .error e) : (r.perform s).2 = s := by
  unfold perform at h ⊢
  cases hrun : r.edit.run s with
  | ok answer t =>
    rw [hrun] at h
    cases h
  | error e' t => exact isAtomic_edit r hrun

theorem isRefusedIn_edit {s : Session} (h : s.phase = .finalized) (r : Request) :
    IsRefusedIn s r.edit := by
  have hcheck := isRefusedIn_ensureEditable h
  cases r with
  | select op dataset => exact (isRefusedIn_select h op dataset).bind _
  | selectIn op workspace =>
    refine IsRefusedIn.bind ?_ _
    unfold Session.selectIn
    split
    · exact isRefusedIn_select h op _
    · exact isRefusedIn_throw s _
  | switchDataset workspace name =>
    refine IsRefusedIn.bind ?_ _
    unfold Session.switchDataset
    split
    · exact hcheck.bind _
    · exact isRefusedIn_throw s _
  | reset => exact (hcheck.bind _).bind _
  | setAxis axis => exact (hcheck.bind _).bind _
  | setDataset dataset => exact (hcheck.bind _).bind _
  | setParameter name value => exact (hcheck.bind _).bind _
  | setParameterText name text => exact (hcheck.bind _).bind _
  | setScope value => exact (hcheck.bind _).bind _
  | setBinding binding => exact (hcheck.bind _).bind _
  | finalize => exact (hcheck.bind _).bind _

theorem perform_of_finalized {s : Session} (h : s.phase = .finalized) (r : Request) :
    ∃ e, r.perform s = (.error e, s) := by
  obtain ⟨e, he⟩ := isRefusedIn_edit h r
  exact ⟨e, by rw [perform, he]⟩

end Request

namespace Session

theorem run_of_finalized {s : Session} (h : s.phase = .finalized) (rs : List Request) :
    (∀ answer ∈ (run rs s).1, ∃ e, answer = .error e) ∧ (run rs s).2 = s := by
  induction rs with
  | nil => exact ⟨nofun, rfl⟩
  | cons r rs ih =>
    obtain ⟨e, he⟩ := r.perform_of_finalized h
    rw [run_cons, he]
    refine ⟨fun answer hanswer => ?_, ih.2⟩
    rcases List.mem_cons.mp hanswer with rfl | hanswer
    · exact ⟨e, rfl⟩
    · exact ih.1 answer hanswer

/-- A refused request changes nothing of a session, whatever session it is. A session that was
finalized answers nothing but refusals from then on, and keeps the code that it handed out. -/
theorem perform_atomic_and_finalize_permanent :
    (∀ (s : Session) (r : Request) (e : RefineError),
      (r.perform s).1 = .error e → (r.perform s).2 = s) ∧
    (∀ (s t : Session) (code : String), finalize.run s = .ok code t →
      ∀ rs : List Request,
        (∀ answer ∈ (run rs t).1, ∃ e, answer = .error e) ∧
          (run rs t).2 = t ∧ t.code = code) := by
  refine ⟨fun s r e h => Request.perform_of_refused h, fun s t code h rs => ?_⟩
  obtain ⟨-, rfl, rfl⟩ := run_finalize_eq_ok_iff.mp h
  have hfrozen : ({ s with phase := .finalized } : Session).phase = .finalized := rfl
  obtain ⟨hanswers, hsession⟩ := run_of_finalized hfrozen rs
  exact ⟨hanswers, hsession, rfl⟩

end Session
end TablePhrase
