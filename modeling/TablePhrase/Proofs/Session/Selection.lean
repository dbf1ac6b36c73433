import TablePhrase.Proofs.Session.Refresh

/-!
Selecting an operation anew. What a session was before is forgotten, its settings apart, so that two
sessions of the same settings become the same one, and resetting a session is selecting its
operation in a fresh one.
-/

namespace TablePhrase

namespace Session
open Edit

variable {s t : Session}

theorem configure_eq_of_settings_eq (h : s.settings = t.settings) (op : Operation)
    (dataset : Dataset) (ps : List ParameterState) :
    configure op dataset ps s = configure op dataset ps t := by
  apply SameBasis.refresh_eq
  exact ⟨h, rfl, rfl, rfl, rfl, congrArg op.startingBinding h, rfl, rfl⟩

theorem run_select_of_settings_eq (h : s.settings = t.settings) (hs : s.phase ≠ .finalized)
    (ht : t.phase ≠ .finalized) (op : Operation) (dataset : Dataset) :
    (∃ u, (select op dataset).run s = .ok .configured u ∧
      (select op dataset).run t = .ok .configured u) ∨
    ∃ e, (select op dataset).run s = .error e s ∧ (select op dataset).run t = .error e t := by
  rw [run_select, run_select, if_neg hs, if_neg ht]
  split
  · exact .inr ⟨_, rfl, rfl⟩
  · cases op.parameters with
    | ok ps => exact .inl ⟨_, rfl, by rw [configure_eq_of_settings_eq h]⟩
    | error e => exact .inr ⟨e, rfl, rfl⟩

def HasOperation (s : Session) : Prop :=
  s.IsEditable → ∃ op ps, s.operation = some op ∧ op.isImplemented = true ∧ op.parameters = .ok ps

theorem hasOperation_new (settings : Settings) : (new settings).HasOperation := by
  rintro (h | h) <;> cases h

theorem Transition.keeps_operation {datasets : List Dataset} (h : Transition datasets s t)
    (hs : s.HasOperation) : t.HasOperation := by
  cases h with
  | configure _ implemented parameters _ => exact fun _ => ⟨_, _, rfl, implemented, parameters⟩
  | restart _ _ implemented parameters => exact fun _ => ⟨_, _, rfl, implemented, parameters⟩
  | turn editable => exact fun _ => hs editable
  | move editable _ => exact fun _ => hs editable
  | assign editable _ _ _ => exact fun _ => hs editable
  | restrict editable _ => exact fun _ => hs editable
  | rebind editable => exact fun _ => hs editable
  | freeze _ => rintro (h | h) <;> cases h

theorem hasOperation_run (settings : Settings) (requests : List Request) :
    (run requests (new settings)).2.HasOperation :=
  run_keeps_always (fun h hs => h.keeps_operation hs) requests (hasOperation_new settings)

theorem run_reset_of_operation {op : Operation} {ps : List ParameterState}
    (heditable : s.IsEditable) (hop : s.operation = some op) (himplemented : op.isImplemented = true)
    (hps : op.parameters = .ok ps) :
    reset.run s =
      .ok .configured (render { configure op s.dataset ps s with binding := s.binding }) := by
  have hphase : s.phase ≠ .finalized := by
    rcases heditable with h | h <;> simp [h]
  have hselect : (select op s.dataset).run s = .ok .configured (configure op s.dataset ps s) :=
    run_select_eq_ok_iff.mpr ⟨hphase, himplemented, ps, hps, rfl, rfl⟩
  apply run_ensureEditable_bind_eq_ok_iff.mpr
  refine ⟨heditable, ?_⟩
  rw [run_get_bind, hop]
  exact run_bind_eq_ok_iff.mpr ⟨_, _, hselect, rfl⟩

theorem run_select_setBinding_new {op : Operation} {ps : List ParameterState}
    (himplemented : op.isImplemented = true) (hps : op.parameters = .ok ps) :
    run [.select op s.dataset, .setBinding s.binding] (new s.settings) =
      ([.ok (.phase .configured), .ok .done],
        render { configure op s.dataset ps s with binding := s.binding }) := by
  have hphase : (new s.settings).phase ≠ .finalized := nofun
  have hselect : (select op s.dataset).run (new s.settings) =
      .ok .configured (configure op s.dataset ps s) :=
    run_select_eq_ok_iff.mpr
      ⟨hphase, himplemented, ps, hps, rfl, configure_eq_of_settings_eq rfl ..⟩
  have hfirst : (Request.select op s.dataset).perform (new s.settings) =
      (.ok (.phase .configured), configure op s.dataset ps s) :=
    Request.perform_of_granted (run_bind_eq_ok_iff.mpr ⟨_, _, hselect, rfl⟩)
  have hsecond : (Request.setBinding s.binding).perform (configure op s.dataset ps s) =
      (.ok .done, render { configure op s.dataset ps s with binding := s.binding }) := rfl
  rw [run_cons, hfirst, run_cons, hsecond]
  rfl

/-- After any two runs under the same settings, selecting an operation gives the same answer and, if
it is granted, the same session. Resetting an editable session is never refused and gives the
session that a fresh one becomes when the operation is selected against the dataset and the result
is bound as it was. -/
theorem select_forgets_and_reset_restarts (settings : Settings) (rs qs : List Request) :
    let s := (run rs (new settings)).2
    let t := (run qs (new settings)).2
    (s.phase ≠ .finalized → t.phase ≠ .finalized → ∀ (op : Operation) (dataset : Dataset),
      (∃ u, (Request.select op dataset).perform s = (.ok (.phase .configured), u) ∧
        (Request.select op dataset).perform t = (.ok (.phase .configured), u)) ∨
      ∃ e, (Request.select op dataset).perform s = (.error e, s) ∧
        (Request.select op dataset).perform t = (.error e, t)) ∧
    (s.IsEditable → ∃ op u, s.operation = some op ∧
      Request.reset.perform s = (.ok (.phase .configured), u) ∧
      run [.select op s.dataset, .setBinding s.binding] (new settings) =
        ([.ok (.phase .configured), .ok .done], u)) := by
  intro s t
  have hsettings : s.settings = settings := settings_run rs (new settings)
  constructor
  · intro hs ht op dataset
    have heq : s.settings = t.settings := hsettings.trans (settings_run qs (new settings)).symm
    rcases run_select_of_settings_eq heq hs ht op dataset with ⟨u, hsu, htu⟩ | ⟨e, hse, hte⟩
    · left
      exact ⟨u, Request.perform_of_granted (run_bind_eq_ok_iff.mpr ⟨_, _, hsu, rfl⟩),
        Request.perform_of_granted (run_bind_eq_ok_iff.mpr ⟨_, _, htu, rfl⟩)⟩
    · right
      exact ⟨e, Request.perform_of_error (run_bind_eq_error_iff.mpr (.inl hse)),
        Request.perform_of_error (run_bind_eq_error_iff.mpr (.inl hte))⟩
  · intro heditable
    obtain ⟨op, ps, hop, himplemented, hps⟩ := hasOperation_run settings rs heditable
    have hreset := run_reset_of_operation heditable hop himplemented hps
    have hfresh := run_select_setBinding_new (s := s) himplemented hps
    rw [hsettings] at hfresh
    have hanswer := Request.perform_of_granted (r := .reset)
      (run_bind_eq_ok_iff.mpr ⟨_, _, hreset, rfl⟩)
    exact ⟨op, _, hop, hanswer, hfresh⟩

def lettersDataset : Dataset :=
  ⟨"df", ⟨["a", "b", .null], [.int 0, .int 1]⟩⟩

def sortByB : Operation :=
  Operation.plain "SORT VALUES BY <value>" .table "sort_values" "Sort by the values."
    |>.argument "by" "b"
    |>.adjust "by" (.several .schemaAxisOpposite)

def boundRequests : List Request :=
  [.select sortByB lettersDataset, .setAxis .index, .setParameter "by" (.int 1),
    .setBinding (.named "sorted")]

theorem select_forgets_boundRequests :
    let s := (run boundRequests (new .standard)).2
    let t := (run [] (new .standard)).2
    s.phase ≠ .finalized ∧ t.phase ≠ .finalized ∧ s.IsEditable ∧
    ((∃ u, (Request.select sortByB .empty).perform s = (.ok (.phase .configured), u) ∧
        (Request.select sortByB .empty).perform t = (.ok (.phase .configured), u)) ∨
      ∃ e, (Request.select sortByB .empty).perform s = (.error e, s) ∧
        (Request.select sortByB .empty).perform t = (.error e, t)) ∧
    ∃ op u, s.operation = some op ∧ Request.reset.perform s = (.ok (.phase .configured), u) ∧
      run [.select op s.dataset, .setBinding s.binding] (new .standard) =
        ([.ok (.phase .configured), .ok .done], u) := by
  intro s t
  have hphase : s.phase = .refining := by decide
  have hs : s.phase ≠ .finalized := by simp [hphase]
  have ht : t.phase ≠ .finalized := nofun
  have heditable : s.IsEditable := .inr hphase
  obtain ⟨hselect, hreset⟩ := select_forgets_and_reset_restarts .standard boundRequests []
  exact ⟨hs, ht, heditable, hselect hs ht sortByB .empty, hreset heditable⟩

end Session
end TablePhrase
