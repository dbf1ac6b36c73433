import TablePhrase.Command.Run

/-!
What the parts of a run leave as it was. Up to a change of a store no part touches the files,
whether it succeeds or fails, and only saying something adds to the output.
-/

namespace TablePhrase.Command

section Script
variable {α β γ : Type} {view : Console → γ} {x : Script α} {c c' : Console}

theorem run_bind_eq_ok_iff {f : α → Script β} {b : β} :
    (x >>= f).run c = .ok b c' ↔ ∃ a d, x.run c = .ok a d ∧ (f a).run d = .ok b c' := by
  rw [EStateM.run_bind]
  cases x.run c <;> simp [and_assoc]

theorem run_bind_eq_error_iff {f : α → Script β} {report : Report} :
    (x >>= f).run c = .error report c' ↔
      x.run c = .error report c' ∨ ∃ a d, x.run c = .ok a d ∧ (f a).run d = .error report c' := by
  rw [EStateM.run_bind]
  cases x.run c <;> simp [and_assoc]

def left (x : Script α) (c : Console) : Console :=
  match x.run c with
  | .ok _ c' => c'
  | .error _ c' => c'

theorem left_of_ok {a : α} (h : x.run c = .ok a c') : left x c = c' := by
  rw [left, h]

theorem left_of_error {report : Report} (h : x.run c = .error report c') : left x c = c' := by
  rw [left, h]

/-- A part leaves what is looked at in the console as it was, whether it succeeds or fails. -/
def Keeps (view : Console → γ) (x : Script α) : Prop :=
  ∀ c, view (left x c) = view c

theorem Keeps.of_ok {a : α} (hx : Keeps view x) (h : x.run c = .ok a c') : view c' = view c :=
  left_of_ok h ▸ hx c

theorem Keeps.of_error {report : Report} (hx : Keeps view x) (h : x.run c = .error report c') :
    view c' = view c :=
  left_of_error h ▸ hx c

theorem Keeps.eq {a : α} (hx : Keeps id x) (h : x.run c = .ok a c') : c' = c :=
  hx.of_ok h

theorem keeps_pure (a : α) : Keeps view (pure a : Script α) :=
  fun _ => rfl

theorem keeps_get : Keeps view (get : Script Console) :=
  fun _ => rfl

theorem keeps_throw (report : Report) : Keeps view (throw report : Script α) :=
  fun _ => rfl

theorem Keeps.bind {f : α → Script β} (hx : Keeps view x) (hf : ∀ a, Keeps view (f a)) :
    Keeps view (x >>= f) := by
  intro c
  cases hrun : x.run c with
  | ok a d =>
    have hleft : left (x >>= f) c = left (f a) d := by
      rw [left, EStateM.run_bind, hrun]
      rfl
    rw [hleft, hf a d]
    exact hx.of_ok hrun
  | error report d =>
    have hleft : left (x >>= f) c = d := by
      rw [left, EStateM.run_bind, hrun]
    rw [hleft]
    exact hx.of_error hrun

theorem Keeps.exists_error_bind {f : α → Script β} (hx : Keeps view x)
    (hf : ∀ a d, x.run c = .ok a d →
      ∃ report c', (f a).run d = .error report c' ∧ view c' = view d) :
    ∃ report c', (x >>= f).run c = .error report c' ∧ view c' = view c := by
  cases hrun : x.run c with
  | error report d => exact ⟨report, d, run_bind_eq_error_iff.mpr (.inl hrun), hx.of_error hrun⟩
  | ok a d =>
    obtain ⟨report, c', hfailed, hview⟩ := hf a d hrun
    exact ⟨report, c', run_bind_eq_error_iff.mpr (.inr ⟨a, d, hrun, hfailed⟩),
      hview.trans (hx.of_ok hrun)⟩

theorem keeps_orFail (message : String) (value : Option α) : Keeps view (orFail message value) := by
  cases value with
  | none => exact keeps_throw _
  | some a => exact keeps_pure a

theorem keeps_readJson (decode : Json → Option α) (path : String) :
    Keeps view (readJson decode path) := by
  refine keeps_get.bind fun d => ?_
  split
  · exact keeps_throw _
  · split
    · exact keeps_pure _
    · exact keeps_throw _

theorem keeps_readSettings (path : String) : Keeps view (readSettings path) := by
  refine keeps_get.bind fun d => ?_
  split
  · exact keeps_throw _
  · split
    · exact keeps_pure _
    · exact keeps_throw _

theorem keeps_forM {f : α → Script Unit} (hf : ∀ a, Keeps view (f a)) (items : List α) :
    Keeps view (items.forM f) := by
  induction items with
  | nil => exact keeps_pure ()
  | cons a items ih => exact (hf a).bind fun _ => ih

end Script

section Parts
variable {γ : Type} {view : Console → γ}

theorem keeps_splitAssignment (item : String) : Keeps view (splitAssignment item) :=
  keeps_orFail _ _

theorem keeps_edit {α : Type} (s : Session) (e : Edit α) : Keeps view (edit s e) := by
  unfold edit
  split
  · exact keeps_pure _
  · exact keeps_throw _

theorem keeps_editSome {α β : Type} (s : Session) (value : Option β) {e : β → Script (Edit α)}
    (he : ∀ b, Keeps view (e b)) : Keeps view (editSome s value e) := by
  cases value with
  | none => exact keeps_pure s
  | some b => exact (he b).bind fun x => keeps_edit s x

theorem keeps_editParameters (s : Session) (items : List String) :
    Keeps view (editParameters s items) := by
  induction items generalizing s with
  | nil => exact keeps_pure s
  | cons item items ih =>
    refine (keeps_splitAssignment item).bind fun (name, value) => ?_
    dsimp only
    split
    · exact ih _
    · exact keeps_throw _

theorem keeps_requestedOperation (template utterance : String) :
    Keeps view (requestedOperation template utterance) := by
  refine Keeps.bind ?_ fun combination => ?_
  · unfold ground
    split
    · exact keeps_pure _
    · exact keeps_throw _
  · dsimp only
    split
    · exact keeps_pure _
    · exact keeps_throw _

theorem keeps_requestedSession (settings : Settings) (workspace : Workspace) (r : RenderRequest) :
    Keeps view (requestedSession settings workspace r) := by
  refine (keeps_requestedOperation _ _).bind fun op => ?_
  refine (keeps_edit _ _).bind fun s => ?_
  refine (keeps_editSome s _ fun name => keeps_pure _).bind fun s => ?_
  refine (keeps_editSome s _ fun name =>
    (keeps_orFail _ _).bind fun axis => keeps_pure _).bind fun s => ?_
  exact (keeps_editSome s _ fun text => keeps_pure _).bind fun s => keeps_editParameters s _

theorem keeps_openStore (path : String) : Keeps view (openStore path) := by
  refine keeps_get.bind fun c => ?_
  split
  · exact keeps_pure _
  · exact keeps_throw _

theorem keeps_mapM_openStore (path : Option String) : Keeps view (path.mapM openStore) := by
  cases path with
  | none => exact keeps_pure _
  | some path => exact (keeps_openStore path).bind fun store => keeps_pure _

theorem keeps_output_note (line : String) : Keeps (·.output) (note line) :=
  fun _ => rfl

theorem keeps_directory_note (line : String) : Keeps (·.directory) (note line) :=
  fun _ => rfl

theorem keeps_directory_say (line : String) : Keeps (·.directory) (say line) :=
  fun _ => rfl

theorem keeps_noteAdvice (hnote : ∀ line, Keeps view (note line)) (s : Session)
    (store : Option Store) (workspace : Workspace) : Keeps view (noteAdvice s store workspace) := by
  refine (keeps_forM (fun w => hnote _) _).bind fun _ => ?_
  cases store with
  | none => exact keeps_pure ()
  | some store => exact keeps_forM (fun suggestion => hnote _) _

theorem keeps_output_change {α : Type} (store : Store) (x : Store.Change α) :
    Keeps (·.output) (change store x) := by
  refine keeps_get.bind fun c => ?_
  split
  · exact Keeps.bind (fun _ => rfl) fun _ => keeps_pure _
  · exact Keeps.bind (fun _ => rfl) fun _ => keeps_throw _

end Parts

end TablePhrase.Command
