import TablePhrase.Proofs.Command.Render
import TablePhrase.Proofs.Memory.Merging
import TablePhrase.Proofs.Memory.Run

/-!
What a run leaves in the file of a store. A render touches the files with its last step only, and
what it writes there are the old entries with all that its session leaves to be remembered; a change
of entries by hand is made with all of its items or not at all. What is read back later is what the
written documents denote, which for a double need not be the double that was written.
-/

namespace TablePhrase

namespace Command

section Requested
variable {settings : Settings} {workspace : Workspace} {r : RenderRequest} {c c' : Console}
  {s t : Session} {P : Session → Prop}

theorem transition_of_run_edit {α : Type} {e : Edit α} {g : α → Answer} {r : TablePhrase.Request}
    (hr : r.edit = e >>= fun a => pure (g a)) (h : (edit s e).run c = .ok t c') :
    Session.Transition r.datasets s t := by
  obtain ⟨⟨a, ha⟩, -⟩ := run_edit_eq_ok_iff.mp h
  exact Request.transition_of_edit hr ha

theorem of_editParameters {items : List String}
    (hstep : ∀ {datasets : List Dataset} {s t : Session}, s.Transition datasets t → P s → P t)
    (h : (editParameters s items).run c = .ok t c') (hs : P s) : P t := by
  induction items generalizing s with
  | nil =>
    cases h
    exact hs
  | cons item items ih =>
    obtain ⟨name, text, a, u, -, hu, hrest⟩ := of_editParameters_cons h
    exact ih hrest (hstep (Request.transition_of_edit (r := .setParameterText name text) rfl hu) hs)

theorem of_editSome {α β : Type} {value : Option β} {e : β → Script (Edit α)}
    (hstep : ∀ b edits c d, (e b).run c = .ok edits d → ∀ {c'}, (edit s edits).run d = .ok t c' →
      P s → P t)
    (h : (editSome s value e).run c = .ok t c') (hs : P s) : P t := by
  cases value with
  | none =>
    cases h
    exact hs
  | some b =>
    obtain ⟨edits, d, hedits, hedit⟩ := run_bind_eq_ok_iff.mp h
    exact hstep b edits c d hedits hedit hs

theorem requestedSession_induction
    (hstep : ∀ {datasets : List Dataset} {s t : Session}, s.Transition datasets t → P s → P t)
    (h : (requestedSession settings workspace r).run c = .ok s c') (hnew : P (.new settings)) :
    P s := by
  obtain ⟨op, _, -, h⟩ := run_bind_eq_ok_iff.mp h
  obtain ⟨selected, _, hselect, h⟩ := run_bind_eq_ok_iff.mp h
  obtain ⟨moved, _, hmove, h⟩ := run_bind_eq_ok_iff.mp h
  obtain ⟨turned, _, hturn, h⟩ := run_bind_eq_ok_iff.mp h
  obtain ⟨narrowed, _, hscope, h⟩ := run_bind_eq_ok_iff.mp h
  have hselected : P selected :=
    hstep (transition_of_run_edit (r := .selectIn op workspace) rfl hselect) hnew
  have hmoved : P moved := by
    refine of_editSome (fun name edits c d hedits c' hedit => ?_) hmove hselected
    cases hedits
    exact hstep (transition_of_run_edit (r := .switchDataset workspace name) rfl hedit)
  have hturned : P turned := by
    refine of_editSome (fun name edits c d hedits c' hedit => ?_) hturn hmoved
    obtain ⟨axis, _, -, hpure⟩ := run_bind_eq_ok_iff.mp hedits
    cases hpure
    exact hstep (transition_of_run_edit (r := .setAxis axis) rfl hedit)
  have hnarrowed : P narrowed := by
    refine of_editSome (fun text edits c d hedits c' hedit => ?_) hscope hturned
    cases hedits
    exact hstep (transition_of_run_edit (r := .setScope (.ofUserText text)) rfl hedit)
  exact of_editParameters hstep h hnarrowed

theorem isCurrent_of_requestedSession
    (h : (requestedSession settings workspace r).run c = .ok s c') : s.IsCurrent :=
  requestedSession_induction (fun h hs => h.keeps_current hs) h (Session.isCurrent_new settings)

theorem hasSignature_of_requestedSession
    (h : (requestedSession settings workspace r).run c = .ok s c') : s.HasSignature :=
  requestedSession_induction (fun h hs => h.keeps_signature hs) h rfl

end Requested

section Outcome
variable {r : RenderRequest} {path : String} {c c' : Console} {store : Store}

theorem run_change {α : Type} (store : Store) (x : Store.Change α) (c : Console) :
    (change store x).run c =
      match x.run { store with directory := c.directory } with
      | .ok a after => .ok a { c with directory := after.directory }
      | .error e after => .error (.ofStore e) { c with directory := after.directory } := by
  rw [change, EStateM.run_bind, EStateM.run_get]
  dsimp only
  cases x.run { store with directory := c.directory } <;> rfl

theorem run_remember (now : Timestamp) (s : Session) (store : Store) (c : Console) :
    (remember now s (some store)).run c =
      let written := c.directory.save store.path (Store.text (s.mergedInto now store.entries))
      if written.2 then .ok () { c with directory := written.1 }
      else .error (.ofStore (.inaccessible store.path)) { c with directory := written.1 } := by
  have hsave : (Store.save now s.remembered.entries).run { store with directory := c.directory } =
      Store.persist.run ⟨c.directory, store.path, s.mergedInto now store.entries⟩ := rfl
  rw [remember, run_change, hsave, Store.run_persist]
  dsimp only
  cases (c.directory.save store.path (Store.text (s.mergedInto now store.entries))).2 <;> rfl

theorem of_openStore (h : (openStore path).run c = .ok store c') :
    Store.openAt c.directory path = .ok store ∧ c' = c := by
  obtain ⟨d, e, hget, hopen⟩ := run_bind_eq_ok_iff.mp h
  cases hget
  split at hopen
  · next heq =>
    cases hopen
    exact ⟨heq, rfl⟩
  · cases hopen

theorem of_mapM_openStore {opened : Option Store} (hmemory : r.memory = some path)
    (h : (r.memory.mapM openStore).run c = .ok opened c') :
    ∃ store, opened = some store ∧ Store.openAt c.directory path = .ok store := by
  rw [hmemory] at h
  obtain ⟨store, d, hopen, hpure⟩ := run_bind_eq_ok_iff.mp h
  cases hpure
  exact ⟨store, rfl, (of_openStore hopen).1⟩

theorem of_runRender_memory (now : Timestamp) (settings : Settings) (c : Console)
    (hmemory : r.memory = some path) :
    (∃ report c', (runRender now settings r).run c = .error report c' ∧
      c'.directory = c.directory) ∨
    ∃ workspace s store c', (readWorkspace r.workspace).run c = .ok workspace c ∧
      (requestedSession settings workspace r).run c = .ok s c ∧
      Store.openAt c.directory path = .ok store ∧
      c'.directory = (c.directory.save path (Store.text (s.mergedInto now store.entries))).1 ∧
      c'.output = c.output ++ (if r.asJson then s.snapshot.indented else s.code) ++ "\n" ∧
      (runRender now settings r).run c =
        if (c.directory.save path (Store.text (s.mergedInto now store.entries))).2 then .ok () c'
        else .error (.ofStore (.inaccessible path)) c' := by
  cases hprepare : (prepare settings r).run c with
  | error report d =>
    refine .inl ⟨report, d, ?_, (keeps_directory_prepare settings r).of_error hprepare⟩
    rw [runRender_eq]
    exact run_bind_eq_error_iff.mpr (.inl hprepare)
  | ok result d =>
    obtain ⟨t, opened⟩ := result
    obtain ⟨workspace, s, hread, hsession, hstore, rfl, houtput⟩ := of_prepare hprepare
    obtain ⟨store, rfl, hopen⟩ := of_mapM_openStore hmemory hstore
    obtain ⟨rfl, -⟩ := Store.isRecorded_of_openAt hopen
    have hdirectory : d.directory = c.directory :=
      (keeps_directory_prepare settings r).of_ok hprepare
    refine .inr ⟨workspace, s, store,
      { d with directory := (c.directory.save store.path
        (Store.text (s.mergedInto now store.entries))).1 },
      hread, hsession, hopen, rfl, houtput, ?_⟩
    rw [runRender_eq, EStateM.run_bind, hprepare]
    dsimp only
    rw [run_remember, hdirectory]
    rfl

end Outcome

section Items
variable {item : String} {items : List String} {c : Console}

/-- No equals sign, or nothing but spaces before the first. -/
def IsMalformed (item : String) : Prop :=
  ∀ name value, item.toList = name ++ '=' :: value → '=' ∉ name →
    ∀ c ∈ name, Unicode.isSpace c = true

theorem isEmpty_trimmed_iff {name : List Char} :
    (trimmed (String.ofList name)).isEmpty = true ↔ ∀ c ∈ name, Unicode.isSpace c = true := by
  rw [trimmed, String.toList_ofList, ← Unicode.trim_eq_nil_iff]
  simp

theorem splitAssignment?_eq_none_iff : splitAssignment? item = none ↔ IsMalformed item := by
  have hparts := List.takeWhile_append_dropWhile (p := (· != '=')) (l := item.toList)
  unfold splitAssignment?
  constructor
  · intro h name value hitem hname
    have hrun : ∀ c ∈ name, (c != '=') = true := fun c hc =>
      bne_iff_ne.mpr fun heq => hname (heq ▸ hc)
    have hstop : ∀ c ∈ ('=' :: value).head?, (c != '=') = false := by
      rintro c ⟨⟩
      rfl
    rw [hitem, Text.takeWhile_append_of_stops hrun hstop,
      Text.dropWhile_append_of_stops hrun hstop] at h
    refine isEmpty_trimmed_iff.mp ?_
    by_contra hne
    simp only [if_neg hne] at h
    cases h
  · intro h
    split
    · next c value hdrop =>
      have hc : c = '=' := by
        have hhead := List.head?_dropWhile_not (· != '=') item.toList
        rw [hdrop] at hhead
        simpa using hhead
      rw [hdrop, hc] at hparts
      have hname : '=' ∉ item.toList.takeWhile (· != '=') := fun hmem =>
        bne_iff_ne.mp (List.mem_takeWhile_imp (p := (· != '=')) hmem) rfl
      rw [if_pos (isEmpty_trimmed_iff.mpr (h _ _ hparts.symm hname))]
    · rfl

theorem exists_error_of_malformed (h : ∃ item ∈ items, IsMalformed item) :
    ∃ report, (items.mapM splitAssignment).run c = .error report c := by
  induction items with
  | nil =>
    obtain ⟨item, hitem, -⟩ := h
    cases hitem
  | cons first items ih =>
    rw [List.mapM_cons]
    cases hfirst : splitAssignment? first with
    | none => exact ⟨_, run_bind_eq_error_iff.mpr (.inl (by rw [splitAssignment, hfirst]; rfl))⟩
    | some assignment =>
      obtain ⟨item, hitem, hmalformed⟩ := h
      have hrest : item ∈ items := by
        rcases List.mem_cons.mp hitem with rfl | hitem
        · rw [splitAssignment?_eq_none_iff.mpr hmalformed] at hfirst
          cases hfirst
        · exact hitem
      obtain ⟨report, hreport⟩ := ih ⟨item, hrest, hmalformed⟩
      refine ⟨report, run_bind_eq_error_iff.mpr (.inr ⟨assignment, c, ?_, ?_⟩)⟩
      · rw [splitAssignment, hfirst]
        rfl
      · exact run_bind_eq_error_iff.mpr (.inl hreport)

end Items

section Run
variable {d : Directory} {now : Timestamp} {arguments : List String} {i : Invocation}
  {c c' : Console}

def chosenSettings (i : Invocation) : Script Settings :=
  match i.settingsPath with
  | some path => readSettings path
  | none => pure .standard

theorem keeps_chosenSettings {γ : Type} (view : Console → γ) (i : Invocation) :
    Keeps view (chosenSettings i) := by
  unfold chosenSettings
  split
  · exact keeps_readSettings _
  · exact keeps_pure _

theorem runInvocation_eq (now : Timestamp) {request : Request} (h : i.request? = some request) :
    runInvocation now i = chosenSettings i >>= fun settings => runRequest now settings request := by
  unfold runInvocation chosenSettings
  simp only [h]
  cases i.settingsPath <;> rfl

theorem run_of_ok (hi : Invocation.ofArguments arguments = .ok i)
    (h : (runInvocation now i).run ⟨d, "", []⟩ = .ok () c) :
    run d now arguments = ⟨0, c.output, c.notices, c.directory⟩ := by
  rw [run, hi]
  dsimp only
  rw [h]

theorem run_of_error {report : Report} (hi : Invocation.ofArguments arguments = .ok i)
    (h : (runInvocation now i).run ⟨d, "", []⟩ = .error report c) :
    run d now arguments = ⟨1, c.output, c.notices ++ report.notices, c.directory⟩ := by
  rw [run, hi]
  dsimp only
  rw [h]

/-- A render with a store fails and leaves the files alone, or its one write decides. -/
theorem run_render (d : Directory) (now : Timestamp)
    (hi : Invocation.ofArguments arguments = .ok i) {r : RenderRequest}
    {path : String} (hrequest : i.request? = some (.render r)) (hmemory : r.memory = some path) :
    ((run d now arguments).exit = 1 ∧ (run d now arguments).directory = d) ∨
    ∃ settings workspace s store,
      (chosenSettings i).run ⟨d, "", []⟩ = .ok settings ⟨d, "", []⟩ ∧
      (readWorkspace r.workspace).run ⟨d, "", []⟩ = .ok workspace ⟨d, "", []⟩ ∧
      (requestedSession settings workspace r).run ⟨d, "", []⟩ = .ok s ⟨d, "", []⟩ ∧
      Store.openAt d path = .ok store ∧
      let written := d.save path (Store.text (s.mergedInto now store.entries))
      (run d now arguments).exit = (if written.2 then 0 else 1) ∧
      (run d now arguments).directory = written.1 ∧
      (run d now arguments).output = (if r.asJson then s.snapshot.indented else s.code) ++ "\n" := by
  have hinvocation := runInvocation_eq now hrequest
  cases hsettings : (chosenSettings i).run ⟨d, "", []⟩ with
  | error report c =>
    have hfailed : (runInvocation now i).run ⟨d, "", []⟩ = .error report c := by
      rw [hinvocation]
      exact run_bind_eq_error_iff.mpr (.inl hsettings)
    rw [run_of_error hi hfailed]
    exact .inl ⟨rfl, (keeps_chosenSettings (·.directory) i).of_error hsettings⟩
  | ok settings c =>
    obtain rfl : c = ⟨d, "", []⟩ := (keeps_chosenSettings id i).eq hsettings
    have hrender : (runInvocation now i).run ⟨d, "", []⟩ =
        (runRender now settings r).run ⟨d, "", []⟩ := by
      rw [hinvocation, EStateM.run_bind, hsettings]
      rfl
    rcases of_runRender_memory now settings ⟨d, "", []⟩ hmemory with
      ⟨report, c, hfailed, hdirectory⟩ |
        ⟨workspace, s, store, c, hread, hsession, hopen, hdirectory, houtput, hwrite⟩
    · rw [run_of_error hi (hrender.trans hfailed)]
      exact .inl ⟨rfl, hdirectory⟩
    · refine .inr ⟨settings, workspace, s, store, rfl, hread, hsession, hopen, ?_⟩
      rw [String.empty_append] at houtput
      dsimp only
      cases hwritten : (d.save path (Store.text (s.mergedInto now store.entries))).2 with
      | true =>
        rw [hwritten, if_pos rfl] at hwrite
        rw [run_of_ok hi (hrender.trans hwrite)]
        exact ⟨rfl, hdirectory, houtput⟩
      | false =>
        rw [hwritten, if_neg Bool.false_ne_true] at hwrite
        rw [run_of_error hi (hrender.trans hwrite)]
        exact ⟨rfl, hdirectory, houtput⟩

theorem run_remember_malformed (hi : Invocation.ofArguments arguments = .ok i) {path : String}
    {items : List String} (hrequest : i.request? = some (.memory path (.remember items)))
    (h : ∃ item ∈ items, IsMalformed item) :
    (run d now arguments).exit = 1 ∧ (run d now arguments).directory = d := by
  have hinvocation := runInvocation_eq now hrequest
  have hfails : ∃ report c, (runInvocation now i).run ⟨d, "", []⟩ = .error report c ∧
      c.directory = d := by
    rw [hinvocation]
    refine (keeps_chosenSettings (·.directory) i).exists_error_bind fun settings c _ => ?_
    refine (keeps_openStore path).exists_error_bind fun store c _ => ?_
    obtain ⟨report, hreport⟩ := exists_error_of_malformed h
    exact ⟨report, c, run_bind_eq_error_iff.mpr (.inl hreport), rfl⟩
  obtain ⟨report, c, hfailed, hdirectory⟩ := hfails
  rw [run_of_error hi hfailed]
  exact ⟨rfl, hdirectory⟩

/-- A run changes the file of a store as a whole or not at all. A render with a store that fails
leaves what is read there as it was, and all files unless the write itself was refused. One that
succeeds leaves in the file the old entries with all that its session leaves to be remembered, and a
store opened afterwards has what the written values denote: the same entries just if every value is
told exactly. Entries given by hand are all left out if one of them is malformed. -/
theorem files_after_run (hi : Invocation.ofArguments arguments = .ok i) :
    let o := run d now arguments
    (∀ {r : RenderRequest} {path : String}, i.request? = some (.render r) → r.memory = some path →
      (o.exit ≠ 0 → o.directory.read? path = d.read? path ∧
        (o.directory = d ∨ ∃ text, d.save path text = (o.directory, false))) ∧
      (o.exit = 0 → ∃ settings workspace s store merged,
        (chosenSettings i).run ⟨d, "", []⟩ = .ok settings ⟨d, "", []⟩ ∧
        (readWorkspace r.workspace).run ⟨d, "", []⟩ = .ok workspace ⟨d, "", []⟩ ∧
        (requestedSession settings workspace r).run ⟨d, "", []⟩ = .ok s ⟨d, "", []⟩ ∧
        o.output = (if r.asJson then s.snapshot.indented else s.code) ++ "\n" ∧
        Store.openAt d path = .ok store ∧ s.Merges now store.entries merged ∧
        o.directory.read? path = some (Store.text merged) ∧
        Store.openAt o.directory path =
          (match merged.traverse Remembered.retold? with
          | some entries => .ok ⟨o.directory, path, entries⟩
          | none => .error (.corrupt path)) ∧
        (Store.openAt o.directory path = .ok ⟨o.directory, path, merged⟩ ↔
          ∀ e ∈ merged.entries, e.2.value.retold? = some e.2.value))) ∧
    ∀ {path : String} {items : List String}, i.request? = some (.memory path (.remember items)) →
      (∃ item ∈ items, IsMalformed item) → o.exit = 1 ∧ o.directory = d := by
  refine ⟨fun {r path} hrequest hmemory => ?_, fun hrequest h => run_remember_malformed hi hrequest h⟩
  rcases run_render d now hi hrequest hmemory with
    ⟨hexit, hdirectory⟩ |
      ⟨settings, workspace, s, store, hsettings, hread, hsession, hopen, hexit, hdirectory, houtput⟩
  · refine ⟨fun _ => ⟨by rw [hdirectory], .inl hdirectory⟩, fun h => ?_⟩
    rw [hexit] at h
    cases h
  · cases hwritten : (d.save path (Store.text (s.mergedInto now store.entries))).2 with
    | false =>
      rw [hwritten, if_neg Bool.false_ne_true] at hexit
      refine ⟨fun _ => ⟨?_, .inr ⟨_, Prod.ext hdirectory.symm hwritten⟩⟩, fun h => ?_⟩
      · rw [hdirectory]
        exact Directory.read?_of_save_refused hwritten
      · rw [hexit] at h
        cases h
    | true =>
      rw [hwritten, if_pos rfl] at hexit
      refine ⟨fun h => absurd hexit h, fun _ => ?_⟩
      have hmerges := Session.merges_mergedInto (isCurrent_of_requestedSession hsession)
        (hasSignature_of_requestedSession hsession) now store.entries
      have hfile := Directory.read?_of_save hwritten
      rw [← hdirectory] at hfile
      exact ⟨settings, workspace, s, store, _, hsettings, hread, hsession, houtput, hopen, hmerges,
        hfile, Store.openAt_of_read? hfile, Store.openAt_eq_ok_iff hfile⟩

end Run

section Sample

deriving instance DecidableEq for Reading, Invocation

def sampleFiles : Directory :=
  ⟨[(["ws.json"], .file
      "\x7b\"datasets\":[\x7b\"name\":\"df\",\"columns\":[\"a\"]\x7d]\x7d"),
    (["m.json"], .file
      "\x7b\"k\":\x7b\"value\":1,\"updated_at\":\"2024-01-01T00:00:00Z\"\x7d\x7d")]⟩

def showingRows (count : String) : List String :=
  ["render", "--template", "SHOW FIRST <number> ROWS", "--utterance", "show 5 rows",
    "--workspace", "ws.json", "--set", "n=" ++ count, "--memory", "m.json"]

def rowsInvocation (count : String) : Invocation where
  level := .render
  reading :=
    { values := [("template", "SHOW FIRST <number> ROWS"), ("utterance", "show 5 rows"),
        ("workspace", "ws.json"), ("set", "n=" ++ count), ("memory", "m.json")]
      given := ["memory", "set", "workspace", "utterance", "template"]
      texts := []
      onlyTexts := false }

def halfMalformed : List String :=
  ["memory", "--path", "m.json", "set", "a=1", " =2"]

def malformedInvocation : Invocation :=
  ⟨.memorySet, ⟨[("path", "m.json")], [], ["a=1", " =2"], false⟩⟩

theorem files_after_run_sample :
    ((run sampleFiles newYear (showingRows "3")).exit = 0 ∧
      ∃ (s : Session) (store : Store) (merged : KeyMap Remembered),
        s.Merges newYear store.entries merged ∧
        Store.openAt sampleFiles "m.json" = .ok store ∧
        (run sampleFiles newYear (showingRows "3")).directory.read? "m.json" =
          some (Store.text merged)) ∧
    ((run sampleFiles newYear (showingRows "'many'")).exit = 1 ∧
      (run sampleFiles newYear (showingRows "'many'")).directory.read? "m.json" =
        sampleFiles.read? "m.json") ∧
    (run sampleFiles newYear halfMalformed).directory = sampleFiles := by
  refine ⟨?_, ?_, ?_⟩
  · have hi : Invocation.ofArguments (showingRows "3") = .ok (rowsInvocation "3") := by
      decide +kernel
    have hexit : (run sampleFiles newYear (showingRows "3")).exit = 0 := by decide +kernel
    obtain ⟨_, _, s, store, merged, -, -, -, -, hopen, hmerges, hfile, -⟩ :=
      ((files_after_run hi).1 rfl rfl).2 hexit
    exact ⟨hexit, s, store, merged, hmerges, hopen, hfile⟩
  · have hi : Invocation.ofArguments (showingRows "'many'") = .ok (rowsInvocation "'many'") := by
      decide +kernel
    have hexit : (run sampleFiles newYear (showingRows "'many'")).exit = 1 := by decide +kernel
    have hfails : (run sampleFiles newYear (showingRows "'many'")).exit ≠ 0 := by
      rw [hexit]
      decide
    exact ⟨hexit, (((files_after_run hi).1 rfl rfl).1 hfails).1⟩
  · have hi : Invocation.ofArguments halfMalformed = .ok malformedInvocation := by decide +kernel
    have hmalformed : IsMalformed " =2" :=
      splitAssignment?_eq_none_iff.mp (by decide +kernel)
    exact ((files_after_run hi).2 rfl ⟨" =2", by decide, hmalformed⟩).2

def rowsRequest (count : String) : RenderRequest where
  template := "SHOW FIRST <number> ROWS"
  utterance := "show 5 rows"
  workspace := "ws.json"
  dataset := none
  axis := none
  edits := ["n=" ++ count]
  scope := none
  memory := some "m.json"
  asJson := false

/-- The render succeeds and its session has a value of this code for the number of rows, but a store
opened afterwards has one of another code. -/
def retellsAs (count written told : String) : Bool :=
  let c : Console := ⟨sampleFiles, "", []⟩
  let o := run sampleFiles newYear (showingRows count)
  match (readWorkspace "ws.json").run c, Store.openAt o.directory "m.json" with
  | .ok workspace _, .ok reopened =>
    match (requestedSession .standard workspace (rowsRequest count)).run c with
    | .ok s _ =>
      o.exit == 0 && (reopened.value? "n").any (·.code == told)
        && s.parameters.any fun p => p.name == "n" && !p.isDefault && p.value.code == written
    | .error _ _ => false
  | _, _ => false

theorem of_retellsAs {count written told : String} (h : retellsAs count written told = true)
    (hne : told ≠ written) :
    ∃ workspace s p reopened v,
      (readWorkspace "ws.json").run ⟨sampleFiles, "", []⟩ =
        .ok workspace ⟨sampleFiles, "", []⟩ ∧
      (requestedSession .standard workspace (rowsRequest count)).run ⟨sampleFiles, "", []⟩ =
        .ok s ⟨sampleFiles, "", []⟩ ∧
      p ∈ s.parameters ∧ p.name = "n" ∧ p.isDefault = false ∧
      (run sampleFiles newYear (showingRows count)).exit = 0 ∧
      Store.openAt (run sampleFiles newYear (showingRows count)).directory "m.json" =
        .ok reopened ∧
      reopened.value? "n" = some v ∧ v ≠ p.value := by
  unfold retellsAs at h
  dsimp only at h
  split at h
  · next workspace d reopened hread hopen =>
    split at h
    · next s e hsession =>
      simp only [Bool.and_eq_true, beq_iff_eq, Option.any_eq_true, List.any_eq_true,
        Bool.not_eq_true'] at h
      obtain ⟨⟨hexit, v, hv, htold⟩, p, hp, ⟨hname, hdefault⟩, hwritten⟩ := h
      obtain rfl : d = ⟨sampleFiles, "", []⟩ := (keeps_readJson _ _).eq hread
      obtain rfl : e = ⟨sampleFiles, "", []⟩ := (keeps_requestedSession _ _ _).eq hsession
      refine ⟨workspace, s, p, reopened, v, hread, hsession, hp, hname, hdefault, hexit, hopen, hv,
        ?_⟩
      rintro rfl
      exact hne (htold.symm.trans hwritten)
    · cases h
  · cases h

/-- A number of rows that is not told exactly by its JSON text: the store that is opened after the
render has its neighbour. -/
theorem files_after_run_rounded :
    ∃ workspace s p reopened v,
      (readWorkspace "ws.json").run ⟨sampleFiles, "", []⟩ =
        .ok workspace ⟨sampleFiles, "", []⟩ ∧
      (requestedSession .standard workspace (rowsRequest "31.245270191439438")).run
        ⟨sampleFiles, "", []⟩ = .ok s ⟨sampleFiles, "", []⟩ ∧
      p ∈ s.parameters ∧ p.name = "n" ∧ p.isDefault = false ∧
      (run sampleFiles newYear (showingRows "31.245270191439438")).exit = 0 ∧
      Store.openAt (run sampleFiles newYear (showingRows "31.245270191439438")).directory
        "m.json" = .ok reopened ∧
      reopened.value? "n" = some v ∧ v ≠ p.value := by
  have hretells : retellsAs "31.245270191439438" "31.245270191439438" "31.24527019143944" = true := by
    decide +kernel
  exact of_retellsAs hretells (by decide)

end Sample

end Command

end TablePhrase
