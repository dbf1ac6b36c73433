import TablePhrase.Proofs.Command.Script
import TablePhrase.Proofs.Json.RoundTrip
import TablePhrase.Proofs.Session.Scope

/-!
Rendering from the command line. A render that succeeds comes from one session, whose code is the
only thing printed to the output; its scope is what the text of the option reads as, or the first
column.
-/

namespace TablePhrase.Command

section Edits
variable {c c' : Console} {s t : Session}

theorem run_edit_eq_ok_iff {α : Type} {e : Edit α} :
    (edit s e).run c = .ok t c' ↔ (∃ a, e.run s = .ok a t) ∧ c' = c := by
  unfold edit
  cases e.run s with
  | ok a u =>
    constructor
    · rintro ⟨⟩
      exact ⟨⟨a, rfl⟩, rfl⟩
    · rintro ⟨⟨_, ⟨⟩⟩, rfl⟩
      rfl
  | error err u =>
    constructor
    · rintro ⟨⟩
    · rintro ⟨⟨_, ⟨⟩⟩, -⟩

theorem of_editParameters_cons {item : String} {items : List String}
    (h : (editParameters s (item :: items)).run c = .ok t c') :
    ∃ name text a u, splitAssignment? item = some (name, text) ∧
      (Session.setParameterText name text).run s = .ok a u ∧
        (editParameters u items).run c = .ok t c' := by
  obtain ⟨⟨name, text⟩, d, hsplit, hrest⟩ := run_bind_eq_ok_iff.mp h
  unfold splitAssignment at hsplit
  cases hitem : splitAssignment? item with
  | none =>
    rw [hitem] at hsplit
    cases hsplit
  | some assignment =>
    rw [hitem] at hsplit
    cases hsplit
    simp only at hrest
    split at hrest
    · next a u hu => exact ⟨name, text, a, u, rfl, hu, hrest⟩
    · cases hrest

theorem keeps_of_editParameters {items : List String} (hs : s.IsCurrent)
    (h : (editParameters s items).run c = .ok t c') :
    t.IsCurrent ∧ t.scope = s.scope ∧ t.dataset = s.dataset := by
  induction items generalizing s with
  | nil =>
    cases h
    exact ⟨hs, rfl, rfl⟩
  | cons item items ih =>
    obtain ⟨_, _, _, u, -, hu, hrest⟩ := of_editParameters_cons h
    obtain ⟨hcurrent, hscope, hdataset⟩ := hs.keeps_of_setParameterText hu
    obtain ⟨hlast, hscope', hdataset'⟩ := ih hcurrent hrest
    exact ⟨hlast, hscope'.trans hscope, hdataset'.trans hdataset⟩

theorem picks_of_editParameters {items : List String} {item name label : String}
    {p : ParameterState} (hs : s.IsCurrent)
    (h : (editParameters s (items ++ [item])).run c = .ok t c')
    (hitem : splitAssignment? item = some (name, label)) (hfound : t.parameter? name = some p)
    (hkind : p.kind.isSchemaDependent = true)
    (hlabel : .str label ∈ p.kind.labels t.axis t.dataset.schema) : p.value = .str label := by
  induction items generalizing s with
  | nil =>
    obtain ⟨_, _, a, u, hsplit, hu, hdone⟩ := of_editParameters_cons h
    rw [hitem] at hsplit
    cases hsplit
    cases hdone
    exact hs.picks_label hu hfound hkind hlabel
  | cons first items ih =>
    obtain ⟨_, _, _, u, -, hu, hrest⟩ := of_editParameters_cons h
    exact ih (hs.keeps_of_setParameterText hu).1 hrest

end Edits

section Render
variable {now : Timestamp} {settings : Settings} {workspace : Workspace} {r : RenderRequest}
  {c c' : Console} {s : Session}

theorem of_requestedSession {label : String} (hscope : r.scope = some label)
    (h : (requestedSession settings workspace r).run c = .ok s c') :
    ∃ u d, u.IsCurrent ∧ u.Chooses (Literal.ofUserText label).asScope ∧
      (editParameters u r.edits).run d = .ok s c' := by
  obtain ⟨_, _, -, h⟩ := run_bind_eq_ok_iff.mp h
  obtain ⟨_, _, -, h⟩ := run_bind_eq_ok_iff.mp h
  obtain ⟨_, _, -, h⟩ := run_bind_eq_ok_iff.mp h
  obtain ⟨t, d, -, h⟩ := run_bind_eq_ok_iff.mp h
  obtain ⟨u, e, hset, h⟩ := run_bind_eq_ok_iff.mp h
  rw [hscope] at hset
  obtain ⟨⟨_, hset⟩, -⟩ := run_edit_eq_ok_iff.mp hset
  obtain ⟨hcurrent, hchooses⟩ := Session.chooses_of_setScope hset
  exact ⟨u, e, hcurrent, hchooses, h⟩

/-- What a render does before anything is remembered. It answers the session, finalized, and the
store to remember in. -/
def prepare (settings : Settings) (r : RenderRequest) : Script (Session × Option Store) := do
  let workspace ← readWorkspace r.workspace
  let s ← requestedSession settings workspace r
  let store ← r.memory.mapM openStore
  if r.asJson then say s.snapshot.indented
  else
    say s.code
    noteAdvice s store workspace
  let s ← edit s Session.finalize
  return (s, store)

def remember (now : Timestamp) (s : Session) : Option Store → Script Unit
  | none => pure ()
  | some store => change store (Store.save now s.remembered.entries)

theorem runRender_eq (now : Timestamp) (settings : Settings) (r : RenderRequest) :
    runRender now settings r =
      prepare settings r >>= fun (s, store) => remember now s store := by
  cases hjson : r.asJson with
  | false =>
    simp only [runRender, prepare, hjson, Bool.false_eq_true, if_false, bind_assoc, pure_bind]
    rfl
  | true =>
    simp only [runRender, prepare, hjson, if_true, bind_assoc, pure_bind]
    rfl

theorem keeps_directory_prepare (settings : Settings) (r : RenderRequest) :
    Keeps (·.directory) (prepare settings r) := by
  refine (keeps_readJson _ _).bind fun workspace => ?_
  refine (keeps_requestedSession settings workspace r).bind fun s => ?_
  refine (keeps_mapM_openStore _).bind fun store => ?_
  have hfinal : Keeps (·.directory) (do
      let s ← edit s Session.finalize
      return (s, store)) :=
    (keeps_edit s _).bind fun t => keeps_pure _
  dsimp only
  split
  · exact (keeps_directory_say _).bind fun _ => hfinal
  · exact (keeps_directory_say _).bind fun _ =>
      (keeps_noteAdvice keeps_directory_note s store workspace).bind fun _ => hfinal

theorem of_prepare {t : Session} {store : Option Store}
    (h : (prepare settings r).run c = .ok (t, store) c') :
    ∃ workspace s, (readWorkspace r.workspace).run c = .ok workspace c ∧
      (requestedSession settings workspace r).run c = .ok s c ∧
      (r.memory.mapM openStore).run c = .ok store c ∧ t = { s with phase := .finalized } ∧
      c'.output = c.output ++ (if r.asJson then s.snapshot.indented else s.code) ++ "\n" := by
  obtain ⟨workspace, d, hread, hafter⟩ := run_bind_eq_ok_iff.mp h
  obtain ⟨s, e, hsession, hopen⟩ := run_bind_eq_ok_iff.mp hafter
  obtain ⟨opened, f, hstore, hprint⟩ := run_bind_eq_ok_iff.mp hopen
  have hd : d = c := (keeps_readJson _ _).eq hread
  have he : e = d := (keeps_requestedSession _ _ _).eq hsession
  have hf : f = e := (keeps_mapM_openStore _).eq hstore
  subst hd he hf
  have hfinal : ∀ {g : Console}, (do
      let s ← edit s Session.finalize
      return (s, opened) : Script (Session × Option Store)).run g = .ok (t, store) c' →
      store = opened ∧ t = { s with phase := .finalized } ∧ c' = g := by
    intro g hdone
    obtain ⟨u, g', hedit, hpure⟩ := run_bind_eq_ok_iff.mp hdone
    obtain ⟨⟨code, hcode⟩, rfl⟩ := run_edit_eq_ok_iff.mp hedit
    cases hpure
    obtain ⟨-, -, rfl⟩ := Session.run_finalize_eq_ok_iff.mp hcode
    exact ⟨rfl, rfl, rfl⟩
  refine ⟨workspace, s, hread, hsession, ?_⟩
  dsimp only at hprint
  by_cases hjson : r.asJson = true
  · rw [if_pos hjson] at hprint ⊢
    obtain ⟨_, g, hsay, hdone⟩ := run_bind_eq_ok_iff.mp hprint
    cases hsay
    obtain ⟨rfl, rfl, rfl⟩ := hfinal hdone
    exact ⟨hstore, rfl, rfl⟩
  · rw [if_neg hjson] at hprint ⊢
    obtain ⟨_, g, hsay, hadvice⟩ := run_bind_eq_ok_iff.mp hprint
    cases hsay
    obtain ⟨_, g, hnote, hdone⟩ := run_bind_eq_ok_iff.mp hadvice
    obtain ⟨rfl, rfl, rfl⟩ := hfinal hdone
    exact ⟨hstore, rfl, (keeps_noteAdvice keeps_output_note s store workspace).of_ok hnote⟩

theorem keeps_output_remember (now : Timestamp) (s : Session) (store : Option Store) :
    Keeps (·.output) (remember now s store) := by
  cases store with
  | none => exact keeps_pure ()
  | some store => exact keeps_output_change store _

theorem of_runRender (h : (runRender now settings r).run c = .ok () c') :
    ∃ workspace s, (readWorkspace r.workspace).run c = .ok workspace c ∧
      (requestedSession settings workspace r).run c = .ok s c ∧
        c'.output = c.output ++ (if r.asJson then s.snapshot.indented else s.code) ++ "\n" := by
  rw [runRender_eq] at h
  obtain ⟨⟨t, store⟩, d, hprepare, hremember⟩ := run_bind_eq_ok_iff.mp h
  obtain ⟨workspace, s, hread, hsession, -, -, houtput⟩ := of_prepare hprepare
  exact ⟨workspace, s, hread, hsession,
    ((keeps_output_remember now t store).of_ok hremember).trans houtput⟩

/-- The scope of a render that succeeds, where the text of the option is the name of a column: it is
that column exactly if the name reads as itself, or reads as nothing that could be chosen and the
column is the first; otherwise it is what the name reads as, or the first column. The code is
subscripted with it. A label that the last edit types for a parameter is picked as it stands. -/
theorem scope_of_render {label : String} (hscope : r.scope = some label)
    (hrun : (runRender now settings r).run c = .ok () c') :
    ∃ workspace s scope, (readWorkspace r.workspace).run c = .ok workspace c ∧
      (requestedSession settings workspace r).run c = .ok s c ∧
      c'.output = c.output ++ (if r.asJson then s.snapshot.indented else s.code) ++ "\n" ∧
      s.code = s.call s.settings.moduleAlias ∧ s.scope = some scope ∧
      s.subscript = columnSubscript scope.value ∧
      (label ≠ "" → .str label ∈ s.dataset.schema.columns →
        let value := (Literal.ofUserText label).asScope
        let admitted := isAdmitted s.dataset.schema.columnOptions value
        scope.value = (if admitted then value else s.dataset.schema.columns.headD .null) ∧
          (scope.value = .str label ↔ Literal.ofUserText label = .str label ∨
            admitted = false ∧ s.dataset.schema.columns.head? = some (.str label))) ∧
      ∀ {items : List String} {item name text : String} {p : ParameterState},
        r.edits = items ++ [item] → splitAssignment? item = some (name, text) →
        s.parameter? name = some p → p.kind.isSchemaDependent = true →
        .str text ∈ p.kind.labels s.axis s.dataset.schema → p.value = .str text := by
  obtain ⟨workspace, s, hread, hsession, houtput⟩ := of_runRender hrun
  obtain ⟨u, d, hu, ⟨scope, hchosen, hvalue⟩, hedits⟩ := of_requestedSession hscope hsession
  obtain ⟨hs, hscope', hdataset⟩ := keeps_of_editParameters hu hedits
  rw [← hdataset] at hvalue
  have hsscope : s.scope = some scope := hscope'.trans hchosen
  refine ⟨workspace, s, scope, hread, hsession, houtput, ?_, hsscope, ?_, fun hne hlabel => ?_, ?_⟩
  · have hcode : (Session.refresh s).code =
        (Session.refresh s).call (Session.refresh s).settings.moduleAlias := rfl
    rwa [hs] at hcode
  · rw [Session.subscript, hsscope]
    rfl
  · rw [hvalue]
    exact ⟨revalidate_fst_of_mem hlabel _ _ _, revalidate_fst_eq_str_iff hlabel hne _ _ _⟩
  · intro items item name text p hitems hitem hfound hkind hmem
    rw [hitems] at hedits
    exact picks_of_editParameters hu hedits hitem hfound hkind hmem

theorem exists_run_runRender (now : Timestamp)
    (hread : (readWorkspace r.workspace).run c = .ok workspace c)
    (hsession : (requestedSession settings workspace r).run c = .ok s c) (hmemory : r.memory = none)
    (hjson : r.asJson = false) (hwarnings : s.warnings = []) (heditable : s.IsEditable) :
    ∃ c', (runRender now settings r).run c = .ok () c' := by
  have hfinal : Session.finalize.run s = .ok s.code { s with phase := .finalized } :=
    Session.run_finalize_eq_ok_iff.mpr ⟨heditable, rfl, rfl⟩
  have hadvice (d : Console) : (noteAdvice s none workspace).run d = .ok () d := by
    rw [noteAdvice, hwarnings]
    rfl
  have hmem : (r.memory.mapM openStore).run c = .ok none c := by
    rw [hmemory]
    rfl
  refine ⟨{ c with output := c.output ++ s.code ++ "\n" }, ?_⟩
  refine run_bind_eq_ok_iff.mpr ⟨workspace, c, hread, ?_⟩
  refine run_bind_eq_ok_iff.mpr ⟨s, c, hsession, ?_⟩
  refine run_bind_eq_ok_iff.mpr ⟨none, c, hmem, ?_⟩
  dsimp only
  rw [if_neg (by simp [hjson])]
  refine run_bind_eq_ok_iff.mpr ⟨(), _, rfl, ?_⟩
  refine run_bind_eq_ok_iff.mpr ⟨(), _, hadvice _, ?_⟩
  exact run_bind_eq_ok_iff.mpr ⟨_, _, run_edit_eq_ok_iff.mpr ⟨⟨_, hfinal⟩, rfl⟩, rfl⟩

end Render

section Numbered

def numbered : Workspace :=
  ⟨[⟨"df", ⟨["a", "1", "b"], []⟩⟩], none⟩

def numberedDocument : Json :=
  .object [("datasets", .arr [.object [("name", "df"), ("columns", .strings ["a", "1", "b"])]])]

def numberedConsole : Console :=
  ⟨⟨[(["ws.json"], .file numberedDocument.indented)]⟩, "", []⟩

def replaceIn (label : String) : RenderRequest where
  template := "REPLACE VALUES"
  utterance := ""
  workspace := "ws.json"
  dataset := none
  axis := none
  edits := []
  scope := some label
  memory := none
  asJson := false

theorem isPlain_numberedDocument : numberedDocument.IsPlain := by
  have hcolumns : (Json.strings ["a", "1", "b"]).IsPlain := by
    refine .arr fun j hj => ?_
    obtain ⟨s, -, rfl⟩ := List.mem_map.mp hj
    exact .str s
  have hdataset : (Json.object [("name", "df"), ("columns", .strings ["a", "1", "b"])]).IsPlain := by
    refine .obj (by decide) fun m hm => ?_
    rcases List.mem_cons.mp hm with rfl | hm
    · exact .str "df"
    · rw [List.mem_singleton.mp hm]
      exact hcolumns
  refine .obj (by decide) fun m hm => ?_
  rw [List.mem_singleton.mp hm]
  refine .arr fun j hj => ?_
  rw [List.mem_singleton.mp hj]
  exact hdataset

theorem run_readWorkspace_numbered :
    (readWorkspace "ws.json").run numberedConsole = .ok numbered numberedConsole := by
  have hplace : numberedConsole.directory.locate "ws.json" = some ["ws.json"] := by decide +kernel
  have hread : numberedConsole.directory.read? "ws.json" = some numberedDocument.indented := by
    rw [Directory.read?, hplace]
    rfl
  have hparse : (Json.parse? numberedDocument.indented).bind
      (Workspace.ofJson? Json.maxLevels) = some numbered := by
    rw [Json.parse?_indented isPlain_numberedDocument]
    rfl
  refine run_bind_eq_ok_iff.mpr ⟨numberedConsole, numberedConsole, rfl, ?_⟩
  simp only [hread, hparse]
  rfl

/-- The render succeeds with this code; its text is the name of a column, and this one is chosen. -/
def rendersAs (label chosen code : String) : Bool :=
  match (requestedSession .standard numbered (replaceIn label)).run numberedConsole with
  | .ok s _ =>
    s.code == code && s.warnings.isEmpty && s.phase == .refining
      && Literal.isOption s.dataset.schema.columns (.str label)
      && s.scope.any fun scope => scope.value.agrees (.str chosen)
  | .error _ _ => false

def newYear : Timestamp :=
  ⟨2024, 1, 1, 0, 0, 0, 0, by decide⟩

theorem of_rendersAs {label chosen code : String} (h : rendersAs label chosen code = true) :
    ∃ s scope c',
      (requestedSession .standard numbered (replaceIn label)).run numberedConsole =
        .ok s numberedConsole ∧
      .str label ∈ s.dataset.schema.columns ∧ s.scope = some scope ∧ scope.value = .str chosen ∧
      (runRender newYear .standard (replaceIn label)).run numberedConsole = .ok () c' ∧
      c'.output = code ++ "\n" := by
  unfold rendersAs at h
  split at h
  · next s d hsession =>
    obtain rfl : d = numberedConsole := (keeps_requestedSession _ _ _).eq hsession
    simp only [Bool.and_eq_true, beq_iff_eq, List.isEmpty_iff, Option.any_eq_true] at h
    obtain ⟨⟨⟨⟨hcode, hwarnings⟩, hphase⟩, hlabel⟩, scope, hscope, hchosen⟩ := h
    obtain ⟨column, hcolumn, hagrees⟩ := List.any_eq_true.mp hlabel
    rw [Literal.eq_str_of_agrees hagrees] at hcolumn
    obtain ⟨c', hrun⟩ := exists_run_runRender newYear run_readWorkspace_numbered hsession rfl rfl
      hwarnings (.inr hphase)
    obtain ⟨w, t, hread, hrequested, houtput⟩ := of_runRender hrun
    obtain ⟨rfl, -⟩ := EStateM.Result.ok.inj (hread.symm.trans run_readWorkspace_numbered)
    obtain ⟨rfl, -⟩ := EStateM.Result.ok.inj (hrequested.symm.trans hsession)
    refine ⟨t, scope, c', hsession, hcolumn, hscope, Literal.eq_str_of_agrees hchosen, hrun, ?_⟩
    have hjson : ¬(replaceIn label).asJson = true := Bool.false_ne_true
    rw [houtput, if_neg hjson, hcode]
    exact congrArg (· ++ "\n") String.empty_append
  · cases h

theorem scope_of_render_named :
    ∃ s scope c', (runRender newYear .standard (replaceIn "b")).run numberedConsole = .ok () c' ∧
      (requestedSession .standard numbered (replaceIn "b")).run numberedConsole =
        .ok s numberedConsole ∧
      .str "b" ∈ s.dataset.schema.columns ∧ s.scope = some scope ∧ scope.value = .str "b" ∧
      s.subscript = "[\"b\"]" := by
  obtain ⟨s, _, c', hsession, hcolumn, -, -, hrun, -⟩ :=
    of_rendersAs (by decide +kernel :
      rendersAs "b" "b" "df[\"b\"] = df[\"b\"].str.replace()" = true)
  obtain ⟨w, t, scope, hread, hrequested, -, -, hscope, hsubscript, hvalue, -⟩ :=
    scope_of_render (rfl : (replaceIn "b").scope = some "b") hrun
  obtain ⟨rfl, -⟩ := EStateM.Result.ok.inj (hread.symm.trans run_readWorkspace_numbered)
  obtain ⟨rfl, -⟩ := EStateM.Result.ok.inj (hrequested.symm.trans hsession)
  have hchosen : scope.value = .str "b" := (hvalue (by decide) hcolumn).2.mpr (.inl rfl)
  refine ⟨t, scope, c', hrun, hsession, hcolumn, hscope, hchosen, ?_⟩
  rw [hsubscript, hchosen]
  rfl

/-- A column whose name reads as a number gives way to the first column. -/
theorem scope_of_render_numbered :
    ∃ s scope c', (requestedSession .standard numbered (replaceIn "1")).run numberedConsole =
        .ok s numberedConsole ∧
      .str "1" ∈ s.dataset.schema.columns ∧ s.scope = some scope ∧ scope.value = .str "a" ∧
      (runRender newYear .standard (replaceIn "1")).run numberedConsole = .ok () c' ∧
      c'.output = "df[\"a\"] = df[\"a\"].str.replace()" ++ "\n" :=
  of_rendersAs (by decide +kernel)

end Numbered

end TablePhrase.Command
