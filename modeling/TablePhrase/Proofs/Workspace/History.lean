import TablePhrase.Proofs.Workspace.Ownership

/-!
Workspaces that are made by calls. A workspace keeps the last dataset that was inserted under each
name, in the order in which the names came, and the active name is always one of these. Only an
activation that answers true moves it.
-/

namespace TablePhrase

theorem eraseDups_concat (names : List String) (name : String) :
    (names ++ [name]).eraseDups =
      if name ∈ names then names.eraseDups else names.eraseDups ++ [name] := by
  rw [List.eraseDups_append]
  by_cases h : name ∈ names
  · simp [List.removeAll, h]
  · simp [List.removeAll, h, List.eraseDups_cons]

theorem find?_reverse_concat {α : Type} (p : α → Bool) (xs : List α) (x : α) :
    (xs ++ [x]).reverse.find? p = if p x then some x else xs.reverse.find? p := by
  rw [List.reverse_concat, List.find?_cons]
  cases p x <;> rfl

/-- The dataset has the label, or every item of a list label, among its columns or its rows. -/
def Dataset.Owns (d : Dataset) (label : Literal) : Prop :=
  ∃ labels ∈ [d.schema.columns, d.schema.indexLabels],
    match label with
    | .list items => items ≠ [] ∧ ∀ item ∈ items, Schema.hasLabel labels item = true
    | label => Literal.isOption labels label = true

theorem Dataset.owns_iff {d : Dataset} {label : Literal} :
    d.Owns label ↔ d.schema.hasColumn label = true ∨ d.schema.hasIndexLabel label = true := by
  have hside : ∀ labels : List Literal, Schema.hasLabel labels label = true ↔
      match label with
      | .list items => items ≠ [] ∧ ∀ item ∈ items, Schema.hasLabel labels item = true
      | label => Literal.isOption labels label = true := by
    intro labels
    cases label with
    | list items =>
      rw [Schema.hasLabel, Bool.and_eq_true, Schema.hasLabels_eq_true_iff]
      simp
    | _ => exact Iff.rfl
  rw [Schema.hasColumn, Schema.hasIndexLabel, hside, hside, Owns, List.exists_mem_cons_iff]
  simp

namespace Workspace

/-- A call that changes a workspace. One that is built dataset by dataset is made by insertions. -/
inductive Call
  | insert (dataset : Dataset)
  | activate (name : String)
  | activateFor (label : Literal)

namespace Call

def perform (w : Workspace) : Call → Workspace
  | insert dataset => w.insert dataset
  | activate name => (w.activate name).2
  | activateFor label => (w.activateFor label).2

def inserted? : Call → Option Dataset
  | insert dataset => some dataset
  | _ => none

def Switches (w : Workspace) : Call → Prop
  | insert _ => False
  | activate name => (w.activate name).1 = true
  | activateFor label => (w.activateFor label).1 = true

end Call

def run (w : Workspace) (calls : List Call) : Workspace :=
  calls.foldl Call.perform w

def inserted (calls : List Call) : List Dataset :=
  calls.filterMap (·.inserted?)

section Insert
variable {w : Workspace} {d : Dataset} {name : String}

theorem names_put (d : Dataset) (ds : List Dataset) :
    (put d ds).map (·.name) =
      if d.name ∈ ds.map (·.name) then ds.map (·.name) else ds.map (·.name) ++ [d.name] := by
  induction ds with
  | nil => rfl
  | cons e ds ih =>
    rw [put]
    by_cases h : e.name = d.name
    · simp [h]
    · rw [if_neg h, List.map_cons, ih]
      simp only [List.map_cons, List.mem_cons, Ne.symm h, false_or]
      split <;> rfl

theorem find?_put (d : Dataset) (ds : List Dataset) (name : String) :
    (put d ds).find? (·.name == name) =
      if d.name == name then some d else ds.find? (·.name == name) := by
  induction ds with
  | nil =>
    rw [put, List.find?_cons]
    cases d.name == name <;> rfl
  | cons e ds ih =>
    rw [put]
    by_cases h : e.name = d.name
    · rw [if_pos h, List.find?_cons, List.find?_cons, h]
      cases d.name == name <;> rfl
    · rw [if_neg h, List.find?_cons, ih, List.find?_cons]
      cases he : e.name == name with
      | false => rfl
      | true =>
        have hd : (d.name == name) = false := by
          rw [← beq_iff_eq.mp he]
          exact beq_false_of_ne (Ne.symm h)
        rw [hd]
        rfl

theorem names_insert (w : Workspace) (d : Dataset) :
    (w.insert d).names = if d.name ∈ w.names then w.names else w.names ++ [d.name] :=
  names_put d w.datasets

theorem mem_names_insert : name ∈ (w.insert d).names ↔ name = d.name ∨ name ∈ w.names := by
  rw [names_insert]
  split
  · next hold =>
    constructor
    · exact .inr
    · rintro (rfl | hname)
      · exact hold
      · exact hname
  · rw [List.mem_append, List.mem_singleton, or_comm]

theorem active_insert (h : w.active = some name) (d : Dataset) :
    (w.insert d).active = some name := by
  rw [insert, h]
  rfl

end Insert

/-- The workspace holds what was inserted: the last dataset of each name, in the order in which the
names came. Once there is a dataset, one of these names is the active one. -/
structure Holds (w : Workspace) (datasets : List Dataset) : Prop where
  names_eq : w.names = (datasets.map (·.name)).eraseDups
  nodup : w.names.Nodup
  last_inserted : ∀ name, w.dataset? name = datasets.reverse.find? (·.name == name)
  active_stored : w = empty ∨ ∃ name ∈ w.names, w.active = some name

section Active
variable {w : Workspace} {name : String} {label : Literal}

theorem isSome_dataset?_iff : (w.dataset? name).isSome = true ↔ name ∈ w.names := by
  rw [dataset?, List.find?_isSome, names, List.mem_map]
  simp only [beq_iff_eq]

theorem activeName?_of_stored (hstored : name ∈ w.names) (hactive : w.active = some name) :
    w.activeName? = some name := by
  obtain ⟨d, hd⟩ := Option.isSome_iff_exists.mp (isSome_dataset?_iff.mpr hstored)
  have hname : d.name = name := by simpa using List.find?_some hd
  rw [activeName?, activeDataset?, hactive]
  simp [hd, hname]

theorem activate_of_mem (h : name ∈ w.names) :
    w.activate name = (true, { w with active := some name }) :=
  if_pos (isSome_dataset?_iff.mpr h)

theorem activate_of_not_mem (h : name ∉ w.names) : w.activate name = (false, w) :=
  if_neg (isSome_dataset?_iff.not.mpr h)

theorem activate_fst_iff : (w.activate name).1 = true ↔ name ∈ w.names := by
  by_cases h : name ∈ w.names
  · rw [activate_of_mem h]
    exact iff_of_true rfl h
  · rw [activate_of_not_mem h]
    exact iff_of_false Bool.false_ne_true h

theorem activeName?_activate (h : name ∈ w.names) :
    (w.activate name).2.activeName? = some name := by
  rw [activate_of_mem h]
  exact activeName?_of_stored h rfl

theorem owner_of_preferOwner {owners : List String} {current : Option String}
    (h : preferOwner owners current = some name) : current = some name ∨ name ∈ owners := by
  unfold preferOwner at h
  split at h
  · exact .inl h
  · split at h
    · exact .inl h
    · cases h
      exact .inr List.mem_cons_self

theorem activateFor_cases (w : Workspace) (label : Literal) :
    w.activateFor label = (false, w) ∨
      ∃ d ∈ w.datasets, d.Owns label ∧ w.activeName? ≠ some d.name ∧
        w.activateFor label = (true, { w with active := some d.name }) := by
  have howner : ∀ {owns : Dataset → Bool} {name : String},
      name ∈ (w.datasets.filter owns).map (·.name) →
        ∃ d ∈ w.datasets, owns d = true ∧ d.name = name := by
    intro owns name hname
    obtain ⟨d, hd, rfl⟩ := List.mem_map.mp hname
    obtain ⟨hmem, howns⟩ := List.mem_filter.mp hd
    exact ⟨d, hmem, howns, rfl⟩
  rw [activateFor]
  split
  · next name hchosen =>
    split
    · exact .inl rfl
    · next hother =>
      right
      rcases owner_of_preferOwner hchosen with hround | hcolumn
      · rcases owner_of_preferOwner hround with hstays | hindex
        · exact absurd hstays.symm hother
        · obtain ⟨d, hd, howns, rfl⟩ := howner hindex
          exact ⟨d, hd, Dataset.owns_iff.mpr (.inr howns), Ne.symm hother, rfl⟩
      · obtain ⟨d, hd, howns, rfl⟩ := howner hcolumn
        exact ⟨d, hd, Dataset.owns_iff.mpr (.inl howns), Ne.symm hother, rfl⟩
  · exact .inl rfl

end Active

theorem holds_empty : Holds empty [] where
  names_eq := rfl
  nodup := List.nodup_nil
  last_inserted _ := rfl
  active_stored := .inl rfl

namespace Holds
variable {w : Workspace} {datasets : List Dataset}

theorem insert (h : Holds w datasets) (d : Dataset) : Holds (w.insert d) (datasets ++ [d]) where
  names_eq := by
    have hmem : d.name ∈ w.names ↔ d.name ∈ datasets.map (·.name) := by
      rw [h.names_eq, List.mem_eraseDups]
    rw [List.map_append, List.map_singleton, eraseDups_concat, ← h.names_eq]
    exact (names_insert w d).trans (if_congr hmem rfl rfl)
  nodup := by
    rw [names_insert]
    split
    · exact h.nodup
    · next hnew =>
      refine List.nodup_append.mpr ⟨h.nodup, List.nodup_singleton _, ?_⟩
      rintro name hname _ hd rfl
      exact hnew (List.mem_singleton.mp hd ▸ hname)
  last_inserted name := by
    rw [find?_reverse_concat, ← h.last_inserted]
    exact find?_put d w.datasets name
  active_stored := by
    right
    rcases h.active_stored with rfl | ⟨name, hname, hactive⟩
    · exact ⟨d.name, mem_names_insert.mpr (.inl rfl), rfl⟩
    · exact ⟨name, mem_names_insert.mpr (.inr hname), active_insert hactive d⟩

theorem withActive (h : Holds w datasets) {name : String} (hname : name ∈ w.names) :
    Holds { w with active := some name } datasets :=
  { h with active_stored := .inr ⟨name, hname, rfl⟩ }

theorem perform (h : Holds w datasets) (call : Call) :
    Holds (call.perform w) (datasets ++ call.inserted?.toList) := by
  cases call with
  | insert d => exact h.insert d
  | activate name =>
    have hactivate : Holds (w.activate name).2 datasets := by
      by_cases hname : name ∈ w.names
      · rw [activate_of_mem hname]
        exact h.withActive hname
      · rwa [activate_of_not_mem hname]
    simpa [Call.perform, Call.inserted?] using hactivate
  | activateFor label =>
    have hactivate : Holds (w.activateFor label).2 datasets := by
      rcases activateFor_cases w label with hkept | ⟨d, hd, -, -, hmoved⟩
      · rwa [hkept]
      · rw [hmoved]
        exact h.withActive (List.mem_map_of_mem hd)
    simpa [Call.perform, Call.inserted?] using hactivate

theorem run (h : Holds w datasets) (calls : List Call) :
    Holds (w.run calls) (datasets ++ inserted calls) := by
  induction calls generalizing w datasets with
  | nil => simpa [Workspace.run, inserted] using h
  | cons call calls ih =>
    have hrest := ih (h.perform call)
    rw [List.append_assoc] at hrest
    have hinserted : inserted (call :: calls) = call.inserted?.toList ++ inserted calls := by
      rw [inserted, List.filterMap_cons]
      cases call.inserted? <;> rfl
    rw [hinserted]
    exact hrest

theorem last_inserted_of_mem (h : Holds w datasets) {d : Dataset} (hd : d ∈ w.datasets) :
    datasets.reverse.find? (·.name == d.name) = some d := by
  rw [← h.last_inserted]
  exact dataset?_of_mem h.nodup hd

theorem activeName?_cases (h : Holds w datasets) :
    (w.datasets = [] ∧ w.activeName? = none) ∨
      ∃ name ∈ w.names, w.active = some name ∧ w.activeName? = some name := by
  rcases h.active_stored with rfl | ⟨name, hname, hactive⟩
  · exact .inl ⟨rfl, rfl⟩
  · exact .inr ⟨name, hname, hactive, activeName?_of_stored hname hactive⟩

theorem isSome_activeName?_iff (h : Holds w datasets) :
    w.activeName?.isSome = true ↔ w.datasets ≠ [] := by
  rcases h.activeName?_cases with ⟨hnil, hnone⟩ | ⟨name, hname, -, hsome⟩
  · simp [hnil, hnone]
  · have hne : w.datasets ≠ [] := by
      intro hnil
      rw [names, hnil] at hname
      cases hname
    simp [hsome, hne]

theorem mem_names_of_activeName? (h : Holds w datasets) {name : String}
    (hname : w.activeName? = some name) : name ∈ w.names := by
  rcases h.activeName?_cases with ⟨-, hnone⟩ | ⟨other, hother, -, hsome⟩
  · rw [hnone] at hname
    cases hname
  · rw [hsome] at hname
    cases hname
    exact hother

theorem activateFor (h : Holds w datasets) (label : Literal) :
    ((w.activateFor label).1 = true ↔ (w.activateFor label).2.activeName? ≠ w.activeName?) ∧
      ((w.activateFor label).1 = true →
        ∃ d ∈ w.datasets, d.Owns label ∧ (w.activateFor label).2.activeDataset? = some d) := by
  rcases activateFor_cases w label with hkept | ⟨d, hd, howns, hother, hmoved⟩
  · rw [hkept]
    simp
  · have hactive : ({ w with active := some d.name } : Workspace).activeDataset? = some d :=
      dataset?_of_mem h.nodup hd
    rw [hmoved]
    refine ⟨?_, fun _ => ⟨d, hd, howns, hactive⟩⟩
    rw [activeName?_of_active hactive]
    exact iff_of_true rfl (Ne.symm hother)

/-- No call but an activation that answers true moves the active name. -/
theorem activeName?_perform (h : Holds w datasets) (hne : w.datasets ≠ []) {call : Call}
    (hcall : ¬ call.Switches w) : (call.perform w).activeName? = w.activeName? := by
  cases call with
  | insert d =>
    obtain ⟨name, hname, hactive, hsome⟩ :=
      h.activeName?_cases.resolve_left fun hempty => hne hempty.1
    rw [hsome]
    exact activeName?_of_stored (mem_names_insert.mpr (.inr hname)) (active_insert hactive d)
  | activate name =>
    have hname : name ∉ w.names := activate_fst_iff.not.mp hcall
    rw [Call.perform, activate_of_not_mem hname]
  | activateFor label =>
    have hsame := (h.activateFor label).1.not.mp hcall
    exact not_not.mp hsame

end Holds

/-- After any calls, a workspace has the last dataset that was inserted under each name, in the
order in which the names came. It has an active dataset exactly if it has one at all. A label
activates another dataset exactly when it answers true, and that one has the label; a name does
exactly if it is stored. No other call moves the active name once there is a dataset. -/
theorem history_of_run (calls : List Call) :
    let w := empty.run calls
    w.names = ((inserted calls).map (·.name)).eraseDups ∧ w.names.Nodup ∧
      (∀ d ∈ w.datasets, (inserted calls).reverse.find? (·.name == d.name) = some d) ∧
      (w.activeName?.isSome = true ↔ w.datasets ≠ []) ∧
      (∀ name, w.activeName? = some name → name ∈ w.names) ∧
      (∀ label,
        ((w.activateFor label).1 = true ↔ (w.activateFor label).2.activeName? ≠ w.activeName?) ∧
          ((w.activateFor label).1 = true →
            ∃ d ∈ w.datasets, d.Owns label ∧ (w.activateFor label).2.activeDataset? = some d)) ∧
      (∀ name, ((w.activate name).1 = true ↔ name ∈ w.names) ∧
        ((w.activate name).1 = true → (w.activate name).2.activeName? = some name)) ∧
      ∀ call : Call, w.datasets ≠ [] → ¬ call.Switches w →
        (call.perform w).activeName? = w.activeName? := by
  intro w
  have h : Holds w (inserted calls) := holds_empty.run calls
  refine ⟨h.names_eq, h.nodup, fun _ hd => h.last_inserted_of_mem hd, h.isSome_activeName?_iff,
    fun _ hname => h.mem_names_of_activeName? hname, h.activateFor, fun name => ?_,
    fun _ hne hcall => h.activeName?_perform hne hcall⟩
  exact ⟨activate_fst_iff, fun htrue => activeName?_activate (activate_fst_iff.mp htrue)⟩

end Workspace
end TablePhrase
