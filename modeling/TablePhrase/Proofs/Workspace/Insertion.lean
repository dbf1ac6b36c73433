import Mathlib.Data.List.Perm.Subperm
import TablePhrase.Json.Reader
import TablePhrase.Proofs.Workspace.History
import TablePhrase.Workspace.Json

/-!
What an insertion does to the active dataset. Where a name was stored, it stays; where none was, the
first dataset counts as active, but the next one that is inserted takes its place. Only a workspace
that was read from a document can have datasets and no stored name.
-/

namespace TablePhrase

section Lists
variable {α β : Type}

theorem nodup_eraseDups (names : List String) : names.eraseDups.Nodup := by
  cases names with
  | nil => exact List.nodup_nil
  | cons name names =>
    rw [List.eraseDups_cons]
    refine List.nodup_cons.mpr ⟨?_, nodup_eraseDups _⟩
    simp [List.mem_eraseDups]
termination_by names.length
decreasing_by
  exact Nat.lt_succ_of_le (List.length_filter_le _ _)

theorem nodup_of_length_eraseDups {names : List String}
    (h : names.eraseDups.length = names.length) : names.Nodup := by
  have hsubperm := List.Nodup.subperm (nodup_eraseDups names) fun _ hname =>
    List.mem_eraseDups.mp hname
  exact (hsubperm.perm_of_length_le (Nat.le_of_eq h.symm)).nodup_iff.mp (nodup_eraseDups names)

theorem mem_of_mapM_eq_some {f : α → Option β} {xs : List α} {ys : List β}
    (h : xs.mapM f = some ys) {y : β} : y ∈ ys ↔ ∃ x ∈ xs, f x = some y := by
  induction xs generalizing ys with
  | nil =>
    cases h
    simp
  | cons x xs ih =>
    rw [List.mapM_cons] at h
    obtain ⟨z, hz, hrest⟩ := Option.bind_eq_some_iff.mp h
    obtain ⟨zs, hzs, heq⟩ := Option.bind_eq_some_iff.mp hrest
    cases heq
    rw [List.mem_cons, ih hzs, List.exists_mem_cons_iff, hz, Option.some.injEq, eq_comm]

theorem lookup_eq_some_iff_mem {fields : List (String × β)} (h : (fields.map (·.1)).Nodup)
    {name : String} {value : β} : fields.lookup name = some value ↔ (name, value) ∈ fields := by
  rw [List.lookup_eq_some_iff]
  constructor
  · rintro ⟨front, back, rfl, -⟩
    simp
  · intro hmem
    obtain ⟨front, back, rfl⟩ := List.append_of_mem hmem
    refine ⟨front, back, rfl, fun field hfield => bne_iff_ne.mpr ?_⟩
    rw [List.map_append, List.map_cons] at h
    exact Ne.symm ((List.nodup_append.mp h).2.2 _ (List.mem_map_of_mem hfield) _ List.mem_cons_self)

end Lists

/-- A document of a workspace that names the active dataset, in an object or as the second field of
an array. -/
def Json.NamesActive : Json → Prop
  | .obj members => ∃ name, (some "active", .str (some name)) ∈ members
  | .arr items => ∃ name, items[1]? = some (.str (some name))
  | _ => False

theorem Json.namesActive_iff {j : Json} {fields : List (String × Json)}
    (h : j.fields? ["datasets", "active"] 0 = some fields) :
    j.NamesActive ↔ ∃ name, fields.lookup "active" = some (.str (some name)) := by
  cases j with
  | obj members =>
    obtain ⟨named, hnamed, hknown⟩ := Option.bind_eq_some_iff.mp h
    dsimp only at hknown
    split at hknown
    · next hlength =>
      cases hknown
      have hnodup := nodup_of_length_eraseDups (hlength.trans (List.length_map _).symm)
      refine exists_congr fun name => ?_
      rw [lookup_eq_some_iff_mem hnodup, List.mem_filter, mem_of_mapM_eq_some hnamed]
      simp
    · cases hknown
  | arr items =>
    dsimp only [fields?] at h
    split at h
    · cases h
      refine exists_congr fun name => ?_
      match items with
      | [] => exact iff_of_false nofun nofun
      | [first] => exact iff_of_false nofun nofun
      | first :: second :: more => exact Iff.rfl
    · cases h
  | _ => cases h

namespace Workspace
variable {w : Workspace} {n : String} {d : Dataset}

theorem isSome_active_of_ofJson? {levels : Nat} {j : Json} (h : ofJson? levels j = some w) :
    w.active.isSome = true ↔ j.NamesActive := by
  obtain ⟨fields, hfields, hrest⟩ := Option.bind_eq_some_iff.mp h
  obtain ⟨datasets, -, hrest⟩ := Option.bind_eq_some_iff.mp hrest
  obtain ⟨active, hactive, heq⟩ := Option.bind_eq_some_iff.mp hrest
  cases heq
  rw [Json.namesActive_iff hfields]
  unfold Json.defaulted at hactive
  split at hactive
  · next value hvalue =>
    unfold Json.nullable at hactive
    split at hactive
    · cases hactive
      simp [hvalue]
    · next hne =>
      obtain ⟨name, hname, rfl⟩ := Option.map_eq_some_iff.mp hactive
      unfold Json.text? at hname
      split at hname
      · subst hname
        simp [hvalue]
      · cases hname
  · next hnone =>
    cases hactive
    simp [hnone]

theorem stored_of_activeName? {name : String} (hactive : w.active = some name)
    (h : w.activeName? = some n) : name = n ∧ n ∈ w.names := by
  rw [activeName?, activeDataset?, hactive] at h
  obtain ⟨d, hd, rfl⟩ := Option.map_eq_some_iff.mp h
  have hname : d.name = name := by simpa using List.find?_some hd
  exact ⟨hname.symm, List.mem_map_of_mem (List.mem_of_find?_eq_some hd)⟩

theorem activeName?_run_of_stored (ds : List Dataset) (hactive : w.active = some n)
    (hstored : n ∈ w.names) : (w.run (ds.map Call.insert)).activeName? = some n := by
  induction ds generalizing w with
  | nil => exact activeName?_of_stored hstored hactive
  | cons d ds ih => exact ih (active_insert hactive d) (mem_names_insert.mpr (.inr hstored))

theorem activeName?_run_of_unnamed (d : Dataset) (ds : List Dataset) (hactive : w.active = none) :
    (w.run ((d :: ds).map Call.insert)).activeName? = some d.name := by
  have hstored : (w.insert d).active = some d.name := by
    rw [insert, hactive]
    rfl
  exact activeName?_run_of_stored ds hstored (mem_names_insert.mpr (.inl rfl))

/-- Insertions keep the active dataset exactly if its name was stored, or nothing is inserted, or
the first dataset that is inserted has that name; otherwise this one becomes active. The name is
always stored in a workspace that calls have made, and in one that was read from a document exactly
if the document names it. -/
theorem activeName?_of_insertions (h : w.activeName? = some n) (ds : List Dataset) :
    let after := w.run (ds.map Call.insert)
    (after.activeName? = some n ↔ w.active.isSome = true ∨ ∀ d ∈ ds.head?, d.name = n) ∧
      (w.active = none → ∀ d ∈ ds.head?, after.activeName? = some d.name) ∧
      (∀ calls, w = empty.run calls → w.active.isSome = true) ∧
      ∀ levels j, ofJson? levels j = some w → (w.active.isSome = true ↔ j.NamesActive) := by
  intro after
  refine ⟨?_, ?_, ?_, fun _ _ => isSome_active_of_ofJson?⟩
  · cases hactive : w.active with
    | some name =>
      obtain ⟨rfl, hstored⟩ := stored_of_activeName? hactive h
      exact iff_of_true (activeName?_run_of_stored ds hactive hstored) (.inl rfl)
    | none =>
      cases ds with
      | nil => exact iff_of_true h (.inr nofun)
      | cons d ds =>
        show (w.run ((d :: ds).map Call.insert)).activeName? = some n ↔ _
        rw [activeName?_run_of_unnamed d ds hactive]
        simp
  · rintro hactive d hd
    cases ds with
    | nil => cases hd
    | cons first ds =>
      cases hd
      exact activeName?_run_of_unnamed d ds hactive
  · rintro calls rfl
    rcases (holds_empty.run calls).activeName?_cases with ⟨-, hnone⟩ | ⟨name, -, hactive, -⟩
    · rw [hnone] at h
      cases h
    · rw [hactive]
      rfl

theorem activeName?_of_insertions_replaced :
    let w : Workspace := ⟨[⟨"a", .empty⟩, ⟨"b", .empty⟩], none⟩
    let ds : List Dataset := [⟨"a", ⟨[.str "x"], []⟩⟩, ⟨"c", .empty⟩]
    w.activeName? = some "a" ∧ w.active = none ∧
      (w.run (ds.map Call.insert)).activeName? = some "a" := by
  intro w ds
  have hkept := (activeName?_of_insertions (w := w) (n := "a") (by decide) ds).1
  exact ⟨by decide, rfl, hkept.mpr (.inr (by simp [ds]))⟩

def unnamedDocument : String :=
  "\x7b\"datasets\": [\x7b\"name\": \"a\"\x7d]\x7d"

/-- In a workspace that was read from a document without an active name, the next dataset that is
inserted becomes the active one. -/
theorem activeName?_insert_moves :
    ((Json.parse? unnamedDocument).bind (ofJson? Json.maxLevels)).map (fun w =>
      (w.activeName?, (w.insert ⟨"b", .empty⟩).activeName?)) = some (some "a", some "b") := by
  decide +kernel

end Workspace
end TablePhrase
