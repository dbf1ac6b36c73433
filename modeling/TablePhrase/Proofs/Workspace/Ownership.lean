import TablePhrase.Proofs.KeyMap
import TablePhrase.Workspace.Basic

/-!
The owners of labels. Where the names of the datasets differ, moving to an owner is a choice among
datasets: the current one if it is an owner, else the first one that is. A label asks twice, for
index labels and then for columns, so that the current dataset can be left although it is among the
owners of the column.
-/

namespace TablePhrase

theorem Schema.hasLabels_eq_true_iff {labels items : List Literal} :
    hasLabels labels items = true ↔ ∀ item ∈ items, hasLabel labels item = true := by
  induction items with
  | nil => simp [hasLabels]
  | cons item items ih => simp [hasLabels, ih]

namespace Workspace

variable {w : Workspace} {label : Literal} {d e : Dataset} {owns : Dataset → Bool}

theorem eq_of_name_eq (hnames : w.names.Nodup) (hd : d ∈ w.datasets) (he : e ∈ w.datasets)
    (h : d.name = e.name) : d = e :=
  List.inj_on_of_nodup_map hnames hd he h

theorem dataset?_of_mem (hnames : w.names.Nodup) (hd : d ∈ w.datasets) :
    w.dataset? d.name = some d :=
  find?_name_eq_some hnames hd

theorem activeName?_of_active (h : w.activeDataset? = some d) : w.activeName? = some d.name := by
  rw [activeName?, h]
  rfl

theorem mem_datasets_of_active (h : w.activeDataset? = some d) : d ∈ w.datasets := by
  unfold activeDataset? at h
  split at h
  · exact List.mem_of_find?_eq_some h
  · exact List.mem_of_mem_head? h

/-- The dataset itself if it is an owner, else the first owner; without any owner, itself again. -/
def settle (w : Workspace) (owns : Dataset → Bool) (d : Dataset) : Dataset :=
  if owns d then d else (w.datasets.find? owns).getD d

theorem settle_of_owns (h : owns d = true) : w.settle owns d = d :=
  if_pos h

theorem settle_of_find? (hd : owns d = false) (he : w.datasets.find? owns = some e) :
    w.settle owns d = e := by
  rw [settle, if_neg (by simp [hd]), he]
  rfl

theorem settle_of_no_owner (h : w.datasets.find? owns = none) : w.settle owns d = d := by
  rw [settle, h]
  split <;> rfl

theorem settle_mem (hd : d ∈ w.datasets) : w.settle owns d ∈ w.datasets := by
  cases howner : w.datasets.find? owns with
  | none => rwa [settle_of_no_owner howner]
  | some e =>
    cases h : owns d with
    | true => rwa [settle_of_owns h]
    | false =>
      rw [settle_of_find? h howner]
      exact List.mem_of_find?_eq_some howner

theorem exists_first_owner (he : e ∈ w.datasets) (howns : owns e = true) :
    ∃ first, w.datasets.find? owns = some first := by
  apply Option.isSome_iff_exists.mp
  rw [List.find?_isSome]
  exact ⟨e, he, howns⟩

theorem settle_eq_self_iff :
    w.settle owns d = d ↔ owns d = true ∨ w.datasets.find? owns = none := by
  constructor
  · intro h
    cases hd : owns d with
    | true => exact .inl rfl
    | false =>
      cases howner : w.datasets.find? owns with
      | none => exact .inr rfl
      | some e =>
        have howns : owns e = true := List.find?_some howner
        rw [settle_of_find? hd howner] at h
        rw [h, hd] at howns
        cases howns
  · rintro (h | h)
    · exact settle_of_owns h
    · exact settle_of_no_owner h

theorem preferOwner_eq_settle (hnames : w.names.Nodup) (hd : d ∈ w.datasets) :
    preferOwner ((w.datasets.filter owns).map (·.name)) (some d.name) =
      some (w.settle owns d).name := by
  have hcontains : ((w.datasets.filter owns).map (·.name)).contains d.name = owns d := by
    rw [Bool.eq_iff_iff, List.contains_iff_mem, List.mem_map]
    constructor
    · rintro ⟨e, he, hname⟩
      obtain ⟨hmem, howns⟩ := List.mem_filter.mp he
      rwa [← eq_of_name_eq hnames hmem hd hname]
    · exact fun h => ⟨d, List.mem_filter.mpr ⟨hd, h⟩, rfl⟩
  have hhead : ((w.datasets.filter owns).map (·.name)).head? =
      (w.datasets.find? owns).map (·.name) := by
    rw [List.head?_map, List.head?_filter]
  cases howners : (w.datasets.filter owns).map (·.name) with
  | nil =>
    rw [howners] at hhead
    have hnone : w.datasets.find? owns = none := Option.map_eq_none_iff.mp hhead.symm
    rw [settle_of_no_owner hnone]
    rfl
  | cons first rest =>
    rw [howners] at hhead hcontains
    rw [preferOwner, Option.any_some, hcontains]
    split
    · next howns => rw [settle_of_owns howns]
    · next howns =>
      obtain ⟨e, he, hname⟩ := Option.map_eq_some_iff.mp hhead.symm
      rw [settle_of_find? (Bool.not_eq_true _ ▸ howns) he, hname]

theorem datasetOwning_of_mem (hnames : w.names.Nodup) (hd : d ∈ w.datasets) (label : Literal) :
    w.datasetOwning label (some d.name) =
      some (w.settle (·.schema.hasColumn label)
        (w.settle (·.schema.hasIndexLabel label) d)).name := by
  have hindex : preferOwner (w.indexOwners label) (some d.name) = _ :=
    preferOwner_eq_settle hnames hd
  rw [datasetOwning, hindex]
  exact preferOwner_eq_settle hnames (settle_mem hd)

/-- Whatever is current, the owners of the column have the last word. -/
theorem exists_datasetOwning_of_column (he : e ∈ w.datasets)
    (hcolumn : e.schema.hasColumn label = true) (current : Option String) :
    ∃ d ∈ w.datasets, d.schema.hasColumn label = true ∧
      w.datasetOwning label current = some d.name := by
  have howner : ∀ name ∈ w.columnOwners label,
      ∃ d ∈ w.datasets, d.schema.hasColumn label = true ∧ d.name = name := by
    intro name hname
    obtain ⟨d, hd, rfl⟩ := List.mem_map.mp hname
    obtain ⟨hmem, howns⟩ := List.mem_filter.mp hd
    exact ⟨d, hmem, howns, rfl⟩
  have hmem : e.name ∈ w.columnOwners label :=
    List.mem_map_of_mem (List.mem_filter.mpr ⟨he, hcolumn⟩)
  rw [datasetOwning]
  generalize preferOwner (w.indexOwners label) current = moved
  cases howners : w.columnOwners label with
  | nil =>
    rw [howners] at hmem
    cases hmem
  | cons first rest =>
    rw [howners] at howner
    rw [preferOwner]
    split
    · next hcontains =>
      cases moved with
      | none => cases hcontains
      | some name =>
        obtain ⟨d, hd, howns, rfl⟩ := howner name (List.contains_iff_mem.mp hcontains)
        exact ⟨d, hd, howns, rfl⟩
    · obtain ⟨d, hd, howns, hname⟩ := howner first List.mem_cons_self
      exact ⟨d, hd, howns, by rw [hname]⟩

/-- From a dataset that has the label as a column, the choice ends at such a dataset. It is the same
one unless it lacks the index label and the first owner of the index label takes over: for good if
that one has the column as well, else until the first owner of the column, which may be another. -/
theorem datasetOwning_from_column_owner (w : Workspace) (label : Literal) (d : Dataset)
    (hnames : w.names.Nodup) (hd : d ∈ w.datasets) (hcolumn : d.schema.hasColumn label = true) :
    (∃ e ∈ w.datasets, e.schema.hasColumn label = true ∧
        w.datasetOwning label (some d.name) = some e.name) ∧
      (w.datasetOwning label (some d.name) = some d.name ↔
        ∀ first, w.datasets.find? (·.schema.hasIndexLabel label) = some first →
          d.schema.hasIndexLabel label = true ∨
            first.schema.hasColumn label = false ∧
              w.datasets.find? (·.schema.hasColumn label) = some d) := by
  refine ⟨exists_datasetOwning_of_column hd hcolumn _, ?_⟩
  rw [datasetOwning_of_mem hnames hd]
  constructor
  · intro h first hfirst
    have hback := eq_of_name_eq hnames (settle_mem (settle_mem hd)) hd (Option.some.inj h)
    cases hindex : d.schema.hasIndexLabel label with
    | true => exact .inl rfl
    | false =>
      rw [settle_of_find? hindex hfirst] at hback
      have hfirstColumn : first.schema.hasColumn label = false := by
        rw [← Bool.not_eq_true]
        intro howns
        -- the first owner of the index label would be kept, but it is not the current dataset
        rw [settle_of_owns howns] at hback
        have hfirstIndex := List.find?_some hfirst
        rw [hback, hindex] at hfirstIndex
        cases hfirstIndex
      have hexists : ∃ owner, w.datasets.find? (·.schema.hasColumn label) = some owner :=
        exists_first_owner hd hcolumn
      obtain ⟨owner, howner⟩ := hexists
      rw [settle_of_find? hfirstColumn howner] at hback
      exact .inr ⟨hfirstColumn, hback ▸ howner⟩
  · intro h
    cases hfirst : w.datasets.find? (·.schema.hasIndexLabel label) with
    | none => rw [settle_of_no_owner hfirst, settle_of_owns hcolumn]
    | some first =>
      cases hindex : d.schema.hasIndexLabel label with
      | true =>
        have hstays : w.settle (·.schema.hasIndexLabel label) d = d := settle_of_owns hindex
        rw [hstays, settle_of_owns hcolumn]
      | false =>
        obtain ⟨hfirstColumn, howner⟩ := (h first hfirst).resolve_left (by simp [hindex])
        rw [settle_of_find? hindex hfirst, settle_of_find? hfirstColumn howner]

theorem datasetOwning_from_first_column_owner :
    let d : Dataset := ⟨"current", ⟨["x"], []⟩⟩
    let w : Workspace := ⟨[⟨"rows", ⟨["y"], ["x"]⟩⟩, d, ⟨"other", ⟨["x"], []⟩⟩], some "rows"⟩
    w.names.Nodup ∧ d ∈ w.datasets ∧ d.schema.hasColumn "x" = true ∧
      w.datasetOwning "x" (some d.name) = some d.name := by
  intro d w
  have hnames : w.names.Nodup := by decide
  have hd : d ∈ w.datasets := List.mem_cons_of_mem _ List.mem_cons_self
  have hcolumn : d.schema.hasColumn "x" = true := rfl
  refine ⟨hnames, hd, hcolumn, ?_⟩
  apply (datasetOwning_from_column_owner w "x" d hnames hd hcolumn).2.mpr
  rintro first ⟨⟩
  exact .inr ⟨rfl, rfl⟩

/-- A dataset that has the label on both sides takes it away from one that has the column only. -/
theorem datasetOwning_leaves_column_owner :
    let d : Dataset := ⟨"a", ⟨["x"], []⟩⟩
    let w : Workspace := ⟨[d, ⟨"b", ⟨["x"], ["x"]⟩⟩], some "a"⟩
    w.names.Nodup ∧ d ∈ w.datasets ∧ d.schema.hasColumn "x" = true ∧
      w.datasetOwning "x" (some d.name) = some "b" := by
  intro d w
  have hnames : w.names.Nodup := by decide
  exact ⟨hnames, List.mem_cons_self, rfl, rfl⟩

end Workspace
end TablePhrase
