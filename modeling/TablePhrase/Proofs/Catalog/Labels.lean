import TablePhrase.Proofs.Catalog.Coverage
import TablePhrase.Proofs.Catalog.Shapes
import TablePhrase.Proofs.Session.Labels

/-!
The labels that the entities of the catalog's templates name. Where they name columns, a session
started in a workspace runs against a dataset that has them and keeps them. Where they name rows,
it may run against another dataset than the active one, which need not have the rows: an owner of
the label as a column takes precedence.
-/

namespace TablePhrase

theorem Literal.asList?_of_number? {text : List Char} {v : Literal} (h : number? text = some v) :
    v.asList? = none := by
  simp only [number?] at h
  split at h
  · cases h
    rfl
  · obtain ⟨x, -, rfl⟩ := Option.map_eq_some_iff.mp h
    rfl

theorem Literal.isFlat_of_asList? {v : Literal} (h : v.asList? = none) : v.IsFlat := by
  cases v with
  | list items => cases h
  | _ => trivial

theorem Literal.isFlat_map {α : Type} {f : α → Literal} (hf : ∀ a, (f a).asList? = none)
    (xs : List α) : (Literal.list (xs.map f)).IsFlat := by
  intro item hitem
  obtain ⟨a, -, rfl⟩ := List.mem_map.mp hitem
  exact hf a

theorem Literal.isFlat_singleton {v : Literal} (h : v.asList? = none) : (list [v]).IsFlat :=
  List.forall_mem_singleton.mpr h

theorem EntityKind.isFlat_decode (kind : EntityKind) (text : String) :
    (kind.decode text).IsFlat := by
  cases kind with
  | number =>
    rw [decode]
    cases hnumber : Literal.number? text.toList with
    | none => trivial
    | some v => exact Literal.isFlat_of_asList? (Literal.asList?_of_number? hnumber)
  | value => trivial
  | condition => trivial
  | stringList => exact Literal.isFlat_map (fun _ => rfl) _
  | numberList =>
    rw [decode]
    simp only [Literal.numberList]
    split
    · exact Literal.isFlat_map (fun _ => rfl) _
    · split <;> exact Literal.isFlat_map (fun _ => rfl) _

namespace Catalog
open Operation DecodedEntities

def NamesLabel (place : LabelPlace) (side : Schema → List Literal) (plan : Plan) (template : String)
    (texts : EntityTexts) : Prop :=
  ∃ op label, plan template (.ofTexts texts) = some op ∧ op.NamesLabel place label side

section Plans
variable (template a b c : String)

theorem namesLabel_dropMissingFrom :
    NamesLabel (.argument "subset") (·.columns) dropMissingFrom template ⟨[], [a], [], [], []⟩ := by
  refine ⟨_, .str a, by rw [dropMissingFrom, value?_ofTexts]; rfl, ?_⟩
  exact ⟨rfl, rfl, rfl, .argument rfl rfl rfl rfl fun _ => rfl, trivial⟩

theorem namesLabel_meltWith :
    NamesLabel (.argument "id_vars") (·.columns) meltWith template ⟨[], [], [], [a], []⟩ := by
  refine ⟨_, EntityKind.stringList.decode a, by rw [meltWith, stringList?_ofTexts]; rfl, ?_⟩
  exact ⟨rfl, rfl, rfl, .argument rfl rfl rfl rfl fun _ => rfl,
    EntityKind.stringList.isFlat_decode a⟩

theorem namesLabel_filter :
    NamesLabel (.argument "items") (·.columns) filter template ⟨[], [a], [], [], []⟩ := by
  refine ⟨_, .list [.str a], by rw [filter, value?_ofTexts]; rfl, ?_⟩
  exact ⟨rfl, rfl, rfl, .argument rfl rfl rfl rfl fun _ => rfl, Literal.isFlat_singleton rfl⟩

theorem namesLabel_filter_labels :
    NamesLabel (.argument "items") (·.columns) filter template ⟨[], [], [], [a], []⟩ := by
  refine ⟨_, EntityKind.stringList.decode a,
    by rw [filter, value?_ofTexts, stringList?_ofTexts]; rfl, ?_⟩
  exact ⟨rfl, rfl, rfl, .argument rfl rfl rfl rfl fun _ => rfl,
    EntityKind.stringList.isFlat_decode a⟩

theorem namesLabel_setIndex :
    NamesLabel (.argument "keys") (·.columns) setIndex template ⟨[], [a], [], [], []⟩ := by
  refine ⟨_, .str a, by rw [setIndex, value?_ofTexts]; rfl, ?_⟩
  exact ⟨rfl, rfl, rfl, .argument rfl rfl rfl rfl fun _ => rfl, trivial⟩

theorem namesLabel_sortValues :
    NamesLabel (.argument "by") (·.columns) sortValues template ⟨[], [a], [], [], []⟩ := by
  refine ⟨_, .str a, by rw [sortValues, value?_ofTexts]; rfl, ?_⟩
  exact ⟨rfl, rfl, rfl, .argument rfl rfl rfl rfl fun _ => rfl, trivial⟩

theorem namesLabel_groupBy :
    NamesLabel (.argument "by") (·.columns) groupBy template ⟨[], [a], [], [], []⟩ := by
  refine ⟨_, .str a, by rw [groupBy, value?_ofTexts]; rfl, ?_⟩
  exact ⟨rfl, rfl, rfl, .argument rfl rfl rfl rfl fun _ => rfl, trivial⟩

theorem namesLabel_groupBy_labels :
    NamesLabel (.argument "by") (·.columns) groupBy template ⟨[], [], [], [a], []⟩ := by
  refine ⟨_, EntityKind.stringList.decode a,
    by rw [groupBy, value?_ofTexts, stringList?_ofTexts]; rfl, ?_⟩
  exact ⟨rfl, rfl, rfl, .argument rfl rfl rfl rfl fun _ => rfl,
    EntityKind.stringList.isFlat_decode a⟩

theorem namesLabel_deleteColumns_value :
    NamesLabel (.argument "labels") (·.columns) deleteColumns template ⟨[], [a], [], [], []⟩ := by
  refine ⟨_, .str a, by rw [deleteColumns, isEmpty_ofTexts, value?_ofTexts]; rfl, ?_⟩
  exact ⟨rfl, rfl, rfl, .argument rfl rfl rfl rfl fun _ => rfl, trivial⟩

theorem namesLabel_deleteColumns_labels :
    NamesLabel (.argument "labels") (·.columns) deleteColumns template ⟨[], [], [], [a], []⟩ := by
  refine ⟨_, EntityKind.stringList.decode a,
    by rw [deleteColumns, isEmpty_ofTexts, value?_ofTexts, stringList?_ofTexts]; rfl, ?_⟩
  exact ⟨rfl, rfl, rfl, .argument rfl rfl rfl rfl fun _ => rfl,
    EntityKind.stringList.isFlat_decode a⟩

theorem namesLabel_deleteRows_number :
    NamesLabel (.argument "labels") (·.indexLabels) deleteRows template ⟨[a], [], [], [], []⟩ := by
  refine ⟨_, EntityKind.number.decode a,
    by rw [deleteRows, isEmpty_ofTexts, number?_ofTexts]; rfl, ?_⟩
  exact ⟨rfl, rfl, rfl, .argument rfl rfl rfl rfl fun _ => rfl,
    EntityKind.number.isFlat_decode a⟩

theorem namesLabel_deleteRows_numbers :
    NamesLabel (.argument "labels") (·.indexLabels) deleteRows template ⟨[], [], [a], [], []⟩ := by
  refine ⟨_, EntityKind.numberList.decode a,
    by rw [deleteRows, isEmpty_ofTexts, number?_ofTexts, numberList?_ofTexts]; rfl, ?_⟩
  exact ⟨rfl, rfl, rfl, .argument rfl rfl rfl rfl fun _ => rfl,
    EntityKind.numberList.isFlat_decode a⟩

theorem namesLabel_changeDatatype :
    NamesLabel .scope (·.columns) changeDatatype template ⟨[], [a, b], [], [], []⟩ := by
  refine ⟨_, .str a,
    by rw [changeDatatype, size_ofTexts, value?_ofTexts, value?_ofTexts]; rfl, ?_⟩
  exact ⟨rfl, rfl, rfl, .scope rfl rfl, trivial⟩

theorem namesLabel_roundTo :
    NamesLabel .scope (·.columns) roundTo template ⟨[a], [b], [], [], []⟩ := by
  refine ⟨_, .str b, by rw [roundTo, number?_ofTexts, size_ofTexts, value?_ofTexts]; rfl, ?_⟩
  exact ⟨rfl, rfl, rfl, .scope rfl rfl, trivial⟩

theorem namesLabel_strip :
    NamesLabel .scope (·.columns) strip template ⟨[], [a, b], [], [], []⟩ := by
  refine ⟨_, .str a, by rw [strip, onColumn, value?_ofTexts, value?_ofTexts]; rfl, ?_⟩
  exact ⟨rfl, rfl, rfl, .scope rfl rfl, trivial⟩

theorem namesLabel_split :
    NamesLabel .scope (·.columns) split template ⟨[], [a], [], [], []⟩ := by
  refine ⟨_, .str a, by rw [split, value?_ofTexts, value?_ofTexts, size_ofTexts]; rfl, ?_⟩
  exact ⟨rfl, rfl, rfl, .scope rfl rfl, trivial⟩

theorem namesLabel_split_separator :
    NamesLabel .scope (·.columns) split template ⟨[], [a, b], [], [], []⟩ := by
  refine ⟨_, .str a, by rw [split, value?_ofTexts, value?_ofTexts, size_ofTexts]; rfl, ?_⟩
  exact ⟨rfl, rfl, rfl, .scope rfl rfl, trivial⟩

theorem namesLabel_replaceValues :
    NamesLabel .scope (·.columns) replaceValues template ⟨[], [a, b, c], [], [], []⟩ := by
  refine ⟨_, .str a,
    by rw [replaceValues, isEmpty_ofTexts, value?_ofTexts, value?_ofTexts, value?_ofTexts]; rfl, ?_⟩
  exact ⟨rfl, rfl, rfl, .scope rfl rfl, trivial⟩

theorem namesLabel_joinOn :
    NamesLabel .scope (·.columns) joinOn template ⟨[], [a, b], [], [], []⟩ := by
  refine ⟨_, .str a, by rw [joinOn, onColumn, value?_ofTexts, value?_ofTexts]; rfl, ?_⟩
  exact ⟨rfl, rfl, rfl, .scope rfl rfl, trivial⟩

theorem namesLabel_extract :
    NamesLabel .scope (·.columns) extract template ⟨[], [a, b], [], [], []⟩ := by
  refine ⟨_, .str a,
    by rw [extract, isEmpty_ofTexts, onColumn, value?_ofTexts, value?_ofTexts]; rfl, ?_⟩
  exact ⟨rfl, rfl, rfl, .scope rfl rfl, trivial⟩

theorem namesLabel_uniqueValues :
    NamesLabel .scope (·.columns) uniqueValues template ⟨[], [a], [], [], []⟩ := by
  refine ⟨_, .str a, by rw [uniqueValues, value?_ofTexts]; rfl, ?_⟩
  exact ⟨rfl, rfl, rfl, .scope rfl rfl, trivial⟩

end Plans

theorem resolve_of_find? {template : String} {plan : Plan} {entities : DecodedEntities}
    {op : Operation} (hfind : entries.find? (·.template == template) = some ⟨template, plan⟩)
    (hplan : plan template entities = some op) : resolve template entities = op := by
  rw [resolve, plan?, hfind]
  exact congrArg (·.getD (.missing template)) hplan

def GroundsLabel (place : LabelPlace) (side : Schema → List Literal) (template : String) : Prop :=
  ∀ texts : EntityTexts, texts.counts = .ofTemplate template →
    ∃ label, (resolve template (.ofTexts texts)).NamesLabel place label side

theorem groundsLabel_of_always {template : String} {plan : Plan} {place : LabelPlace}
    {side : Schema → List Literal}
    (hfind : entries.find? (·.template == template) = some ⟨template, plan⟩)
    (h : Entry.Always (NamesLabel place side) ⟨template, plan⟩) :
    GroundsLabel place side template := by
  intro texts hcounts
  obtain ⟨op, label, hplan, hlabel⟩ := h texts hcounts
  refine ⟨label, ?_⟩
  rwa [resolve_of_find? hfind hplan]

/-- The templates whose entities name columns, with the place where the operation has them. -/
def columnPlaces : List (String × LabelPlace) :=
  [("DROP MISSING VALUES FROM <value>", .argument "subset"),
    ("MELT DATAFRAME WITH <string_list> AS COLUMNS", .argument "id_vars"),
    ("FILTER FOR COLUMN <value>", .argument "items"),
    ("FILTER FOR COLUMN <string_list>", .argument "items"),
    ("SET INDEX TO <value>", .argument "keys"),
    ("SORT VALUES BY <value>", .argument "by"),
    ("GROUP BY COLUMN <value>", .argument "by"),
    ("GROUP BY COLUMN <string_list>", .argument "by"),
    ("DELETE COLUMN <value>", .argument "labels"),
    ("DELETE COLUMN <string_list>", .argument "labels"),
    ("ON COLUMN <value> CHANGE DATATYPE TO <value>", .scope),
    ("ON COLUMN <value> ROUND TO <number> DECIMAL POINTS", .scope),
    ("ON COLUMN <value> STRIP <value>", .scope),
    ("SPLIT ON COLUMN <value>", .scope),
    ("ON COLUMN <value> SPLIT ON <value>", .scope),
    ("ON COLUMN <value> REPLACE <value> WITH <value>", .scope),
    ("ON COLUMN <value> JOIN ON <value>", .scope),
    ("ON COLUMN <value> EXTRACT <value>", .scope),
    ("GET UNIQUE VALUES FROM <value>", .scope)]

theorem groundsLabel_columnPlaces :
    ∀ entry ∈ columnPlaces, GroundsLabel entry.2 (·.columns) entry.1 := by
  simp only [columnPlaces, List.forall_mem_cons]
  exact ⟨
    groundsLabel_of_always rfl (always_of_value (by decide +kernel) namesLabel_dropMissingFrom),
    groundsLabel_of_always rfl (always_of_stringList (by decide +kernel) namesLabel_meltWith),
    groundsLabel_of_always rfl (always_of_value (by decide +kernel) namesLabel_filter),
    groundsLabel_of_always rfl (always_of_stringList (by decide +kernel) namesLabel_filter_labels),
    groundsLabel_of_always rfl (always_of_value (by decide +kernel) namesLabel_setIndex),
    groundsLabel_of_always rfl (always_of_value (by decide +kernel) namesLabel_sortValues),
    groundsLabel_of_always rfl (always_of_value (by decide +kernel) namesLabel_groupBy),
    groundsLabel_of_always rfl (always_of_stringList (by decide +kernel) namesLabel_groupBy_labels),
    groundsLabel_of_always rfl (always_of_value (by decide +kernel) namesLabel_deleteColumns_value),
    groundsLabel_of_always rfl
      (always_of_stringList (by decide +kernel) namesLabel_deleteColumns_labels),
    groundsLabel_of_always rfl (always_of_two_values (by decide +kernel) namesLabel_changeDatatype),
    groundsLabel_of_always rfl (always_of_number_value (by decide +kernel) namesLabel_roundTo),
    groundsLabel_of_always rfl (always_of_two_values (by decide +kernel) namesLabel_strip),
    groundsLabel_of_always rfl (always_of_value (by decide +kernel) namesLabel_split),
    groundsLabel_of_always rfl
      (always_of_two_values (by decide +kernel) namesLabel_split_separator),
    groundsLabel_of_always rfl
      (always_of_three_values (by decide +kernel) namesLabel_replaceValues),
    groundsLabel_of_always rfl (always_of_two_values (by decide +kernel) namesLabel_joinOn),
    groundsLabel_of_always rfl (always_of_two_values (by decide +kernel) namesLabel_extract),
    groundsLabel_of_always rfl (always_of_value (by decide +kernel) namesLabel_uniqueValues),
    nofun⟩

def rowTemplates : List String :=
  ["DELETE ROW <number>", "DELETE ROWS <number_list>"]

theorem groundsLabel_rowTemplates :
    ∀ template ∈ rowTemplates, GroundsLabel (.argument "labels") (·.indexLabels) template := by
  simp only [rowTemplates, List.forall_mem_cons]
  exact ⟨
    groundsLabel_of_always rfl
      (always_of_number (by decide +kernel) namesLabel_deleteRows_number),
    groundsLabel_of_always rfl
      (always_of_numberList (by decide +kernel) namesLabel_deleteRows_numbers),
    nofun⟩

/-- Columns that an entity names are kept, without a warning, if some dataset has them. -/
theorem selectIn_keeps_columns :
    ∀ entry ∈ columnPlaces, ∀ texts : EntityTexts, texts.counts = .ofTemplate entry.1 →
      ∃ label, entry.2.label? (resolve entry.1 (.ofTexts texts)) = some label ∧
        ∀ (w : Workspace) (s : Session), w.names.Nodup → s.phase ≠ .finalized →
          (∃ d ∈ w.datasets, d.schema.hasColumn label = true) →
          ∃ t, (Session.selectIn (resolve entry.1 (.ofTexts texts)) w).run s = .ok .configured t ∧
            t.dataset ∈ w.datasets ∧ t.dataset.schema.hasColumn label = true ∧
            entry.2.value? t = some label ∧
            ∀ warning ∈ t.warnings, warning.parameter ≠ entry.2.key := by
  intro entry hentry texts hcounts
  obtain ⟨label, hlabel⟩ := groundsLabel_columnPlaces entry hentry texts hcounts
  refine ⟨label, hlabel.label?_eq, ?_⟩
  rintro w s hnames hs ⟨d, hd, hcolumn⟩
  exact hlabel.run_selectIn_of_column hnames hd hcolumn hs

theorem selectIn_keeps_both_columns :
    let template := "GROUP BY COLUMN <string_list>"
    let texts : EntityTexts := ⟨[], [], [], ["'b', \"a\""], []⟩
    let label : Literal := .list ["b", "a"]
    let d : Dataset := ⟨"both", ⟨["a", "b"], []⟩⟩
    let w : Workspace :=
      ⟨[⟨"rows", ⟨["c"], ["a", "b"]⟩⟩, ⟨"one", ⟨["a"], []⟩⟩, d], some "one"⟩
    let op := resolve template (.ofTexts texts)
    (template, .argument "by") ∈ columnPlaces ∧ texts.counts = .ofTemplate template ∧
      w.names.Nodup ∧ (d ∈ w.datasets ∧ d.schema.hasColumn label = true) ∧
      ∃ t, (Session.selectIn op w).run (.new .standard) = .ok .configured t ∧
        (t.parameter? "by").map (·.value) = some label ∧
        ∀ warning ∈ t.warnings, warning.parameter ≠ "by" := by
  intro template texts label d w op
  have hentry : (template, LabelPlace.argument "by") ∈ columnPlaces := by decide
  have hcounts : texts.counts = .ofTemplate template := by decide +kernel
  have hnames : w.names.Nodup := by decide
  have hd : d ∈ w.datasets ∧ d.schema.hasColumn label = true := ⟨by simp [w], rfl⟩
  refine ⟨hentry, hcounts, hnames, hd, ?_⟩
  obtain ⟨named, hnamed, hkept⟩ := selectIn_keeps_columns _ hentry texts hcounts
  have hitems : (Text.splitOn [',', ' '] "'b', \"a\"".toList).map
      (fun item => String.ofList (stripQuotes (Unicode.trim item))) = ["b", "a"] := by
    decide +kernel
  have hdecode : EntityKind.stringList.decode "'b', \"a\"" = label := by
    have hmap := congrArg (List.map Literal.str) hitems
    rw [List.map_map] at hmap
    exact congrArg Literal.list hmap
  have hop : op = _ := resolve_of_find? rfl
    (by rw [groupBy, value?_ofTexts, stringList?_ofTexts]; rfl)
  have hlabel : op.arguments.get? "by" = some label := by
    rw [hop]
    exact congrArg some hdecode
  obtain rfl : label = named := Option.some.inj (hlabel.symm.trans hnamed)
  obtain ⟨t, hrun, -, -, hvalue, hwarnings⟩ := hkept w (.new .standard) hnames (by decide) ⟨d, hd⟩
  exact ⟨t, hrun, hvalue, hwarnings⟩

/-- Rows that an entity names and the active dataset has are deleted in the active dataset exactly
if this has the label as a column too, or none has. Otherwise the session runs against the first
dataset with the column, where the label is kept only if there are such rows. -/
theorem selectIn_deletes_rows :
    ∀ template ∈ rowTemplates, ∀ texts : EntityTexts, texts.counts = .ofTemplate template →
      ∃ label, (resolve template (.ofTexts texts)).arguments.get? "labels" = some label ∧
        ∀ (w : Workspace) (active : Dataset) (s : Session), w.names.Nodup →
          w.activeDataset? = some active → active.schema.hasIndexLabel label = true →
          s.phase ≠ .finalized →
          ∃ t, (Session.selectIn (resolve template (.ofTexts texts)) w).run s = .ok .configured t ∧
            t.dataset = w.settle (·.schema.hasColumn label) active ∧
            (t.dataset = active ↔ active.schema.hasColumn label = true ∨
              ∀ d ∈ w.datasets, d.schema.hasColumn label = false) ∧
            (t.dataset.schema.hasIndexLabel label = true →
              (t.parameter? "labels").map (·.value) = some label ∧
                ∀ warning ∈ t.warnings, warning.parameter ≠ "labels") := by
  intro template htemplate texts hcounts
  obtain ⟨label, hlabel⟩ := groundsLabel_rowTemplates template htemplate texts hcounts
  refine ⟨label, hlabel.label?_eq, ?_⟩
  intro w active s hnames hactive hindex hs
  obtain ⟨t, hrun, hdataset, hvalue, hwarnings⟩ :=
    hlabel.run_selectIn (hlabel.datasetFor_of_active hnames hactive hindex) hs
  rw [← hdataset] at hvalue hwarnings
  refine ⟨t, hrun, hdataset, ?_, fun hkept => ?_⟩
  · rw [hdataset, Workspace.settle_eq_self_iff, List.find?_eq_none]
    simp only [Bool.not_eq_true]
  · rw [hlabel.revalidate_of_hasLabel hkept] at hvalue hwarnings
    exact ⟨hvalue, fun warning hmem hkey => nomatch hwarnings warning hmem hkey⟩

theorem selectIn_deletes_active_rows :
    let template := "DELETE ROWS <number_list>"
    let texts : EntityTexts := ⟨[], [], ["2, 0"], [], []⟩
    let label : Literal := .list [.int 2, .int 0]
    let active : Dataset := ⟨"active", ⟨["x"], [.int 0, .int 1, .int 2]⟩⟩
    let w : Workspace :=
      ⟨[⟨"first", ⟨["2"], [.int 0, .int 2]⟩⟩, active, ⟨"last", ⟨[.int 2], [.int 5]⟩⟩],
        some "active"⟩
    let op := resolve template (.ofTexts texts)
    template ∈ rowTemplates ∧ texts.counts = .ofTemplate template ∧ w.names.Nodup ∧
      w.activeDataset? = some active ∧ active.schema.hasIndexLabel label = true ∧
      ∃ t, (Session.selectIn op w).run (.new .standard) = .ok .configured t ∧ t.dataset = active ∧
        (t.parameter? "labels").map (·.value) = some label ∧
        ∀ warning ∈ t.warnings, warning.parameter ≠ "labels" := by
  intro template texts label active w op
  have htemplate : template ∈ rowTemplates := by decide
  have hcounts : texts.counts = .ofTemplate template := by decide +kernel
  have hnames : w.names.Nodup := by decide
  have hindex : active.schema.hasIndexLabel label = true := rfl
  refine ⟨htemplate, hcounts, hnames, rfl, hindex, ?_⟩
  obtain ⟨named, hnamed, hrows⟩ := selectIn_deletes_rows template htemplate texts hcounts
  have hints : ((Text.splitOn [','] "2, 0".toList).map Unicode.trim).mapM Decimal.int64? =
      some [2, 0] := by decide +kernel
  have hdecode : EntityKind.numberList.decode "2, 0" = label := by
    rw [EntityKind.decode, Literal.numberList]
    simp only [hints]
    rfl
  have hop : op = _ := resolve_of_find? rfl
    (by rw [deleteRows, isEmpty_ofTexts, number?_ofTexts, numberList?_ofTexts]; rfl)
  have hlabel : op.arguments.get? "labels" = some label := by
    rw [hop]
    exact congrArg some hdecode
  obtain rfl : label = named := Option.some.inj (hlabel.symm.trans hnamed)
  obtain ⟨t, hrun, -, hactive, hkept⟩ :=
    hrows w active (.new .standard) hnames rfl hindex (by decide)
  have hdataset : t.dataset = active := by
    apply hactive.mpr
    right
    decide
  exact ⟨t, hrun, hdataset, hkept (by rw [hdataset]; rfl)⟩

/-- A column named 1 takes the deletion of row 1 to another dataset, and to row 7 there. -/
theorem selectIn_deletes_other_row :
    let texts : EntityTexts := ⟨["1"], [], [], [], []⟩
    let op := resolve "DELETE ROW <number>" (.ofTexts texts)
    let active : Dataset := ⟨"a", ⟨["x"], [.int 0, .int 1]⟩⟩
    let other : Dataset := ⟨"b", ⟨[.int 1], [.int 7]⟩⟩
    let w : Workspace := ⟨[active, other], some "a"⟩
    texts.counts = .ofTemplate "DELETE ROW <number>" ∧
      op.arguments.get? "labels" = some (.int 1) ∧ w.names.Nodup ∧
      w.activeDataset? = some active ∧ active.schema.hasIndexLabel (.int 1) = true ∧
      ∃ t, (Session.selectIn op w).run (.new .standard) = .ok .configured t ∧ t.dataset = other ∧
        (t.parameter? "labels").map (·.value) = some (.int 7) := by
  intro texts op active other w
  have hcounts : texts.counts = .ofTemplate "DELETE ROW <number>" := by decide +kernel
  have hint : Decimal.int64? (Unicode.trim "1".toList) = some 1 := by decide +kernel
  have hdecode : EntityKind.number.decode "1" = .int 1 := by
    rw [EntityKind.decode, Literal.number?]
    simp only [hint]
    rfl
  have hop : op = _ := resolve_of_find? rfl
    (by rw [deleteRows, isEmpty_ofTexts, number?_ofTexts]; rfl)
  have hlabel : op.arguments.get? "labels" = some (.int 1) := by
    rw [hop]
    exact congrArg some hdecode
  refine ⟨hcounts, hlabel, by decide, rfl, rfl, ?_⟩
  obtain ⟨label, hnames⟩ := groundsLabel_rowTemplates _ List.mem_cons_self texts hcounts
  obtain rfl : Literal.int 1 = label := Option.some.inj (hlabel.symm.trans hnames.label?_eq)
  have hdataset : w.datasetFor op = some other :=
    hnames.datasetFor_of_active (by decide) (d := active) rfl rfl
  obtain ⟨t, hrun, hother, hvalue, -⟩ :=
    hnames.run_selectIn hdataset (s := .new .standard) (by decide)
  exact ⟨t, hrun, hother, hvalue⟩

end Catalog
end TablePhrase
