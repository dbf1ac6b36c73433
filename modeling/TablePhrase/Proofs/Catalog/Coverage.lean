import TablePhrase.Catalog.Basic
import TablePhrase.Proofs.Entity.Decoded
import TablePhrase.Proofs.Operation.Filling

/-!
What the plans of the catalog make of the entities of their templates: an operation that can be
started and that carries each of the entities.
-/

namespace TablePhrase

/-- Where an operation keeps a literal that was given to it. -/
inductive Operation.Carries (op : Operation) (v : Literal) : Prop
  | argument (name : String) (h : op.arguments.get? name = some v)
  | scope (h : op.scope = some v)
  | item (hname : op.name = "filter") (h : op.arguments.get? "items" = some (.list [v]))
  | renamed (text : String) (new : Literal) (hv : v = .str text) (hname : op.name = "rename")
    (h : op.arguments.get? "mapper" = some (.map [(text, new)]))
  | replacement (old : String) (hname : op.name = "rename")
    (h : op.arguments.get? "mapper" = some (.map [(old, v)]))
  /-- The text of the mapping, read with either kind of quotes. -/
  | mapping (text : String) (j : Json) (entries : List (String × Literal)) (hv : v = .str text)
    (hname : op.name = "rename")
    (hj : Json.parse? (String.ofList (Text.replaceAll ['\''] ['"'] text.toList)) = some j)
    (hentries : Literal.ofJson? Json.maxLevels j = some (.map entries))
    (h : op.arguments.get? "mapper" = some (.map entries))

namespace Operation

theorem carries_argument (op : Operation) (name : String) (v : Literal) :
    (op.argument name v).Carries v := by
  exact Carries.argument name (KeyMap.get?_insert_self _ _ _)

end Operation

namespace DecodedEntities

theorem number?_ofTexts (texts : EntityTexts) (index : Nat) :
    (ofTexts texts).number? index = texts.numbers[index]?.map EntityKind.number.decode :=
  get?_ofTexts texts .number index

theorem value?_ofTexts (texts : EntityTexts) (index : Nat) :
    (ofTexts texts).value? index = texts.values[index]?.map .str :=
  get?_ofTexts texts .value index

theorem numberList?_ofTexts (texts : EntityTexts) (index : Nat) :
    (ofTexts texts).numberList? index =
      texts.numberLists[index]?.map EntityKind.numberList.decode :=
  get?_ofTexts texts .numberList index

theorem stringList?_ofTexts (texts : EntityTexts) (index : Nat) :
    (ofTexts texts).stringList? index =
      texts.stringLists[index]?.map EntityKind.stringList.decode :=
  get?_ofTexts texts .stringList index

end DecodedEntities

namespace Catalog
open Operation

/-- The plan makes an operation of the entities that can be started and that loses none of them. -/
def Serves (plan : Plan) (template : String) (texts : EntityTexts) : Prop :=
  ∃ op target name, plan template (.ofTexts texts) = some op ∧ name ≠ missingName ∧
    op.Calls target name ∧ ∀ v ∈ texts.literals, op.Carries v

variable {plan : Plan} {template : String} {texts : EntityTexts} {op : Operation}
  {target : CallTarget} {name : String}

theorem serves_of_carries (name : String) (hname : name ≠ missingName)
    (hplan : plan template (.ofTexts texts) = some op) (hcalls : op.Calls target name)
    (hcarries : ∀ v ∈ texts.literals, op.Carries v) : Serves plan template texts :=
  ⟨op, target, name, hplan, hname, hcalls, hcarries⟩

theorem serves_of_no_literals (name : String) (hname : name ≠ missingName)
    (hplan : plan template (.ofTexts texts) = some op) (hliterals : texts.literals = [])
    (hcalls : op.Calls target name) : Serves plan template texts := by
  apply serves_of_carries name hname hplan hcalls
  rw [hliterals]
  exact nofun

theorem serves_of_one (name : String) {v : Literal} (hname : name ≠ missingName)
    (hplan : plan template (.ofTexts texts) = some op) (hliterals : texts.literals = [v])
    (hcalls : op.Calls target name) (hv : op.Carries v) : Serves plan template texts := by
  apply serves_of_carries name hname hplan hcalls
  rw [hliterals, List.forall_mem_singleton]
  exact hv

theorem serves_of_filled (name p : String) {value : Option Literal} {v : Literal}
    (hname : name ≠ missingName) (hplan : plan template (.ofTexts texts) = filled op p value)
    (hvalue : value = some v) (hliterals : texts.literals = [v])
    (hcalls : op.Calls target name) (hp : p ∈ parameterNames target name) :
    Serves plan template texts := by
  rw [hvalue] at hplan
  exact serves_of_one name hname hplan hliterals (hcalls.argument hp v) (op.carries_argument p v)

theorem serves_of_two (name : String) {v w : Literal} (hname : name ≠ missingName)
    (hplan : plan template (.ofTexts texts) = some op) (hliterals : texts.literals = [v, w])
    (hcalls : op.Calls target name) (hv : op.Carries v) (hw : op.Carries w) :
    Serves plan template texts := by
  apply serves_of_carries name hname hplan hcalls
  rw [hliterals, List.forall_mem_cons, List.forall_mem_singleton]
  exact ⟨hv, hw⟩

theorem serves_of_onColumn (name p : String) {a b : String} (hname : name ≠ missingName)
    (hplan : plan template (.ofTexts ⟨[], [a, b], [], [], []⟩) =
      onColumn op p (.ofTexts ⟨[], [a, b], [], [], []⟩))
    (hcalls : op.Calls target name) (hp : p ∈ parameterNames target name) :
    Serves plan template ⟨[], [a, b], [], [], []⟩ := by
  apply serves_of_two name hname
  · rw [hplan, onColumn, DecodedEntities.value?_ofTexts, DecodedEntities.value?_ofTexts]
    rfl
  · rfl
  · exact (hcalls.argument hp _).scopedTo _
  · exact .scope rfl
  · exact .argument p (KeyMap.get?_insert_self _ _ _)

section Plans
variable (template a b c : String)
open DecodedEntities

theorem serves_toDatetime : Serves toDatetime template ⟨[], [a], [], [], []⟩ := by
  apply serves_of_filled "to_datetime" "arg" (by decide) rfl (value?_ofTexts _ 0) rfl
  · exact (((calls_plain _ _).adjust (by decide) _).adjust (by decide) _).adjust (by decide) _
  · decide

theorem serves_toNumeric : Serves toNumeric template ⟨[], [a], [], [], []⟩ := by
  apply serves_of_filled "to_numeric" "arg" (by decide) rfl (value?_ofTexts _ 0) rfl
  · exact ((calls_plain _ _).adjust (by decide) _).adjust (by decide) _
  · decide

theorem serves_readCsv : Serves readCsv template ⟨[], [a], [], [], []⟩ := by
  apply serves_of_filled "read_csv" "filepath_or_buffer" (by decide) rfl (value?_ofTexts _ 0) rfl
  · apply Calls.foldl_adjust
    · exact (((((calls_plain _ _).adjust (by decide) _).adjust (by decide) _).adjust (by decide)
        _).adjust (by decide) _).adjust (by decide) _
    · decide
  · decide

theorem serves_showInformation : Serves showInformation template ⟨[], [], [], [], []⟩ := by
  apply serves_of_no_literals "info" (by decide) rfl rfl
  exact (((calls_plain _ _).adjust (by decide) _).adjust (by decide) _).adjust (by decide) _

theorem serves_describe : Serves describe template ⟨[], [], [], [], []⟩ := by
  apply serves_of_no_literals "describe" (by decide) rfl rfl
  exact calls_plain _ _

theorem calls_head : (head template).Calls .table "head" :=
  ((calls_plain _ _).adjust (by decide) _).scopable

theorem serves_showFirstRows : Serves showFirstRows template ⟨[], [], [], [], []⟩ := by
  apply serves_of_no_literals "head" (by decide) rfl rfl
  exact calls_head template

theorem serves_showFirstNumberRows :
    Serves showFirstNumberRows template ⟨[a], [], [], [], []⟩ := by
  apply serves_of_filled "head" "n" (by decide) rfl (number?_ofTexts _ 0) rfl
  · exact calls_head template
  · decide

theorem serves_showMissing : Serves showMissing template ⟨[], [], [], [], []⟩ := by
  apply serves_of_no_literals "isnull" (by decide) rfl rfl
  exact calls_plain _ _

theorem calls_dropna : (dropna template).Calls .table "dropna" :=
  (((calls_plain _ _).adjust (by decide) _).adjust (by decide) _).adjust (by decide) _

theorem serves_dropMissing : Serves dropMissing template ⟨[], [], [], [], []⟩ := by
  apply serves_of_no_literals "dropna" (by decide) rfl rfl
  exact calls_dropna template

theorem serves_dropMissingFrom : Serves dropMissingFrom template ⟨[], [a], [], [], []⟩ := by
  apply serves_of_filled "dropna" "subset" (by decide) rfl (value?_ofTexts _ 0) rfl
  · exact calls_dropna template
  · decide

theorem serves_fillMissing_value : Serves fillMissing template ⟨[], [a], [], [], []⟩ := by
  have hvalue : ((ofTexts ⟨[], [a], [], [], []⟩).value? 0 <|>
      (ofTexts ⟨[], [a], [], [], []⟩).number? 0) = some (.str a) := by
    rw [value?_ofTexts]
    rfl
  apply serves_of_filled "fillna" "value" (by decide) rfl hvalue rfl
  · exact (((calls_plain _ _).adjust (by decide) _).adjust (by decide) _).adjust (by decide) _
      |>.scopable
  · decide

theorem serves_fillMissing_number : Serves fillMissing template ⟨[a], [], [], [], []⟩ := by
  have hvalue : ((ofTexts ⟨[a], [], [], [], []⟩).value? 0 <|>
      (ofTexts ⟨[a], [], [], [], []⟩).number? 0) = some (EntityKind.number.decode a) := by
    rw [value?_ofTexts, number?_ofTexts]
    rfl
  apply serves_of_filled "fillna" "value" (by decide) rfl hvalue rfl
  · exact (((calls_plain _ _).adjust (by decide) _).adjust (by decide) _).adjust (by decide) _
      |>.scopable
  · decide

theorem serves_dropDuplicates : Serves dropDuplicates template ⟨[], [], [], [], []⟩ := by
  apply serves_of_no_literals "drop_duplicates" (by decide) rfl rfl
  exact ((calls_plain _ _).adjust (by decide) _).adjust (by decide) _

theorem serves_changeDatatype : Serves changeDatatype template ⟨[], [a], [], [], []⟩ := by
  apply serves_of_one "astype" (by decide)
  · unfold changeDatatype
    rw [size_ofTexts, value?_ofTexts, value?_ofTexts]
    rfl
  · rfl
  · exact ((calls_plain _ _).adjust (by decide) _).scopable.argument (by decide) _
  · exact carries_argument _ _ _

theorem serves_changeDatatype_column : Serves changeDatatype template ⟨[], [a, b], [], [], []⟩ := by
  apply serves_of_two "astype" (by decide)
  · unfold changeDatatype
    rw [size_ofTexts, value?_ofTexts, value?_ofTexts]
    rfl
  · rfl
  · exact (((calls_plain _ _).adjust (by decide) _).scopable.argument (by decide) _).scopedTo _
  · exact .scope rfl
  · exact .argument "dtype" (KeyMap.get?_insert_self _ _ _)

theorem serves_roundTo : Serves roundTo template ⟨[a], [], [], [], []⟩ := by
  apply serves_of_one "round" (by decide)
  · unfold roundTo
    rw [size_ofTexts, number?_ofTexts]
    rfl
  · rfl
  · exact ((calls_plain _ _).argument (by decide) _).scopable
  · exact .argument "decimals" (KeyMap.get?_insert_self _ _ _)

theorem serves_roundTo_column : Serves roundTo template ⟨[a], [b], [], [], []⟩ := by
  apply serves_of_two "round" (by decide)
  · unfold roundTo
    rw [size_ofTexts, number?_ofTexts, value?_ofTexts]
    rfl
  · rfl
  · exact ((calls_plain _ _).argument (by decide) _).scopable.scopedTo _
  · exact .argument "decimals" (KeyMap.get?_insert_self _ _ _)
  · exact .scope rfl

theorem calls_rename (mapper : Literal) :
    (((((plain template .table "rename" "Alter axes labels.").argument "mapper" mapper).argument
      "axis" "columns").adjust "mapper" (.ofKind .heterogeneous)).adjust "level"
      (.ofKind .numeric)).Calls .table "rename" :=
  ((((calls_plain _ _).argument (by decide) _).argument (by decide) _).adjust (by decide) _).adjust
    (by decide) _

theorem serves_rename : Serves rename template ⟨[], [a, b], [], [], []⟩ := by
  have hmapper (v : Literal) :
      (((KeyMap.empty.insert "mapper" v).insert "axis" "columns").get? "mapper") = some v := by
    simp
  apply serves_of_two "rename" (by decide)
  · unfold rename
    rw [size_ofTexts, value?_ofTexts, value?_ofTexts]
    rfl
  · rfl
  · exact calls_rename template _
  · exact .renamed a (.str b) rfl rfl (hmapper _)
  · exact .replacement a rfl (hmapper _)

theorem renameMapper_of_map {text : String} {j : Json} {entries : List (String × Literal)}
    (hj : Json.parse? (String.ofList (Text.replaceAll ['\''] ['"'] text.toList)) = some j)
    (hentries : Literal.ofJson? Json.maxLevels j = some (.map entries)) :
    renameMapper (.str text) = .map entries := by
  simp [renameMapper, Literal.asString?, hj, hentries]

theorem renameMapper_str (text : String) :
    (∃ j entries,
      Json.parse? (String.ofList (Text.replaceAll ['\''] ['"'] text.toList)) = some j ∧
        Literal.ofJson? Json.maxLevels j = some (.map entries) ∧
        renameMapper (.str text) = .map entries) ∨
      renameMapper (.str text) = .str text := by
  cases hj : Json.parse? (String.ofList (Text.replaceAll ['\''] ['"'] text.toList)) with
  | none => exact .inr (by simp [renameMapper, Literal.asString?, hj])
  | some j =>
    by_cases hread : ∃ entries, Literal.ofJson? Json.maxLevels j = some (.map entries)
    · obtain ⟨entries, hentries⟩ := hread
      exact .inl ⟨j, entries, rfl, hentries, renameMapper_of_map hj hentries⟩
    · refine .inr ?_
      simp only [renameMapper, Literal.asString?, hj, Option.bind_eq_bind, Option.bind_some]
      split
      · next entries hentries => exact absurd ⟨entries, hentries⟩ hread
      · rfl

theorem serves_rename_columns : Serves rename template ⟨[], [a], [], [], []⟩ := by
  have hmapper (v : Literal) :
      (((KeyMap.empty.insert "mapper" v).insert "axis" "columns").get? "mapper") = some v := by
    simp
  apply serves_of_one "rename" (by decide)
  · unfold rename
    rw [size_ofTexts, value?_ofTexts]
    rfl
  · rfl
  · exact calls_rename template _
  · rcases renameMapper_str a with ⟨j, entries, hj, hentries, hmap⟩ | hkept
    · exact .mapping a j entries rfl rfl hj hentries ((hmapper _).trans (congrArg some hmap))
    · exact .argument "mapper" ((hmapper _).trans (congrArg some hkept))

theorem serves_melt : Serves melt template ⟨[], [], [], [], []⟩ := by
  apply serves_of_no_literals "melt" (by decide) rfl rfl
  exact ((calls_plain _ _).adjust (by decide) _).adjust (by decide) _

theorem serves_meltWith : Serves meltWith template ⟨[], [], [], [a], []⟩ := by
  apply serves_of_filled "melt" "id_vars" (by decide) rfl (stringList?_ofTexts _ 0) rfl
  · exact ((calls_plain _ _).adjust (by decide) _).adjust (by decide) _
  · decide

theorem calls_filter (items : Literal) (summary : String) :
    ((((plain template .table "filter" summary).argument "items" items).argument "axis"
      "columns").adjust "items" (.several .schemaAxis)).Calls .table "filter" :=
  (((calls_plain _ _).argument (by decide) _).argument (by decide) _).adjust (by decide) _

theorem serves_filter : Serves filter template ⟨[], [a], [], [], []⟩ := by
  apply serves_of_one "filter" (by decide)
  · unfold filter
    rw [value?_ofTexts]
    rfl
  · rfl
  · exact calls_filter template _ _
  · exact .item rfl (by simp [adjust, argument, plain, EntityKind.decode])

theorem serves_filter_labels : Serves filter template ⟨[], [], [], [a], []⟩ := by
  apply serves_of_one "filter" (by decide)
  · unfold filter
    rw [value?_ofTexts, stringList?_ofTexts]
    rfl
  · rfl
  · exact calls_filter template _ _
  · exact .argument "items" (by simp [adjust, argument, plain, EntityKind.decode])

theorem serves_setIndex : Serves setIndex template ⟨[], [a], [], [], []⟩ := by
  apply serves_of_filled "set_index" "keys" (by decide) rfl (value?_ofTexts _ 0) rfl
  · exact (calls_plain _ _).adjust (by decide) _
  · decide

theorem serves_resetIndex : Serves resetIndex template ⟨[], [], [], [], []⟩ := by
  apply serves_of_no_literals "reset_index" (by decide) rfl rfl
  exact calls_plain _ _

theorem serves_sortValues : Serves sortValues template ⟨[], [a], [], [], []⟩ := by
  apply serves_of_one "sort_values" (by decide)
  · unfold sortValues
    rw [value?_ofTexts]
    rfl
  · rfl
  · exact ((((((calls_plain _ _).argument (by decide) _).argument (by decide) _).argument
      (by decide) _).adjust (by decide) _).adjust (by decide) _).adjust (by decide) _
  · exact .argument "by" (by simp [adjust, argument, plain, EntityKind.decode])

theorem serves_assign : Serves assign template ⟨[], [], [], [], []⟩ := by
  apply serves_of_no_literals "assign" (by decide) rfl rfl
  exact calls_plain _ _

theorem serves_assignAs : Serves assignAs template ⟨[], [a], [], [], []⟩ := by
  apply serves_of_filled "assign" "kwargs" (by decide) rfl (value?_ofTexts _ 0) rfl
  · exact calls_plain _ _
  · decide

theorem calls_groupBy (by_ : Literal) (summary : String) :
    ((((((plain template .table "groupby" summary).argument "by" by_).argument "axis"
      "columns").adjust "by" (.several .schemaAxis)).adjust "level" (.ofKind .numeric)).adjust
      "squeeze" (Adjustment.withDefault (.ofKind .boolean) false)).Calls .table "groupby" :=
  (((((calls_plain _ _).argument (by decide) _).argument (by decide) _).adjust (by decide) _).adjust
    (by decide) _).adjust (by decide) _

theorem serves_groupBy : Serves groupBy template ⟨[], [a], [], [], []⟩ := by
  apply serves_of_one "groupby" (by decide)
  · unfold groupBy
    rw [value?_ofTexts]
    rfl
  · rfl
  · exact calls_groupBy template _ _
  · exact .argument "by" (by simp [adjust, argument, plain, EntityKind.decode])

theorem serves_groupBy_labels : Serves groupBy template ⟨[], [], [], [a], []⟩ := by
  apply serves_of_one "groupby" (by decide)
  · unfold groupBy
    rw [value?_ofTexts, stringList?_ofTexts]
    rfl
  · rfl
  · exact calls_groupBy template _ _
  · exact .argument "by" (by simp [adjust, argument, plain])

theorem serves_aggregate : Serves aggregate template ⟨[], [a], [], [], []⟩ := by
  apply serves_of_filled "agg" "func" (by decide) rfl (value?_ofTexts _ 0) rfl
  · exact (calls_plain _ _).scopable
  · decide

theorem serves_saveCsv : Serves saveCsv template ⟨[], [], [], [], []⟩ := by
  apply serves_of_no_literals "to_csv" (by decide) rfl rfl
  exact calls_plain _ _

theorem serves_saveCsvAs : Serves saveCsvAs template ⟨[], [a], [], [], []⟩ := by
  apply serves_of_filled "to_csv" "path_or_buf" (by decide) rfl (value?_ofTexts _ 0) rfl
  · exact calls_plain _ _
  · decide

theorem calls_deleteColumns (summary : String) :
    (((((plain template .table "drop" summary).argument "axis" "columns").adjust "labels"
      (.several .schemaAxis)).adjust "index" (.ofKind .schemaAxis)).adjust "columns"
      (.ofKind .schemaColumns) |>.adjust "level" (.ofKind .numeric)).Calls .table "drop" :=
  (((((calls_plain _ _).argument (by decide) _).adjust (by decide) _).adjust (by decide) _).adjust
    (by decide) _).adjust (by decide) _

theorem serves_deleteColumns : Serves deleteColumns template ⟨[], [], [], [], []⟩ := by
  apply serves_of_no_literals "drop" (by decide)
  · unfold deleteColumns
    rw [isEmpty_ofTexts]
    rfl
  · rfl
  · exact calls_deleteColumns template _

theorem serves_deleteColumns_value : Serves deleteColumns template ⟨[], [a], [], [], []⟩ := by
  apply serves_of_one "drop" (by decide)
  · unfold deleteColumns
    rw [isEmpty_ofTexts, value?_ofTexts]
    rfl
  · rfl
  · exact (calls_deleteColumns template _).argument (by decide) _
  · exact carries_argument _ _ _

theorem serves_deleteColumns_labels : Serves deleteColumns template ⟨[], [], [], [a], []⟩ := by
  apply serves_of_one "drop" (by decide)
  · unfold deleteColumns
    rw [isEmpty_ofTexts, value?_ofTexts, stringList?_ofTexts]
    rfl
  · rfl
  · exact (calls_deleteColumns template _).argument (by decide) _
  · exact carries_argument _ _ _

theorem calls_deleteRows (summary : String) :
    (((plain template .table "drop" summary).adjust "labels" (.several .schemaAxis)).adjust "level"
      (.ofKind .numeric)).Calls .table "drop" :=
  ((calls_plain _ _).adjust (by decide) _).adjust (by decide) _

theorem serves_deleteRows : Serves deleteRows template ⟨[], [], [], [], []⟩ := by
  apply serves_of_no_literals "drop" (by decide)
  · unfold deleteRows
    rw [isEmpty_ofTexts]
    rfl
  · rfl
  · exact calls_deleteRows template _

theorem serves_deleteRows_number : Serves deleteRows template ⟨[a], [], [], [], []⟩ := by
  apply serves_of_one "drop" (by decide)
  · unfold deleteRows
    rw [isEmpty_ofTexts, number?_ofTexts]
    rfl
  · rfl
  · exact ((calls_deleteRows template _).argument (by decide) _).argument (by decide) _
  · exact carries_argument _ _ _

theorem serves_deleteRows_numbers : Serves deleteRows template ⟨[], [], [a], [], []⟩ := by
  apply serves_of_one "drop" (by decide)
  · unfold deleteRows
    rw [isEmpty_ofTexts, number?_ofTexts, numberList?_ofTexts]
    rfl
  · rfl
  · exact ((calls_deleteRows template _).argument (by decide) _).argument (by decide) _
  · exact carries_argument _ _ _

theorem serves_strip : Serves strip template ⟨[], [a, b], [], [], []⟩ := by
  apply serves_of_onColumn "str.strip" "to_strip" (by decide) rfl
  · exact (calls_plain _ _).scopable
  · decide

theorem calls_split (summary : String) (column : Literal) :
    (((plain template .series "str.split" summary).adjust "n" (.ofKind .numeric)).adjust "regex"
      (.ofKind .boolean) |>.scopable |>.scopedTo column).Calls .series "str.split" :=
  (((calls_plain _ _).adjust (by decide) _).adjust (by decide) _).scopable.scopedTo _

theorem serves_split : Serves split template ⟨[], [a], [], [], []⟩ := by
  apply serves_of_one "str.split" (by decide)
  · unfold split
    rw [size_ofTexts, value?_ofTexts]
    rfl
  · rfl
  · exact calls_split template _ _
  · exact .scope rfl

theorem serves_split_separator : Serves split template ⟨[], [a, b], [], [], []⟩ := by
  apply serves_of_two "str.split" (by decide)
  · unfold split
    rw [size_ofTexts, value?_ofTexts, value?_ofTexts]
    rfl
  · rfl
  · exact (calls_split template _ _).argument (by decide) _
  · exact .scope rfl
  · exact carries_argument _ _ _

theorem calls_replaceValues (summary : String) :
    (((((plain template .series "str.replace" summary).adjust "n" (.ofKind .numeric)).adjust
      "regex" (.ofKind .boolean)).adjust "case" (.ofKind .boolean)).adjust "flags"
      (.ofKind .numeric)).scopable.Calls .series "str.replace" :=
  ((((calls_plain _ _).adjust (by decide) _).adjust (by decide) _).adjust (by decide) _).adjust
    (by decide) _ |>.scopable

theorem serves_replaceValues : Serves replaceValues template ⟨[], [], [], [], []⟩ := by
  apply serves_of_no_literals "str.replace" (by decide)
  · unfold replaceValues
    rw [isEmpty_ofTexts]
    rfl
  · rfl
  · exact calls_replaceValues template _

theorem serves_replaceValues_column :
    Serves replaceValues template ⟨[], [a, b, c], [], [], []⟩ := by
  have hliterals : EntityTexts.literals ⟨[], [a, b, c], [], [], []⟩ = [.str a, .str b, .str c] :=
    rfl
  apply serves_of_carries "str.replace" (by decide)
  · unfold replaceValues
    rw [isEmpty_ofTexts, value?_ofTexts, value?_ofTexts, value?_ofTexts]
    rfl
  · exact (((calls_replaceValues template _).argument (by decide) _).argument
      (by decide) _).scopedTo _
  · rw [hliterals, List.forall_mem_cons, List.forall_mem_cons, List.forall_mem_singleton]
    refine ⟨.scope rfl, .argument "pat" ?_, .argument "repl" (KeyMap.get?_insert_self _ _ _)⟩
    simp [scopedTo, argument]

theorem serves_joinOn : Serves joinOn template ⟨[], [a, b], [], [], []⟩ := by
  apply serves_of_onColumn "str.join" "sep" (by decide) rfl
  · exact (calls_plain _ _).scopable
  · decide

theorem serves_extract : Serves extract template ⟨[], [], [], [], []⟩ := by
  apply serves_of_no_literals "str.extract" (by decide)
  · unfold extract
    rw [isEmpty_ofTexts]
    rfl
  · rfl
  · exact (calls_plain _ _).scopable

theorem serves_extract_column : Serves extract template ⟨[], [a, b], [], [], []⟩ := by
  apply serves_of_onColumn "str.extract" "pat" (by decide)
  · unfold extract
    rw [isEmpty_ofTexts]
    rfl
  · exact (calls_plain _ _).scopable
  · decide

theorem serves_uniqueValues : Serves uniqueValues template ⟨[], [a], [], [], []⟩ := by
  apply serves_of_one "unique" (by decide)
  · unfold uniqueValues
    rw [value?_ofTexts]
    rfl
  · rfl
  · exact (calls_plain _ _).scopable.scopedTo _
  · exact .scope rfl

end Plans
end Catalog
end TablePhrase
