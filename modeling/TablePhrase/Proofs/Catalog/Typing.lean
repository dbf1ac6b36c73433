import TablePhrase.Catalog.Basic
import TablePhrase.Proofs.Operation.Typing

/-!
The operations of the catalog are typed: what their entities become are arguments of parameters that
take anything. The exception is the number of rows to show, which is taken as its entity decodes.
-/

namespace TablePhrase.Catalog

open Operation

def Types (plan : Plan) : Prop :=
  ∀ template entities op, plan template entities = some op → op.isTyped = true

section Shapes
variable {plan other : Plan}

theorem types_some {f : String → Operation} (h : ∀ template, (f template).isTyped = true) :
    Types fun template _ => some (f template) := by
  intro template entities op hop
  cases hop
  exact h template

theorem types_map {α : Type} {value : DecodedEntities → Option α} {f : String → α → Operation}
    (h : ∀ template v, (f template v).isTyped = true) :
    Types fun template entities => (value entities).map (f template) := by
  intro template entities op hop
  obtain ⟨v, -, rfl⟩ := Option.map_eq_some_iff.mp hop
  exact h template v

theorem Types.bind {α : Type} {value : DecodedEntities → Option α} {plan : α → Plan}
    (h : ∀ v, Types (plan v)) :
    Types fun template entities => (value entities).bind fun v => plan v template entities := by
  intro template entities op hop
  obtain ⟨v, -, hop⟩ := Option.bind_eq_some_iff.mp hop
  exact h v template entities op hop

theorem Types.ite {p : DecodedEntities → Prop} [DecidablePred p] (h : Types plan)
    (hother : Types other) :
    Types fun template entities =>
      if p entities then plan template entities else other template entities := by
  intro template entities op hop
  dsimp only at hop
  split at hop
  · exact h template entities op hop
  · exact hother template entities op hop

/-- Which parameters there are does not depend on the template, so one template stands for all. -/
theorem types_map_of_empty {f : String → Operation} {name : String}
    {value : DecodedEntities → Option Literal}
    (hf : ∀ template, f template = { f "" with template := template })
    (htyped : (f "").isTyped = true) (hname : (f "").takesAny name = true) :
    Types fun template entities => (value entities).map ((f template).argument name) := by
  apply types_map
  intro template v
  rw [hf]
  exact isTyped_argument htyped hname v

theorem types_onColumn {f : String → Operation} {name : String}
    (h : ∀ template v, ((f template).argument name v).isTyped = true) :
    Types fun template entities => onColumn (f template) name entities :=
  .bind fun v => .bind fun _ => types_some fun template => h template v

end Shapes

theorem types_readCsv : Types readCsv :=
  types_map_of_empty (fun _ => rfl) (by decide +kernel) (by decide +kernel)

theorem types_changeDatatype : Types changeDatatype :=
  .ite (.bind fun _ => .bind fun _ => types_some fun _ => rfl) (types_map fun _ _ => rfl)

theorem types_roundTo : Types roundTo :=
  .bind fun _ => .ite (.bind fun _ => types_some fun _ => rfl) (types_some fun _ => rfl)

theorem types_rename : Types rename :=
  .bind fun _ => .ite (.bind fun _ => types_some fun _ => rfl)
    (.bind fun _ => types_some fun _ => rfl)

theorem types_filter : Types filter :=
  .bind fun _ => types_some fun _ => rfl

theorem types_groupBy : Types groupBy :=
  .bind fun _ => types_some fun _ => rfl

theorem types_deleteColumns : Types deleteColumns :=
  .ite (types_some fun _ => rfl) (types_map fun _ _ => rfl)

theorem types_deleteRows : Types deleteRows :=
  .ite (types_some fun _ => rfl) (types_map fun _ _ => rfl)

theorem types_split : Types split :=
  .bind fun _ => .ite (types_map fun _ _ => rfl) (types_some fun _ => rfl)

theorem types_replaceValues : Types replaceValues :=
  .ite (types_some fun _ => rfl)
    (.bind fun _ => .bind fun _ => .bind fun _ => types_some fun _ => rfl)

theorem types_extract : Types extract :=
  .ite (types_some fun _ => rfl) (types_onColumn fun _ _ => rfl)

/-- The number of rows to show is the only argument that a typed parameter has to take. -/
def IsRowNumber (template : String) (entities : DecodedEntities) (name : String)
    (value : Literal) : Prop :=
  template = "SHOW FIRST <number> ROWS" ∧ name = "n" ∧ entities.number? 0 = some value

def Entry.IsTyped (entry : Entry) : Prop :=
  ∀ entities op, entry.plan entry.template entities = some op →
    op.IsTyped (IsRowNumber entry.template entities)

theorem Entry.IsTyped.of_types {template : String} {plan : Plan} (h : Types plan) :
    Entry.IsTyped ⟨template, plan⟩ :=
  fun entities op hop => isTyped_of_isTyped (h template entities op hop) _

theorem isTyped_showFirstNumberRows :
    Entry.IsTyped ⟨"SHOW FIRST <number> ROWS", showFirstNumberRows⟩ := by
  intro entities op hop
  obtain ⟨v, hv, rfl⟩ := Option.map_eq_some_iff.mp hop
  intro p hp
  have hparameters : ((head "SHOW FIRST <number> ROWS").argument "n" v).defaultParameters =
      [⟨"n", .int 5, .int 5, .numeric, none, .number⟩] := rfl
  rw [hparameters, List.mem_singleton] at hp
  subst hp
  refine ⟨rfl, fun value hvalue => .inr ⟨rfl, rfl, rfl, ?_⟩⟩
  have hentry : ("n", value) ∈ [("n", v)] := hvalue
  cases List.mem_singleton.mp hentry
  exact hv

theorem isTyped_of_mem_entries : ∀ entry ∈ entries, entry.IsTyped := by
  simp only [entries, List.forall_mem_cons]
  exact ⟨.of_types (types_map fun _ _ => rfl), .of_types (types_map fun _ _ => rfl),
    .of_types types_readCsv, .of_types (types_some fun _ => rfl),
    .of_types (types_some fun _ => rfl), .of_types (types_some fun _ => rfl),
    isTyped_showFirstNumberRows, .of_types (types_some fun _ => rfl),
    .of_types (types_some fun _ => rfl), .of_types (types_map fun _ _ => rfl),
    .of_types (types_map fun _ _ => rfl), .of_types (types_map fun _ _ => rfl),
    .of_types (types_some fun _ => rfl), .of_types types_changeDatatype,
    .of_types types_changeDatatype, .of_types types_roundTo, .of_types types_roundTo,
    .of_types types_rename, .of_types types_rename, .of_types (types_some fun _ => rfl),
    .of_types (types_map fun _ _ => rfl), .of_types types_filter, .of_types types_filter,
    .of_types (types_map fun _ _ => rfl), .of_types (types_some fun _ => rfl),
    .of_types (.bind fun _ => types_some fun _ => rfl), .of_types (types_some fun _ => rfl),
    .of_types (types_map fun _ _ => rfl), .of_types types_groupBy, .of_types types_groupBy,
    .of_types (types_map fun _ _ => rfl), .of_types (types_some fun _ => rfl),
    .of_types (types_map fun _ _ => rfl), .of_types types_deleteColumns,
    .of_types types_deleteColumns, .of_types types_deleteColumns, .of_types types_deleteRows,
    .of_types types_deleteRows, .of_types types_deleteRows,
    .of_types (types_onColumn fun _ _ => rfl), .of_types types_split, .of_types types_split,
    .of_types types_replaceValues, .of_types types_replaceValues,
    .of_types (types_onColumn fun _ _ => rfl), .of_types types_extract, .of_types types_extract,
    .of_types (types_map fun _ _ => rfl), nofun⟩

theorem isTyped_resolve (template : String) (entities : DecodedEntities) :
    (resolve template entities).IsTyped (IsRowNumber template entities) := by
  rw [resolve]
  cases hplan : plan? template entities with
  | none => exact isTyped_of_isTyped rfl _
  | some op =>
    obtain ⟨entry, hentry, hop⟩ := Option.bind_eq_some_iff.mp hplan
    have htemplate : entry.template = template := by simpa using List.find?_some hentry
    subst htemplate
    exact isTyped_of_mem_entries entry (List.mem_of_find?_eq_some hentry) entities op hop

end TablePhrase.Catalog
