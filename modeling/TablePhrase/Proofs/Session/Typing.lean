import TablePhrase.Lifting.Basic
import TablePhrase.Proofs.Catalog.Coverage
import TablePhrase.Proofs.Catalog.Shapes
import TablePhrase.Proofs.Catalog.Typing
import TablePhrase.Proofs.Literal.NumberText
import TablePhrase.Proofs.Session.Keywords
import TablePhrase.Proofs.Template.Combination

/-!
Typed sessions. Boolean parameters hold truth values or null and numeric ones hold finite numbers or
null in every session whose operations come from the catalog, but for the numbers that are not
checked: the number of rows to show need not be a number at all, and a text or value may denote an
infinity or a NaN.
-/

namespace TablePhrase

section Values
variable {value v : Literal}

theorem takes_of_booleanValue (h : booleanValue value = .ok v) :
    ParameterKind.boolean.takes v = true := by
  unfold booleanValue at h
  split at h
  · cases h
    rfl
  · cases h
    rfl
  · split at h
    · cases h
      rfl
    · split at h
      · cases h
        rfl
      · cases h
  · cases h

theorem takes_of_coerce {kind : ParameterKind} (h : kind.coerce value = .ok v) :
    kind.takes v = true ∨
      kind = .numeric ∧ numericValue value = .ok v ∧ ParameterKind.numeric.takes v = false := by
  by_cases hnumeric : kind = .numeric
  · subst hnumeric
    cases htakes : ParameterKind.numeric.takes v with
    | true => exact .inl rfl
    | false => exact .inr ⟨rfl, h, rfl⟩
  · left
    by_cases hboolean : kind = .boolean
    · subst hboolean
      exact takes_of_booleanValue h
    · exact ParameterKind.takes_of_untyped hboolean hnumeric v

theorem numericValue_of_typedNumber {text : String} (h : typedNumber text = .ok v) :
    numericValue v = .ok v := by
  unfold typedNumber at h
  split at h
  · next number hnumber =>
    cases h
    unfold numericText? at hnumber
    split at hnumber
    · cases hnumber
      rfl
    · unfold Literal.number? at hnumber
      simp only at hnumber
      split at hnumber
      · cases hnumber
        rfl
      · obtain ⟨x, -, rfl⟩ := Option.map_eq_some_iff.mp hnumber
        rfl
  · cases h

end Values

theorem Catalog.ofTemplate_rows :
    EntityCounts.ofTemplate "SHOW FIRST <number> ROWS" = ⟨1, 0, 0, 0, 0⟩ := by
  decide +kernel

theorem Catalog.eq_of_counts_rows {texts : EntityTexts}
    (h : EntityCounts.ofTemplate "SHOW FIRST <number> ROWS" = texts.counts) :
    ∃ text, texts = ⟨[text], [], [], [], []⟩ := by
  obtain ⟨numbers, values, numberLists, stringLists, conditions⟩ := texts
  obtain ⟨hn, hv, hnl, hsl, hc⟩ := EntityTexts.counts_eq_iff.mp (h.symm.trans ofTemplate_rows)
  obtain ⟨text, rfl⟩ := List.length_eq_one_iff.mp hn
  simp only [List.length_eq_zero_iff] at hv hnl hsl hc
  subst hv hnl hsl hc
  exact ⟨text, rfl⟩

def Catalog.showRows (text : String) : Operation :=
  resolve "SHOW FIRST <number> ROWS" (.ofTexts ⟨[text], [], [], [], []⟩)

namespace Request

/-- What the request selects is resolved by the catalog for a combined template. -/
def IsCatalogued (r : Request) : Prop :=
  ∀ op, r.operation? = some op → ∃ template texts combination,
    recombine template texts = .ok combination ∧
      op = Catalog.resolve template combination.entities

/-- The request brings a value that a numeric parameter should not take, unchecked: as the number of
rows to show, or as a value or a text that denotes no finite number. -/
def Brings (r : Request) (name : String) (v : Literal) : Prop :=
  ParameterKind.numeric.takes v = false ∧
    match r with
    | select op _ | selectIn op _ =>
      name = "n" ∧ ∃ text, op = Catalog.showRows text ∧ v = EntityKind.number.decode text
    | setParameter parameter value => name = parameter ∧ numericValue value = .ok v
    | setParameterText parameter text => name = parameter ∧ typedNumber text = .ok v
    | _ => False

theorem Gives.isTyped {r : Request} {p : ParameterState} {v : Literal} (h : r.Gives p v) :
    { p with value := v }.IsTyped r.Brings := by
  cases r with
  | setParameter name value =>
    obtain ⟨rfl, hcoerce⟩ := h
    rcases takes_of_coerce hcoerce with htakes | ⟨hkind, hvalue, hrefused⟩
    · exact .inl htakes
    · exact .inr ⟨hkind, hrefused, rfl, hvalue⟩
  | setParameterText name text =>
    obtain ⟨rfl, value, htyped, hcoerce⟩ := h
    rcases takes_of_coerce hcoerce with htakes | ⟨hkind, hvalue, hrefused⟩
    · exact .inl htakes
    · have htext : typedNumber text = .ok value := by
        rwa [ParameterState.ofTyped, hkind] at htyped
      cases (numericValue_of_typedNumber htext).symm.trans hvalue
      exact .inr ⟨hkind, hrefused, rfl, htext⟩
  | _ => cases h

end Request

namespace ParameterState

variable {exception exception' : String → Literal → Prop} {p : ParameterState}

theorem IsTyped.mono (h : p.IsTyped exception)
    (hmono : ∀ name v, ParameterKind.numeric.takes v = false → exception name v →
      exception' name v) : p.IsTyped exception' := by
  cases htakes : ParameterKind.takes p.kind p.value with
  | true => exact .inl htakes
  | false =>
    rcases h with h | ⟨hkind, h⟩
    · exact absurd h (Bool.eq_false_iff.mp htakes)
    · rw [hkind] at htakes
      exact .inr ⟨hkind, hmono _ _ htakes h⟩

theorem IsTyped.refresh (h : p.IsTyped exception) (axis : Axis) (dataset : Dataset) :
    (p.refresh axis dataset).1.IsTyped exception := by
  by_cases htyped : p.kind = .boolean ∨ p.kind = .numeric
  · have hkept : p.refresh axis dataset = (p, none) := by
      rcases htyped with hkind | hkind
      · simp [ParameterState.refresh, hkind, ParameterKind.isSchemaDependent]
      · simp [ParameterState.refresh, hkind, ParameterKind.isSchemaDependent]
    rwa [hkept]
  · obtain ⟨hboolean, hnumeric⟩ := not_or.mp htyped
    left
    rw [refresh_kind]
    exact ParameterKind.takes_of_untyped hboolean hnumeric _

end ParameterState

namespace Session

variable {exception : String → Literal → Prop} {r : Request} {s t : Session}

/-- The parameters are typed, and will be when the operation is selected again. -/
structure IsTyped (exception : String → Literal → Prop) (s : Session) : Prop where
  signature : s.HasSignature
  parameters : ∀ p ∈ s.parameters, p.IsTyped exception
  operation : ∀ op ps, s.operation = some op → op.parameters = .ok ps →
    ∀ p ∈ ps, p.IsTyped exception

theorem isTyped_refresh (hsignature : (refresh s).HasSignature)
    (hparameters : ∀ p ∈ s.parameters, p.IsTyped exception)
    (hoperation : ∀ op ps, s.operation = some op → op.parameters = .ok ps →
      ∀ p ∈ ps, p.IsTyped exception) : (refresh s).IsTyped exception where
  signature := hsignature
  parameters := by
    intro q hq
    rw [parameters_refresh] at hq
    obtain ⟨p, hp, rfl⟩ := List.mem_map.mp hq
    exact (hparameters p hp).refresh s.axis s.dataset
  operation := hoperation

theorem isTyped_configure {op : Operation} {ps : List ParameterState}
    (hps : op.parameters = .ok ps) (hstart : ∀ p ∈ ps, p.IsTyped exception) (dataset : Dataset)
    (s : Session) : (configure op dataset ps s).IsTyped exception := by
  refine isTyped_refresh ?_ hstart ?_
  · exact (names_refresh _).trans (Operation.names_of_parameters hps)
  · rintro _ _ ⟨⟩ hps'
    cases hps.symm.trans hps'
    exact hstart

theorem isTyped_of_catalogued (hr : r.IsCatalogued) {op : Operation} {ps : List ParameterState}
    (hbrought : r.operation? = some op) (hps : op.parameters = .ok ps) :
    ∀ p ∈ ps, p.IsTyped r.Brings := by
  obtain ⟨template, texts, combination, hcombination, rfl⟩ := hr op hbrought
  obtain ⟨hcounts, rfl⟩ := recombine_eq_ok_iff.mp hcombination
  intro p hp
  have htyped := (Catalog.isTyped_resolve template (.ofTexts texts)).of_parameters hps p hp
  refine htyped.mono fun name v hrefused => ?_
  rintro ⟨rfl, rfl, hnumber⟩
  obtain ⟨text, rfl⟩ := Catalog.eq_of_counts_rows hcounts
  rw [DecodedEntities.number?_ofTexts] at hnumber
  cases hnumber
  refine ⟨hrefused, ?_⟩
  cases r with
  | select op dataset =>
    cases hbrought
    exact ⟨rfl, text, rfl, rfl⟩
  | selectIn op workspace =>
    cases hbrought
    exact ⟨rfl, text, rfl, rfl⟩
  | _ => cases hbrought

theorem isTyped_setValue (hs : s.IsTyped exception) {name : String} {p : ParameterState}
    {v : Literal} (hfound : s.parameter? name = some p)
    (hv : { p with value := v }.IsTyped exception) :
    ∀ q ∈ setValue name v s.parameters, q.IsTyped exception := by
  intro q hq
  obtain ⟨before, hbefore, rfl⟩ := List.mem_map.mp hq
  by_cases hname : before.name = name
  · have hfirst := hs.signature.parameter?_name hbefore
    rw [hname, hfound] at hfirst
    cases hfirst
    rw [if_pos hname]
    exact hv
  · rw [if_neg hname]
    exact hs.parameters before hbefore

theorem Effect.keeps_typed (hr : r.IsCatalogued)
    (hbrings : ∀ name v, r.Brings name v → exception name v) (h : Effect r s t)
    (hs : s.IsTyped exception) : t.IsTyped exception := by
  have hsignature := h.transition.keeps_signature hs.signature
  cases h with
  | configure _ _ hps hbrought _ =>
    exact isTyped_configure hps (fun p hp => (isTyped_of_catalogued hr hbrought hps p hp).mono
      fun name v _ => hbrings name v) _ _
  | restart _ hop _ hps =>
    have hconfigured := isTyped_configure hps (hs.operation _ _ hop hps) s.dataset s
    exact ⟨hsignature, hconfigured.parameters, hconfigured.operation⟩
  | turn _ => exact isTyped_refresh hsignature hs.parameters hs.operation
  | move _ _ => exact isTyped_refresh hsignature hs.parameters hs.operation
  | assign _ hfound _ hgiven =>
    have hv := hgiven.isTyped.mono fun name v _ => hbrings name v
    exact isTyped_refresh hsignature (isTyped_setValue hs hfound hv) hs.operation
  | restrict _ _ => exact isTyped_refresh hsignature hs.parameters hs.operation
  | rebind _ => exact ⟨hsignature, hs.parameters, hs.operation⟩
  | freeze _ => exact ⟨hsignature, hs.parameters, hs.operation⟩

theorem isTyped_new (settings : Settings) : (new settings).IsTyped exception :=
  ⟨rfl, nofun, nofun⟩

theorem isTyped_run (settings : Settings) {requests : List Request}
    (hcatalogued : ∀ r ∈ requests, r.IsCatalogued) :
    (run requests (new settings)).2.IsTyped fun name v => ∃ r ∈ requests, r.Brings name v :=
  run_keeps_of_effect
    (fun r hr _ _ h hs =>
      h.keeps_typed (hcatalogued r hr) (fun _ _ hbrings => ⟨r, hr, hbrings⟩) hs)
    (isTyped_new settings)

end Session

structure ParameterState.HoldsTruth (p : ParameterState) : Prop where
  value : p.value = .null ∨ ∃ b, p.value = .bool b
  text : ∃ text ∈ ["None", "True", "False"],
    keywordText p.kind p.name p.value = p.name ++ "=" ++ text

structure ParameterState.HoldsNumber (p : ParameterState) : Prop where
  value : p.value = .null ∨ (∃ i, p.value = .int i) ∨ ∃ x, p.value = .float x ∧ x.isFinite = true
  text : ∃ text : String, (text = "None" ∨ IsNumberText text.toList) ∧
    keywordText p.kind p.name p.value = p.name ++ "=" ++ text

namespace ParameterState

variable {p : ParameterState}

theorem holdsTruth (hkind : p.kind = .boolean) (h : p.kind.takes p.value = true) :
    p.HoldsTruth := by
  have htext : keywordText p.kind p.name p.value = p.name ++ "=" ++ p.value.code := by
    rw [hkind]
    rfl
  rw [hkind] at h
  have hvalue := ParameterKind.takes_boolean_iff.mp h
  refine ⟨hvalue, p.value.code, ?_, htext⟩
  rcases hvalue with hvalue | ⟨b, hvalue⟩
  · rw [hvalue]
    decide
  · rw [hvalue]
    cases b <;> decide

theorem holdsNumber (hkind : p.kind = .numeric) (h : p.kind.takes p.value = true) :
    p.HoldsNumber := by
  have htext : keywordText p.kind p.name p.value = p.name ++ "=" ++ p.value.code := by
    rw [hkind]
    rfl
  rw [hkind] at h
  have hvalue := ParameterKind.takes_numeric_iff.mp h
  refine ⟨hvalue, p.value.code, ?_, htext⟩
  rcases hvalue with hvalue | ⟨i, hvalue⟩ | ⟨x, hvalue, hfinite⟩
  · left
    rw [hvalue]
    decide
  · right
    rw [hvalue, Literal.code, String.toList_ofList]
    exact isNumberText_integerText i.toInt
  · right
    rw [hvalue, Literal.code, String.toList_ofList]
    exact Decimal.isNumberText_plainText hfinite

end ParameterState

namespace Session

/-- In every session whose operations the catalog resolves, boolean parameters hold and are written
as truth values or null, and numeric parameters as finite numbers or null, or they hold a value that
a request has brought unchecked. -/
theorem typed_after_run (settings : Settings) (requests : List Request)
    (hcatalogued : ∀ r ∈ requests, r.IsCatalogued) :
    ∀ p ∈ (run requests (new settings)).2.parameters,
      (p.kind = .boolean → p.HoldsTruth) ∧
      (p.kind = .numeric → p.HoldsNumber ∨ ∃ r ∈ requests, r.Brings p.name p.value) := by
  intro p hp
  have htyped := (isTyped_run settings hcatalogued).parameters p hp
  constructor
  · intro hkind
    rcases htyped with htakes | ⟨hnumeric, -⟩
    · exact p.holdsTruth hkind htakes
    · rw [hkind] at hnumeric
      cases hnumeric
  · intro hkind
    rcases htyped with htakes | ⟨-, hbrought⟩
    · exact .inl (p.holdsNumber hkind htakes)
    · exact .inr hbrought

theorem isCatalogued_showRows (text : String) (dataset : Dataset) :
    (Request.select (Catalog.showRows text) dataset).IsCatalogued := by
  rintro _ ⟨⟩
  exact ⟨_, ⟨[text], [], [], [], []⟩, _,
    recombine_eq_ok_iff.mpr ⟨Catalog.ofTemplate_rows, rfl⟩, rfl⟩

def showingRequests : List Request :=
  [.select (Catalog.showRows "3") ⟨"df", .empty⟩, .setParameterText "n" "inf", .reset,
    .setParameter "n" (.str " 4 ")]

theorem typed_after_showingRequests :
    (∀ r ∈ showingRequests, r.IsCatalogued) ∧
      ∀ p ∈ (run showingRequests (new .standard)).2.parameters,
        (p.kind = .boolean → p.HoldsTruth) ∧
        (p.kind = .numeric →
          p.HoldsNumber ∨ ∃ r ∈ showingRequests, r.Brings p.name p.value) := by
  have hcatalogued : ∀ r ∈ showingRequests, r.IsCatalogued := by
    intro r hr
    simp only [showingRequests, List.mem_cons, List.not_mem_nil, or_false] at hr
    rcases hr with rfl | rfl | rfl | rfl
    · exact isCatalogued_showRows _ _
    all_goals rintro _ ⟨⟩
  exact ⟨hcatalogued, typed_after_run .standard showingRequests hcatalogued⟩

/-- A template that asks for half a row is resolved and selected, and the numeric parameter holds
and writes a string, which no edit could set it to. -/
theorem run_select_half_rows :
    let half : Request := .select (Catalog.showRows "1/2") ⟨"df", .empty⟩
    lift "SHOW FIRST 1/2 ROWS" =
        ⟨"SHOW FIRST <number> ROWS", ⟨["1/2"], [], [], [], []⟩⟩ ∧
      half.IsCatalogued ∧
      (∃ p ∈ (run [half] (new .standard)).2.parameters,
        p.kind = .numeric ∧ p.name = "n" ∧ p.value = .str "1/2") ∧
      (run [half] (new .standard)).2.code = "df = df.head(n='1/2')" ∧
      numericValue (.str "1/2") = .error (.notNumericText "1/2") := by
  intro half
  have hparameters : (run [half] (new .standard)).2.parameters =
      [⟨"n", .str "1/2", .int 5, .numeric, none, .number⟩] := rfl
  refine ⟨by decide +kernel, isCatalogued_showRows _ _, ?_, by decide +kernel, rfl⟩
  rw [hparameters]
  exact ⟨_, List.mem_singleton_self _, rfl, rfl, rfl⟩

end Session
end TablePhrase
