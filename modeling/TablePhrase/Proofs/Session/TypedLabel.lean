import TablePhrase.Proofs.Literal.RoundTrip
import TablePhrase.Proofs.Session.Keywords
import TablePhrase.Proofs.Session.Labels
import TablePhrase.Proofs.Session.Scope

/-!
Labels that are typed for a parameter that offers them. One label is taken as it stands, whatever it
would read as; several are typed as the text of their list, which is read unless it is a label
itself. Either value is admitted by the labels it comes from, and therefore stays.
-/

namespace TablePhrase

section Strings
open Literal
variable {labels : List String}

theorem Literal.isFloatFree_strings : (strings labels).IsFloatFree := by
  unfold strings
  induction labels with
  | nil => rfl
  | cons label labels ih => exact isFloatFree_list_cons.mpr ⟨rfl, ih⟩

theorem Literal.isOrdered_strings : (strings labels).IsOrdered := by
  unfold strings
  induction labels with
  | nil => rfl
  | cons label labels ih => exact isOrdered_list_cons.mpr ⟨rfl, ih⟩

theorem Literal.holdsReturn_strings (h : ∀ label ∈ labels, '\r' ∉ label.toList) :
    (strings labels).holdsReturn = false := by
  unfold strings
  induction labels with
  | nil => rfl
  | cons label labels ih =>
    obtain ⟨hlabel, hlabels⟩ := List.forall_mem_cons.mp h
    have hreturn : (str label).holdsReturn = false := by
      simpa [holdsReturn, someWithin, isReturning, hasReturn] using hlabel
    rw [List.map_cons, holdsReturn_list_cons, hreturn, ih hlabels]
    rfl

theorem Literal.ofUserText_code_strings (h : ∀ label ∈ labels, '\r' ∉ label.toList) :
    ofUserText (strings labels).code = strings labels := by
  have hfloat : (strings labels).IsFloatFree := isFloatFree_strings
  have hblank : skipBlank (strings labels).chars = (strings labels).chars ++ [] := by
    simpa using skipBlank_chars_append hfloat []
  have hread := readWithin_chars (strings labels) hfloat isOrdered_strings
    (holdsReturn_strings h) (by omega : _ ≤ 2 * (strings labels).chars.length + 2)
    atPunctuation_nil hblank
  rw [ofUserText, parse, read, toList_code, hread]

end Strings

namespace ParameterState
variable {p : ParameterState} {label text : String}

def Offers (p : ParameterState) (label : String) : Prop :=
  .str label ∈ p.options.getD []

theorem typedLabel_of_offers (h : p.Offers text) : typedLabel p.options text = .str text := by
  unfold Offers at h
  cases hoptions : p.options with
  | none =>
    rw [hoptions] at h
    cases h
  | some options =>
    rw [hoptions] at h
    exact if_pos (Literal.isOption_str_iff.mpr h)

theorem typedLabel_of_not_offers (h : ¬ p.Offers text) :
    typedLabel p.options text = .ofUserText text := by
  unfold Offers at h
  cases hoptions : p.options with
  | none => rfl
  | some options =>
    rw [hoptions] at h
    exact if_neg (Literal.isOption_str_iff.not.mpr h)

theorem isAdmitted_strings {labels : List String} (h : ∀ label ∈ labels, p.Offers label) :
    isAdmitted (p.options.getD []) (.strings labels) = true := by
  rw [Literal.strings, isAdmitted, List.all_map, List.all_eq_true]
  exact fun label hlabel => Literal.isOption_str_iff.mpr (h label hlabel)

end ParameterState

namespace Session
variable {s : Session} {p : ParameterState} {name text : String} {value : Literal}

/-- The parameter has the value, and nothing warns about it. -/
structure Settles (s : Session) (name : String) (value : Literal) : Prop where
  value_eq : ∃ p, s.parameter? name = some p ∧ p.value = value
  unwarned : ∀ warning ∈ s.warnings, warning.parameter ≠ name

/-- The text can be typed for the parameter, which then has the value without a warning. -/
def Takes (s : Session) (name text : String) (value : Literal) : Prop :=
  ∃ t, (Request.setParameterText name text).perform s = (.ok .done, t) ∧ t.Settles name value

theorem settles_refresh_put (hsignature : s.HasSignature) (hfound : s.parameter? name = some p)
    (hkind : p.kind.isSchemaDependent = true)
    (hadmitted : isAdmitted (p.kind.labels s.axis s.dataset.schema) value = true) :
    (refresh (s.put (.parameter name) value)).Settles name value := by
  have hput : (s.put (.parameter name) value).parameter? name = some { p with value := value } := by
    rw [parameter?_put, hfound]
    rfl
  have hkept := ParameterState.refresh_of_admitted (p := { p with value := value }) hkind hadmitted
  constructor
  · rw [parameter?_refresh, hput]
    exact ⟨_, rfl, congrArg (fun refreshed => refreshed.1.value) hkept⟩
  · intro warning hwarning hname
    have hpname : p.name = name := name_of_parameter? hfound
    have hscope : ∀ kind : ScopeKind, p.name ≠ kind.key :=
      hsignature.name_ne_scope_key (List.mem_of_find?_eq_some hfound)
    have hsame : (s.put (.parameter name) value).parameters.map (·.name) =
        s.parameters.map (·.name) := names_setValue ..
    have hnames := hsignature.nodup_names
    rw [← hsame] at hnames
    have hfrom := refresh_snd_of_mem_warnings hnames (List.mem_of_find?_eq_some hput)
      hscope hwarning (hname.trans hpname.symm)
    cases hfrom.symm.trans (congrArg Prod.snd hkept)

theorem takes_of_admitted (hcurrent : s.IsCurrent) (hsignature : s.HasSignature)
    (heditable : s.IsEditable) (hfound : s.parameter? name = some p)
    (hkind : p.kind.isSchemaDependent = true) (htyped : typedLabel p.options text = value)
    (hadmitted : isAdmitted (p.options.getD []) value = true) : s.Takes name text value := by
  have hp : p ∈ s.parameters := List.mem_of_find?_eq_some hfound
  have haxis : (ValueEdit.parameterText name text).AvoidsAxis s := by
    intro q hq htarget hqaxis
    have hqname : name = q.name := by cases htarget; rfl
    rw [hqname, hsignature.parameter?_name hq] at hfound
    cases hfound
    rw [hqaxis] at hkind
    cases hkind
  have hdecision : (ValueEdit.parameterText name text).decision s = .ok value := by
    simp only [ValueEdit.decision, ValueEdit.assigned, ValueEdit.demanded, hfound,
      ParameterState.ofTyped_of_schemaDependent hkind, htyped,
      ParameterKind.coerce_of_schemaDependent hkind, Except.mapError]
  have hperform := perform_valueEdit heditable haxis
  rw [hdecision] at hperform
  rw [hcurrent.options_eq hp hkind] at hadmitted
  exact ⟨_, hperform, settles_refresh_put hsignature hfound hkind hadmitted⟩

/-- Whatever led to a session that can be edited, a parameter with labels takes each of the strings
that it offers as it stands, even one that reads as another value. It takes several of them as the
text of their list where that text is not offered itself and no carriage return stands in them. -/
theorem takes_offered_labels (settings : Settings) (requests : List Request) {name : String}
    {p : ParameterState} :
    let s := (run requests (new settings)).2
    s.IsEditable → s.parameter? name = some p → p.kind.isSchemaDependent = true →
      (∀ label, p.Offers label → s.Takes name label (.str label)) ∧
      ∀ labels : List String, (∀ label ∈ labels, p.Offers label ∧ '\r' ∉ label.toList) →
        ¬ p.Offers (Literal.strings labels).code →
        s.Takes name (Literal.strings labels).code (.strings labels) := by
  intro s heditable hfound hkind
  have hcurrent : s.IsCurrent := isCurrent_run settings requests
  have hsignature : s.HasSignature := hasSignature_run settings requests
  have htakes {text : String} {value : Literal} (htyped : typedLabel p.options text = value) :=
    takes_of_admitted hcurrent hsignature heditable hfound hkind htyped
  constructor
  · intro label hlabel
    exact htakes (ParameterState.typedLabel_of_offers hlabel) (isAdmitted_str_of_mem hlabel)
  · intro labels hlabels hcode
    have hoffered : ∀ label ∈ labels, p.Offers label := fun label hlabel => (hlabels label hlabel).1
    refine htakes ?_ (ParameterState.isAdmitted_strings hoffered)
    rw [ParameterState.typedLabel_of_not_offers hcode]
    exact Literal.ofUserText_code_strings fun label hlabel => (hlabels label hlabel).2

def readableDataset : Dataset :=
  ⟨"df", ⟨["1", "None", "['a']", "a", "it's"], []⟩⟩

def sortingParameter : ParameterState where
  name := "by"
  value := "1"
  default := ""
  kind := .schemaAxisOpposite
  options := some readableDataset.schema.columnOptions
  selection := .dropdownMulti

theorem takes_readable_labels :
    let s := (run [.select sortByB readableDataset] (new .standard)).2
    s.IsEditable ∧ s.parameter? "by" = some sortingParameter ∧
      (∀ label ∈ ["1", "None", "['a']"], sortingParameter.Offers label ∧
        s.Takes "by" label (.str label)) ∧
      (¬ sortingParameter.Offers "['a', \"it's\"]" ∧
        s.Takes "by" "['a', \"it's\"]" (.strings ["a", "it's"])) := by
  intro s
  have heditable : s.IsEditable := .inl rfl
  have hfound : s.parameter? "by" = some sortingParameter := rfl
  have hoffers {label : String}
      (h : Literal.isOption (sortingParameter.options.getD []) (.str label) = true) :
      sortingParameter.Offers label := Literal.isOption_str_iff.mp h
  have hcode : ¬ sortingParameter.Offers "['a', \"it's\"]" :=
    Literal.isOption_str_iff.not.mp (by decide)
  obtain ⟨hone, hseveral⟩ := takes_offered_labels .standard [.select sortByB readableDataset]
    heditable hfound rfl
  refine ⟨heditable, hfound, fun label hlabel => ?_, hcode, hseveral ["a", "it's"] ?_ hcode⟩
  · have hlabel : sortingParameter.Offers label := by
      simp only [List.mem_cons, List.not_mem_nil, or_false] at hlabel
      rcases hlabel with rfl | rfl | rfl
      all_goals exact hoffers (by decide)
    exact ⟨hlabel, hone label hlabel⟩
  · intro label hlabel
    simp only [List.mem_cons, List.not_mem_nil, or_false] at hlabel
    rcases hlabel with rfl | rfl
    all_goals exact ⟨hoffers (by decide), by decide⟩

end Session
end TablePhrase
