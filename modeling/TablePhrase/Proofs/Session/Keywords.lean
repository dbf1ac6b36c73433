import TablePhrase.Proofs.Literal.Delimited
import TablePhrase.Proofs.Session.Consistency

/-!
The keywords of a call tell its arguments. Names hold no equals sign and written values delimit
themselves, so that two sessions with the same keywords have the same arguments: no string, list or
map is written like a separator, another keyword or another value.
-/

namespace TablePhrase

theorem Operation.equals_not_mem_parameterNames (target : CallTarget) (operation : String) :
    ∀ name ∈ parameterNames target operation, '=' ∉ name.toList := by
  unfold parameterNames signature
  split <;> decide +kernel

namespace Literal

def moreArgumentChars : List (String × Literal) → List Char
  | [] => []
  | (name, value) :: arguments =>
    ',' :: ' ' :: (name.toList ++ '=' :: (value.chars ++ moreArgumentChars arguments))

def argumentChars : List (String × Literal) → List Char
  | [] => []
  | (name, value) :: arguments =>
    name.toList ++ '=' :: (value.chars ++ moreArgumentChars arguments)

theorem moreArgumentChars_eq_flatMap (arguments : List (String × Literal)) :
    moreArgumentChars arguments = arguments.flatMap fun (name, value) =>
      [',', ' '] ++ (name.toList ++ '=' :: value.chars) := by
  induction arguments with
  | nil => rfl
  | cons argument arguments ih => simp [moreArgumentChars, ih]

theorem atPunctuation_moreArgumentChars (arguments : List (String × Literal)) :
    AtPunctuation (moreArgumentChars arguments) := by
  cases arguments with
  | nil => exact atPunctuation_nil
  | cons argument arguments => exact atPunctuation_cons (by decide) _

theorem name_append_inj {name other : String} {rest more : List Char}
    (hname : '=' ∉ name.toList) (hother : '=' ∉ other.toList)
    (h : name.toList ++ '=' :: rest = other.toList ++ '=' :: more) :
    name = other ∧ rest = more := by
  have hstop : ∀ text : List Char, ∀ c ∈ ('=' :: text).head?, (c != '=') = false := by
    rintro text c ⟨⟩
    rfl
  have hrun : ∀ n : String, '=' ∉ n.toList → ∀ c ∈ n.toList, (c != '=') = true := by
    intro n hn c hc
    exact bne_iff_ne.mpr fun heq => hn (heq ▸ hc)
  have htaken := congrArg (List.takeWhile (· != '=')) h
  rw [Text.takeWhile_append_of_stops (hrun name hname) (hstop rest),
    Text.takeWhile_append_of_stops (hrun other hother) (hstop more)] at htaken
  rw [htaken] at h
  exact ⟨String.toList_injective htaken, (List.cons.inj (List.append_cancel_left h)).2⟩

theorem argumentChars_eq_of_moreArgumentChars_eq {as bs : List (String × Literal)}
    (h : moreArgumentChars as = moreArgumentChars bs) : argumentChars as = argumentChars bs := by
  cases as with
  | nil =>
    cases bs with
    | nil => rfl
    | cons b bs => cases h
  | cons a as =>
    cases bs with
    | nil => cases h
    | cons b bs => exact (List.cons.inj (List.cons.inj h).2).2

theorem argumentChars_cons_ne_nil (a : String × Literal) (as : List (String × Literal)) :
    argumentChars (a :: as) ≠ [] := by
  simp [argumentChars]

/-- The name ends where the equals sign stands, and the value holds no double. -/
def IsDelimited (argument : String × Literal) : Prop :=
  '=' ∉ argument.1.toList ∧ argument.2.IsFloatFree

theorem argumentChars_injective {as bs : List (String × Literal)}
    (has : ∀ a ∈ as, IsDelimited a) (hbs : ∀ b ∈ bs, IsDelimited b)
    (h : argumentChars as = argumentChars bs) : as = bs := by
  induction as generalizing bs with
  | nil =>
    cases bs with
    | nil => rfl
    | cons b bs => exact absurd h.symm (argumentChars_cons_ne_nil b bs)
  | cons a as ih =>
    cases bs with
    | nil => exact absurd h (argumentChars_cons_ne_nil a as)
    | cons b bs =>
      obtain ⟨⟨haname, havalue⟩, has⟩ := List.forall_mem_cons.mp has
      obtain ⟨⟨hbname, hbvalue⟩, hbs⟩ := List.forall_mem_cons.mp hbs
      obtain ⟨hname, hrest⟩ := name_append_inj haname hbname h
      obtain ⟨hvalue, hmore⟩ := chars_append_inj a.2 havalue hbvalue
        (atPunctuation_moreArgumentChars as) (atPunctuation_moreArgumentChars bs) hrest
      rw [Prod.ext hname hvalue, ih has hbs (argumentChars_eq_of_moreArgumentChars_eq hmore)]

end Literal

namespace Session

variable {s t : Session}

theorem names_refresh (s : Session) :
    (refresh s).parameters.map (·.name) = s.parameters.map (·.name) := by
  rw [parameters_refresh, List.map_map]
  exact List.map_congr_left fun _ _ => ParameterState.refresh_name

def HasSignature (s : Session) : Prop :=
  s.parameters.map (·.name) = s.signatureNames

theorem Transition.keeps_signature {datasets : List Dataset} (h : Transition datasets s t)
    (hs : s.HasSignature) : t.HasSignature := by
  cases h with
  | configure _ _ hps _ => exact (names_refresh _).trans (Operation.names_of_parameters hps)
  | restart _ _ _ hps => exact (names_refresh _).trans (Operation.names_of_parameters hps)
  | turn _ => exact (names_refresh _).trans hs
  | move _ _ => exact (names_refresh _).trans hs
  | assign _ _ _ _ => exact (names_refresh _).trans ((names_setValue ..).trans hs)
  | restrict _ _ => exact (names_refresh _).trans hs
  | rebind _ => exact hs
  | freeze _ => exact hs

theorem hasSignature_run (settings : Settings) (requests : List Request) :
    (run requests (new settings)).2.HasSignature :=
  run_keeps_always (fun h hs => h.keeps_signature hs) requests rfl

namespace HasSignature

theorem exists_parameterNames (h : s.HasSignature) :
    s.parameters = [] ∨
      ∃ target name, s.parameters.map (·.name) = Operation.parameterNames target name := by
  cases hop : s.operation with
  | none =>
    rw [HasSignature, signatureNames, hop] at h
    exact .inl (List.map_eq_nil_iff.mp h)
  | some op =>
    rw [HasSignature, signatureNames, hop] at h
    exact .inr ⟨op.target, op.name, h⟩

theorem nodup_names (h : s.HasSignature) : (s.parameters.map (·.name)).Nodup := by
  rcases h.exists_parameterNames with hnil | ⟨target, name, hnames⟩
  · simp [hnil]
  · rw [hnames]
    exact Operation.nodup_parameterNames target name

theorem equals_not_mem_name (h : s.HasSignature) {p : ParameterState} (hp : p ∈ s.parameters) :
    '=' ∉ p.name.toList := by
  rcases h.exists_parameterNames with hnil | ⟨target, name, hnames⟩
  · rw [hnil] at hp
    cases hp
  · apply Operation.equals_not_mem_parameterNames target name
    rw [← hnames]
    exact List.mem_map_of_mem hp

theorem name_ne_scope_key (h : s.HasSignature) {p : ParameterState}
    (hp : p ∈ s.parameters) (kind : ScopeKind) : p.name ≠ kind.key := by
  intro hkey
  rcases h.exists_parameterNames with hnil | ⟨target, name, hnames⟩
  · rw [hnil] at hp
    cases hp
  · apply Operation.scope_key_not_mem_parameterNames kind target name
    rw [← hkey, ← hnames]
    exact List.mem_map_of_mem hp

theorem parameter?_name (h : s.HasSignature) {p : ParameterState} (hp : p ∈ s.parameters) :
    s.parameter? p.name = some p :=
  find?_name_eq_some h.nodup_names hp

end HasSignature

theorem IsCurrent.arguments_eq (h : s.IsCurrent) :
    s.arguments = (s.parameters.filter fun p => !p.isDefault).map fun p => (p.name, p.value) := by
  have hrefresh : (refresh s).arguments =
      ((refresh s).parameters.filter fun p => !p.isDefault).map fun p => (p.name, p.value) := rfl
  rwa [h] at hrefresh

/-- The arguments are values without doubles, all written as values with a name. -/
def WritesValues (s : Session) : Prop :=
  ∀ p ∈ s.parameters, p.isDefault = false →
    p.value.IsFloatFree ∧ p.kind ≠ .heterogeneous ∧ p.kind ≠ .variadic

instance (s : Session) : Decidable s.WritesValues :=
  inferInstanceAs (Decidable (∀ p ∈ s.parameters, p.isDefault = false →
    p.value.IsFloatFree ∧ p.kind ≠ .heterogeneous ∧ p.kind ≠ .variadic))

theorem keywordText_of_value {kind : ParameterKind} (hkind : kind ≠ .heterogeneous)
    (hfurther : kind ≠ .variadic) (name : String) (value : Literal) :
    keywordText kind name value = name ++ "=" ++ value.code := by
  cases kind <;> first | rfl | exact absurd rfl hkind | exact absurd rfl hfurther

theorem IsCurrent.exists_of_mem_arguments (h : s.IsCurrent) {argument : String × Literal}
    (hargument : argument ∈ s.arguments) :
    ∃ p ∈ s.parameters, p.isDefault = false ∧ (p.name, p.value) = argument := by
  rw [h.arguments_eq] at hargument
  obtain ⟨p, hp, rfl⟩ := List.mem_map.mp hargument
  obtain ⟨hp, hdefault⟩ := List.mem_filter.mp hp
  exact ⟨p, hp, by simpa using hdefault, rfl⟩

theorem toList_keywords (hs : s.HasSignature) (hcurrent : s.IsCurrent) (h : s.WritesValues) :
    s.keywords.toList = Literal.argumentChars s.arguments := by
  have hpieces : (s.arguments.map fun (name, value) =>
      keywordText (((s.parameter? name).map (·.kind)).getD .plain) name value) =
        s.arguments.map fun (name, value) => name ++ "=" ++ value.code := by
    refine List.map_congr_left fun argument hargument => ?_
    obtain ⟨p, hp, hdefault, rfl⟩ := hcurrent.exists_of_mem_arguments hargument
    obtain ⟨-, hkind, hfurther⟩ := h p hp hdefault
    simp only [hs.parameter?_name hp]
    exact keywordText_of_value hkind hfurther p.name p.value
  rw [keywords, hpieces, Text.join, String.toList_intercalate, List.map_map]
  cases s.arguments with
  | nil => rfl
  | cons argument arguments =>
    rw [List.map_cons, Text.intercalate_cons, List.flatMap_map, Literal.argumentChars,
      Literal.moreArgumentChars_eq_flatMap]
    simp [Literal.toList_code]

theorem isDelimited_arguments (hs : s.HasSignature) (hcurrent : s.IsCurrent)
    (h : s.WritesValues) : ∀ argument ∈ s.arguments, Literal.IsDelimited argument := by
  intro argument hargument
  obtain ⟨p, hp, hdefault, rfl⟩ := hcurrent.exists_of_mem_arguments hargument
  exact ⟨hs.equals_not_mem_name hp, (h p hp hdefault).1⟩

/-- Of any two sessions, whatever led to them and whatever their operations are, that write values
without doubles and have the same keywords, the arguments are the same: the same names and values in
the same order. -/
theorem arguments_eq_of_keywords_eq (settings settings' : Settings) (rs qs : List Request) :
    let s := (run rs (new settings)).2
    let t := (run qs (new settings')).2
    s.WritesValues → t.WritesValues → s.keywords = t.keywords → s.arguments = t.arguments := by
  intro s t hs ht h
  have hscurrent : s.IsCurrent := isCurrent_run settings rs
  have htcurrent : t.IsCurrent := isCurrent_run settings' qs
  have hssignature : s.HasSignature := hasSignature_run settings rs
  have htsignature : t.HasSignature := hasSignature_run settings' qs
  apply Literal.argumentChars_injective (isDelimited_arguments hssignature hscurrent hs)
    (isDelimited_arguments htsignature htcurrent ht)
  rw [← toList_keywords hssignature hscurrent hs, ← toList_keywords htsignature htcurrent ht, h]

def savingRequests : List Request :=
  [.select ((Operation.plain "SAVE TO CSV AS <value>" .table "to_csv" "Write to a file.").argument
    "path_or_buf" "a', sep='b") .empty]

def typingRequests : List Request :=
  [.select (.plain "SAVE TO CSV" .table "to_csv" "Write to a file.") .empty,
    .setParameterText "path_or_buf" "\"a', sep='b\""]

theorem arguments_eq_of_savingRequests :
    let s := (run savingRequests (new .standard)).2
    let t := (run typingRequests (new { Settings.standard with moduleAlias := "pandas" })).2
    s.WritesValues ∧ t.WritesValues ∧ s.keywords = t.keywords ∧ s.arguments = t.arguments := by
  intro s t
  have hs : s.WritesValues := by decide +kernel
  have ht : t.WritesValues := by decide +kernel
  have h : s.keywords = t.keywords := by decide +kernel
  exact ⟨hs, ht, h, arguments_eq_of_keywords_eq .standard _ savingRequests typingRequests hs ht h⟩

end Session
end TablePhrase
