import TablePhrase.Proofs.KeyMap
import TablePhrase.Session.Parameters

/-!
The parameters that an operation starts with. They are those of its signature, and there are some
whenever the arguments are among them.
-/

namespace TablePhrase

theorem ParameterState.ofParameter_name (p : Parameter) (adjustment : Adjustment) :
    (ParameterState.ofParameter p adjustment).name = p.name := by
  unfold ofParameter
  split
  · next h => exact h.symm
  · rfl

theorem names_setValue (name : String) (value : Literal) (ps : List ParameterState) :
    (setValue name value ps).map (·.name) = ps.map (·.name) := by
  unfold setValue
  rw [List.map_map]
  refine List.map_congr_left fun p _ => ?_
  simp only [Function.comp_apply]
  split <;> rfl

namespace Operation

def parameterNames (target : CallTarget) (name : String) : List String :=
  (signature target name).map (·.name)

theorem nodup_parameterNames (target : CallTarget) (name : String) :
    (parameterNames target name).Nodup := by
  unfold parameterNames signature
  split <;> decide +kernel

theorem scope_key_not_mem_parameterNames (kind : ScopeKind) (target : CallTarget) (name : String) :
    kind.key ∉ parameterNames target name := by
  cases kind
  unfold parameterNames signature
  split <;> decide +kernel

theorem names_defaultParameters (op : Operation) :
    op.defaultParameters.map (·.name) = parameterNames op.target op.name := by
  rw [defaultParameters, List.map_map]
  exact List.map_congr_left fun p _ => ParameterState.ofParameter_name p _

theorem names_of_fill {op : Operation} {arguments : List (String × Literal)}
    {ps qs : List ParameterState} (h : op.fill arguments ps = .ok qs) :
    qs.map (·.name) = ps.map (·.name) := by
  induction arguments generalizing ps with
  | nil =>
    cases h
    rfl
  | cons argument rest ih =>
    obtain ⟨name, value⟩ := argument
    rw [fill] at h
    split at h
    · rw [ih h, names_setValue]
    · cases h

theorem names_of_parameters {op : Operation} {ps : List ParameterState}
    (h : op.parameters = .ok ps) : ps.map (·.name) = parameterNames op.target op.name :=
  (names_of_fill h).trans op.names_defaultParameters

theorem exists_fill_eq_ok (op : Operation) {arguments : List (String × Literal)}
    {ps : List ParameterState} (h : ∀ a ∈ arguments, a.1 ∈ ps.map (·.name)) :
    ∃ qs, op.fill arguments ps = .ok qs := by
  induction arguments generalizing ps with
  | nil => exact ⟨ps, rfl⟩
  | cons argument rest ih =>
    obtain ⟨hfirst, hrest⟩ := List.forall_mem_cons.mp h
    obtain ⟨name, value⟩ := argument
    have hany : ps.any (·.name == name) = true := by
      obtain ⟨p, hp, hname⟩ := List.mem_map.mp hfirst
      exact List.any_eq_true.mpr ⟨p, hp, beq_iff_eq.mpr hname⟩
    rw [fill, if_pos hany]
    apply ih
    rw [names_setValue]
    exact hrest

/-- The call is that one of that target, and its arguments and adjustments are for parameters that
the call has. -/
structure Calls (op : Operation) (target : CallTarget) (name : String) : Prop where
  target_eq : op.target = target
  name_eq : op.name = name
  arguments : ∀ p ∈ op.arguments.keys, p ∈ parameterNames target name
  adjustments : ∀ p ∈ op.adjustments.keys, p ∈ parameterNames target name

section Calls
variable {op : Operation} {target : CallTarget} {name : String}

theorem calls_plain (template summary : String) :
    (plain template target name summary).Calls target name :=
  ⟨rfl, rfl, nofun, nofun⟩

theorem Calls.argument (h : op.Calls target name) {p : String}
    (hp : p ∈ parameterNames target name) (value : Literal) :
    (op.argument p value).Calls target name where
  target_eq := h.target_eq
  name_eq := h.name_eq
  arguments := by
    intro q hq
    rcases KeyMap.mem_keys_insert hq with rfl | hq
    · exact hp
    · exact h.arguments q hq
  adjustments := h.adjustments

theorem Calls.adjust (h : op.Calls target name) {p : String}
    (hp : p ∈ parameterNames target name) (adjustment : Adjustment) :
    (op.adjust p adjustment).Calls target name where
  target_eq := h.target_eq
  name_eq := h.name_eq
  arguments := h.arguments
  adjustments := by
    intro q hq
    rcases KeyMap.mem_keys_insert hq with rfl | hq
    · exact hp
    · exact h.adjustments q hq

theorem Calls.foldl_adjust (h : op.Calls target name) {ps : List String}
    (hps : ∀ p ∈ ps, p ∈ parameterNames target name) (adjustment : Adjustment) :
    (ps.foldl (fun op p => op.adjust p adjustment) op).Calls target name := by
  induction ps generalizing op with
  | nil => exact h
  | cons p ps ih =>
    obtain ⟨hp, hps⟩ := List.forall_mem_cons.mp hps
    exact ih (h.adjust hp adjustment) hps

theorem Calls.scopable (h : op.Calls target name) : op.scopable.Calls target name :=
  ⟨h.target_eq, h.name_eq, h.arguments, h.adjustments⟩

theorem Calls.scopedTo (h : op.Calls target name) (scope : Literal) :
    (op.scopedTo scope).Calls target name :=
  ⟨h.target_eq, h.name_eq, h.arguments, h.adjustments⟩

theorem Calls.exists_parameters_eq_ok (h : op.Calls target name) :
    ∃ ps, op.parameters = .ok ps := by
  apply exists_fill_eq_ok
  intro argument hargument
  rw [names_defaultParameters, h.target_eq, h.name_eq]
  exact h.arguments argument.1 (List.mem_map_of_mem hargument)

end Calls
end Operation
end TablePhrase
