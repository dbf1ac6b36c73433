import TablePhrase.Proofs.Operation.Filling
import TablePhrase.Session.Parameters

/-!
Typed parameters. A boolean parameter takes a truth value, a numeric one a number that is finite,
both take null, and parameters of the other kinds take anything. The defaults of every signature are
taken by their parameters; an operation is typed if its adjustments keep that so and its arguments
are taken too.
-/

namespace TablePhrase

def ParameterKind.takes (kind : ParameterKind) (value : Literal) : Bool :=
  match kind, value with
  | .boolean, .bool _ | .boolean, .null => true
  | .numeric, .int _ | .numeric, .null => true
  | .numeric, .float x => x.isFinite
  | .boolean, _ | .numeric, _ => false
  | _, _ => true

namespace ParameterKind

theorem takes_of_untyped {kind : ParameterKind} (hboolean : kind ≠ .boolean)
    (hnumeric : kind ≠ .numeric) (value : Literal) : kind.takes value = true := by
  cases kind with
  | boolean => exact absurd rfl hboolean
  | numeric => exact absurd rfl hnumeric
  | _ => cases value <;> rfl

theorem takes_boolean_iff {value : Literal} :
    boolean.takes value = true ↔ value = .null ∨ ∃ b, value = .bool b := by
  cases value <;> simp [takes]

theorem takes_numeric_iff {value : Literal} :
    numeric.takes value = true ↔
      value = .null ∨ (∃ i, value = .int i) ∨ ∃ x, value = .float x ∧ x.isFinite = true := by
  cases value <;> simp [takes]

end ParameterKind

/-- The parameter takes its value, or is a numeric one whose value is one of the exceptions. -/
def ParameterState.IsTyped (exception : String → Literal → Prop) (p : ParameterState) : Prop :=
  p.kind.takes p.value = true ∨ p.kind = .numeric ∧ exception p.name p.value

namespace Operation

def isTyped (op : Operation) : Bool :=
  op.defaultParameters.all fun p =>
    p.kind.takes p.value &&
      op.arguments.entries.all fun argument =>
        argument.1 != p.name || p.kind.takes argument.2

/-- Whatever the value is, the parameter of that name takes it. -/
def takesAny (op : Operation) (name : String) : Bool :=
  op.defaultParameters.all fun p =>
    p.name != name || p.kind != .boolean && p.kind != .numeric

theorem isTyped_argument {op : Operation} (h : op.isTyped = true) {name : String}
    (hname : op.takesAny name = true) (value : Literal) :
    (op.argument name value).isTyped = true := by
  refine List.all_eq_true.mpr fun p hp => ?_
  obtain ⟨hdefault, harguments⟩ := Bool.and_eq_true_iff.mp (List.all_eq_true.mp h p hp)
  refine Bool.and_eq_true_iff.mpr ⟨hdefault, List.all_eq_true.mpr fun argument hargument => ?_⟩
  rcases mem_insertEntry hargument with rfl | hbefore
  · have hany := List.all_eq_true.mp hname p hp
    by_cases heq : p.name = name
    · simp only [heq, bne_self_eq_false, Bool.false_or, Bool.and_eq_true, bne_iff_ne] at hany
      rw [ParameterKind.takes_of_untyped hany.1 hany.2, Bool.or_true]
    · rw [bne_iff_ne.mpr (Ne.symm heq), Bool.true_or]
  · exact List.all_eq_true.mp harguments argument hbefore

/-- The parameters take their defaults and the arguments, up to the exceptions. -/
def IsTyped (exception : String → Literal → Prop) (op : Operation) : Prop :=
  ∀ p ∈ op.defaultParameters, p.kind.takes p.value = true ∧
    ∀ value, (p.name, value) ∈ op.arguments.entries → { p with value := value }.IsTyped exception

theorem isTyped_of_isTyped {op : Operation} (h : op.isTyped = true)
    (exception : String → Literal → Prop) : op.IsTyped exception := by
  intro p hp
  obtain ⟨hdefault, harguments⟩ := Bool.and_eq_true_iff.mp (List.all_eq_true.mp h p hp)
  refine ⟨hdefault, fun value hvalue => .inl ?_⟩
  simpa using List.all_eq_true.mp harguments (p.name, value) hvalue

theorem mem_of_fill {op : Operation} {arguments : List (String × Literal)}
    {ps qs : List ParameterState} (h : op.fill arguments ps = .ok qs) {q : ParameterState}
    (hq : q ∈ qs) :
    ∃ p ∈ ps, ∃ value, q = { p with value := value } ∧
      (value = p.value ∨ (p.name, value) ∈ arguments) := by
  induction arguments generalizing ps with
  | nil =>
    cases h
    exact ⟨q, hq, q.value, rfl, .inl rfl⟩
  | cons argument rest ih =>
    obtain ⟨name, given⟩ := argument
    rw [fill] at h
    split at h
    · obtain ⟨_, hset, value, rfl, hvalue⟩ := ih h
      obtain ⟨p, hp, rfl⟩ := List.mem_map.mp hset
      refine ⟨p, hp, value, ?_⟩
      by_cases hname : p.name = name
      · rw [if_pos hname] at hvalue ⊢
        refine ⟨rfl, .inr ?_⟩
        rcases hvalue with rfl | hrest
        · exact hname ▸ List.mem_cons_self
        · exact List.mem_cons_of_mem _ hrest
      · rw [if_neg hname] at hvalue ⊢
        exact ⟨rfl, hvalue.imp_right (List.mem_cons_of_mem _)⟩
    · cases h

theorem IsTyped.of_parameters {op : Operation} {exception : String → Literal → Prop}
    (h : op.IsTyped exception) {ps : List ParameterState} (hps : op.parameters = .ok ps) :
    ∀ p ∈ ps, p.IsTyped exception := by
  intro q hq
  obtain ⟨p, hp, value, rfl, hvalue⟩ := mem_of_fill hps hq
  rcases hvalue with rfl | hargument
  · exact .inl (h p hp).1
  · exact (h p hp).2 value hargument

end Operation
end TablePhrase
