import TablePhrase.Memory.Store
import TablePhrase.Memory.Suggestion
import TablePhrase.Proofs.KeyMap
import TablePhrase.Proofs.Session.Keywords

/-!
What a session leaves to be remembered, put into the entries of a store: one entry for each
parameter that differs from its default and one for the scope, whose key is the name of no
parameter.
-/

namespace TablePhrase

namespace Session

variable {s : Session}

/-- The entries are as they were, except for what the session leaves to be remembered: the parameters
that differ from their defaults, and the scope if one is chosen. -/
structure Merges (s : Session) (now : Timestamp) (entries merged : KeyMap Remembered) : Prop where
  parameter : ∀ p ∈ s.parameters, p.isDefault = false → merged.get? p.name = some ⟨p.value, now⟩
  scope : ∀ scope, s.scope = some scope → scope.value.isNull = false →
    merged.get? scope.kind.key = some ⟨scope.value, now⟩
  other : ∀ key, (∀ p ∈ s.parameters, p.isDefault = false → p.name ≠ key) →
    (∀ scope, s.scope = some scope → scope.value.isNull = false → scope.kind.key ≠ key) →
    merged.get? key = entries.get? key

def mergedInto (s : Session) (now : Timestamp) (entries : KeyMap Remembered) :
    KeyMap Remembered :=
  entries.insertAll (·.1) (fun e => ⟨e.2, now⟩) s.remembered.entries

section Remembered

theorem get?_arguments_of_mem (hcurrent : s.IsCurrent) (hnames : s.HasSignature)
    {p : ParameterState} (hp : p ∈ s.parameters) (hdefault : p.isDefault = false) :
    (KeyMap.ofList s.arguments).get? p.name = some p.value := by
  have hpairwise : s.arguments.Pairwise fun a b => a.1 ≠ b.1 := by
    rw [hcurrent.arguments_eq, List.pairwise_map]
    exact (List.pairwise_map.mp hnames.nodup_names).sublist List.filter_sublist
  have hmem : (p.name, p.value) ∈ s.arguments := by
    rw [hcurrent.arguments_eq]
    exact List.mem_map.mpr ⟨p, List.mem_filter.mpr ⟨hp, by simp [hdefault]⟩, rfl⟩
  rw [KeyMap.ofList_eq_insertAll]
  exact KeyMap.get?_insertAll_of_mem _ _ hpairwise hmem

theorem get?_arguments_eq_none (hcurrent : s.IsCurrent) {key : String}
    (h : ∀ p ∈ s.parameters, p.isDefault = false → p.name ≠ key) :
    (KeyMap.ofList s.arguments).get? key = none := by
  rw [KeyMap.ofList_eq_insertAll]
  refine KeyMap.get?_insertAll_of_forall_ne _ _ fun argument hargument => ?_
  obtain ⟨p, hp, hdefault, rfl⟩ := hcurrent.exists_of_mem_arguments hargument
  exact h p hp hdefault

theorem get?_remembered_scope {scope : ScopeState} (hscope : s.scope = some scope)
    (hchosen : scope.value.isNull = false) :
    s.remembered.get? scope.kind.key = some scope.value := by
  simp [remembered, hscope, hchosen, KeyMap.get?_insert]

theorem get?_remembered_of_ne {key : String}
    (h : ∀ scope, s.scope = some scope → scope.value.isNull = false → scope.kind.key ≠ key) :
    s.remembered.get? key = (KeyMap.ofList s.arguments).get? key := by
  unfold remembered
  cases hscope : s.scope with
  | none => rfl
  | some scope =>
    cases hnull : scope.value.isNull with
    | true => simp [hnull]
    | false => simp [hnull, KeyMap.get?_insert, (h scope hscope hnull).symm]

theorem get?_mergedInto (s : Session) (now : Timestamp) (entries : KeyMap Remembered)
    (key : String) :
    (s.mergedInto now entries).get? key =
      ((s.remembered.get? key).map (⟨·, now⟩)).or (entries.get? key) :=
  KeyMap.get?_insertAll_entries entries s.remembered (⟨·, now⟩) key

theorem merges_mergedInto (hcurrent : s.IsCurrent) (hnames : s.HasSignature) (now : Timestamp)
    (entries : KeyMap Remembered) : s.Merges now entries (s.mergedInto now entries) where
  parameter := by
    intro p hp hdefault
    have hscope : ∀ scope, s.scope = some scope → scope.value.isNull = false →
        scope.kind.key ≠ p.name :=
      fun scope _ _ => (hnames.name_ne_scope_key hp scope.kind).symm
    rw [get?_mergedInto, get?_remembered_of_ne hscope,
      get?_arguments_of_mem hcurrent hnames hp hdefault]
    rfl
  scope := by
    intro scope hscope hchosen
    rw [get?_mergedInto, get?_remembered_scope hscope hchosen]
    rfl
  other := by
    intro key hparameters hscopes
    rw [get?_mergedInto, get?_remembered_of_ne hscopes,
      get?_arguments_eq_none hcurrent hparameters]
    rfl

end Remembered

end Session

end TablePhrase
