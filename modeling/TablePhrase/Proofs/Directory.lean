import TablePhrase.Directory
import TablePhrase.Proofs.KeyMap

/-!
A file that was written is read back, and where nothing could be written, what is read there is as
before. Writing replaces no directory, so every directory on the way to the file is still entered
afterwards; and where a directory cannot be made, none is entered.
-/

namespace TablePhrase.Directory

variable {d made : Directory} {place target : List String} {name path text : String} {node : Node}

theorem node?_put_of_ne (h : place ≠ target) (d : Directory) (node : Node) :
    (d.put target node).node? place = d.node? place := by
  simp only [node?, put, List.lookup_cons, beq_false_of_ne h, lookup_filter_ne, if_neg h]

theorem node?_put_self (h : d.node? target ≠ some .directory) (node : Node) :
    (d.put target node).node? target = some node := by
  have hancestor : isAncestor target = false := by
    cases hancestor : isAncestor target with
    | false => rfl
    | true => exact absurd (if_pos hancestor) h
  simp [node?, put, hancestor]

theorem enter_put {next : List String} (hfree : d.node? target ≠ some .directory)
    (h : d.enter place name = some next) : (d.put target node).enter place name = some next := by
  unfold enter at h ⊢
  split at h
  · next hup => rwa [if_pos hup]
  · next hdown =>
    split at h
    · next hdirectory =>
      have hne : place ++ [name] ≠ target := by
        rintro rfl
        exact hfree hdirectory
      rwa [if_neg hdown, node?_put_of_ne hne, if_pos hdirectory]
    · cases h

theorem foldlM_enter_put (hfree : d.node? target ≠ some .directory) {names start : List String}
    {last : List String} (h : names.foldlM d.enter start = some last) :
    names.foldlM (d.put target node).enter start = some last := by
  induction names generalizing start with
  | nil => exact h
  | cons name names ih =>
    rw [List.foldlM_cons] at h ⊢
    obtain ⟨next, hnext, hlast⟩ := Option.bind_eq_some_iff.mp h
    rw [enter_put hfree hnext]
    exact ih hlast

theorem locate_put (hfree : d.node? target ≠ some .directory) (h : d.locate path = some place) :
    (d.put target node).locate path = some place := by
  unfold locate at h ⊢
  split at h
  · cases h
  · next hpath =>
    rw [if_neg hpath]
    split at h
    · next hends =>
      rw [if_pos hends]
      exact foldlM_enter_put hfree h
    · next hends =>
      rw [if_neg hends]
      obtain ⟨parent, hparent, hlast⟩ := Option.bind_eq_some_iff.mp h
      rw [foldlM_enter_put hfree hparent]
      exact hlast

theorem of_write?_eq_some (h : d.write? path text = some made) :
    (made.locate path).bind made.node? = some (.file text) := by
  obtain ⟨place, hplace, hwrite⟩ := Option.bind_eq_some_iff.mp h
  split at hwrite
  · cases hwrite
  · next hfree =>
    cases hwrite
    rw [locate_put hfree hplace]
    exact node?_put_self hfree _

theorem read?_of_save (h : (d.save path text).2 = true) :
    (d.save path text).1.read? path = some text := by
  unfold save at h ⊢
  generalize d.makeAll (start path) (names path).dropLast = result at h ⊢
  obtain ⟨onTheWay, reached⟩ := result
  cases reached with
  | false => cases h
  | true =>
    simp only [if_true] at h ⊢
    cases hwrite : onTheWay.write? path text with
    | none =>
      rw [hwrite] at h
      cases h
    | some made => simp only [read?, of_write?_eq_some hwrite]

theorem eq_of_enter {next : List String} (hname : name ≠ "..")
    (h : d.enter place name = some next) : next = place ++ [name] := by
  rw [enter, if_neg hname] at h
  split at h
  · exact (Option.some.inj h).symm
  · cases h

theorem makeAll_up (d : Directory) (place rest : List String) :
    d.makeAll place (".." :: rest) = d.makeAll (above place) rest := by
  rw [makeAll, if_pos rfl]

theorem makeAll_of_foldlM_enter {names last : List String}
    (h : names.foldlM d.enter place = some last) : d.makeAll place names = (d, true) := by
  induction names generalizing place with
  | nil => rfl
  | cons name names ih =>
    rw [List.foldlM_cons] at h
    obtain ⟨next, hnext, hlast⟩ := Option.bind_eq_some_iff.mp h
    by_cases hname : name = ".."
    · rw [hname, enter, if_pos rfl] at hnext
      cases hnext
      rw [hname, makeAll_up, ih hlast]
    · obtain rfl := eq_of_enter hname hnext
      have hdirectory : d.node? (place ++ [name]) = some .directory := by
        rw [enter, if_neg hname] at hnext
        split at hnext
        · assumption
        · cases hnext
      rw [makeAll, if_neg hname, hdirectory]
      exact ih hlast

theorem foldlM_enter_of_makeAll {names : List String} (h : (d.makeAll place names).2 = false) :
    names.foldlM (d.makeAll place names).1.enter place = none := by
  induction names generalizing d place with
  | nil => cases h
  | cons name names ih =>
    -- what is entered at all is the place where the rest are made
    have hdown : ∀ {made : Directory}, name ≠ ".." →
        names.foldlM made.enter (place ++ [name]) = none →
        (name :: names).foldlM made.enter place = none := by
      intro made hname hrest
      rw [List.foldlM_cons]
      refine Option.bind_eq_none_iff.mpr fun next hnext => ?_
      rw [eq_of_enter hname hnext]
      exact hrest
    by_cases hname : name = ".."
    · subst hname
      rw [makeAll_up] at h ⊢
      rw [List.foldlM_cons, enter, if_pos rfl]
      exact ih h
    · rw [makeAll, if_neg hname] at h ⊢
      split at h
      · exact hdown hname (ih h)
      · next hfile =>
        rw [List.foldlM_cons, enter, if_neg hname, if_neg (by simp [hfile])]
        rfl
      · next hfree =>
        split at h
        · next hisName =>
          rw [if_pos hisName]
          exact hdown hname (ih h)
        · next hisName =>
          rw [if_neg hisName, List.foldlM_cons, enter, if_neg hname, if_neg (by simp [hfree])]
          rfl

theorem makeAll_of_locate (h : d.locate path = some place) :
    d.makeAll (start path) (names path).dropLast = (d, true) := by
  unfold locate at h
  split at h
  · cases h
  · split at h
    · cases hlast : (names path).getLast? with
      | none =>
        rw [List.getLast?_eq_none_iff.mp hlast]
        rfl
      | some name =>
        rw [← List.dropLast_append_getLast? name hlast, List.foldlM_append] at h
        obtain ⟨parent, hparent, -⟩ := Option.bind_eq_some_iff.mp h
        exact makeAll_of_foldlM_enter hparent
    · obtain ⟨parent, hparent, -⟩ := Option.bind_eq_some_iff.mp h
      exact makeAll_of_foldlM_enter hparent

theorem locate_eq_none_of_foldlM
    (h : (names path).dropLast.foldlM d.enter (start path) = none) : d.locate path = none := by
  unfold locate
  split
  · rfl
  · split
    · cases hlast : (names path).getLast? with
      | none =>
        rw [List.getLast?_eq_none_iff.mp hlast] at h
        cases h
      | some name =>
        rw [← List.dropLast_append_getLast? name hlast, List.foldlM_append, h]
        rfl
    · rw [h]
      rfl

theorem read?_of_locate_eq_none (h : d.locate path = none) : d.read? path = none := by
  rw [read?, h]
  rfl

theorem read?_of_write?_eq_none (h : d.write? path text = none) : d.read? path = none := by
  cases hplace : d.locate path with
  | none => exact read?_of_locate_eq_none hplace
  | some place =>
    rw [write?, hplace, Option.bind_eq_bind, Option.bind_some] at h
    split at h
    · next hdirectory => rw [read?, hplace, Option.bind_some, hdirectory]
    · cases h

/-- A write that was refused leaves what is read at its path as it was. -/
theorem read?_of_save_refused (h : (d.save path text).2 = false) :
    (d.save path text).1.read? path = d.read? path := by
  unfold save at h ⊢
  cases hplace : d.locate path with
  | some place =>
    rw [makeAll_of_locate hplace] at h ⊢
    simp only [if_true] at h ⊢
    split at h
    · cases h
    · rfl
  | none =>
    rw [read?_of_locate_eq_none hplace]
    cases hmade : (d.makeAll (start path) (names path).dropLast).2 with
    | false =>
      have hstuck := locate_eq_none_of_foldlM (foldlM_enter_of_makeAll hmade)
      simp only [hmade, Bool.false_eq_true, if_false] at h ⊢
      exact read?_of_locate_eq_none hstuck
    | true =>
      simp only [hmade, if_true] at h ⊢
      split at h
      · cases h
      · next hwrite => exact read?_of_write?_eq_none hwrite

theorem contains_of_read? (h : d.read? path = some text) : d.contains path = true := by
  unfold read? at h
  split at h
  · next hnode => rw [contains, hnode, Option.isSome_some]
  · cases h

end TablePhrase.Directory
