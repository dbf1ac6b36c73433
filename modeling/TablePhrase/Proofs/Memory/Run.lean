import TablePhrase.Proofs.Memory.File

/-!
Requests to a store, one after another. Each leaves certain entries in memory, and then it writes
the file or leaves it alone; after a run without failures a store opened anew has the last value
that was saved under every key.
-/

namespace TablePhrase

namespace KeyMap
variable {α β : Type} {m : KeyMap α}

theorem mem_entries_insertAll {key : β → String} {value : β → α} {items : List β} {e : String × α}
    (h : e ∈ (m.insertAll key value items).entries) :
    e ∈ m.entries ∨ ∃ item ∈ items, e = (key item, value item) := by
  induction items generalizing m with
  | nil => exact .inl h
  | cons item items ih =>
    rw [insertAll, List.foldl_cons] at h
    rcases ih h with hm | ⟨x, hx, rfl⟩
    · rcases mem_insertEntry hm with rfl | hm
      · exact .inr ⟨item, List.mem_cons_self, rfl⟩
      · exact .inl hm
    · exact .inr ⟨x, List.mem_cons_of_mem item hx, rfl⟩

end KeyMap

namespace Store

inductive Request
  | save (now : Timestamp) (items : List (String × Literal))
  | delete (key : String)
  | reset

namespace Request

def change : Request → Change Bool
  | save now items => do Store.save now items; return true
  | delete key => Store.delete key
  | reset => do Store.reset; return true

/-- The entries after a request, whether or not they can be written. -/
def leaves (entries : KeyMap Remembered) : Request → KeyMap Remembered
  | save now items => entries.insertAll (·.1) (fun item => ⟨item.2, now⟩) items
  | delete key => entries.erase key
  | reset => .empty

def writes (entries : KeyMap Remembered) : Request → Bool
  | delete key => entries.contains key
  | _ => true

def perform (r : Request) (s : Store) : Except StoreError Bool × Store :=
  match r.change.run s with
  | .ok answer t => (.ok answer, t)
  | .error e t => (.error e, t)

/-- What becomes of a key in the course of a request: a value is saved for it, or it is
forgotten. -/
def outcomes (key : String) : Request → List (Option Literal)
  | save _ items => (items.filter fun item => item.1 == key).map fun item => some item.2
  | delete k => if k = key then [none] else []
  | reset => [none]

def IsStorable : Request → Prop
  | save _ items => ∀ item ∈ items, item.2.IsStorable
  | _ => True

end Request

def run : List Request → Store → List (Except StoreError Bool) × Store
  | [], s => ([], s)
  | r :: rs, s =>
    let (answer, t) := r.perform s
    let (answers, u) := run rs t
    (answer :: answers, u)

/-- The last value saved for a key since it was last forgotten, where `start` was known before. -/
def lastSaved (key : String) (start : Option Literal) (requests : List Request) :
    Option Literal :=
  (requests.flatMap (·.outcomes key)).getLast?.getD start

section Step
variable {s t : Store} {r : Request}

theorem run_persist (s : Store) :
    persist.run s =
      if (s.directory.save s.path (text s.entries)).2 then
        .ok () { s with directory := (s.directory.save s.path (text s.entries)).1 }
      else
        .error (.inaccessible s.path)
          { s with directory := (s.directory.save s.path (text s.entries)).1 } := by
  cases hsave : s.directory.save s.path (text s.entries) with
  | mk made written => cases written <;> simp [persist, hsave]

def Request.saved (r : Request) (s : Store) : Directory × Bool :=
  s.directory.save s.path (text (r.leaves s.entries))

theorem perform_of_persist (hrun : r.change.run s =
    (do persist; return true : Change Bool).run { s with entries := r.leaves s.entries }) :
    r.perform s =
      (if (r.saved s).2 then .ok true else .error (.inaccessible s.path),
        ⟨(r.saved s).1, s.path, r.leaves s.entries⟩) := by
  have hpersist : persist.run { s with entries := r.leaves s.entries } =
      if (r.saved s).2 then .ok () ⟨(r.saved s).1, s.path, r.leaves s.entries⟩
      else .error (.inaccessible s.path) ⟨(r.saved s).1, s.path, r.leaves s.entries⟩ :=
    run_persist _
  rw [Request.perform, hrun, EStateM.run_bind, hpersist]
  cases (r.saved s).2 <;> rfl

theorem perform_of_writes (h : r.writes s.entries = true) :
    r.perform s =
      (if (r.saved s).2 then .ok true else .error (.inaccessible s.path),
        ⟨(r.saved s).1, s.path, r.leaves s.entries⟩) := by
  cases r with
  | save now items => exact perform_of_persist rfl
  | reset => exact perform_of_persist rfl
  | delete key =>
    have hcontains : s.entries.contains key = true := h
    refine perform_of_persist ?_
    simp only [Request.change, Store.delete, EStateM.run_bind, EStateM.run_get, hcontains, if_true]
    rfl

theorem perform_of_not_writes (h : r.writes s.entries = false) : r.perform s = (.ok false, s) := by
  cases r with
  | save now items => cases h
  | reset => cases h
  | delete key =>
    have hcontains : s.entries.contains key = false := h
    simp [Request.perform, Request.change, Store.delete, hcontains]

/-- A store opened anew on the files is that store. -/
def IsRecorded (s : Store) : Prop :=
  openAt s.directory s.path = .ok s

theorem isRecorded_of_openAt {d : Directory} {path : String} (h : openAt d path = .ok s) :
    s.path = path ∧ s.IsRecorded := by
  have hplace : s.directory = d ∧ s.path = path := by
    unfold openAt at h
    split at h
    · split at h
      · cases h
      · split at h <;> cases h
        exact ⟨rfl, rfl⟩
    · cases h
      exact ⟨rfl, rfl⟩
  obtain ⟨rfl, rfl⟩ := hplace
  exact ⟨rfl, h⟩

theorem isStorable_leaves (hs : IsStorable s.entries) (hr : r.IsStorable) :
    IsStorable (r.leaves s.entries) := by
  cases r with
  | save now items =>
    intro e he
    rcases KeyMap.mem_entries_insertAll he with he | ⟨item, hitem, rfl⟩
    · exact hs e he
    · exact hr item hitem
  | delete key => exact fun e he => hs e (List.mem_of_mem_filter he)
  | reset => exact fun _ he => nomatch he

theorem map_value_get?_leaves (entries : KeyMap Remembered) (key : String) :
    ((r.leaves entries).get? key).map (·.value) =
      (r.outcomes key).getLast?.getD ((entries.get? key).map (·.value)) := by
  cases r with
  | save now items =>
    rw [Request.leaves, KeyMap.get?_insertAll, Request.outcomes, List.getLast?_map]
    cases (items.filter fun item => item.1 == key).getLast? <;> rfl
  | delete other =>
    rw [Request.leaves, KeyMap.get?_erase, Request.outcomes]
    by_cases hkey : other = key
    · rw [if_pos hkey.symm, if_pos hkey]
      rfl
    · rw [if_neg (Ne.symm hkey), if_neg hkey]
      rfl
  | reset => rfl

theorem getD_outcomes_of_not_writes (h : r.writes s.entries = false) (key : String) :
    (r.outcomes key).getLast?.getD (s.value? key) = s.value? key := by
  cases r with
  | save now items => cases h
  | reset => cases h
  | delete other =>
    rw [Request.outcomes]
    split
    · next hkey =>
      have hnone : s.entries.get? other = none :=
        Option.isNone_iff_eq_none.mp (Option.isSome_eq_false_iff.mp h)
      rw [value?, ← hkey, hnone]
      rfl
    · rfl

structure Succeeds (r : Request) (s t : Store) : Prop where
  path : t.path = s.path
  storable : IsStorable t.entries
  recorded : s.IsRecorded → t.IsRecorded
  value : ∀ key, t.value? key = (r.outcomes key).getLast?.getD (s.value? key)

theorem succeeds_of_perform {answer : Bool} (hs : IsStorable s.entries) (hr : r.IsStorable)
    (h : r.perform s = (.ok answer, t)) : Succeeds r s t := by
  cases hwrites : r.writes s.entries with
  | false =>
    rw [perform_of_not_writes hwrites] at h
    cases h
    exact ⟨rfl, hs, id, fun key => (getD_outcomes_of_not_writes hwrites key).symm⟩
  | true =>
    rw [perform_of_writes hwrites] at h
    cases hsaved : (r.saved s).2 with
    | false =>
      rw [hsaved] at h
      cases h
    | true =>
      rw [hsaved] at h
      cases h
      have hleaves := isStorable_leaves hs hr
      exact ⟨rfl, hleaves, fun _ => openAt_save hleaves hsaved, map_value_get?_leaves s.entries⟩

end Step

section Run
variable {s : Store} {requests : List Request}

theorem run_cons (r : Request) (rs : List Request) (s : Store) :
    run (r :: rs) s =
      ((r.perform s).1 :: (run rs (r.perform s).2).1, (run rs (r.perform s).2).2) := rfl

theorem lastSaved_cons (key : String) (start : Option Literal) (r : Request) (rs : List Request) :
    lastSaved key start (r :: rs) =
      lastSaved key ((r.outcomes key).getLast?.getD start) rs := by
  rw [lastSaved, List.flatMap_cons, List.getLast?_append, lastSaved]
  cases (rs.flatMap (·.outcomes key)).getLast? <;> rfl

theorem of_run_ok (hs : IsStorable s.entries) (hrecorded : s.IsRecorded)
    (hstorable : ∀ r ∈ requests, r.IsStorable)
    (hok : ∀ answer ∈ (run requests s).1, answer.isOk = true) :
    (run requests s).2.path = s.path ∧ (run requests s).2.IsRecorded ∧
      ∀ key, (run requests s).2.value? key = lastSaved key (s.value? key) requests := by
  induction requests generalizing s with
  | nil => exact ⟨rfl, hrecorded, fun _ => rfl⟩
  | cons r rs ih =>
    rw [run_cons] at hok ⊢
    -- the first request leaves a store for which the same can be said
    obtain ⟨answer, hanswer⟩ : ∃ answer, (r.perform s).1 = .ok answer := by
      have hfirst := hok _ List.mem_cons_self
      cases hperform : (r.perform s).1 with
      | error e =>
        rw [hperform] at hfirst
        cases hfirst
      | ok answer => exact ⟨answer, rfl⟩
    have hstep : Succeeds r s (r.perform s).2 :=
      succeeds_of_perform hs (hstorable r List.mem_cons_self) (Prod.ext hanswer rfl)
    obtain ⟨hpath, hrest, hvalue⟩ := ih hstep.storable (hstep.recorded hrecorded)
      (fun x hx => hstorable x (List.mem_cons_of_mem r hx))
      fun x hx => hok x (List.mem_cons_of_mem _ hx)
    refine ⟨hpath.trans hstep.path, hrest, fun key => ?_⟩
    rw [hvalue key, hstep.value key, lastSaved_cons]

/-- What a store writes it reads back, and after a run without failures a store opened anew has the
last value that was saved under every key since the key was last forgotten, and no other. -/
theorem reopened_as_saved :
    (∀ {s t : Store}, IsStorable s.entries → persist.run s = .ok () t →
      openAt t.directory t.path = .ok t ∧ t.entries = s.entries) ∧
    ∀ {d : Directory} {path : String} {opened : Store} {requests : List Request},
      openAt d path = .ok opened → IsStorable opened.entries →
      (∀ r ∈ requests, r.IsStorable) →
      (∀ answer ∈ (run requests opened).1, answer.isOk = true) →
      ∃ reopened, openAt (run requests opened).2.directory path = .ok reopened ∧
        reopened.entries = (run requests opened).2.entries ∧
        ∀ key, reopened.value? key = lastSaved key (opened.value? key) requests := by
  refine ⟨fun {s t} hs hpersist => ?_, fun {d path opened requests} hopen hs hstorable hok => ?_⟩
  · rw [run_persist] at hpersist
    split at hpersist
    · next hsaved =>
      cases hpersist
      exact ⟨openAt_save hs hsaved, rfl⟩
    · cases hpersist
  · obtain ⟨hpath, hrecorded⟩ := isRecorded_of_openAt hopen
    obtain ⟨hlast, hreopen, hvalue⟩ := of_run_ok hs hrecorded hstorable hok
    refine ⟨_, ?_, rfl, hvalue⟩
    rwa [IsRecorded, hlast, hpath] at hreopen

def firstDay : Timestamp :=
  ⟨2024, 2, 29, 23, 59, 60, 500000000, by decide⟩

def sampleRequests : List Request :=
  [.save firstDay [("k", .str "null"), ("n", .int 1), ("clé", .str "1\n\"😀\"")],
    .save firstDay [("k", .list [.list [], .map [("", .null)]])], .delete "n"]

theorem reopened_as_saved_sample :
    (run sampleRequests ⟨.empty, "d/m.json", .empty⟩).1 = [.ok true, .ok true, .ok true] ∧
    ∃ reopened, openAt (run sampleRequests ⟨.empty, "d/m.json", .empty⟩).2.directory "d/m.json" =
        .ok reopened ∧
      reopened.value? "k" = some (.list [.list [], .map [("", .null)]]) ∧
      reopened.value? "n" = none ∧ reopened.value? "clé" = some (.str "1\n\"😀\"") := by
  have hanswers : (run sampleRequests ⟨.empty, "d/m.json", .empty⟩).1 =
      [.ok true, .ok true, .ok true] := by decide +kernel
  have hmissing : ¬Directory.empty.contains "d/m.json" = true := by decide +kernel
  have hopen : openAt .empty "d/m.json" = .ok ⟨.empty, "d/m.json", .empty⟩ := if_neg hmissing
  have hstorable : ∀ r ∈ sampleRequests, r.IsStorable := by
    intro r hr
    simp only [sampleRequests, List.mem_cons, List.not_mem_nil, or_false] at hr
    rcases hr with rfl | rfl | rfl
    · intro item hitem
      simp only [List.mem_cons, List.not_mem_nil, or_false] at hitem
      rcases hitem with rfl | rfl | rfl <;> exact ⟨by decide, by decide, by decide⟩
    · rintro item hitem
      rw [List.mem_singleton.mp hitem]
      exact ⟨by decide, by decide, by decide⟩
    · trivial
  obtain ⟨reopened, hreopen, -, hvalue⟩ := reopened_as_saved.2 hopen (fun _ he => nomatch he)
    hstorable (by rw [hanswers]; decide)
  refine ⟨hanswers, reopened, hreopen, ?_, ?_, ?_⟩
  · exact (hvalue "k").trans (by rfl)
  · exact (hvalue "n").trans (by rfl)
  · exact (hvalue "clé").trans (by rfl)

end Run

end Store
end TablePhrase
