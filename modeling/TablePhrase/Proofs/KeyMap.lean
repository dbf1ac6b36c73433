import Mathlib.Data.List.Induction
import Mathlib.Data.List.Nodup
import TablePhrase.KeyMap

/-!
Look-up in maps from strings, after one insertion and after many, and entries that are in order
already. Look-up in lists whose items have names.
-/

namespace TablePhrase

variable {α β : Type}

theorem find?_name_eq_some {name : α → String} {xs : List α} {x : α}
    (hnames : (xs.map name).Nodup) (hx : x ∈ xs) : xs.find? (name · == name x) = some x := by
  cases hfound : xs.find? (name · == name x) with
  | none =>
    have hmissing := List.find?_eq_none.mp hfound x hx
    simp at hmissing
  | some y =>
    have hname : name y = name x := by simpa using List.find?_some hfound
    rw [List.inj_on_of_nodup_map hnames (List.mem_of_find?_eq_some hfound) hx hname]

theorem lookup_cons_eq_ite (key k : String) (v : α) (rest : List (String × α)) :
    ((k, v) :: rest).lookup key = if key = k then some v else rest.lookup key := by
  by_cases h : key = k
  · simp [h]
  · have hbeq : (key == k) = false := beq_false_of_ne h
    rw [List.lookup_cons, hbeq, if_neg h]

theorem lookup_insertEntry (key other : String) (value : α) (entries : List (String × α)) :
    (insertEntry key value entries).lookup other =
      if other = key then some value else entries.lookup other := by
  induction entries with
  | nil => exact lookup_cons_eq_ite other key value []
  | cons entry rest ih =>
    obtain ⟨k, v⟩ := entry
    rw [insertEntry]
    split
    · exact lookup_cons_eq_ite other key value ((k, v) :: rest)
    · split
      · next hlt =>
        have hne : key ≠ k := fun h => String.lt_irrefl k (h ▸ hlt)
        rw [lookup_cons_eq_ite, lookup_cons_eq_ite, ih]
        by_cases hother : other = key
        · rw [hother, if_neg hne]
          simp
        · rw [if_neg hother, if_neg hother]
      · next hkey hk =>
        have heq : k = key := String.le_antisymm hkey hk
        rw [lookup_cons_eq_ite, lookup_cons_eq_ite, heq]
        by_cases hother : other = key
        · rw [if_pos hother, if_pos hother]
        · rw [if_neg hother, if_neg hother, if_neg hother]

theorem lookup_filter_ne {κ : Type} [BEq κ] [LawfulBEq κ] [DecidableEq κ] (key other : κ)
    (entries : List (κ × α)) :
    (entries.filter fun e => e.1 != key).lookup other =
      if other = key then none else entries.lookup other := by
  induction entries with
  | nil => simp
  | cons entry rest ih =>
    obtain ⟨k, v⟩ := entry
    by_cases hk : k = key
    · rw [List.filter_cons_of_neg (by simp [hk]), ih]
      split
      · rfl
      · next hother => rw [List.lookup_cons, beq_false_of_ne (hk ▸ hother)]
    · rw [List.filter_cons_of_pos (by simp [hk]), List.lookup_cons, List.lookup_cons]
      by_cases hother : other = k
      · simp [hother, hk]
      · rw [beq_false_of_ne hother, ih]

theorem length_insertEntry_of_lookup_eq_none {key : String} (value : α)
    {entries : List (String × α)} (h : entries.lookup key = none) :
    (insertEntry key value entries).length = entries.length + 1 := by
  induction entries with
  | nil => rfl
  | cons entry rest ih =>
    obtain ⟨k, v⟩ := entry
    rw [lookup_cons_eq_ite] at h
    split at h
    · cases h
    · next hne =>
      rw [insertEntry]
      split
      · rfl
      · split
        · rw [List.length_cons, ih h, List.length_cons]
        · next hkey hk => exact absurd (String.le_antisymm hk hkey) hne

theorem insertEntry_append_of_forall_lt {key : String} {value : α} {sorted : List (String × α)}
    (h : ∀ e ∈ sorted, e.1 < key) : insertEntry key value sorted = sorted ++ [(key, value)] := by
  induction sorted with
  | nil => rfl
  | cons e rest ih =>
    obtain ⟨he, hrest⟩ := List.forall_mem_cons.mp h
    rw [insertEntry, if_neg (String.lt_asymm he), if_pos he, ih hrest]
    rfl

theorem foldl_insertEntry_of_keysIncrease {sorted entries : List (String × α)}
    (h : KeysIncrease (sorted ++ entries)) :
    entries.foldl (fun sorted e => insertEntry e.1 e.2 sorted) sorted = sorted ++ entries := by
  induction entries generalizing sorted with
  | nil => simp
  | cons e rest ih =>
    have hlt : ∀ d ∈ sorted, d.1 < e.1 := fun d hd =>
      (List.pairwise_append.mp h).2.2 d hd e List.mem_cons_self
    rw [List.append_cons] at h ⊢
    rw [List.foldl_cons, insertEntry_append_of_forall_lt hlt, ih h]

theorem sortEntries_of_keysIncrease {entries : List (String × α)} (h : KeysIncrease entries) :
    sortEntries entries = entries :=
  foldl_insertEntry_of_keysIncrease h

theorem lookup_sortEntries (key : String) (entries : List (String × α)) :
    (sortEntries entries).lookup key =
      (entries.filter fun e => e.1 == key).getLast?.map (·.2) := by
  induction entries using List.reverseRecOn with
  | nil => rfl
  | append_singleton entries e ih =>
    have hsort : sortEntries (entries ++ [e]) = insertEntry e.1 e.2 (sortEntries entries) := by
      simp [sortEntries]
    rw [hsort, lookup_insertEntry, ih, List.filter_append]
    by_cases hkey : key = e.1
    · simp [hkey]
    · simp [hkey, Ne.symm hkey]

theorem KeysIncrease.lookup_eq_none {key other : String} {value : α}
    {entries : List (String × α)} (h : KeysIncrease ((key, value) :: entries))
    (hother : ¬key < other) : entries.lookup other = none := by
  refine List.lookup_eq_none_iff.mpr fun e he => bne_iff_ne.mpr ?_
  rintro rfl
  exact hother ((List.pairwise_cons.mp h).1 e he)

theorem KeysIncrease.lookup_of_mem {entries : List (String × α)} (h : KeysIncrease entries)
    {e : String × α} (he : e ∈ entries) : entries.lookup e.1 = some e.2 := by
  induction entries with
  | nil => cases he
  | cons first rest ih =>
    obtain ⟨hfirst, hrest⟩ := List.pairwise_cons.mp h
    rw [lookup_cons_eq_ite]
    rcases List.mem_cons.mp he with rfl | he
    · exact if_pos rfl
    · have hne : e.1 ≠ first.1 := fun heq => String.lt_irrefl e.1 (heq ▸ hfirst e he)
      rw [if_neg hne, ih hrest he]

theorem mem_of_mem_sortEntries {entries : List (String × α)} {e : String × α}
    (h : e ∈ sortEntries entries) : e ∈ entries := by
  have hlookup := (keysIncrease_sortEntries entries).lookup_of_mem h
  rw [lookup_sortEntries] at hlookup
  obtain ⟨last, hlast, hvalue⟩ := Option.map_eq_some_iff.mp hlookup
  obtain ⟨hmem, hkey⟩ := List.mem_filter.mp (List.mem_of_getLast? hlast)
  rwa [← Prod.ext (beq_iff_eq.mp hkey) hvalue]

theorem KeysIncrease.not_lt_of_lookup_eq {k l : String} {v w : α} {xs ys : List (String × α)}
    (hys : KeysIncrease ((l, w) :: ys))
    (h : ((k, v) :: xs).lookup k = ((l, w) :: ys).lookup k) : ¬k < l := by
  intro hlt
  have hne : k ≠ l := by
    rintro rfl
    exact String.lt_irrefl k hlt
  rw [lookup_cons_eq_ite, if_pos rfl, lookup_cons_eq_ite, if_neg hne,
    hys.lookup_eq_none (String.lt_asymm hlt)] at h
  cases h

theorem KeysIncrease.eq_of_lookup_eq {xs ys : List (String × α)} (hxs : KeysIncrease xs)
    (hys : KeysIncrease ys) (h : ∀ key, xs.lookup key = ys.lookup key) : xs = ys := by
  induction xs generalizing ys with
  | nil =>
    rcases ys with _ | ⟨⟨l, w⟩, ys⟩
    · rfl
    · exact absurd (h l) (by simp)
  | cons x xs ih =>
    obtain ⟨k, v⟩ := x
    rcases ys with _ | ⟨⟨l, w⟩, ys⟩
    · exact absurd (h k) (by simp)
    · obtain rfl : k = l := String.le_antisymm (hxs.not_lt_of_lookup_eq (h l).symm)
        (hys.not_lt_of_lookup_eq (h k))
      have hvalue := h k
      rw [lookup_cons_eq_ite, if_pos rfl, lookup_cons_eq_ite, if_pos rfl] at hvalue
      obtain rfl := Option.some.inj hvalue
      have hrest : xs = ys := by
        refine ih (List.pairwise_cons.mp hxs).2 (List.pairwise_cons.mp hys).2 fun key => ?_
        by_cases hkey : key = k
        · rw [hkey, hxs.lookup_eq_none (String.lt_irrefl k),
            hys.lookup_eq_none (String.lt_irrefl k)]
        · have hlookup := h key
          rwa [lookup_cons_eq_ite, if_neg hkey, lookup_cons_eq_ite, if_neg hkey] at hlookup
      rw [hrest]

section Traverse
variable {f : α → Option β} {xs : List (String × α)} {ys : List (String × β)}

def traverseEntries (f : α → Option β) (xs : List (String × α)) : Option (List (String × β)) :=
  xs.mapM fun e => (f e.2).map (e.1, ·)

theorem traverseEntries_cons_eq_some_iff {x : String × α} :
    traverseEntries f (x :: xs) = some ys ↔
      ∃ b rest, f x.2 = some b ∧ traverseEntries f xs = some rest ∧ ys = (x.1, b) :: rest := by
  rw [traverseEntries, List.mapM_cons, ← traverseEntries]
  cases f x.2 <;> cases traverseEntries f xs <;> simp [eq_comm]

theorem keys_of_traverseEntries (h : traverseEntries f xs = some ys) :
    ys.map (·.1) = xs.map (·.1) := by
  induction xs generalizing ys with
  | nil =>
    cases h
    rfl
  | cons x xs ih =>
    obtain ⟨b, rest, -, hrest, rfl⟩ := traverseEntries_cons_eq_some_iff.mp h
    rw [List.map_cons, List.map_cons, ih hrest]

theorem lookup_of_traverseEntries (h : traverseEntries f xs = some ys) (key : String) :
    ys.lookup key = (xs.lookup key).bind f := by
  induction xs generalizing ys with
  | nil =>
    cases h
    rfl
  | cons x xs ih =>
    obtain ⟨b, rest, hb, hrest, rfl⟩ := traverseEntries_cons_eq_some_iff.mp h
    rw [lookup_cons_eq_ite, lookup_cons_eq_ite, ih hrest]
    split
    · exact hb.symm
    · rfl

theorem traverseEntries_eq_self {f : α → Option α} (h : ∀ e ∈ xs, f e.2 = some e.2) :
    traverseEntries f xs = some xs := by
  induction xs with
  | nil => rfl
  | cons x xs ih =>
    obtain ⟨hx, hxs⟩ := List.forall_mem_cons.mp h
    exact traverseEntries_cons_eq_some_iff.mpr ⟨x.2, xs, hx, ih hxs, rfl⟩

end Traverse

namespace KeyMap

@[simp]
theorem get?_empty (key : String) : (empty : KeyMap α).get? key = none := rfl

@[simp]
theorem get?_insert (m : KeyMap α) (key other : String) (value : α) :
    (m.insert key value).get? other = if other = key then some value else m.get? other :=
  lookup_insertEntry key other value m.entries

theorem get?_insert_self (m : KeyMap α) (key : String) (value : α) :
    (m.insert key value).get? key = some value := by
  rw [get?_insert, if_pos rfl]

@[simp]
theorem get?_erase (m : KeyMap α) (key other : String) :
    (m.erase key).get? other = if other = key then none else m.get? other :=
  lookup_filter_ne key other m.entries

theorem size_insert_of_get?_eq_none {m : KeyMap α} {key : String} (value : α)
    (h : m.get? key = none) : (m.insert key value).size = m.size + 1 :=
  length_insertEntry_of_lookup_eq_none value h

theorem mem_keys_insert {m : KeyMap α} {key other : String} {value : α}
    (h : other ∈ (m.insert key value).keys) : other = key ∨ other ∈ m.keys := by
  obtain ⟨e, he, rfl⟩ := List.mem_map.mp h
  rcases mem_insertEntry he with rfl | he
  · exact .inl rfl
  · exact .inr (List.mem_map_of_mem he)

def insertAll (m : KeyMap α) (key : β → String) (value : β → α) (items : List β) : KeyMap α :=
  items.foldl (fun m item => m.insert (key item) (value item)) m

section InsertAll
variable (key : β → String) (value : β → α) {items : List β}

theorem get?_insertAll_of_forall_ne {m : KeyMap α} {other : String}
    (h : ∀ item ∈ items, key item ≠ other) :
    (m.insertAll key value items).get? other = m.get? other := by
  induction items generalizing m with
  | nil => rfl
  | cons item items ih =>
    have hrest := ih (m := m.insert (key item) (value item))
      fun x hx => h x (List.mem_cons_of_mem item hx)
    rw [insertAll, List.foldl_cons]
    refine hrest.trans ?_
    rw [get?_insert, if_neg (h item List.mem_cons_self).symm]

theorem get?_insertAll {m : KeyMap α} (other : String) :
    (m.insertAll key value items).get? other =
      ((items.filter fun item => key item == other).getLast?.map value).or (m.get? other) := by
  induction items generalizing m with
  | nil => rfl
  | cons item items ih =>
    rw [insertAll, List.foldl_cons]
    refine ih.trans ?_
    rw [get?_insert, List.filter_cons]
    by_cases hkey : key item = other
    · rw [if_pos hkey.symm, if_pos (beq_iff_eq.mpr hkey), List.getLast?_cons]
      cases (items.filter fun item => key item == other).getLast? <;> rfl
    · rw [if_neg (Ne.symm hkey), if_neg (by simpa using hkey)]

theorem get?_insertAll_of_mem {m : KeyMap α} {item : β}
    (hne : items.Pairwise fun a b => key a ≠ key b) (hmem : item ∈ items) :
    (m.insertAll key value items).get? (key item) = some (value item) := by
  induction items generalizing m with
  | nil => cases hmem
  | cons first items ih =>
    obtain ⟨hfirst, hitems⟩ := List.pairwise_cons.mp hne
    rw [insertAll, List.foldl_cons]
    rcases List.mem_cons.mp hmem with rfl | hmem
    · refine (get?_insertAll_of_forall_ne key value fun x hx => (hfirst x hx).symm).trans ?_
      exact m.get?_insert_self _ _
    · exact ih hitems hmem

theorem size_insertAll {m : KeyMap α} (hne : items.Pairwise fun a b => key a ≠ key b)
    (hnew : ∀ item ∈ items, m.get? (key item) = none) :
    (m.insertAll key value items).size = m.size + items.length := by
  induction items generalizing m with
  | nil => rfl
  | cons first items ih =>
    obtain ⟨hfirst, hitems⟩ := List.pairwise_cons.mp hne
    have hrest := ih (m := m.insert (key first) (value first)) hitems fun item hitem => by
      rw [get?_insert, if_neg (hfirst item hitem).symm]
      exact hnew item (List.mem_cons_of_mem first hitem)
    rw [insertAll, List.foldl_cons]
    refine hrest.trans ?_
    rw [size_insert_of_get?_eq_none _ (hnew first List.mem_cons_self), List.length_cons]
    omega

end InsertAll

theorem ext_get? {m n : KeyMap α} (h : ∀ key, m.get? key = n.get? key) : m = n :=
  ext (m.increasing.eq_of_lookup_eq n.increasing h)

theorem ofList_eq_insertAll (entries : List (String × α)) :
    ofList entries = (empty : KeyMap α).insertAll (·.1) (·.2) entries := by
  refine ext_get? fun key => ?_
  rw [get?_insertAll, get?_empty, Option.or_none]
  exact lookup_sortEntries key entries

theorem get?_insertAll_entries (m : KeyMap α) (n : KeyMap β) (value : β → α) (key : String) :
    (m.insertAll (·.1) (fun e => value e.2) n.entries).get? key =
      ((n.get? key).map value).or (m.get? key) := by
  have hn : n.get? key = (n.entries.filter fun e => e.1 == key).getLast?.map (·.2) := by
    rw [← lookup_sortEntries, sortEntries_of_keysIncrease n.increasing]
    rfl
  rw [get?_insertAll, hn, Option.map_map]
  rfl

theorem ofList_entries (m : KeyMap α) : ofList m.entries = m :=
  ext (sortEntries_of_keysIncrease m.increasing)

def traverse (f : α → Option β) (m : KeyMap α) : Option (KeyMap β) :=
  (traverseEntries f m.entries).map ofList

theorem get?_of_traverse {f : α → Option β} {m : KeyMap α} {n : KeyMap β}
    (h : m.traverse f = some n) (key : String) : n.get? key = (m.get? key).bind f := by
  obtain ⟨entries, hentries, rfl⟩ := Option.map_eq_some_iff.mp h
  have hincreasing : KeysIncrease entries := by
    have hkeys := List.pairwise_map.mpr m.increasing
    rw [← keys_of_traverseEntries hentries] at hkeys
    exact List.pairwise_map.mp hkeys
  have hsorted : (ofList entries).entries = entries := sortEntries_of_keysIncrease hincreasing
  rw [get?, hsorted]
  exact lookup_of_traverseEntries hentries key

theorem get?_of_mem {m : KeyMap α} {e : String × α} (h : e ∈ m.entries) :
    m.get? e.1 = some e.2 :=
  m.increasing.lookup_of_mem h

theorem traverse_eq_self_iff {f : α → Option α} {m : KeyMap α} :
    m.traverse f = some m ↔ ∀ e ∈ m.entries, f e.2 = some e.2 := by
  constructor
  · intro h e he
    have hget := get?_of_traverse h e.1
    rw [get?_of_mem he] at hget
    exact hget.symm
  · intro h
    rw [traverse, traverseEntries_eq_self h, Option.map_some, ofList_entries]

end KeyMap
end TablePhrase
