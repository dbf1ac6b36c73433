/-!
Maps from strings, kept as lists of entries in the order of their keys. The order is by code point,
so that a map has one representation and its entries are listed as they are printed.
-/

namespace TablePhrase

def insertEntry {α : Type} (key : String) (value : α) :
    List (String × α) → List (String × α)
  | [] => [(key, value)]
  | (k, v) :: rest =>
    if key < k then (key, value) :: (k, v) :: rest
    else if k < key then (k, v) :: insertEntry key value rest
    else (key, value) :: rest

/-- The entries in key order; of two with the same key the later counts. -/
def sortEntries {α : Type} (entries : List (String × α)) : List (String × α) :=
  entries.foldl (fun sorted entry => insertEntry entry.1 entry.2 sorted) []

def KeysIncrease {α : Type} (entries : List (String × α)) : Prop :=
  entries.Pairwise fun a b => a.1 < b.1

theorem mem_insertEntry {α : Type} {key : String} {value : α} {e : String × α} :
    ∀ {entries : List (String × α)},
      e ∈ insertEntry key value entries → e = (key, value) ∨ e ∈ entries
  | [], h => by simpa [insertEntry] using h
  | (k, v) :: rest, h => by
    rw [insertEntry] at h
    split at h
    · simpa using h
    · split at h
      · rcases List.mem_cons.mp h with h | h
        · exact .inr (h ▸ List.mem_cons_self)
        · exact (mem_insertEntry h).imp_right (List.mem_cons_of_mem _)
      · exact (List.mem_cons.mp h).imp_right (List.mem_cons_of_mem _)

theorem KeysIncrease.insertEntry {α : Type} (key : String) (value : α) :
    ∀ {entries : List (String × α)},
      KeysIncrease entries → KeysIncrease (insertEntry key value entries)
  | [], _ => by simp [TablePhrase.insertEntry, KeysIncrease]
  | (k, v) :: rest, h => by
    obtain ⟨hk, hrest⟩ := List.pairwise_cons.mp h
    rw [TablePhrase.insertEntry]
    split
    · next lt =>
      refine List.pairwise_cons.mpr ⟨fun e he => ?_, h⟩
      rcases List.mem_cons.mp he with rfl | he
      · exact lt
      · exact String.lt_trans lt (hk e he)
    · split
      · next lt =>
        refine List.pairwise_cons.mpr ⟨fun e he => ?_, KeysIncrease.insertEntry key value hrest⟩
        rcases mem_insertEntry he with rfl | he
        · exact lt
        · exact hk e he
      · next hkey hk' =>
        have eq : k = key := String.le_antisymm hkey hk'
        exact List.pairwise_cons.mpr ⟨fun e he => eq ▸ hk e he, hrest⟩

theorem keysIncrease_foldl {α : Type} :
    ∀ (entries : List (String × α)) {sorted : List (String × α)}, KeysIncrease sorted →
      KeysIncrease (entries.foldl (fun m entry => insertEntry entry.1 entry.2 m) sorted)
  | [], _, h => h
  | e :: rest, _, h => keysIncrease_foldl rest (h.insertEntry e.1 e.2)

theorem keysIncrease_sortEntries {α : Type} (entries : List (String × α)) :
    KeysIncrease (sortEntries entries) :=
  keysIncrease_foldl entries .nil

/-- A map from strings, its entries in key order. -/
structure KeyMap (α : Type) where
  entries : List (String × α)
  increasing : KeysIncrease entries

namespace KeyMap

variable {α : Type}

def empty : KeyMap α :=
  ⟨[], .nil⟩

instance : Inhabited (KeyMap α) :=
  ⟨empty⟩

instance [DecidableEq α] : DecidableEq (KeyMap α) := fun m n =>
  decidable_of_iff (m.entries = n.entries) (by cases m; cases n; simp)

def insert (m : KeyMap α) (key : String) (value : α) : KeyMap α :=
  ⟨insertEntry key value m.entries, m.increasing.insertEntry key value⟩

def ofList (entries : List (String × α)) : KeyMap α :=
  ⟨sortEntries entries, keysIncrease_sortEntries entries⟩

def get? (m : KeyMap α) (key : String) : Option α :=
  m.entries.lookup key

def contains (m : KeyMap α) (key : String) : Bool :=
  (m.get? key).isSome

def erase (m : KeyMap α) (key : String) : KeyMap α :=
  ⟨m.entries.filter (·.1 != key), m.increasing.sublist List.filter_sublist⟩

def keys (m : KeyMap α) : List String :=
  m.entries.map (·.1)

def size (m : KeyMap α) : Nat :=
  m.entries.length

def isEmpty (m : KeyMap α) : Bool :=
  m.entries.isEmpty

@[ext]
theorem ext {m n : KeyMap α} (h : m.entries = n.entries) : m = n := by
  cases m
  cases n
  simpa using h

end KeyMap
end TablePhrase
