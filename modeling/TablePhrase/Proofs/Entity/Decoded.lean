import TablePhrase.Entity.Decoding
import TablePhrase.Proofs.KeyMap

/-!
Decoded entities by kind and position. Numbered placeholders are all different, so that each entity
text of a set is found, decoded, under its own.
-/

namespace TablePhrase

namespace EntityKind

theorem name_injective {k l : EntityKind} (h : k.name = l.name) : k = l := by
  revert h
  cases k <;> cases l <;> decide

theorem not_isDigit_of_mem_name {k : EntityKind} {c : Char} (h : c ∈ k.name.toList) :
    c.isDigit = false := by
  have hall : k.name.toList.all (!·.isDigit) = true := by
    cases k <;> decide
  simpa using List.all_eq_true.mp hall c h

theorem toList_indexed (k : EntityKind) (i : Nat) :
    (k.indexed i).toList = '<' :: (k.name.toList ++ (Nat.toDigits 10 i ++ ['>'])) := by
  simp [indexed]

theorem takeWhile_not_isDigit_name_append (k : EntityKind) (i : Nat) :
    (k.name.toList ++ Nat.toDigits 10 i).takeWhile (!·.isDigit) = k.name.toList := by
  rw [List.takeWhile_append_of_pos fun c hc => by simp [not_isDigit_of_mem_name hc]]
  obtain ⟨digit, rest, hdigits⟩ := List.exists_cons_of_ne_nil (Nat.toDigits_ne_nil (n := i) (b := 10))
  have hdigit : digit.isDigit = true :=
    Nat.isDigit_of_mem_toDigits (by decide) (by decide) (hdigits ▸ List.mem_cons_self)
  rw [hdigits, List.takeWhile_cons, hdigit]
  simp

theorem indexed_inj {k l : EntityKind} {i j : Nat} : k.indexed i = l.indexed j ↔ k = l ∧ i = j := by
  constructor
  · intro h
    have hinner : k.name.toList ++ Nat.toDigits 10 i = l.name.toList ++ Nat.toDigits 10 j := by
      have hlist := congrArg String.toList h
      rw [toList_indexed, toList_indexed, List.cons.injEq, ← List.append_assoc,
        ← List.append_assoc] at hlist
      exact List.append_cancel_right hlist.2
    -- the name is what stands before the first digit, and the digits give the index back
    have hname := congrArg (List.takeWhile (!·.isDigit)) hinner
    rw [takeWhile_not_isDigit_name_append, takeWhile_not_isDigit_name_append] at hname
    have hkind : k = l := name_injective (String.toList_injective hname)
    rw [hname] at hinner
    have hindex := congrArg (Nat.ofDigitChars 10 · 0) (List.append_cancel_left hinner)
    simp only [Nat.ofDigitChars_ten_toDigits] at hindex
    exact ⟨hkind, hindex⟩
  · rintro ⟨rfl, rfl⟩
    rfl

end EntityKind

namespace EntityTexts

variable {texts : EntityTexts}

theorem mem_items_iff {item : Item} :
    item ∈ texts.items ↔ (texts.get item.kind)[item.index]? = some item.text := by
  rw [items, List.mem_flatMap]
  constructor
  · rintro ⟨kind, -, hitem⟩
    obtain ⟨i, hi, rfl⟩ := List.mem_mapIdx.mp hitem
    exact List.getElem?_eq_getElem hi
  · intro h
    obtain ⟨hi, htext⟩ := List.getElem?_eq_some_iff.mp h
    refine ⟨item.kind, item.kind.mem_groundOrder, List.mem_mapIdx.mpr ⟨item.index, hi, ?_⟩⟩
    rw [htext]

theorem length_items : texts.items.length = texts.size := by
  simp only [items, EntityKind.groundOrder, List.flatMap_cons, List.flatMap_nil, List.length_append,
    List.length_mapIdx, List.length_nil, size, counts, EntityCounts.total, EntityCounts.ofFn]
  omega

theorem pairwise_index_lt_items :
    texts.items.Pairwise fun a b => a.kind = b.kind → a.index < b.index := by
  apply List.pairwise_flatMap.mpr
  constructor
  · intro kind _
    rw [List.pairwise_iff_getElem]
    intro i j hi hj hij _
    simpa only [List.getElem_mapIdx] using hij
  · have hkinds : EntityKind.groundOrder.Pairwise (· ≠ ·) := by decide
    refine hkinds.imp fun {k l} hkl x hx y hy heq => absurd ?_ hkl
    obtain ⟨i, _, rfl⟩ := List.mem_mapIdx.mp hx
    obtain ⟨j, _, rfl⟩ := List.mem_mapIdx.mp hy
    exact heq

theorem pairwise_indexed_items :
    texts.items.Pairwise fun a b => a.kind.indexed a.index ≠ b.kind.indexed b.index := by
  refine pairwise_index_lt_items.imp fun h heq => ?_
  obtain ⟨hkind, hindex⟩ := EntityKind.indexed_inj.mp heq
  exact Nat.ne_of_lt (h hkind) hindex

def literals (texts : EntityTexts) : List Literal :=
  texts.items.map fun item => item.kind.decode item.text

end EntityTexts

namespace DecodedEntities

variable (texts : EntityTexts)

theorem get?_bindings_of_mem {item : EntityTexts.Item} (h : item ∈ texts.items) :
    (ofTexts texts).bindings.get? (item.kind.indexed item.index) =
      some (item.kind.decode item.text) :=
  KeyMap.get?_insertAll_of_mem (fun item : EntityTexts.Item => item.kind.indexed item.index)
    (fun item => item.kind.decode item.text) EntityTexts.pairwise_indexed_items h

theorem get?_bindings_of_forall_ne {key : String}
    (h : ∀ item ∈ texts.items, item.kind.indexed item.index ≠ key) :
    (ofTexts texts).bindings.get? key = none :=
  KeyMap.get?_insertAll_of_forall_ne
    (fun item : EntityTexts.Item => item.kind.indexed item.index)
    (fun item => item.kind.decode item.text) h

theorem get?_ofTexts (kind : EntityKind) (index : Nat) :
    (ofTexts texts).get? kind index = (texts.get kind)[index]?.map kind.decode := by
  rw [get?]
  cases htext : (texts.get kind)[index]? with
  | some text =>
    have hmem : ⟨kind, index, text⟩ ∈ texts.items := EntityTexts.mem_items_iff.mpr htext
    have hbound := get?_bindings_of_mem texts hmem
    exact hbound
  | none =>
    apply get?_bindings_of_forall_ne
    intro item hitem heq
    obtain ⟨hkind, hindex⟩ := EntityKind.indexed_inj.mp heq
    have hitem := EntityTexts.mem_items_iff.mp hitem
    rw [hkind, hindex, htext] at hitem
    cases hitem

theorem size_ofTexts : (ofTexts texts).size = texts.size := by
  have hsize := KeyMap.size_insertAll (m := KeyMap.empty) _
    (fun item : EntityTexts.Item => item.kind.decode item.text)
    (@EntityTexts.pairwise_indexed_items texts) fun item _ => KeyMap.get?_empty _
  rw [EntityTexts.length_items] at hsize
  exact hsize.trans (Nat.zero_add _)

/-- Every decoded text is bound to its own placeholder, and nothing else is bound. -/
theorem get?_bindings_eq_some_iff {key : String} {v : Literal} :
    (ofTexts texts).bindings.get? key = some v ↔
      ∃ item ∈ texts.items, item.kind.indexed item.index = key ∧ item.kind.decode item.text = v := by
  constructor
  · intro h
    by_cases hkey : ∃ item ∈ texts.items, item.kind.indexed item.index = key
    · obtain ⟨item, hitem, rfl⟩ := hkey
      rw [get?_bindings_of_mem texts hitem] at h
      exact ⟨item, hitem, rfl, Option.some.inj h⟩
    · rw [get?_bindings_of_forall_ne texts fun item hitem heq => hkey ⟨item, hitem, heq⟩] at h
      cases h
  · rintro ⟨item, hitem, rfl, rfl⟩
    exact get?_bindings_of_mem texts hitem

theorem mem_literals_of_get?_eq_some {key : String} {v : Literal}
    (h : (ofTexts texts).bindings.get? key = some v) : v ∈ texts.literals := by
  obtain ⟨item, hitem, -, rfl⟩ := (get?_bindings_eq_some_iff texts).mp h
  exact List.mem_map_of_mem hitem

theorem isEmpty_ofTexts : (ofTexts texts).isEmpty = texts.isEmpty := by
  have hlength : (ofTexts texts).isEmpty = ((ofTexts texts).size == 0) := by
    rw [isEmpty, KeyMap.isEmpty, size, KeyMap.size]
    cases (ofTexts texts).bindings.entries <;> rfl
  rw [hlength, size_ofTexts]
  rfl

end DecodedEntities
end TablePhrase
