import TablePhrase.Memory.Store
import TablePhrase.Proofs.Directory
import TablePhrase.Proofs.Json.RoundTrip
import TablePhrase.Proofs.Literal.Json
import TablePhrase.Proofs.Timestamp

/-!
The file of a store. What was written into it is what a store opened on it remembers, if there is no
double among the values and they are not nested deeper than the reader goes.
-/

namespace TablePhrase

/-- The value is told exactly by its JSON text, and the reader goes deep enough for it. The map of
the entries and the record of each take two of the levels. -/
structure Literal.IsStorable (v : Literal) : Prop where
  floatFree : v.IsFloatFree
  ordered : v.IsOrdered
  shallow : v.nesting + 2 ≤ Json.maxLevels

/-- What the document of a value denotes to the reader of a store's file, if it denotes anything. -/
def Literal.retold? (v : Literal) : Option Literal :=
  ofJson? (Json.maxLevels - 2) v.toJson

theorem Literal.IsStorable.retold?_eq {v : Literal} (h : v.IsStorable) : v.retold? = some v := by
  have hshallow := h.shallow
  exact Literal.ofJson?_toJson v h.floatFree h.ordered (by omega)

namespace KeyMap
variable {α β : Type}

theorem keyMap?_toJson (encode : α → Json) (decode : Json → Option β) (m : KeyMap α) :
    Json.keyMap? decode (m.toJson encode) = m.traverse fun a => decode (encode a) := by
  have hentry : ∀ e : String × α,
      (do let name ← some e.1; let value ← decode (encode e.2); return (name, value)) =
        (decode (encode e.2)).map (e.1, ·) := by
    intro e
    cases decode (encode e.2) <;> rfl
  rw [toJson, Json.object, List.map_map, Json.keyMap?, List.mapM_map, traverse, traverseEntries]
  simp only [Function.comp_def, hentry]
  exact bind_pure_comp ofList _

end KeyMap

namespace Remembered

theorem isPlain_toJson (r : Remembered) : r.toJson.IsPlain := by
  refine .obj (by simp) fun m hm => ?_
  simp only [List.map_cons, List.map_nil, List.mem_cons, List.not_mem_nil, or_false] at hm
  rcases hm with rfl | rfl
  · exact Literal.isPlain_toJson r.value
  · exact .str _

def retold? (r : Remembered) : Option Remembered :=
  r.value.retold?.map (⟨·, r.updatedAt⟩)

theorem ofJson?_toJson (r : Remembered) : ofJson? (Json.maxLevels - 1) r.toJson = r.retold? := by
  have hfields : r.toJson.fields? ["value", "updated_at"] 2 =
      some [("value", r.value.toJson), ("updated_at", r.updatedAt.fileText)] := rfl
  have hlevels : Json.maxLevels - 1 - 1 = Json.maxLevels - 2 := rfl
  have htime := r.updatedAt.parse?_fileText
  rw [ofJson?, hfields, retold?, Literal.retold?, Option.map_eq_bind]
  simp [Json.required, lookup_cons_eq_ite, Json.text?, htime, hlevels]

theorem retold?_eq_self_iff {r : Remembered} :
    r.retold? = some r ↔ r.value.retold? = some r.value := by
  rw [retold?, Option.map_eq_some_iff]
  constructor
  · rintro ⟨v, hv, heq⟩
    rw [hv, ← heq]
  · exact fun h => ⟨r.value, h, rfl⟩

end Remembered

namespace Store

def IsStorable (entries : KeyMap Remembered) : Prop :=
  ∀ e ∈ entries.entries, e.2.value.IsStorable

variable {entries : KeyMap Remembered}

theorem isPlain_toJson (entries : KeyMap Remembered) :
    (entries.toJson Remembered.toJson).IsPlain := by
  refine .obj (fun m hm => ?_) fun m hm => ?_
  · obtain ⟨_, _, rfl⟩ := List.mem_map.mp hm
    rfl
  · obtain ⟨_, hmember, rfl⟩ := List.mem_map.mp hm
    obtain ⟨e, -, rfl⟩ := List.mem_map.mp hmember
    exact e.2.isPlain_toJson

theorem isEmpty_trim_text : (Unicode.trim (text entries).toList).isEmpty = false := by
  obtain ⟨cs, hcs⟩ : ∃ cs, (text entries).toList = '\x7b' :: cs := by
    rw [text, Json.indented, String.toList_ofList, KeyMap.toJson, Json.object]
    cases entries.entries <;> exact ⟨_, rfl⟩
  have hspace : Unicode.isSpace '\x7b' = false := by decide
  refine Bool.eq_false_iff.mpr fun hempty => ?_
  rw [List.isEmpty_iff, Unicode.trim_eq_nil_iff, hcs] at hempty
  rw [hempty '\x7b' List.mem_cons_self] at hspace
  cases hspace

theorem ofText?_text (entries : KeyMap Remembered) :
    ofText? (text entries) = entries.traverse Remembered.retold? := by
  rw [ofText?, if_neg (by simp [isEmpty_trim_text]), text,
    Json.parse?_indented (isPlain_toJson entries), Option.bind_some, KeyMap.keyMap?_toJson]
  congr 1
  funext r
  exact r.ofJson?_toJson

section Reopened
variable {d : Directory} {path : String}

/-- Of a file that a store wrote, a store has the entries with their values told by the file. -/
theorem openAt_of_read? (h : d.read? path = some (text entries)) :
    openAt d path =
      match entries.traverse Remembered.retold? with
      | some told => .ok ⟨d, path, told⟩
      | none => .error (.corrupt path) := by
  have hcontains := Directory.contains_of_read? h
  have htext := ofText?_text entries
  cases htold : entries.traverse Remembered.retold? <;> simp [openAt, hcontains, h, htext, htold]

theorem openAt_eq_ok_iff (h : d.read? path = some (text entries)) :
    openAt d path = .ok ⟨d, path, entries⟩ ↔
      ∀ e ∈ entries.entries, e.2.value.retold? = some e.2.value := by
  have htold := KeyMap.traverse_eq_self_iff (f := Remembered.retold?) (m := entries)
  simp only [Remembered.retold?_eq_self_iff] at htold
  rw [openAt_of_read? h, ← htold]
  cases entries.traverse Remembered.retold? <;> simp

theorem openAt_save (h : IsStorable entries) (hsaved : (d.save path (text entries)).2 = true) :
    openAt (d.save path (text entries)).1 path =
      .ok ⟨(d.save path (text entries)).1, path, entries⟩ :=
  (openAt_eq_ok_iff (Directory.read?_of_save hsaved)).mpr fun e he => (h e he).retold?_eq

end Reopened

end Store
end TablePhrase
