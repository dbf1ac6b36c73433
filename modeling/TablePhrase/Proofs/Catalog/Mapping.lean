import TablePhrase.Grounding
import TablePhrase.Proofs.Catalog.Coverage
import TablePhrase.Proofs.Literal.Requoted
import TablePhrase.Proofs.Text.Search

/-!
Renaming columns by a mapping. Its text is read with one kind of quotes, whatever the quotes in it
stood for: a mapping whose texts have no quotes is read back, of any other one either the text is
kept or another mapping is read.
-/

namespace TablePhrase.Catalog

open Json (isForbidden)
open Literal (mapping stringsOf strayQuotes requotedText)

section Mapper
variable (m : KeyMap String)

theorem replaceAll_code :
    String.ofList (Text.replaceAll ['\''] ['"'] (mapping m).code.toList) = requotedText m := by
  rw [Text.replaceAll_single, Literal.toList_code]
  rfl

theorem renameMapper_of_isUnquoted (h : ∀ s ∈ stringsOf m.entries, Text.IsUnquoted s.toList) :
    renameMapper (.str (mapping m).code) = mapping m := by
  refine renameMapper_of_map ?_ (Literal.ofJson?_mapping m.increasing)
  rw [replaceAll_code]
  exact Literal.parse?_requote h

theorem renameMapper_mapping_iff :
    renameMapper (.str (mapping m).code) = mapping m ↔
      ∀ s ∈ stringsOf m.entries, Text.IsUnquoted s.toList := by
  refine ⟨fun h s hs c hc => ?_, renameMapper_of_isUnquoted m⟩
  rcases renameMapper_str (mapping m).code with ⟨j, entries, hj, hentries, hmap⟩ | hkept
  · rw [replaceAll_code] at hj
    rw [← hmap, h] at hentries
    obtain ⟨hsingle, hdouble⟩ := Literal.no_quotes_of_ofJson? m hj hentries s hs c hc
    exact ⟨hsingle, hdouble, Literal.isForbidden_of_parse? m hj hs hc⟩
  · rw [hkept] at h
    cases h

/-- Where neither the mapping is read back nor the text is kept, another mapping is read. That takes
stray quotes that pair up and strings without controls. -/
theorem renameMapper_mapping_cases :
    renameMapper (.str (mapping m).code) = mapping m ∨
      renameMapper (.str (mapping m).code) = .str (mapping m).code ∨
      (∃ entries, renameMapper (.str (mapping m).code) = .map entries) ∧
        (∀ s ∈ stringsOf m.entries, ∀ c ∈ s.toList, isForbidden c = false) ∧
        0 < strayQuotes m.entries ∧ Even (strayQuotes m.entries) := by
  by_cases hunquoted : ∀ s ∈ stringsOf m.entries, Text.IsUnquoted s.toList
  · exact .inl (renameMapper_of_isUnquoted m hunquoted)
  refine .inr ?_
  rcases renameMapper_str (mapping m).code with ⟨j, entries, hj, -, hmap⟩ | hkept
  · rw [replaceAll_code] at hj
    have hallowed : ∀ s ∈ stringsOf m.entries, ∀ c ∈ s.toList, isForbidden c = false :=
      fun s hs c hc => Literal.isForbidden_of_parse? m hj hs hc
    have hquote : ∃ s ∈ stringsOf m.entries, ∃ c ∈ s.toList, c = '\'' ∨ c = '"' := by
      by_contra hnone
      refine hunquoted fun s hs c hc => ⟨?_, ?_, hallowed s hs c hc⟩
      · exact fun h => hnone ⟨s, hs, c, hc, .inl h⟩
      · exact fun h => hnone ⟨s, hs, c, hc, .inr h⟩
    obtain ⟨s, hs, c, hc, hquote⟩ := hquote
    exact .inr ⟨⟨entries, hmap⟩, hallowed, Literal.strayQuotes_pos_of_mem m hs hc hquote,
      Literal.even_of_parse? m hj⟩
  · exact .inl hkept

theorem mapper_of_resolve (text : String) :
    (resolve "RENAME COLUMNS TO <value>" (.ofTexts (.ofKind .value [text]))).arguments.get?
      "mapper" = some (renameMapper (.str text)) := by
  have hentry : entries.find? (·.template == "RENAME COLUMNS TO <value>") =
      some ⟨"RENAME COLUMNS TO <value>", rename⟩ := rfl
  have hmapper (v : Literal) :
      (((KeyMap.empty.insert "mapper" v).insert "axis" "columns").get? "mapper") = some v := by
    simp
  have hplan : plan? "RENAME COLUMNS TO <value>" (.ofTexts (.ofKind .value [text])) =
      rename "RENAME COLUMNS TO <value>" (.ofTexts (.ofKind .value [text])) := by
    rw [plan?, hentry]
    rfl
  rw [resolve, hplan]
  unfold rename
  rw [DecodedEntities.value?_ofTexts, DecodedEntities.size_ofTexts]
  exact hmapper _

/-- Renaming by the text of a mapping from strings to strings gives that mapping exactly if no key
and no value of it has a quote or a control that is not escaped. Otherwise the text is kept or, if
an even number of quotes is unescaped in it apart from those around its strings, another mapping may
be read. -/
theorem resolve_renameColumns :
    ∃ c mapper,
      recombine "RENAME COLUMNS TO <value>" (.ofKind .value [(mapping m).code]) = .ok c ∧
      (resolve "RENAME COLUMNS TO <value>" c.entities).arguments.get? "mapper" = some mapper ∧
      (mapper = mapping m ↔ ∀ s ∈ stringsOf m.entries, Text.IsUnquoted s.toList) ∧
      (mapper = mapping m ∨ mapper = .str (mapping m).code ∨
        (∃ entries, mapper = .map entries) ∧
          (∀ s ∈ stringsOf m.entries, ∀ c ∈ s.toList, isForbidden c = false) ∧
          0 < strayQuotes m.entries ∧ Even (strayQuotes m.entries)) := by
  have hcounts : EntityCounts.ofTemplate "RENAME COLUMNS TO <value>" = ⟨0, 1, 0, 0, 0⟩ := by
    decide +kernel
  exact ⟨_, _, if_pos hcounts, mapper_of_resolve _, renameMapper_mapping_iff m,
    renameMapper_mapping_cases m⟩

end Mapper

def punctuated : KeyMap String :=
  .ofList [("a", "b', 'c': 'd")]

def divided : KeyMap String :=
  .ofList [("a", "b"), ("c", "d")]

theorem renameMapper_punctuated :
    renameMapper (.str (mapping punctuated).code) = mapping divided := by
  have hunquoted : ∀ s ∈ stringsOf divided.entries, Text.IsUnquoted s.toList := by decide
  have hsame : requotedText punctuated = requotedText divided := by decide +kernel
  refine renameMapper_of_map ?_ (Literal.ofJson?_mapping divided.increasing)
  rw [replaceAll_code, hsame]
  exact Literal.parse?_requote hunquoted

/-- The quotes in the value are taken for the ends of strings: two columns are renamed. -/
theorem resolve_renameColumns_punctuated :
    ∃ c, recombine "RENAME COLUMNS TO <value>"
        (.ofKind .value ["\x7b'a': \"b', 'c': 'd\"\x7d"]) = .ok c ∧
      (mapping punctuated).code = "\x7b'a': \"b', 'c': 'd\"\x7d" ∧
      (resolve "RENAME COLUMNS TO <value>" c.entities).arguments.get? "mapper" =
        some (mapping divided) ∧
      mapping divided ≠ mapping punctuated ∧
      mapping divided ≠ .str (mapping punctuated).code := by
  have hcode : (mapping punctuated).code = "\x7b'a': \"b', 'c': 'd\"\x7d" := by decide +kernel
  have hcounts : EntityCounts.ofTemplate "RENAME COLUMNS TO <value>" = ⟨0, 1, 0, 0, 0⟩ := by
    decide +kernel
  have hlength : (Literal.written divided.entries).length ≠
      (Literal.written punctuated.entries).length := by
    decide
  refine ⟨_, if_pos hcounts, hcode, ?_, fun h => hlength ?_, nofun⟩
  case refine_2 => exact congrArg List.length (Literal.map.inj h)
  refine (mapper_of_resolve _).trans (congrArg some ?_)
  rw [← hcode]
  exact renameMapper_punctuated

end TablePhrase.Catalog
