import TablePhrase.Proofs.Lifting.Spans

/-!
Where the spans of a cut stand. Each stands between the text that the spans and gaps before it make
up and the text that those behind it do, and there the matcher finds it.
-/

namespace TablePhrase.Lifting

/-- A span of the cut, with the text in front of it and the text behind it. -/
def Cut.Places (cut : Cut) (front span back : List Char) : Prop :=
  ∃ earlier gap later, cut.spans = earlier ++ (gap, span) :: later ∧
    front = fill ⟨earlier, gap⟩ id ∧ back = fill ⟨later, cut.tail⟩ id

theorem Cut.exists_places {cut : Cut} {span : List Char} (h : span ∈ cut.found) :
    ∃ front back, cut.Places front span back := by
  obtain ⟨⟨gap, _⟩, hmem, rfl⟩ := List.mem_map.mp h
  obtain ⟨earlier, later, hspans⟩ := List.append_of_mem hmem
  exact ⟨_, _, earlier, gap, later, hspans, rfl, rfl⟩

theorem Cut.places_first (gap span : List Char) (later : List (List Char × List Char))
    (tail : List Char) :
    (⟨(gap, span) :: later, tail⟩ : Cut).Places gap span (fill ⟨later, tail⟩ id) :=
  ⟨[], gap, later, rfl, rfl, rfl⟩

namespace Matcher
variable {m : Matcher} {before text front span back : List Char}

theorem exists_length_of_find? {found : Match} (h : m.find? before text = some found) :
    ∃ length, m (found.gap.reverse ++ before) (found.span ++ found.rest) = some length ∧
      found.span = (found.span ++ found.rest).take (max 1 length) := by
  induction text generalizing before found with
  | nil => cases h
  | cons c text ih =>
    rw [find?] at h
    split at h
    · next length hlength =>
      cases h
      have htake : max 1 length = length - 1 + 1 := by omega
      refine ⟨length, ?_, ?_⟩
      · simpa using hlength
      · rw [htake, List.cons_append, List.take_append_drop, List.take_succ_cons]
    · obtain ⟨later, hlater, rfl⟩ := Option.map_eq_some_iff.mp h
      simpa using ih hlater

theorem of_cutAfter_places (h : (m.cutAfter before text).Places front span back) :
    text = front ++ (span ++ back) ∧
      ∃ length, m (front.reverse ++ before) (span ++ back) = some length ∧
        span = (span ++ back).take (max 1 length) := by
  induction before, text using Matcher.cutAfter.induct m generalizing front with
  | case1 before text hnone =>
    obtain ⟨earlier, gap, later, hspans, -, -⟩ := h
    rw [m.cutAfter_of_find?_eq_none hnone] at hspans
    cases earlier <;> cases hspans
  | case2 before text found hfound _ ih =>
    obtain ⟨earlier, gap, later, hspans, hfront, hback⟩ := h
    rw [m.cutAfter_of_find?_eq_some hfound] at hspans hback
    have htext := find?_eq_append hfound
    cases earlier with
    | nil =>
      simp only [List.nil_append, List.cons.injEq, Prod.mk.injEq] at hspans
      obtain ⟨⟨rfl, rfl⟩, rfl⟩ := hspans
      have hrest := fill_id_cutAfter m ((found.gap ++ found.span).reverse ++ before) found.rest
      have hgap : front = found.gap := by
        rw [hfront]
        rfl
      rw [hback.trans hrest, hgap, htext, List.append_assoc]
      exact ⟨rfl, exists_length_of_find? hfound⟩
    | cons first earlier =>
      simp only [List.cons_append, List.cons.injEq] at hspans
      obtain ⟨rfl, hspans⟩ := hspans
      obtain ⟨hrest, length, hlength, hspan⟩ := ih ⟨earlier, gap, later, hspans, rfl, hback⟩
      have hjoin : front = found.gap ++ found.span ++ Cut.fill ⟨earlier, gap⟩ id := by
        rw [hfront]
        simp [Cut.fill]
      refine ⟨?_, length, ?_, hspan⟩
      · simp only [htext, hrest, hjoin, List.append_assoc]
      · rwa [hjoin, List.reverse_append, List.append_assoc]

theorem of_cut_places (h : (m.cut text).Places front span back) :
    text = front ++ (span ++ back) ∧
      ∃ length, m front.reverse (span ++ back) = some length ∧
        span = (span ++ back).take (max 1 length) := by
  have hplaces := of_cutAfter_places h
  rwa [List.append_nil] at hplaces

end Matcher
end TablePhrase.Lifting
