import TablePhrase.Proofs.Resolution.Selection

/-!
What a resolution does not depend on: the order of candidates whose probabilities differ, candidates
that are not probable enough, and the workspace, but for the order of values in templates that speak
of a column.
-/

namespace TablePhrase

namespace Candidate

variable {threshold : Binary64} {candidates others : List Candidate}

theorem rank_perm (threshold : Binary64) (candidates : List Candidate) :
    (rank threshold candidates).Perm
      (candidates.filter fun c => c.probability.atLeast threshold) :=
  List.mergeSort_perm _ _

theorem pairwise_rank : (rank threshold candidates).Pairwise fun a b =>
    b.probability.totalKey ≤ a.probability.totalKey := by
  rw [← map_ranking, List.pairwise_map]
  refine pairwise_ranking.imp fun h => ?_
  exact h.elim Int.le_of_lt fun hequal => Int.le_of_eq hequal.1.symm

theorem rank_eq_of_perm
    (hdiffer : (candidates.map fun c => c.probability.totalKey).Nodup)
    (hperm : candidates.Perm others) : rank threshold candidates = rank threshold others := by
  have hrank := (rank_perm threshold candidates).trans
    ((hperm.filter _).trans (rank_perm threshold others).symm)
  refine hrank.eq_of_pairwise (fun a b ha hb hba hab => ?_) pairwise_rank pairwise_rank
  have ha := List.mem_of_mem_filter ((rank_perm ..).mem_iff.mp ha)
  have hb := hperm.mem_iff.mpr (List.mem_of_mem_filter ((rank_perm ..).mem_iff.mp hb))
  exact List.inj_on_of_nodup_map hdiffer ha hb (Int.le_antisymm hab hba)

/-- The second list has more candidates than the first, none of them probable enough. -/
inductive Padded (threshold : Binary64) : List Candidate → List Candidate → Prop
  | nil : Padded threshold [] []
  | keep (c : Candidate) {candidates padded : List Candidate} :
    Padded threshold candidates padded → Padded threshold (c :: candidates) (c :: padded)
  | insert (c : Candidate) {candidates padded : List Candidate} :
    c.probability.atLeast threshold = false → Padded threshold candidates padded →
      Padded threshold candidates (c :: padded)

theorem Padded.rank_eq (h : Padded threshold candidates others) :
    rank threshold others = rank threshold candidates := by
  have hfilter : (others.filter fun c => c.probability.atLeast threshold) =
      candidates.filter fun c => c.probability.atLeast threshold := by
    induction h with
    | nil => rfl
    | keep c _ ih => rw [List.filter_cons, List.filter_cons, ih]
    | insert c hbelow _ ih => rw [List.filter_cons, hbelow]; exact ih
  rw [rank, hfilter]
  rfl

theorem resolve_congr {settings : Settings}
    (h : rank settings.confidenceThreshold candidates = rank settings.confidenceThreshold others)
    (utterance : String) (workspace : Workspace) :
    resolve settings utterance candidates workspace =
      resolve settings utterance others workspace := by
  rw [resolve, resolve, h]

end Candidate

namespace Candidate

/-- Both are offers of the candidate with the entities of the utterance and the template. Only the
order of values may differ, and only if the lifted template speaks of a column. -/
structure OfferedAlike (utterance : String) (c : Candidate) (one other : ResolvedCandidate) :
    Prop where
  offers : ∃ texts reordered,
    texts.Reorders ((lift utterance).entities ++ (lift c.template).entities) ∧
      reordered.Reorders ((lift utterance).entities ++ (lift c.template).entities) ∧
        one = offer utterance c texts ∧ other = offer utterance c reordered
  lifted : one.combination.lifted = other.combination.lifted
  equal : Text.occurs "ON COLUMN".toList c.form.toList = false → one = other

variable {candidates : List Candidate}

theorem textsFor_of_not_occurs {c : Candidate}
    (h : Text.occurs "ON COLUMN".toList c.form.toList = false) (workspace : Workspace)
    (spoken : EntityTexts) :
    textsFor workspace spoken c = spoken ++ (lift c.template).entities := by
  rw [textsFor, entities]
  exact if_neg (Bool.eq_false_iff.mp h)

theorem offeredAlike_offerAt (first second : Workspace) (utterance : String)
    (i : Fin candidates.length) :
    OfferedAlike utterance (candidates.get i) (offerAt first utterance candidates i)
      (offerAt second utterance candidates i) where
  offers := ⟨_, _, textsFor_reorders, textsFor_reorders, rfl, rfl⟩
  lifted := (textsFor_reorders.trans textsFor_reorders.symm).lifted_eq _
  equal h := by
    rw [offerAt, offerAt]
    simp only [textsFor_of_not_occurs h]

end Candidate

open Candidate

/-- A resolution is the same for candidates in another order, if no two of them are equally
probable, and for more candidates that are not probable enough. With another workspace the same
candidates are offered, alike but for the order of values in a template that speaks of a column. -/
theorem resolve_of_relevant (settings : Settings) (utterance : String)
    (candidates : List Candidate) (workspace : Workspace) :
    ((candidates.map fun c => c.probability.totalKey).Nodup →
      ∀ permuted, candidates.Perm permuted →
        resolve settings utterance permuted workspace =
          resolve settings utterance candidates workspace) ∧
    (∀ padded, Padded settings.confidenceThreshold candidates padded →
      resolve settings utterance padded workspace =
        resolve settings utterance candidates workspace) ∧
    ∀ other : Workspace,
      (resolve settings utterance candidates workspace = .notSure settings.notSureMarker ∧
        resolve settings utterance candidates other = .notSure settings.notSureMarker) ∨
      ∃ (chosen : List (Fin candidates.length)) (offers others : Fin candidates.length →
          ResolvedCandidate),
        resolve settings utterance candidates workspace = .candidates (chosen.map offers) ∧
        resolve settings utterance candidates other = .candidates (chosen.map others) ∧
        ∀ i ∈ chosen, OfferedAlike utterance (candidates.get i) (offers i) (others i) := by
  refine ⟨fun hdiffer permuted hperm => ?_, fun padded hpadded => ?_, fun other => ?_⟩
  · exact (resolve_congr (rank_eq_of_perm hdiffer hperm) utterance workspace).symm
  · exact resolve_congr hpadded.rank_eq utterance workspace
  · rw [resolve_eq, resolve_eq]
    cases selected settings (lift utterance).entities candidates with
    | nil => exact .inl ⟨rfl, rfl⟩
    | cons i chosen =>
      exact .inr ⟨i :: chosen, offerAt workspace utterance candidates,
        offerAt other utterance candidates, rfl, rfl,
        fun j _ => offeredAlike_offerAt workspace other utterance j⟩

theorem resolve_strip_and_head :
    let head : Candidate := ⟨"show the first rows", "SHOW FIRST ROWS", .ofQuotient false 3 4⟩
    let strip : Candidate :=
      ⟨"on column a strip b", "ON COLUMN <value> STRIP <value>", .ofQuotient false 5 8⟩
    let unlikely : Candidate := ⟨"show it", "SHOW INFORMATION", .ofQuotient false 1 4⟩
    let resolved := fun candidates => resolve .standard "on column a strip b" candidates .empty
    let quoted := "strip \"(m)\" from column \"B\""
    let workspace := Workspace.empty.insert ⟨"df", ⟨["A", "B"], []⟩⟩
    resolved [strip, head] = resolved [head, strip] ∧
      resolved [head, unlikely, strip] = resolved [head, strip] ∧
      resolved [head, strip] =
        .candidates [offerAt .empty "on column a strip b" [head, strip] 0] ∧
      ∃ c ∈ [head, strip], ∃ one other,
        resolve .standard quoted [head, strip] workspace = .candidates [one] ∧
        resolve .standard quoted [head, strip] .empty = .candidates [other] ∧
        OfferedAlike quoted c one other ∧
        one.combination.grounded = "ON COLUMN \"B\" STRIP \"(m)\"" ∧
        other.combination.grounded = "ON COLUMN \"(m)\" STRIP \"B\"" := by
  intro head strip unlikely resolved quoted workspace
  have hranking : ranking Settings.standard.confidenceThreshold [head, strip] = [0, 1] := by
    have hlikely : likely Settings.standard.confidenceThreshold [head, strip] = [0, 1] := by
      decide +kernel
    rw [ranking, hlikely]
    exact List.mergeSort_of_pairwise (by decide +kernel)
  have hhead : selected .standard (lift "on column a strip b").entities [head, strip] = [0] := by
    rw [selected, shortlist, eligible, hranking]
    decide +kernel
  have hstrip : selected .standard (lift quoted).entities [head, strip] = [1] := by
    rw [selected, shortlist, eligible, hranking]
    decide +kernel
  have hoffered := resolve_of_selected_singleton hstrip
  have hrelevant := resolve_of_relevant .standard "on column a strip b" [head, strip] .empty
  refine ⟨hrelevant.1 (by decide +kernel) _ (.swap _ _ _),
    hrelevant.2.1 _ (.keep head (.insert unlikely (by decide +kernel) (.keep strip .nil))),
    resolve_of_selected_singleton hhead .empty, ?_⟩
  rcases (resolve_of_relevant .standard quoted [head, strip] workspace).2.2 .empty with
    ⟨hnone, -⟩ | ⟨chosen, offers, others, hoffers, hothers, halike⟩
  · cases (hoffered workspace).symm.trans hnone
  · have hone := Resolution.candidates.inj ((hoffered workspace).symm.trans hoffers)
    have hother := Resolution.candidates.inj ((hoffered .empty).symm.trans hothers)
    obtain ⟨i, rfl, hi⟩ := List.map_eq_singleton_iff.mp hone.symm
    have halike := halike i List.mem_cons_self
    rw [hi, ← List.singleton_inj.mp hother] at halike
    exact ⟨_, List.get_mem _ i, _, _, hoffered workspace, hoffered .empty, halike,
      by decide +kernel, by decide +kernel⟩

end TablePhrase
