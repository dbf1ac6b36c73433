import Mathlib.Data.List.FinRange
import TablePhrase.Resolution

/-!
The ranking by places. Equal candidates may stand at several places of the list, so that the order
in which candidates are taken is an order of the places: the more probable first, and of equally
probable ones the earlier.
-/

namespace TablePhrase.Candidate

variable {threshold : Binary64} {candidates : List Candidate}

def keyAt (candidates : List Candidate) (i : Fin candidates.length) : Int :=
  (candidates.get i).probability.totalKey

def isAsProbable (candidates : List Candidate) (i j : Fin candidates.length) : Bool :=
  keyAt candidates j ≤ keyAt candidates i

theorem isAsProbable_iff {i j : Fin candidates.length} :
    isAsProbable candidates i j = true ↔ keyAt candidates j ≤ keyAt candidates i :=
  decide_eq_true_iff

theorem isAsProbable_trans (i j k : Fin candidates.length) :
    isAsProbable candidates i j = true → isAsProbable candidates j k = true →
      isAsProbable candidates i k = true := by
  simp only [isAsProbable_iff]
  omega

theorem isAsProbable_total (i j : Fin candidates.length) :
    (isAsProbable candidates i j || isAsProbable candidates j i) = true := by
  simp only [Bool.or_eq_true, isAsProbable_iff]
  omega

def Precedes (candidates : List Candidate) (i j : Fin candidates.length) : Prop :=
  keyAt candidates j < keyAt candidates i ∨ keyAt candidates i = keyAt candidates j ∧ i < j

theorem Precedes.asymm {i j : Fin candidates.length} (h : Precedes candidates i j) :
    ¬ Precedes candidates j i := by
  unfold Precedes at *
  omega

def likely (threshold : Binary64) (candidates : List Candidate) : List (Fin candidates.length) :=
  (List.finRange candidates.length).filter fun i =>
    (candidates.get i).probability.atLeast threshold

def ranking (threshold : Binary64) (candidates : List Candidate) :
    List (Fin candidates.length) :=
  (likely threshold candidates).mergeSort (isAsProbable candidates)

theorem map_likely : (likely threshold candidates).map candidates.get =
    candidates.filter fun c => c.probability.atLeast threshold := by
  conv => rhs; rw [← List.map_get_finRange candidates, List.filter_map]
  rfl

theorem map_ranking : (ranking threshold candidates).map candidates.get =
    rank threshold candidates := by
  rw [rank, ← map_likely]
  exact List.map_mergeSort fun _ _ _ _ => rfl

theorem mem_ranking_iff {i : Fin candidates.length} :
    i ∈ ranking threshold candidates ↔
      (candidates.get i).probability.atLeast threshold = true := by
  rw [ranking, List.mem_mergeSort, likely, List.mem_filter]
  exact and_iff_right (List.mem_finRange i)

/-- Ranking does not move the places of one probability among each other. -/
theorem filter_ranking (key : Int) :
    (ranking threshold candidates).filter (keyAt candidates · = key) =
      (likely threshold candidates).filter (keyAt candidates · = key) := by
  have hequal : ((likely threshold candidates).filter (keyAt candidates · = key)).Pairwise
      fun i j => isAsProbable candidates i j = true := by
    refine List.pairwise_of_forall_mem_list fun i hi j hj => ?_
    have hi := of_decide_eq_true (List.mem_filter.mp hi).2
    have hj := of_decide_eq_true (List.mem_filter.mp hj).2
    rw [isAsProbable_iff, hi, hj]
  have hranked := List.sublist_mergeSort isAsProbable_trans isAsProbable_total hequal
    List.filter_sublist
  have hclass := hranked.filter (keyAt candidates · = key)
  simp only [List.filter_filter, Bool.and_self] at hclass
  exact (hclass.eq_of_length ((List.mergeSort_perm _ _).filter _).length_eq.symm).symm

theorem pairwise_ranking : (ranking threshold candidates).Pairwise (Precedes candidates) := by
  have hsorted : (ranking threshold candidates).Pairwise
      fun i j => isAsProbable candidates i j = true :=
    List.pairwise_mergeSort isAsProbable_trans isAsProbable_total _
  refine List.pairwise_iff_forall_sublist.mpr fun {i j} hpair => ?_
  have hprobable := isAsProbable_iff.mp (List.pairwise_iff_forall_sublist.mp hsorted hpair)
  rcases Int.lt_or_eq_of_le hprobable with hless | hequal
  · exact .inl hless
  · -- among those of one probability the order is that of the input
    have hclass := hpair.filter (keyAt candidates · = keyAt candidates i)
    rw [filter_ranking] at hclass
    simp only [List.filter_cons, hequal, decide_true, if_true, List.filter_nil] at hclass
    have hplaces := (List.pairwise_lt_finRange candidates.length).sublist
      (hclass.trans (List.filter_sublist.trans List.filter_sublist))
    exact .inr ⟨hequal.symm, List.rel_of_pairwise_cons hplaces List.mem_cons_self⟩

end TablePhrase.Candidate
