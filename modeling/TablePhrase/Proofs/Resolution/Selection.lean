import Mathlib.Data.List.Forall2
import TablePhrase.Proofs.Catalog.Totality
import TablePhrase.Proofs.Resolution.Ranking
import TablePhrase.Proofs.Template.Combination

/-!
Which candidates are offered. The candidates that can be grounded are ranked, the first of each
lifted template stays, so many as are wanted are taken, and of these the catalog keeps its own. The
workspace has no part in the choice: it only orders the entities of what is chosen.
-/

namespace TablePhrase

section Firsts

variable {ι κ : Type} [DecidableEq κ] (key : ι → κ)

def firsts : List ι → List ι
  | [] => []
  | i :: is => i :: (firsts is).filter fun j => key j ≠ key i

theorem firsts_sublist (is : List ι) : (firsts key is).Sublist is := by
  induction is with
  | nil => exact List.Sublist.refl _
  | cons i is ih => exact (List.filter_sublist.trans ih).cons_cons i

theorem pairwise_key_firsts (is : List ι) :
    (firsts key is).Pairwise fun i j => key i ≠ key j := by
  induction is with
  | nil => exact List.Pairwise.nil
  | cons i is ih =>
    refine List.pairwise_cons.mpr ⟨fun j hj => ?_, ih.filter _⟩
    exact (of_decide_eq_true (List.mem_filter.mp hj).2).symm

theorem firsts_map {α : Type} (f : α → ι) (as : List α) :
    firsts key (as.map f) = (firsts (fun a => key (f a)) as).map f := by
  induction as with
  | nil => rfl
  | cons a as ih =>
    rw [List.map_cons, firsts, ih, List.filter_map, firsts, List.map_cons]
    rfl

variable {key}

theorem mem_firsts_iff {R : ι → ι → Prop} (hR : ∀ i j, R i j → ¬ R j i) {is : List ι}
    (hordered : is.Pairwise R) {i : ι} :
    i ∈ firsts key is ↔ i ∈ is ∧ ∀ j ∈ is, key j = key i → j = i ∨ R i j := by
  induction is with
  | nil => exact iff_of_false List.not_mem_nil fun h => List.not_mem_nil h.1
  | cons k is ih =>
    obtain ⟨hhead, htail⟩ := List.pairwise_cons.mp hordered
    rw [firsts, List.mem_cons, List.mem_filter, ih htail, decide_eq_true_iff]
    constructor
    · rintro (rfl | ⟨⟨hmem, hbefore⟩, hkey⟩)
      · refine ⟨List.mem_cons_self, fun j hj _ => ?_⟩
        exact (List.mem_cons.mp hj).imp id (hhead j)
      · refine ⟨List.mem_cons_of_mem _ hmem, fun j hj hsame => ?_⟩
        rcases List.mem_cons.mp hj with rfl | hj
        · exact absurd hsame.symm hkey
        · exact hbefore j hj hsame
    · rintro ⟨hmem, hbefore⟩
      rcases List.mem_cons.mp hmem with rfl | hmem
      · exact .inl rfl
      · by_cases hkey : key i = key k
        · rcases hbefore k List.mem_cons_self hkey.symm with rfl | hik
          · exact .inl rfl
          · exact absurd hik (hR k i (hhead i hmem))
        · exact .inr ⟨⟨hmem, fun j hj => hbefore j (List.mem_cons_of_mem _ hj)⟩, hkey⟩

end Firsts

theorem Grounded.distinct_eq_filter (gs : List Grounded) (seen : List String) :
    distinct gs seen = (firsts (·.template) gs).filter (·.template ∉ seen) := by
  induction gs generalizing seen with
  | nil => rfl
  | cons g gs ih =>
    rw [distinct, firsts]
    by_cases hseen : g.template ∈ seen
    · rw [if_pos (List.contains_iff_mem.mpr hseen), ih,
        List.filter_cons_of_neg (by simpa using hseen), List.filter_filter]
      refine List.filter_congr fun other _ => ?_
      rw [← Bool.decide_and, decide_eq_decide]
      refine (and_iff_left_of_imp fun hother hsame => ?_).symm
      exact hother (hsame ▸ hseen)
    · rw [if_neg (List.contains_iff_mem.not.mpr hseen), ih,
        List.filter_cons_of_pos (by simpa using hseen), List.filter_filter]
      refine congrArg _ (List.filter_congr fun other _ => ?_)
      rw [← Bool.decide_and, decide_eq_decide, List.mem_cons, not_or, and_comm]

theorem Grounded.distinct_eq_firsts (gs : List Grounded) :
    distinct gs [] = firsts (·.template) gs := by
  rw [distinct_eq_filter]
  exact List.filter_eq_self.mpr fun _ _ => decide_eq_true List.not_mem_nil

theorem Catalog.isImplemented_resolve_iff {template : String} {texts : EntityTexts}
    (hcounts : EntityCounts.ofTemplate template = texts.counts) :
    (resolve template (.ofTexts texts)).isImplemented = true ↔ template ∈ templates := by
  by_cases hmem : template ∈ templates
  · obtain ⟨op, target, name, hplan, hname, hcalls, -⟩ := plan?_of_mem hmem hcounts.symm
    rw [resolve, hplan, Option.getD_some, Operation.isImplemented, hcalls.name_eq]
    exact iff_of_true (bne_iff_ne.mpr hname) hmem
  · rw [resolve, plan?_of_not_mem hmem]
    exact iff_of_false Bool.false_ne_true hmem

namespace Candidate

variable {settings : Settings} {spoken : EntityTexts} {utterance : String}
  {workspace : Workspace} {candidates : List Candidate} {c : Candidate}

/-- The lifted template. -/
def form (c : Candidate) : String :=
  (lift c.template).text

def textsFor (workspace : Workspace) (spoken : EntityTexts) (c : Candidate) : EntityTexts :=
  entities workspace spoken (lift c.template)

theorem columnsFirst_perm (workspace : Workspace) (values : List String) :
    (columnsFirst workspace values).Perm values := by
  rw [columnsFirst]
  split
  · exact .refl _
  · exact List.filter_append_perm _ _

theorem textsFor_reorders : (textsFor workspace spoken c).Reorders
    (spoken ++ (lift c.template).entities) := by
  rw [textsFor, entities]
  split
  · refine ⟨columnsFirst_perm _ _, fun kind hkind => ?_⟩
    cases kind <;> first | rfl | exact absurd rfl hkind
  · exact .refl _

/-- The entities written in the template, after those of the utterance, are as many as it takes. -/
def IsGroundable (spoken : EntityTexts) (c : Candidate) : Prop :=
  ∃ combination, recombine c.form (spoken ++ (lift c.template).entities) = .ok combination

theorem isGroundable_iff (workspace : Workspace) :
    IsGroundable spoken c ↔
      EntityCounts.ofTemplate c.form = (textsFor workspace spoken c).counts := by
  rw [textsFor_reorders.counts_eq]
  exact exists_recombine_eq_ok_iff _ _

instance : Decidable (IsGroundable spoken c) :=
  decidable_of_iff' _ (isGroundable_iff .empty)

def offer (utterance : String) (c : Candidate) (texts : EntityTexts) : ResolvedCandidate where
  operation := Catalog.resolve c.form (.ofTexts texts)
  combination := .ofTexts c.form texts
  trainingUtterance := c.utterance
  utterance := utterance
  probability := percent c.probability

theorem ground?_eq : ground? workspace spoken c =
    if IsGroundable spoken c then
      some ⟨c, c.form, .ofTexts c.form (textsFor workspace spoken c)⟩
    else none := by
  rw [ground?]
  split
  · next combination heq =>
    have hcombined : recombine c.form (textsFor workspace spoken c) = .ok combination := heq
    obtain ⟨hcounts, rfl⟩ := recombine_eq_ok_iff.mp hcombined
    rw [if_pos ((isGroundable_iff workspace).mpr hcounts)]
    rfl
  · next mismatch heq =>
    have hrefused : recombine c.form (textsFor workspace spoken c) = .error mismatch := heq
    rw [if_neg]
    intro h
    rw [recombine_eq_ok_iff.mpr ⟨(isGroundable_iff workspace).mp h, rfl⟩] at hrefused
    cases hrefused

theorem resolve?_eq {texts : EntityTexts}
    (hcounts : EntityCounts.ofTemplate c.form = texts.counts) :
    Grounded.resolve? utterance ⟨c, c.form, .ofTexts c.form texts⟩ =
      if c.form ∈ Catalog.templates then some (offer utterance c texts) else none := by
  rw [Grounded.resolve?]
  exact if_congr (Catalog.isImplemented_resolve_iff hcounts) rfl rfl

def eligible (threshold : Binary64) (spoken : EntityTexts) (candidates : List Candidate) :
    List (Fin candidates.length) :=
  (ranking threshold candidates).filter fun i => IsGroundable spoken (candidates.get i)

/-- The first of each lifted template, as many as are wanted. -/
def shortlist (settings : Settings) (spoken : EntityTexts) (candidates : List Candidate) :
    List (Fin candidates.length) :=
  (firsts (fun i => (candidates.get i).form)
    (eligible settings.confidenceThreshold spoken candidates)).take settings.maxCandidates

def selected (settings : Settings) (spoken : EntityTexts) (candidates : List Candidate) :
    List (Fin candidates.length) :=
  (shortlist settings spoken candidates).filter fun i =>
    (candidates.get i).form ∈ Catalog.templates

def groundedAt (workspace : Workspace) (spoken : EntityTexts) (candidates : List Candidate)
    (i : Fin candidates.length) : Grounded :=
  let c := candidates.get i
  ⟨c, c.form, .ofTexts c.form (textsFor workspace spoken c)⟩

def offerAt (workspace : Workspace) (utterance : String) (candidates : List Candidate)
    (i : Fin candidates.length) : ResolvedCandidate :=
  let c := candidates.get i
  offer utterance c (textsFor workspace (lift utterance).entities c)

theorem filterMap_ground?_rank (threshold : Binary64) :
    (rank threshold candidates).filterMap (ground? workspace spoken) =
      (eligible threshold spoken candidates).map (groundedAt workspace spoken candidates) := by
  rw [← map_ranking, List.filterMap_map, eligible, ← List.filterMap_eq_map, List.filterMap_filter]
  refine List.filterMap_congr fun i _ => ?_
  rw [Function.comp_apply, ground?_eq]
  simp only [decide_eq_true_eq]
  rfl

theorem mem_eligible_iff {threshold : Binary64} {i : Fin candidates.length} :
    i ∈ eligible threshold spoken candidates ↔
      (candidates.get i).probability.atLeast threshold = true ∧
        IsGroundable spoken (candidates.get i) := by
  rw [eligible, List.mem_filter, mem_ranking_iff, decide_eq_true_iff]

theorem pairwise_eligible {threshold : Binary64} :
    (eligible threshold spoken candidates).Pairwise (Precedes candidates) :=
  pairwise_ranking.filter _

theorem mem_eligible_of_mem_shortlist {i : Fin candidates.length}
    (h : i ∈ shortlist settings spoken candidates) :
    i ∈ eligible settings.confidenceThreshold spoken candidates :=
  (firsts_sublist _ _).subset (List.mem_of_mem_take h)

theorem filterMap_resolve?_shortlist :
    ((shortlist settings (lift utterance).entities candidates).map
        (groundedAt workspace (lift utterance).entities candidates)).filterMap
          (Grounded.resolve? utterance) =
      (selected settings (lift utterance).entities candidates).map
        (offerAt workspace utterance candidates) := by
  rw [List.filterMap_map, selected, ← List.filterMap_eq_map, List.filterMap_filter]
  refine List.filterMap_congr fun i hi => ?_
  have hgroundable := (mem_eligible_iff.mp (mem_eligible_of_mem_shortlist hi)).2
  simp only [decide_eq_true_eq]
  exact resolve?_eq ((isGroundable_iff workspace).mp hgroundable)

end Candidate

def Resolution.ofList (marker : String) : List ResolvedCandidate → Resolution
  | [] => .notSure marker
  | resolved => .candidates resolved

open Candidate in
/-- The workspace does not choose: it only orders the entities of what is selected. -/
theorem resolve_eq (settings : Settings) (utterance : String) (candidates : List Candidate)
    (workspace : Workspace) :
    resolve settings utterance candidates workspace =
      .ofList settings.notSureMarker
        ((selected settings (lift utterance).entities candidates).map
          (offerAt workspace utterance candidates)) := by
  rw [← filterMap_resolve?_shortlist, shortlist, List.map_take]
  change Resolution.ofList settings.notSureMarker
    (((Grounded.distinct ((rank settings.confidenceThreshold candidates).filterMap
      (ground? workspace (lift utterance).entities)) []).take settings.maxCandidates).filterMap
        (Grounded.resolve? utterance)) = _
  rw [filterMap_ground?_rank, Grounded.distinct_eq_firsts, firsts_map]
  rfl

open Candidate in
theorem resolve_of_selected_singleton {settings : Settings} {utterance : String}
    {candidates : List Candidate} {i : Fin candidates.length}
    (h : selected settings (lift utterance).entities candidates = [i]) (workspace : Workspace) :
    resolve settings utterance candidates workspace =
      .candidates [offerAt workspace utterance candidates i] := by
  rw [resolve_eq, h]
  rfl

theorem Resolution.ofList_eq_candidates {marker : String} {offered resolved : List ResolvedCandidate}
    (h : ofList marker offered = .candidates resolved) : offered = resolved := by
  cases offered with
  | nil => cases h
  | cons r offered =>
    cases h
    rfl

open Candidate in
theorem exists_of_mem_resolved {settings : Settings} {utterance : String}
    {candidates : List Candidate} {workspace : Workspace} {resolved : List ResolvedCandidate}
    {r : ResolvedCandidate}
    (h : resolve settings utterance candidates workspace = .candidates resolved)
    (hr : r ∈ resolved) :
    ∃ i ∈ selected settings (lift utterance).entities candidates,
      offerAt workspace utterance candidates i = r := by
  rw [resolve_eq] at h
  exact List.mem_map.mp (Resolution.ofList_eq_candidates h ▸ hr)

namespace Candidate

variable (settings : Settings) (spoken : EntityTexts) (candidates : List Candidate)

def IsEligible (i : Fin candidates.length) : Prop :=
  (candidates.get i).probability.atLeast settings.confidenceThreshold = true ∧
    IsGroundable spoken (candidates.get i)

/-- The place comes before all other eligible ones with its lifted template. -/
def IsFirst (i : Fin candidates.length) : Prop :=
  IsEligible settings spoken candidates i ∧ ∀ j, IsEligible settings spoken candidates j →
    (candidates.get j).form = (candidates.get i).form → j = i ∨ Precedes candidates i j

def HaveDistinctForms (places : List (Fin candidates.length)) : Prop :=
  places.Pairwise fun i j => (candidates.get i).form ≠ (candidates.get j).form

/-- The places are the ranked, distinct and capped choice among the candidates. -/
structure IsSelection (chosen : List (Fin candidates.length)) : Prop where
  ordered : chosen.Pairwise (Precedes candidates)
  distinct : HaveDistinctForms candidates chosen
  length_le : chosen.length ≤ settings.maxCandidates
  isFirst : ∀ i ∈ chosen, IsFirst settings spoken candidates i
  listed : ∀ i ∈ chosen, (candidates.get i).form ∈ Catalog.templates
  /-- What the catalog lists is left out only behind as many others as are wanted. -/
  omitted : ∀ i, IsFirst settings spoken candidates i →
    (candidates.get i).form ∈ Catalog.templates → i ∉ chosen →
      ∃ others, others.length = settings.maxCandidates ∧ HaveDistinctForms candidates others ∧
        ∀ j ∈ others, IsEligible settings spoken candidates j ∧
          (candidates.get j).form ≠ (candidates.get i).form ∧ Precedes candidates j i

/-- The candidate is offered as the operation of its lifted template, with its entities in the
order of the workspace. -/
structure Offers (workspace : Workspace) (utterance : String) (c : Candidate)
    (r : ResolvedCandidate) : Prop where
  combination : recombine c.form (textsFor workspace (lift utterance).entities c) =
    .ok r.combination
  operation : r.operation = Catalog.resolve c.form r.combination.entities
  trainingUtterance : r.trainingUtterance = c.utterance
  utterance : r.utterance = utterance
  probability : r.probability = percent c.probability

variable {settings spoken candidates}

theorem mem_firsts_eligible_iff {i : Fin candidates.length} :
    i ∈ firsts (fun i => (candidates.get i).form)
        (eligible settings.confidenceThreshold spoken candidates) ↔
      IsFirst settings spoken candidates i := by
  rw [mem_firsts_iff (fun _ _ => Precedes.asymm) pairwise_eligible]
  simp only [mem_eligible_iff]
  rfl

theorem selected_sublist : (selected settings spoken candidates).Sublist
    (firsts (fun i => (candidates.get i).form)
      (eligible settings.confidenceThreshold spoken candidates)) :=
  List.filter_sublist.trans (List.take_sublist _ _)

theorem precedes_of_not_mem_shortlist {i j : Fin candidates.length}
    (hi : IsFirst settings spoken candidates i) (hcut : i ∉ shortlist settings spoken candidates)
    (hj : j ∈ shortlist settings spoken candidates) :
    (candidates.get j).form ≠ (candidates.get i).form ∧ Precedes candidates j i := by
  have hmem := mem_firsts_eligible_iff.mpr hi
  have hordered := pairwise_eligible.sublist
    (firsts_sublist (fun i => (candidates.get i).form)
      (eligible settings.confidenceThreshold spoken candidates))
  have hforms := pairwise_key_firsts (fun i => (candidates.get i).form)
    (eligible settings.confidenceThreshold spoken candidates)
  rw [← List.take_append_drop settings.maxCandidates (firsts _ _)] at hmem hordered hforms
  have hdropped := (List.mem_append.mp hmem).resolve_left hcut
  exact ⟨(List.pairwise_append.mp hforms).2.2 j hj i hdropped,
    (List.pairwise_append.mp hordered).2.2 j hj i hdropped⟩

theorem length_shortlist_of_not_mem {i : Fin candidates.length}
    (hi : IsFirst settings spoken candidates i)
    (hcut : i ∉ shortlist settings spoken candidates) :
    (shortlist settings spoken candidates).length = settings.maxCandidates := by
  rw [shortlist, List.length_take_of_le]
  by_contra hshort
  apply hcut
  rw [shortlist, List.take_of_length_le (by omega)]
  exact mem_firsts_eligible_iff.mpr hi

variable (settings spoken candidates)

theorem isSelection_selected :
    IsSelection settings spoken candidates (selected settings spoken candidates) where
  ordered := pairwise_eligible.sublist (selected_sublist.trans (firsts_sublist _ _))
  distinct := (pairwise_key_firsts _ _).sublist selected_sublist
  length_le := List.length_filter_le _ _ |>.trans (List.length_take_le _ _)
  isFirst i hi := mem_firsts_eligible_iff.mp (selected_sublist.subset hi)
  listed i hi := of_decide_eq_true (List.mem_filter.mp hi).2
  omitted i hi hlisted homitted := by
    have hcut : i ∉ shortlist settings spoken candidates := fun h =>
      homitted (List.mem_filter.mpr ⟨h, decide_eq_true hlisted⟩)
    refine ⟨shortlist settings spoken candidates, length_shortlist_of_not_mem hi hcut,
      (pairwise_key_firsts _ _).sublist (List.take_sublist _ _), fun j hj => ?_⟩
    exact ⟨mem_eligible_iff.mp (mem_eligible_of_mem_shortlist hj),
      precedes_of_not_mem_shortlist hi hcut hj⟩

variable {settings spoken candidates}

theorem offers_offerAt (workspace : Workspace) {utterance : String} {i : Fin candidates.length}
    (hi : IsGroundable (lift utterance).entities (candidates.get i)) :
    Offers workspace utterance (candidates.get i)
      (offerAt workspace utterance candidates i) where
  combination := recombine_eq_ok_iff.mpr ⟨(isGroundable_iff workspace).mp hi, rfl⟩
  operation := rfl
  trainingUtterance := rfl
  utterance := rfl
  probability := rfl

end Candidate

open Candidate

/-- The answer is the ranked, distinct and capped choice among the candidates, each as the operation
of its lifted template; with nothing chosen it is the marker. -/
theorem resolve_selects (settings : Settings) (utterance : String) (candidates : List Candidate)
    (workspace : Workspace) :
    ∃ chosen, IsSelection settings (lift utterance).entities candidates chosen ∧
      ((resolve settings utterance candidates workspace = .notSure settings.notSureMarker ∧
          chosen = []) ∨
        ∃ resolved, resolve settings utterance candidates workspace = .candidates resolved ∧
          resolved ≠ [] ∧
          List.Forall₂ (fun i => Offers workspace utterance (candidates.get i)) chosen
            resolved) := by
  have hselection := isSelection_selected settings (lift utterance).entities candidates
  refine ⟨_, hselection, ?_⟩
  rw [resolve_eq]
  generalize selected settings (lift utterance).entities candidates = chosen at hselection
  cases chosen with
  | nil => exact .inl ⟨rfl, rfl⟩
  | cons i chosen =>
    refine .inr ⟨_, rfl, List.cons_ne_nil _ _, ?_⟩
    rw [List.forall₂_map_right_iff, List.forall₂_same]
    intro j hj
    exact offers_offerAt workspace (hselection.isFirst j hj).1.2

end TablePhrase
