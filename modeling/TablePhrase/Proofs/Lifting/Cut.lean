import TablePhrase.Lifting.Cut
import TablePhrase.Proofs.Text.Pieces

/-!
Cutting spans out of a text made of pieces. A piece is either skipped, because no span starts in it,
or it is a span itself; then the cut fills and finds piece by piece.
-/

namespace TablePhrase.Lifting

open Text (AtBreak spaced trailing)

namespace Matcher
variable (m : Matcher) {before text rest span : List Char}

theorem cutAfter_nil (before : List Char) : m.cutAfter before [] = ⟨[], []⟩ := by
  rw [cutAfter]
  rfl

theorem cutAfter_of_find?_eq_some {found : Match} (h : m.find? before text = some found) :
    m.cutAfter before text =
      let cut := m.cutAfter ((found.gap ++ found.span).reverse ++ before) found.rest
      { cut with spans := (found.gap, found.span) :: cut.spans } := by
  rw [cutAfter]
  split
  · next hnone =>
    rw [hnone] at h
    cases h
  · next found' hsome =>
    rw [hsome] at h
    cases h
    rfl

theorem cutAfter_of_find?_eq_none (h : m.find? before text = none) :
    m.cutAfter before text = ⟨[], text⟩ := by
  rw [cutAfter]
  split
  · rfl
  · next found' hsome =>
    rw [hsome] at h
    cases h

end Matcher

namespace Cut

def prepend (front : List Char) (cut : Cut) : Cut :=
  match cut.spans with
  | [] => ⟨[], front ++ cut.tail⟩
  | (gap, span) :: spans => ⟨(front ++ gap, span) :: spans, cut.tail⟩

@[simp]
theorem fill_prepend (front : List Char) (cut : Cut) (f : List Char → List Char) :
    (cut.prepend front).fill f = front ++ cut.fill f := by
  obtain ⟨spans, tail⟩ := cut
  cases spans with
  | nil => rfl
  | cons first spans => simp [prepend, fill]

@[simp]
theorem found_prepend (front : List Char) (cut : Cut) : (cut.prepend front).found = cut.found := by
  obtain ⟨spans, tail⟩ := cut
  cases spans <;> rfl

@[simp]
theorem prepend_nil (cut : Cut) : cut.prepend [] = cut := by
  obtain ⟨spans, tail⟩ := cut
  cases spans <;> rfl

theorem prepend_prepend (front more : List Char) (cut : Cut) :
    (cut.prepend more).prepend front = cut.prepend (front ++ more) := by
  obtain ⟨spans, tail⟩ := cut
  cases spans <;> simp [prepend]

end Cut

namespace Matcher
variable (m : Matcher) {before text rest span : List Char}

/-- No span starts in the piece, which stands before `rest`. -/
def Skips (before : List Char) : List Char → List Char → Prop
  | [], _ => True
  | c :: piece, rest => m before (c :: (piece ++ rest)) = none ∧ Skips (c :: before) piece rest

variable {m}

theorem cutAfter_cons_of_eq_none {c : Char} (h : m before (c :: text) = none) :
    m.cutAfter before (c :: text) = (m.cutAfter (c :: before) text).prepend [c] := by
  have hfind : m.find? before (c :: text) =
      (m.find? (c :: before) text).map fun found => { found with gap := c :: found.gap } := by
    rw [find?, h]
  cases hrest : m.find? (c :: before) text with
  | none =>
    rw [hrest] at hfind
    rw [m.cutAfter_of_find?_eq_none hfind, m.cutAfter_of_find?_eq_none hrest]
    rfl
  | some found =>
    rw [hrest] at hfind
    rw [m.cutAfter_of_find?_eq_some hfind, m.cutAfter_of_find?_eq_some hrest]
    simp [Cut.prepend]

theorem cutAfter_append_of_skips {piece : List Char} (h : m.Skips before piece rest) :
    m.cutAfter before (piece ++ rest) =
      (m.cutAfter (piece.reverse ++ before) rest).prepend piece := by
  induction piece generalizing before with
  | nil => simp
  | cons c piece ih =>
    obtain ⟨hc, hpiece⟩ := h
    rw [List.cons_append, cutAfter_cons_of_eq_none hc, ih hpiece, Cut.prepend_prepend,
      List.reverse_cons, List.append_assoc]
    rfl

theorem cutAfter_append_of_eq_some (hspan : span ≠ [])
    (h : m before (span ++ rest) = some span.length) :
    m.cutAfter before (span ++ rest) =
      let cut := m.cutAfter (span.reverse ++ before) rest
      { cut with spans := ([], span) :: cut.spans } := by
  have hfind : m.find? before (span ++ rest) = some ⟨[], span, rest⟩ := by
    cases span with
    | nil => exact absurd rfl hspan
    | cons c span =>
      rw [List.cons_append] at h ⊢
      rw [find?, h]
      simp
  rw [m.cutAfter_of_find?_eq_some hfind]
  rfl

theorem skips_append {front piece : List Char} :
    m.Skips before (front ++ piece) rest ↔
      m.Skips before front (piece ++ rest) ∧ m.Skips (front.reverse ++ before) piece rest := by
  induction front generalizing before with
  | nil => simp [Skips]
  | cons c front ih =>
    simp only [List.cons_append, Skips, ih, List.append_assoc, List.reverse_cons, List.nil_append,
      and_assoc]

theorem skips_of_forall {piece : List Char}
    (h : ∀ c ∈ piece, ∀ before rest, m before (c :: rest) = none) : m.Skips before piece rest := by
  induction piece generalizing before with
  | nil => trivial
  | cons c piece ih =>
    obtain ⟨hc, hpiece⟩ := List.forall_mem_cons.mp h
    exact ⟨hc before (piece ++ rest), ih hpiece⟩

end Matcher
/-- Among pieces with spaces between them, the spans are those of a kind. -/
structure Separates {τ : Type} (m : Matcher) (piece : τ → List Char) (isSpan : τ → Bool) : Prop where
  space : ∀ before rest, m before (' ' :: rest) = none
  ne_nil : ∀ t, isSpan t = true → piece t ≠ []
  span : ∀ t, isSpan t = true → ∀ before, AtBreak before → ∀ ts,
    m before (piece t ++ trailing piece ts) = some (piece t).length
  skips : ∀ t, isSpan t = false → ∀ before, AtBreak before → ∀ ts,
    m.Skips before (piece t) (trailing piece ts)

namespace Separates
variable {τ : Type} {m : Matcher} {piece : τ → List Char} {isSpan : τ → Bool} {before : List Char}

def filled (piece : τ → List Char) (isSpan : τ → Bool) (f : List Char → List Char) (t : τ) :
    List Char :=
  if isSpan t then f (piece t) else piece t

theorem cutAfter_piece (h : Separates m piece isSpan) (hbefore : AtBreak before) (t : τ)
    (ts : List τ) (f : List Char → List Char) :
    let cut := m.cutAfter before (piece t ++ trailing piece ts)
    let rest := m.cutAfter ((piece t).reverse ++ before) (trailing piece ts)
    cut.fill f = filled piece isSpan f t ++ rest.fill f ∧
      cut.found = (if isSpan t then [piece t] else []) ++ rest.found := by
  cases hspan : isSpan t with
  | true =>
    rw [Matcher.cutAfter_append_of_eq_some (h.ne_nil t hspan) (h.span t hspan before hbefore ts)]
    simp [Cut.fill, Cut.found, filled, hspan]
  | false =>
    rw [Matcher.cutAfter_append_of_skips (h.skips t hspan before hbefore ts)]
    simp [filled, hspan]

theorem cutAfter_trailing (h : Separates m piece isSpan) (before : List Char) (ts : List τ)
    (f : List Char → List Char) :
    (m.cutAfter before (trailing piece ts)).fill f = trailing (filled piece isSpan f) ts ∧
      (m.cutAfter before (trailing piece ts)).found = (ts.filter isSpan).map piece := by
  induction ts generalizing before with
  | nil =>
    rw [trailing, List.flatMap_nil, Matcher.cutAfter_nil]
    exact ⟨rfl, rfl⟩
  | cons t ts ih =>
    obtain ⟨hfill, hfound⟩ := h.cutAfter_piece (Text.atBreak_space before) t ts f
    obtain ⟨ihfill, ihfound⟩ := ih ((piece t).reverse ++ ' ' :: before)
    -- the space in front is skipped, so that the piece stands behind a break
    have hcut : m.cutAfter before (trailing piece (t :: ts)) =
        (m.cutAfter (' ' :: before) (piece t ++ trailing piece ts)).prepend [' '] :=
      Matcher.cutAfter_cons_of_eq_none (h.space before _)
    rw [hcut, Cut.fill_prepend, Cut.found_prepend, hfill, hfound, ihfill, ihfound]
    constructor
    · rfl
    · cases hspan : isSpan t <;> simp [hspan]

theorem cut_spaced (h : Separates m piece isSpan) (ts : List τ) (f : List Char → List Char) :
    (m.cut (spaced piece ts)).fill f = spaced (filled piece isSpan f) ts ∧
      (m.cut (spaced piece ts)).found = (ts.filter isSpan).map piece := by
  cases ts with
  | nil =>
    rw [Matcher.cut, spaced, Matcher.cutAfter_nil]
    exact ⟨rfl, rfl⟩
  | cons t ts =>
    obtain ⟨hfill, hfound⟩ := h.cutAfter_piece Text.atBreak_nil t ts f
    obtain ⟨ihfill, ihfound⟩ := h.cutAfter_trailing ((piece t).reverse ++ []) ts f
    rw [Matcher.cut, spaced, hfill, hfound, ihfill, ihfound]
    constructor
    · rfl
    · cases hspan : isSpan t <;> simp [hspan]

end Separates
end TablePhrase.Lifting
