/-!
Cutting spans out of a text. A matcher looks at a position and says how long a span starts there;
the spans are taken from left to right and do not overlap.
-/

namespace TablePhrase.Lifting

/-- The length of the span that starts at a position, given the text before it, nearest character
first, and the text from it on. A span of length zero counts as one of length one. -/
abbrev Matcher : Type :=
  List Char → List Char → Option Nat

/-- The first span of a text: what stands before it, the span and what follows it. -/
structure Match where
  gap : List Char
  span : List Char
  rest : List Char
deriving DecidableEq

def Matcher.find? (matcher : Matcher) (before : List Char) : List Char → Option Match
  | [] => none
  | c :: cs =>
    match matcher before (c :: cs) with
    | some length => some ⟨[], c :: cs.take (length - 1), cs.drop (length - 1)⟩
    | none => (matcher.find? (c :: before) cs).map fun m => { m with gap := c :: m.gap }

theorem Matcher.find?_eq_append {matcher : Matcher} :
    ∀ {before text : List Char} {m : Match},
      matcher.find? before text = some m → text = m.gap ++ m.span ++ m.rest
  | _, [], _, h => by simp [Matcher.find?] at h
  | before, c :: cs, m, h => by
    rw [Matcher.find?] at h
    split at h
    · cases h
      simp
    · obtain ⟨m', h', rfl⟩ := Option.map_eq_some_iff.mp h
      simp [Matcher.find?_eq_append h', List.append_assoc]

theorem Matcher.span_ne_nil {matcher : Matcher} :
    ∀ {before text : List Char} {m : Match}, matcher.find? before text = some m → m.span ≠ []
  | _, [], _, h => by simp [Matcher.find?] at h
  | before, c :: cs, m, h => by
    rw [Matcher.find?] at h
    split at h
    · cases h
      simp
    · obtain ⟨m', h', rfl⟩ := Option.map_eq_some_iff.mp h
      show m'.span ≠ []
      exact Matcher.span_ne_nil h'

theorem Matcher.rest_shorter {matcher : Matcher} {before text : List Char} {m : Match}
    (h : matcher.find? before text = some m) : m.rest.length < text.length := by
  have hs : 0 < m.span.length := List.length_pos_iff.mpr (Matcher.span_ne_nil h)
  rw [Matcher.find?_eq_append h]
  simp only [List.length_append]
  omega

/-- A text with its spans cut out: each span with the text between it and the one before, and the
text after the last. -/
structure Cut where
  spans : List (List Char × List Char)
  tail : List Char
deriving DecidableEq

def Matcher.cutAfter (matcher : Matcher) (before text : List Char) : Cut :=
  match h : matcher.find? before text with
  | none => ⟨[], text⟩
  | some m =>
    have := Matcher.rest_shorter h
    let cut := matcher.cutAfter ((m.gap ++ m.span).reverse ++ before) m.rest
    { cut with spans := (m.gap, m.span) :: cut.spans }
termination_by text.length

def Matcher.cut (matcher : Matcher) (text : List Char) : Cut :=
  matcher.cutAfter [] text

namespace Cut

def fill (cut : Cut) (f : List Char → List Char) : List Char :=
  cut.spans.flatMap (fun (gap, span) => gap ++ f span) ++ cut.tail

def found (cut : Cut) : List (List Char) :=
  cut.spans.map (·.2)

end Cut
end TablePhrase.Lifting
