import Mathlib.Data.List.Basic
import TablePhrase.Proofs.Lifting.Place
import TablePhrase.Proofs.Phrase.Condition

/-!
How conditions keep off placeholders. None starts at a placeholder. The operator run of one reaches
into a placeholder in two ways only: it is the bracket that closes one, which nothing but a quoted
operand lets pass, or it is longer and its last operator is the bracket that opens one.
-/

namespace TablePhrase.Lifting

open EntityKind (placeholder_toList)

/-- A placeholder lies across the border of the two texts, or ends at it. -/
def Straddled (front back : List Char) : Prop :=
  ∃ (kind : EntityKind) (left right : List Char),
    kind.placeholder.toList = left ++ right ∧ left ≠ [] ∧ left <:+ front ∧ right <+: back

section Border
variable {front run rest : List Char}

theorem endsPlaceholder_reverse_iff {text : List Char} :
    endsPlaceholder text.reverse = true ↔
      ∃ kind : EntityKind, kind.placeholder.toList <:+ text := by
  simp only [endsPlaceholder, placeholders, List.any_map, List.any_eq_true, Function.comp_apply,
    List.isPrefixOf_iff_prefix, List.reverse_prefix]
  exact exists_congr fun kind => and_iff_right kind.mem_groundOrder

theorem eq_of_placeholder_eq_append {kind : EntityKind} {left right : List Char} {c : Char}
    (h : kind.placeholder.toList = left ++ c :: right) (hc : isOperator c = true) :
    (left = [] ∧ c = '<' ∧ right = kind.name.toList ++ ['>']) ∨
      (left = '<' :: kind.name.toList ∧ c = '>' ∧ right = []) := by
  rw [placeholder_toList] at h
  cases left with
  | nil =>
    cases h
    exact .inl ⟨rfl, rfl, rfl⟩
  | cons d left =>
    rw [List.cons_append, List.cons.injEq, List.append_eq_append_iff] at h
    obtain ⟨rfl, ⟨more, rfl, hclose⟩ | ⟨more, hname, hclose⟩⟩ := h
    · cases more with
      | nil =>
        cases hclose
        exact .inr ⟨by rw [List.append_nil], rfl, rfl⟩
      | cons e more => simp at hclose
    · cases more with
      | nil =>
        cases hclose
        rw [List.append_nil] at hname
        exact .inr ⟨by rw [hname], rfl, rfl⟩
      | cons e more =>
        cases hclose
        have hmem : c ∈ kind.name.toList := by
          rw [hname]
          simp
        rw [isOperator_name kind c hmem] at hc
        cases hc

theorem eq_nil_of_suffix {kind : EntityKind} {operators : List Char}
    (hoperators : ∀ c ∈ operators, isOperator c = true)
    (h : '<' :: kind.name.toList <:+ front ++ operators) : operators = [] := by
  rcases List.eq_nil_or_concat' operators with rfl | ⟨more, last, rfl⟩
  · rfl
  · rw [← List.append_assoc, List.suffix_concat_iff] at h
    obtain ⟨left, hname, -⟩ := h.resolve_left (List.cons_ne_nil _ _)
    have hkind : kind.placeholder.toList = left ++ last :: ['>'] := by
      rw [placeholder_toList, ← List.cons_append, hname, List.append_assoc]
      rfl
    have hlast : isOperator last = true := hoperators last (by simp)
    rcases eq_of_placeholder_eq_append hkind hlast with ⟨-, -, hright⟩ | ⟨-, -, hright⟩
    · obtain ⟨d, name, hcons, -⟩ := exists_name_eq_cons kind
      rw [hcons] at hright
      simp at hright
    · cases hright

def Closing (front run : List Char) : Prop :=
  run = ['>'] ∧ ∃ kind : EntityKind, '<' :: kind.name.toList <:+ front

def Opening (operators run rest : List Char) : Prop :=
  run = operators ++ ['<'] ∧ ∃ kind : EntityKind, kind.name.toList ++ ['>'] <+: rest

theorem Closing.exists_suffix (h : Closing front run) :
    ∃ kind : EntityKind, kind.placeholder.toList <:+ front ++ run := by
  obtain ⟨rfl, kind, hname⟩ := h
  refine ⟨kind, ?_⟩
  rw [placeholder_toList, ← List.cons_append, List.suffix_append_self_iff]
  exact hname

theorem straddled_iff (hne : run ≠ []) (hrun : ∀ c ∈ run, isOperator c = true) :
    Straddled (front ++ run) rest ↔
      Closing front run ∨ ∃ operators, Opening operators run rest := by
  constructor
  · rintro ⟨kind, left, right, hkind, hleft, hsuffix, hprefix⟩
    obtain ⟨operators, last, rfl⟩ := (List.eq_nil_or_concat' run).resolve_left hne
    rw [← List.append_assoc, List.suffix_concat_iff] at hsuffix
    obtain ⟨left, rfl, hfront⟩ := hsuffix.resolve_left hleft
    have hlast : isOperator last = true := hrun last (by simp)
    have hoperators : ∀ c ∈ operators, isOperator c = true := fun c hc => hrun c (by simp [hc])
    rw [List.append_assoc, List.singleton_append] at hkind
    rcases eq_of_placeholder_eq_append hkind hlast with ⟨rfl, rfl, rfl⟩ | ⟨rfl, rfl, rfl⟩
    · exact .inr ⟨operators, rfl, kind, hprefix⟩
    · refine .inl ⟨?_, kind, ?_⟩
      · rw [eq_nil_of_suffix hoperators hfront, List.nil_append]
      · rwa [eq_nil_of_suffix hoperators hfront, List.append_nil] at hfront
  · rintro (hclosing | ⟨operators, rfl, kind, h⟩)
    · obtain ⟨kind, hsuffix⟩ := hclosing.exists_suffix
      exact ⟨kind, kind.placeholder.toList, [], by simp, kind.placeholder_ne_nil, hsuffix, by simp⟩
    · refine ⟨kind, ['<'], kind.name.toList ++ ['>'], placeholder_toList kind, List.cons_ne_nil _ _,
        ?_, h⟩
      rw [← List.append_assoc]
      exact List.suffix_append _ _

end Border

section Cut
variable {text front span back : List Char}

theorem of_conditionMatcher_span {before : List Char} {length : Nat}
    (h : conditionMatcher before (span ++ back) = some length)
    (hspan : span = (span ++ back).take (max 1 length)) :
    let run := span.takeWhile isOperator
    let rest := span.dropWhile isOperator ++ back
    run ≠ [] ∧ (run.length = 1 → endsPlaceholder (run.reverse ++ before) = true →
      BeginsQuoted (rest.drop (spaceLength rest))) := by
  intro run rest
  have hstop : ∀ c ∈ ((span ++ back).dropWhile isOperator).head?, isOperator c = false := by
    intro c hc
    have hhead := List.head?_dropWhile_not isOperator (span ++ back)
    rwa [hc] at hhead
  have htext := List.takeWhile_append_dropWhile (p := isOperator) (l := span ++ back)
  rw [← htext] at h
  obtain ⟨hne, hle, hbegins⟩ := of_conditionMatcher (fun c hc => List.mem_takeWhile_imp hc) hstop h
  have hlength : ((span ++ back).takeWhile isOperator).length ≤ span.length := by
    have hbound := (List.takeWhile_prefix isOperator (l := span ++ back)).length_le
    have htaken := congrArg List.length hspan
    rw [List.length_take] at htaken
    omega
  obtain ⟨htake, hdrop⟩ := Text.takeWhile_append_of_length_le hlength
  rw [htake, hdrop] at hbegins
  rw [htake] at hne
  exact ⟨hne, hbegins⟩

/-- No condition starts at a placeholder. Its operators reach into one or end at one exactly if they
are the bracket that closes one and a quoted operand follows, or the last of several opens one. -/
theorem condition_straddles_iff (h : ((matcher .condition).cut text).Places front span back) :
    let run := span.takeWhile isOperator
    let rest := span.dropWhile isOperator ++ back
    (∀ kind : EntityKind, ¬ kind.placeholder.toList <+: span ++ back) ∧
      (Straddled (front ++ run) rest ↔
        (Closing front run ∧ BeginsQuoted (rest.drop (spaceLength rest))) ∨
          ∃ operators, operators ≠ [] ∧ Opening operators run rest) := by
  intro run rest
  obtain ⟨-, length, hmatch, hspan⟩ := Matcher.of_cut_places h
  obtain ⟨hne, hbegins⟩ := of_conditionMatcher_span hmatch hspan
  have hstart : ∀ kind : EntityKind, ¬ kind.placeholder.toList <+: span ++ back := by
    rintro kind ⟨more, htext⟩
    rw [← htext, matcher, conditionMatcher_opening] at hmatch
    cases hmatch
  have htext : span ++ back = run ++ rest := by
    rw [← List.append_assoc, List.takeWhile_append_dropWhile]
  have hclosing : Closing front run → BeginsQuoted (rest.drop (spaceLength rest)) := by
    intro hrun
    apply hbegins (congrArg List.length hrun.1)
    rw [← List.reverse_append, endsPlaceholder_reverse_iff]
    exact hrun.exists_suffix
  have hopening : ∀ operators, Opening operators run rest → operators ≠ [] := by
    rintro _ ⟨hrun, kind, hname⟩ rfl
    apply hstart kind
    rw [htext, hrun, placeholder_toList]
    exact List.cons_prefix_cons.mpr ⟨rfl, hname⟩
  refine ⟨hstart, (straddled_iff hne fun c hc => List.mem_takeWhile_imp hc).trans (or_congr ?_ ?_)⟩
  · exact ⟨fun hrun => ⟨hrun, hclosing hrun⟩, And.left⟩
  · exact exists_congr fun operators => ⟨fun hrun => ⟨hopening operators hrun, hrun⟩, And.right⟩

theorem condition_straddles_opening :
    let text := "x =<value>".toList
    ((matcher .condition).cut text).Places "x ".toList "=<value>".toList [] ∧
      Straddled "x =<".toList "value>".toList := by
  intro text
  have hcut : (matcher .condition).cut text = ⟨[("x ".toList, "=<value>".toList)], []⟩ := by
    decide +kernel
  have hplaces : ((matcher .condition).cut text).Places "x ".toList "=<value>".toList [] := by
    rw [hcut]
    exact Cut.places_first _ _ _ _
  obtain ⟨-, hstraddled⟩ := condition_straddles_iff hplaces
  exact ⟨hplaces, hstraddled.mpr (.inr ⟨['='], by decide, by decide, .value, by decide⟩)⟩

/-- A quoted operand takes the bracket that closes a placeholder for an operator. -/
theorem condition_straddles_closing :
    let text := "<value> \"a\""
    ((matcher .condition).cut text.toList).Places "<value".toList "> \"a\"".toList [] ∧
      Straddled "<value>".toList " \"a\"".toList ∧
      liftPass .condition text = ("<value<condition>", ["> \"a\""]) := by
  intro text
  have hcut : (matcher .condition).cut text.toList =
      ⟨[("<value".toList, "> \"a\"".toList)], []⟩ := by
    decide +kernel
  refine ⟨?_, ?_, by decide +kernel⟩
  · rw [hcut]
    exact Cut.places_first _ _ _ _
  · exact ⟨.value, "<value>".toList, [], rfl, by decide, List.suffix_rfl, List.nil_prefix⟩

end Cut
end TablePhrase.Lifting
