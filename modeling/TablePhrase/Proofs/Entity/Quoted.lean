import Mathlib.Algebra.GroupWithZero.Nat
import TablePhrase.Proofs.Lifting.Place
import TablePhrase.Proofs.Literal.Scalar
import TablePhrase.Proofs.Text.Split

/-!
Quoted entity texts. A list of quotations is found by its quotes but read by the separators in it,
so that it denotes its contents exactly if no content holds a separator. A value is written in
double quotes, whichever it came in, so that it is found again exactly if it holds no double quote.
-/

namespace TablePhrase

namespace Lifting

theorem liftKind_of_eq_some {kind : EntityKind} {span : List Char} (hne : span ≠ [])
    (h : matcher kind [] span = some span.length) :
    liftKind kind span = (kind.placeholder.toList, [spanText kind span]) := by
  have hspan : matcher kind [] (span ++ []) = some span.length := by
    rwa [List.append_nil]
  have hcut := Matcher.cutAfter_append_of_eq_some hne hspan
  rw [List.append_nil, Matcher.cutAfter_nil] at hcut
  rw [liftKind, Matcher.cut, hcut]
  simp [Cut.fill, Cut.found]

namespace Quotation

section Listed

theorem beginsOnce_separator : Text.BeginsOnce [',', ' '] := by
  show ',' ∉ [' ']
  decide

theorem quote_not_mem_separator (q : Quotation) : q.quote ∉ [',', ' '] := by
  rcases q.isQuote with hquote | hquote <;> rw [hquote] <;> decide

theorem separator_infix_chars_iff (q : Quotation) :
    [',', ' '] <:+: q.chars ↔ [',', ' '] <:+: q.content := by
  have hquote := q.quote_not_mem_separator
  have hnil : ¬ [',', ' '] <:+: ([] : List Char) := by
    rw [List.infix_nil]
    exact List.cons_ne_nil _ _
  rw [chars, ← List.nil_append (q.quote :: _), Text.infix_append_cons_iff hquote,
    Text.infix_append_cons_iff hquote]
  simp only [hnil, false_or, or_false]

theorem fences_chars (q : Quotation) : Text.Fences [',', ' '] q.chars := by
  apply Text.fences_of_not_mem q.chars_ne_nil
  · rintro c ⟨⟩
    exact q.quote_not_mem_separator
  · rw [getLast?_chars]
    rintro c ⟨⟩
    exact q.quote_not_mem_separator

theorem count_chars (q : Quotation) :
    Text.count [',', ' '] q.chars = Text.count [',', ' '] q.content := by
  have hquote : ∀ c ∈ [q.quote], c ∉ [',', ' '] := List.forall_mem_singleton.mpr
    q.quote_not_mem_separator
  have hfences : Text.Fences [',', ' '] [q.quote] :=
    Text.fences_of_not_mem (List.cons_ne_nil _ _) (fun c hc => hquote c (List.mem_of_head? hc))
      (fun c hc => hquote c (List.mem_of_getLast? hc))
  have hcount : Text.count [',', ' '] [q.quote] = 0 :=
    Text.count_eq_zero_of_not_mem fun hmem => hquote ',' hmem (by decide)
  have hopening := hfences.count_append beginsOnce_separator [] (q.content ++ [q.quote])
  have hclosing := hfences.count_append beginsOnce_separator q.content []
  simp only [List.nil_append, List.append_nil, hcount, Text.count, Nat.zero_add, Nat.add_zero]
    at hopening hclosing
  show Text.count [',', ' '] ([q.quote] ++ (q.content ++ [q.quote])) = _
  rw [hopening, hclosing]

theorem count_listed (q : Quotation) (qs : List Quotation) :
    Text.count [',', ' '] (listed (q :: qs)).toList =
      qs.length + ((q :: qs).map fun q => Text.count [',', ' '] q.content).sum := by
  rw [toList_listed_cons]
  induction qs generalizing q with
  | nil => simp [count_chars]
  | cons next qs ih =>
    have hchars := q.fences_chars.count_append beginsOnce_separator []
      ([',', ' '] ++ (next.chars ++ qs.flatMap ([',', ' '] ++ ·.chars)))
    rw [Text.count_needle_append (List.cons_ne_nil _ _), ih next, List.nil_append, count_chars,
      Text.count] at hchars
    rw [List.flatMap_cons, List.append_assoc [',', ' '], hchars]
    simp only [List.map_cons, List.sum_cons, List.length_cons]
    omega

theorem trim_chars (q : Quotation) : Unicode.trim q.chars = q.chars := by
  have hquote : Unicode.isSpace q.quote = false := by
    rcases q.isQuote with hquote | hquote <;> rw [hquote] <;> rfl
  apply Unicode.trim_of_ends
  · rintro c ⟨⟩
    exact hquote
  · rw [getLast?_chars]
    rintro c ⟨⟩
    exact hquote

theorem splitOn_listed {q : Quotation} {qs : List Quotation}
    (h : ∀ p ∈ q :: qs, ¬ [',', ' '] <:+: p.content) :
    Text.splitOn [',', ' '] (listed (q :: qs)).toList = (q :: qs).map chars := by
  have hparts : ∀ part ∈ q.chars :: qs.map chars, ¬ [',', ' '] <:+: part := by
    rw [← List.map_cons, List.forall_mem_map]
    exact fun p hp hinfix => h p hp (p.separator_infix_chars_iff.mp hinfix)
  have hsplit := Text.splitOn_flatMap beginsOnce_separator (qs.map chars) hparts
  rw [List.flatMap_map] at hsplit
  rw [toList_listed_cons, hsplit, List.map_cons]

def contents (qs : List Quotation) : List Literal :=
  qs.map fun q => .str (String.ofList q.content)

theorem decode_listed_of_forall {q : Quotation} {qs : List Quotation}
    (h : ∀ p ∈ q :: qs, ¬ [',', ' '] <:+: p.content) :
    EntityKind.stringList.decode (listed (q :: qs)) = .list (contents (q :: qs)) := by
  rw [EntityKind.decode, splitOn_listed h, List.map_map, contents]
  congr 1
  apply List.map_congr_left
  intro p _
  rw [Function.comp_apply, trim_chars, stripQuotes_chars]

/-- A list of quotations is found as a whole. It denotes one item more than there are separators in
it, and so denotes its contents exactly if there are none in them. -/
theorem decode_listed (first second : Quotation) (more : List Quotation) :
    let quotations := first :: second :: more
    let text := listed quotations
    liftPass .stringList text = (EntityKind.stringList.placeholder, [text]) ∧
      (∃ items, EntityKind.stringList.decode text = .list items ∧
        items.length = quotations.length +
          (quotations.map fun q => Text.count [',', ' '] q.content).sum) ∧
      (EntityKind.stringList.decode text = .list (contents quotations) ↔
        ∀ q ∈ quotations, ¬ [',', ' '] <:+: q.content) := by
  intro quotations text
  have hmatched : matcher .stringList [] text.toList = some text.toList.length := by
    have hlisted := stringListMatcher_listed first second more [] (rfl : beforeComma [] = false)
    rwa [List.append_nil] at hlisted
  have hne : text.toList ≠ [] := by
    rw [toList_listed_cons]
    exact List.append_ne_nil_of_left_ne_nil first.chars_ne_nil _
  have hlength : (Text.splitOn [',', ' '] text.toList).length = quotations.length +
      (quotations.map fun q => Text.count [',', ' '] q.content).sum := by
    rw [Text.length_splitOn, count_listed, Nat.add_right_comm]
    rfl
  refine ⟨?_, ⟨_, rfl, by rw [List.length_map, hlength]⟩, ?_, decode_listed_of_forall⟩
  · rw [liftPass, liftKind_of_eq_some hne hmatched]
    simp [spanText]
  · intro hdecode
    rw [EntityKind.decode, Literal.list.injEq] at hdecode
    have hsum := congrArg List.length hdecode
    rw [List.length_map, hlength, contents, List.length_map, Nat.add_eq_left,
      List.sum_eq_zero_iff_forall_eq_nat, List.forall_mem_map] at hsum
    exact fun q hq => (Text.count_eq_zero_iff beginsOnce_separator).mp (hsum q hq)

/-- A comma inside an item cuts it, and leaves a quote on each part. -/
theorem decode_listed_comma :
    let first : Quotation :=
      ⟨'"', ['a', ',', ' ', 'b'], .inl rfl, by simp, by simp [Lifting.isQuotable]⟩
    let second : Quotation := ⟨'"', ['c'], .inl rfl, by simp, by simp [Lifting.isQuotable]⟩
    let text := listed [first, second]
    text = "\"a, b\", \"c\"" ∧ contents [first, second] = [.str "a, b", .str "c"] ∧
      liftPass .stringList text = ("<string_list>", [text]) ∧
      EntityKind.stringList.decode text = .list [.str "\"a", .str "b\"", .str "c"] := by
  intro first second text
  have htext : text = "\"a, b\", \"c\"" := by decide +kernel
  have hlift : liftPass .stringList "\"a, b\", \"c\"" =
      ("<string_list>", ["\"a, b\", \"c\""]) := by
    decide +kernel
  have hitems : (Text.splitOn [',', ' '] "\"a, b\", \"c\"".toList).map
      (fun item => String.ofList (stripQuotes (Unicode.trim item))) = ["\"a", "b\"", "c"] := by
    decide +kernel
  have hdecode := congrArg (List.map Literal.str) hitems
  rw [List.map_map] at hdecode
  rw [htext]
  exact ⟨rfl, rfl, hlift, congrArg Literal.list hdecode⟩

end Listed
end Quotation

section Value
variable {content : List Char} {quote : Char} {v : String}

theorem forall_isQuotable_iff : (∀ c ∈ content, isQuotable quote c = true) ↔
    quote ∉ content ∧ ';' ∉ content ∧ '\x0b' ∉ content := by
  simp only [isQuotable, Bool.and_eq_true, bne_iff_ne, ne_eq, forall_and, and_assoc,
    List.forall_mem_ne']

theorem exists_quotation (hquote : quote = '"' ∨ quote = '\'') (hne : content ≠ [])
    (hothers : ';' ∉ content ∧ '\x0b' ∉ content) (h : quote ∉ content) :
    ∃ q : Quotation, q.quote = quote ∧ q.content = content :=
  ⟨⟨quote, content, hquote, hne, forall_isQuotable_iff.mpr ⟨h, hothers⟩⟩, rfl, rfl⟩

theorem exists_content_eq_iff : (∃ q : Quotation, q.content = content) ↔
    content ≠ [] ∧ (';' ∉ content ∧ '\x0b' ∉ content) ∧ ('"' ∉ content ∨ '\'' ∉ content) := by
  constructor
  · rintro ⟨q, rfl⟩
    obtain ⟨hquote, hothers⟩ := forall_isQuotable_iff.mp q.isQuotable
    refine ⟨q.ne_nil, hothers, ?_⟩
    rcases q.isQuote with hq | hq
    · exact .inl (hq ▸ hquote)
    · exact .inr (hq ▸ hquote)
  · rintro ⟨hne, hothers, hdouble | hsingle⟩
    · obtain ⟨q, -, hq⟩ := exists_quotation (.inl rfl) hne hothers hdouble
      exact ⟨q, hq⟩
    · obtain ⟨q, -, hq⟩ := exists_quotation (.inr rfl) hne hothers hsingle
      exact ⟨q, hq⟩

theorem liftPass_chars (q : Quotation) :
    liftPass .value (String.ofList q.chars) =
      (EntityKind.value.placeholder, [String.ofList q.content]) := by
  have hmatched : matcher .value [] q.chars = some q.chars.length := by
    have hchars := q.valueMatcher_chars [] (rfl : beforeComma [] = false)
    rwa [List.append_nil] at hchars
  have hspan : spanText .value q.chars = q.content := q.stripQuotes_chars
  rw [liftPass, String.toList_ofList, liftKind_of_eq_some q.chars_ne_nil hmatched, hspan]
  simp

theorem exists_of_mem_liftPass_value {text : String} (h : v ∈ (liftPass .value text).2) :
    ∃ (q : Quotation) (front back : List Char),
      v = String.ofList q.content ∧ text.toList = front ++ (q.chars ++ back) := by
  obtain ⟨content, hcontent, rfl⟩ := List.mem_map.mp h
  obtain ⟨span, hspan, rfl⟩ := List.mem_map.mp hcontent
  obtain ⟨q, rfl⟩ := value_yields_chars.cutAfter [] text.toList span hspan
  obtain ⟨front, back, hplaces⟩ := Cut.exists_places hspan
  exact ⟨q, front, back, congrArg String.ofList q.stripQuotes_chars,
    (Matcher.of_cut_places hplaces).1⟩

/-- Some text has the value. -/
def IsValue (v : String) : Prop :=
  ∃ text, v ∈ (liftPass .value text).2

theorem isValue_iff : IsValue v ↔ ∃ q : Quotation, q.content = v.toList := by
  constructor
  · rintro ⟨text, hv⟩
    obtain ⟨q, -, -, rfl, -⟩ := exists_of_mem_liftPass_value hv
    exact ⟨q, String.toList_ofList.symm⟩
  · rintro ⟨q, hq⟩
    refine ⟨String.ofList q.chars, ?_⟩
    rw [liftPass_chars, hq, String.ofList_toList]
    exact List.mem_singleton_self v

theorem toList_grounded_value (v : String) :
    (EntityKind.value.grounded v).toList = '"' :: (v.toList ++ ['"']) := by
  simp [EntityKind.grounded]

theorem not_mem_of_mem_liftPass_grounded
    (h : v ∈ (liftPass .value (EntityKind.value.grounded v)).2) : '"' ∉ v.toList := by
  obtain ⟨q, front, back, hv, htext⟩ := exists_of_mem_liftPass_value h
  have hcontent : v.toList = q.content := by
    rw [hv, String.toList_ofList]
  rw [toList_grounded_value] at htext
  rcases q.isQuote with hquote | hquote
  · rw [hcontent, ← hquote]
    exact q.quote_not_mem_content
  · have hmem : q.quote ∈ '"' :: (v.toList ++ ['"']) := by
      rw [htext, Quotation.chars]
      simp
    have hsingle : '\'' ∈ q.content := by simpa [hquote, hcontent] using hmem
    exact absurd (hquote ▸ hsingle) q.quote_not_mem_content

/-- The values are the texts that one of the two quotes can stand around. A value is grounded in
double quotes and then found again exactly if it holds none. -/
theorem lifts_grounded_value (v : String) :
    (IsValue v ↔ v.toList ≠ [] ∧ (';' ∉ v.toList ∧ '\x0b' ∉ v.toList) ∧
      ('"' ∉ v.toList ∨ '\'' ∉ v.toList)) ∧
    (liftPass .value (EntityKind.value.grounded v) = (EntityKind.value.placeholder, [v]) ↔
      IsValue v ∧ '"' ∉ v.toList) ∧
    (v ∈ (liftPass .value (EntityKind.value.grounded v)).2 ↔ IsValue v ∧ '"' ∉ v.toList) := by
  have hfound : v ∈ (liftPass .value (EntityKind.value.grounded v)).2 →
      IsValue v ∧ '"' ∉ v.toList := fun h => ⟨⟨_, h⟩, not_mem_of_mem_liftPass_grounded h⟩
  have hlifts : IsValue v ∧ '"' ∉ v.toList →
      liftPass .value (EntityKind.value.grounded v) = (EntityKind.value.placeholder, [v]) := by
    rintro ⟨hvalue, hdouble⟩
    obtain ⟨hne, hothers, -⟩ := exists_content_eq_iff.mp (isValue_iff.mp hvalue)
    obtain ⟨q, hquote, hcontent⟩ := exists_quotation (.inl rfl) hne hothers hdouble
    have hlift := liftPass_chars q
    rw [Quotation.chars, hquote, hcontent, ← toList_grounded_value, String.ofList_toList,
      String.ofList_toList] at hlift
    exact hlift
  have hmem : liftPass .value (EntityKind.value.grounded v) = (EntityKind.value.placeholder, [v]) →
      v ∈ (liftPass .value (EntityKind.value.grounded v)).2 := by
    intro hlift
    rw [hlift]
    exact List.mem_singleton_self v
  exact ⟨isValue_iff.trans exists_content_eq_iff, ⟨hfound ∘ hmem, hlifts⟩, hfound, hmem ∘ hlifts⟩

/-- A value in single quotes with a double quote inside is cut at it when it is grounded. -/
theorem lifts_grounded_value_cut :
    liftPass .value "'a\"b'" = ("<value>", ["a\"b"]) ∧
      EntityKind.value.grounded "a\"b" = "\"a\"b\"" ∧
      liftPass .value (EntityKind.value.grounded "a\"b") = ("<value>b\"", ["a"]) := by
  decide +kernel

end Value
end Lifting
end TablePhrase
