import TablePhrase.Proofs.Literal.Delimited
import TablePhrase.Proofs.Text.Search
import TablePhrase.Session.Call

/-!
Strings inside a call, as whoever runs the call reads them: up to the first quote of the opening
kind that is not escaped. A string is read back whole, as a value and as a column, so that nothing
in it ends the literal and goes on as code.
-/

namespace TablePhrase

namespace Text

def escapeValue? (c : Char) : Option Char :=
  if c = '\\' || c = '\'' || c = '"' then some c
  else if c = 'n' then some '\n'
  else if c = 'r' then some '\r'
  else if c = 't' then some '\t'
  else none

/-- The content of a string up to its closing quote, and the text after it. A string does not go on
over the end of a line. -/
def readContent (quote : Char) : List Char → Option (List Char × List Char)
  | [] => none
  | '\\' :: text =>
    match text with
    | [] => none
    | c :: rest => do
      let d ← escapeValue? c
      let (content, rest) ← readContent quote rest
      return (d :: content, rest)
  | c :: rest =>
    if c = quote then some ([], rest)
    else if c = '\n' || c = '\r' then none
    else (readContent quote rest).map fun (content, rest) => (c :: content, rest)

/-- A string at the start of a text, and what stands behind it. Three quotes in a row would open a
string over several lines. -/
def readString : List Char → Option (String × List Char)
  | [] => none
  | quote :: text =>
    if (quote = '\'' || quote = '"') && !List.isPrefixOf [quote, quote] text then
      (readContent quote text).map fun (content, rest) => (String.ofList content, rest)
    else none

def IsOneLine (text : List Char) : Prop :=
  ∀ c ∈ text, c ≠ '\n' ∧ c ≠ '\r'

section Content
variable {quote : Char} {text rest : List Char}

theorem readContent_backslash (c : Char) (rest : List Char) :
    readContent quote ('\\' :: c :: rest) =
      (escapeValue? c).bind fun d =>
        (readContent quote rest).map fun (content, rest) => (d :: content, rest) := by
  rw [readContent]
  cases escapeValue? c <;> cases readContent quote rest <;> rfl

theorem readContent_cons {c : Char} (hbackslash : c ≠ '\\') (hquote : c ≠ quote)
    (hline : c ≠ '\n' ∧ c ≠ '\r') (rest : List Char) :
    readContent quote (c :: rest) =
      (readContent quote rest).map fun (content, rest) => (c :: content, rest) := by
  rw [readContent]
  · rw [if_neg hquote, if_neg (by simp [hline])]
  · rintro rfl
    exact absurd rfl hbackslash

theorem readContent_quote (hquote : quote ≠ '\\') (rest : List Char) :
    readContent quote (quote :: rest) = some ([], rest) := by
  rw [readContent]
  · exact if_pos rfl
  · rintro rfl
    exact absurd rfl hquote

theorem readContent_escapeChar (hquote : quote = '\'' ∨ quote = '"') (c : Char) (rest : List Char) :
    readContent quote (escapeChar quote c ++ rest) =
      (readContent quote rest).map fun (content, rest) => (c :: content, rest) := by
  unfold escapeChar
  split
  · next h =>
    subst h
    exact readContent_backslash '\\' rest
  · next hbackslash =>
    split
    · next h =>
      subst h
      exact readContent_backslash 'n' rest
    · next hfeed =>
      split
      · next h =>
        subst h
        exact readContent_backslash 'r' rest
      · next hreturn =>
        split
        · next h =>
          subst h
          exact readContent_backslash 't' rest
        · split
          · next h =>
            subst h
            have hvalue : escapeValue? c = some c := by
              rcases hquote with rfl | rfl <;> rfl
            rw [List.cons_append, List.singleton_append, readContent_backslash, hvalue]
            rfl
          · next hne => exact readContent_cons hbackslash hne ⟨hfeed, hreturn⟩ rest

theorem readContent_escape (hquote : quote = '\'' ∨ quote = '"') (text rest : List Char) :
    readContent quote (escape quote text ++ quote :: rest) = some (text, rest) := by
  have hne : quote ≠ '\\' := by
    rcases hquote with rfl | rfl <;> decide
  induction text with
  | nil => exact readContent_quote hne rest
  | cons c text ih =>
    rw [escape, List.flatMap_cons, List.append_assoc, readContent_escapeChar hquote, ← escape, ih]
    rfl

theorem exists_of_readContent {content : List Char} (hquote : quote = '\'' ∨ quote = '"')
    (h : readContent quote text = some (content, rest)) :
    ∃ read, text = read ++ rest ∧ IsOneLine read := by
  fun_induction readContent quote text generalizing content with
  | case1 => cases h
  | case2 => cases h
  | case3 c left ih =>
    obtain ⟨d, hd, h⟩ := Option.bind_eq_some_iff.mp h
    obtain ⟨⟨more, left'⟩, hmore, h⟩ := Option.bind_eq_some_iff.mp h
    cases h
    obtain ⟨read, rfl, hread⟩ := ih hmore
    have hc : c ≠ '\n' ∧ c ≠ '\r' := by constructor <;> (rintro rfl; cases hd)
    exact ⟨'\\' :: c :: read, rfl,
      List.forall_mem_cons.mpr ⟨by decide, List.forall_mem_cons.mpr ⟨hc, hread⟩⟩⟩
  | case4 left hbackslash =>
    cases h
    refine ⟨[quote], rfl, List.forall_mem_singleton.mpr ?_⟩
    rcases hquote with rfl | rfl <;> decide
  | case5 => cases h
  | case6 c left hbackslash hne hline ih =>
    obtain ⟨⟨more, left'⟩, hmore, h⟩ := Option.map_eq_some_iff.mp h
    cases h
    obtain ⟨read, rfl, hread⟩ := ih hmore
    exact ⟨c :: read, rfl, List.forall_mem_cons.mpr ⟨by simpa using hline, hread⟩⟩

end Content

section String
variable {quote : Char} {text rest : List Char} {s : String}

theorem exists_of_readString (h : readString text = some (s, rest)) :
    ∃ read, text = read ++ rest ∧ IsOneLine read := by
  unfold readString at h
  split at h
  · cases h
  · next quote text =>
    split at h
    · next hopens =>
      obtain ⟨⟨content, left⟩, hcontent, h⟩ := Option.map_eq_some_iff.mp h
      cases h
      have hquote : quote = '\'' ∨ quote = '"' := by simpa using (Bool.and_eq_true_iff.mp hopens).1
      obtain ⟨read, rfl, hread⟩ := exists_of_readContent hquote hcontent
      refine ⟨quote :: read, rfl, List.forall_mem_cons.mpr ⟨?_, hread⟩⟩
      rcases hquote with rfl | rfl <;> decide
    · cases h

theorem isOneLine_of_readString (h : readString text = some (s, [])) : IsOneLine text := by
  obtain ⟨read, rfl, hread⟩ := exists_of_readString h
  rwa [List.append_nil]

/-- Only an empty string may have a second quote behind the first, and never a third. -/
theorem not_prefix_escape (hquote : quote = '\'' ∨ quote = '"') (hrest : quote ∉ rest.head?)
    (text : List Char) : ¬ [quote, quote] <+: escape quote text ++ quote :: rest := by
  cases text with
  | nil =>
    intro hstarts
    obtain ⟨more, hmore⟩ := (List.cons_prefix_cons.mp hstarts).2
    rw [← hmore] at hrest
    exact hrest rfl
  | cons c text =>
    rintro ⟨more, hmore⟩
    rw [escape, List.flatMap_cons, List.append_assoc] at hmore
    exact escapeChar_append_ne hquote c hmore.symm

theorem readString_quoteWith (hquote : quote = '\'' ∨ quote = '"') (text : List Char)
    (hrest : quote ∉ rest.head?) :
    readString (quoteWith quote text ++ rest) = some (String.ofList text, rest) := by
  have hstarts := isPrefixOf_eq_false (not_prefix_escape hquote hrest text)
  rw [quoteWith, List.cons_append, List.append_assoc, List.singleton_append, readString,
    if_pos (by simp [hquote, hstarts]), readContent_escape hquote]
  rfl

end String
end Text

open Text

/-- A string as a value and as a column is one literal, on one line, that is read to its end as that
string; in front of the column stands the bracket that opens the subscript, and only the bracket that
closes it is left behind the literal. -/
theorem readString_written (s : String) :
    readString (Literal.str s).code.toList = some (s, []) ∧
    (∃ literal, (columnSubscript (.str s)).toList = '[' :: (literal ++ [']']) ∧
      readString literal = some (s, []) ∧ readString (literal ++ [']']) = some (s, [']'])) ∧
    IsOneLine (Literal.str s).code.toList ∧ IsOneLine (columnSubscript (.str s)).toList := by
  have hwhole {quote : Char} (hquote : quote = '\'' ∨ quote = '"') :
      readString (quoteWith quote s.toList) = some (s, []) := by
    have hread := readString_quoteWith hquote s.toList (nofun : quote ∉ [].head?)
    rwa [List.append_nil, String.ofList_toList] at hread
  have hcode : (Literal.str s).code.toList = quoteWith (preferredQuote s.toList) s.toList :=
    Literal.toList_code (.str s)
  have hvalue := hwhole (Literal.preferredQuote_eq s.toList)
  have hcolumn := hwhole (.inr rfl)
  have hclosed := readString_quoteWith (.inr rfl) s.toList (by decide : '"' ∉ [']'].head?)
  rw [String.ofList_toList] at hclosed
  have hsubscript : (columnSubscript (.str s)).toList = '[' :: (quoteWith '"' s.toList ++ [']']) := by
    simp [columnSubscript]
  rw [hcode, hsubscript]
  refine ⟨hvalue, ⟨_, rfl, hcolumn, hclosed⟩, isOneLine_of_readString hvalue, ?_⟩
  have hline := isOneLine_of_readString hcolumn
  exact List.forall_mem_cons.mpr ⟨by decide, List.forall_mem_append.mpr
    ⟨hline, List.forall_mem_singleton.mpr (by decide)⟩⟩

end TablePhrase
