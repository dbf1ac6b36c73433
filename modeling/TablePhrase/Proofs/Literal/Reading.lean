import TablePhrase.Proofs.Literal.Content
import TablePhrase.Proofs.Literal.Scalar

/-!
One step of reading a literal, for each shape that it may have, and what stands around written
literals. Lists and maps are read up to what closes them, item by item.
-/

namespace TablePhrase.Literal

/-- The text is at its end, or what separates or closes literals comes next. -/
def AtPunctuation (text : List Char) : Prop :=
  ∀ c ∈ text.head?, c = ',' ∨ c = ':' ∨ c = ']' ∨ c = '}'

theorem atPunctuation_nil : AtPunctuation [] := nofun

theorem atPunctuation_cons {c : Char} (h : c = ',' ∨ c = ':' ∨ c = ']' ∨ c = '}')
    (rest : List Char) : AtPunctuation (c :: rest) := by
  rintro d ⟨⟩
  exact h

theorem AtPunctuation.endsNumber {text : List Char} (h : AtPunctuation text) : EndsNumber text := by
  intro c hc
  rcases h c hc with rfl | rfl | rfl | rfl <;> decide

theorem skipBlank_cons {c : Char} (h : isBlank c = false) (rest : List Char) :
    skipBlank (c :: rest) = c :: rest :=
  List.dropWhile_cons_of_neg (by simp [h])

theorem AtPunctuation.skipBlank_eq {text : List Char} (h : AtPunctuation text) :
    skipBlank text = text := by
  cases text with
  | nil => rfl
  | cons c rest =>
    apply skipBlank_cons
    rcases h c rfl with rfl | rfl | rfl | rfl <;> decide

def isOpening (c : Char) : Bool :=
  !isBlank c && c != ',' && c != ':' && c != ']' && c != '}'

theorem isOpening_of_isDigit {c : Char} (h : c.isDigit = true) : isOpening c = true := by
  have hne : ∀ d : Char, d.isDigit = false → c ≠ d := by
    rintro d hd rfl
    rw [h] at hd
    cases hd
  simp [isOpening, isBlank, hne]

theorem exists_quote_eq_cons (text : List Char) :
    ∃ c cs, Text.quote text = c :: cs ∧ (c = '\'' ∨ c = '"') :=
  ⟨_, _, rfl, preferredQuote_eq text⟩

theorem exists_chars_eq_cons {v : Literal} (hfloat : v.IsFloatFree) :
    ∃ c cs, v.chars = c :: cs ∧ isOpening c = true := by
  cases v with
  | null => exact ⟨_, _, rfl, by decide⟩
  | bool b => cases b <;> exact ⟨_, _, rfl, by decide⟩
  | int i =>
    obtain ⟨c, cs, htext, hc⟩ := exists_integerText_eq_cons i.toInt
    refine ⟨c, cs, htext, ?_⟩
    rcases hc with rfl | hc
    · decide
    · exact isOpening_of_isDigit hc
  | float x => cases hfloat
  | str s =>
    obtain ⟨c, cs, htext, hc⟩ := exists_quote_eq_cons s.toList
    refine ⟨c, cs, htext, ?_⟩
    rcases hc with rfl | rfl <;> decide
  | list items => exact ⟨_, _, rfl, by decide⟩
  | map entries => exact ⟨_, _, rfl, by decide⟩

theorem skipBlank_chars_append {v : Literal} (hfloat : v.IsFloatFree) (rest : List Char) :
    skipBlank (v.chars ++ rest) = v.chars ++ rest := by
  obtain ⟨c, cs, htext, hc⟩ := exists_chars_eq_cons hfloat
  rw [htext, List.cons_append]
  apply skipBlank_cons
  simp only [isOpening, Bool.and_eq_true, Bool.not_eq_true'] at hc
  exact hc.1.1.1.1

section ReadWithin
variable {fuel : Nat} {text body rest : List Char} {c : Char}

theorem readWithin_of_scalar (htext : skipBlank text = c :: body) (hlist : c ≠ '[')
    (hmap : c ≠ '{') :
    readWithin (fuel + 1) text =
      match readScalar (c :: body) with
      | some (v, rest) => .ok (v, skipBlank rest)
      | none => .error (c :: body) := by
  rw [readWithin]
  simp only [htext]
  split
  · next heq =>
    cases heq
    exact absurd rfl hlist
  · next heq =>
    cases heq
    exact absurd rfl hmap
  · rfl

theorem readWithin_of_list (htext : skipBlank text = '[' :: body) {items : List Literal}
    {left : List Char} (hitems : readItems fuel body = (items, left)) :
    readWithin (fuel + 1) text =
      match skipBlank left with
      | ']' :: rest => .ok (list items, skipBlank rest)
      | _ => .error ('[' :: body) := by
  rw [readWithin, htext]
  change (match skipBlank (readItems fuel body).2 with
    | ']' :: rest => Except.ok (list (readItems fuel body).1, skipBlank rest)
    | _ => Except.error ('[' :: body)) = _
  rw [hitems]

theorem readWithin_of_map (htext : skipBlank text = '{' :: body)
    {pairs : List (Literal × Literal)} {left : List Char}
    (hpairs : readPairs fuel body = (pairs, left)) :
    readWithin (fuel + 1) text =
      match skipBlank left with
      | '}' :: rest => .ok (ofEntries (pairs.map fun (k, v) => (k.raw, v)), skipBlank rest)
      | rest => .error rest := by
  rw [readWithin, htext]
  change (match skipBlank (readPairs fuel body).2 with
    | '}' :: rest =>
      Except.ok
        (ofEntries ((readPairs fuel body).1.map fun ((k, v) : Literal × Literal) => (k.raw, v)),
          skipBlank rest)
    | rest => Except.error rest) = _
  rw [hpairs]

theorem exists_readWithin_closing (htext : skipBlank text = c :: rest) (hc : c = ']' ∨ c = '}') :
    ∃ left, readWithin fuel text = .error left := by
  cases fuel with
  | zero => exact ⟨text, rfl⟩
  | succ fuel =>
    refine ⟨c :: rest, ?_⟩
    rcases hc with rfl | rfl
    · rw [readWithin_of_scalar htext (by decide) (by decide)]
      rfl
    · rw [readWithin_of_scalar htext (by decide) (by decide)]
      rfl

theorem readItems_of_error {left : List Char} (h : readWithin fuel text = .error left) :
    readItems (fuel + 1) text = ([], text) := by
  rw [readItems, h]

theorem readItems_of_last {v : Literal} (hrest : c ≠ ',')
    (h : readWithin fuel text = .ok (v, c :: rest)) :
    readItems (fuel + 1) text = ([v], c :: rest) := by
  rw [readItems, h]
  split
  · next heq => cases heq
  · next heq =>
    cases heq
    exact absurd rfl hrest
  · next heq =>
    cases heq
    rfl

theorem readItems_of_comma {v : Literal} (h : readWithin fuel text = .ok (v, ',' :: body)) :
    readItems (fuel + 1) text =
      match readItems fuel body with
      | ([], _) => ([v], ',' :: body)
      | (vs, rest) => (v :: vs, rest) := by
  rw [readItems, h]
  rfl

theorem readPairs_of_key_error {left : List Char} (h : readWithin fuel text = .error left) :
    readPairs (fuel + 1) text = ([], text) := by
  rw [readPairs, h]

theorem readPairs_of_value_error {k : Literal} {left : List Char}
    (hk : readWithin fuel text = .ok (k, ':' :: body))
    (hv : readWithin fuel body = .error left) : readPairs (fuel + 1) text = ([], text) := by
  rw [readPairs, hk]
  simp only [hv]

theorem readPairs_of_last {k v : Literal} (hk : readWithin fuel text = .ok (k, ':' :: body))
    (hrest : c ≠ ',') (hv : readWithin fuel body = .ok (v, c :: rest)) :
    readPairs (fuel + 1) text = ([(k, v)], c :: rest) := by
  rw [readPairs, hk]
  simp only [hv]
  split
  · next heq => cases heq
  · next heq =>
    cases heq
    exact absurd rfl hrest
  · next heq =>
    cases heq
    rfl

theorem readPairs_of_comma {k v : Literal} {next : List Char}
    (hk : readWithin fuel text = .ok (k, ':' :: body))
    (hv : readWithin fuel body = .ok (v, ',' :: next)) :
    readPairs (fuel + 1) text =
      match readPairs fuel next with
      | ([], _) => ([(k, v)], ',' :: next)
      | (pairs, rest) => ((k, v) :: pairs, rest) := by
  rw [readPairs, hk]
  rcases hmore : readPairs fuel next with ⟨_ | ⟨pair, pairs⟩, left⟩
  · simp only [hv, hmore]
  · simp only [hv, hmore]

end ReadWithin

section Scalar
variable {fuel : Nat} {text rest : List Char}

theorem readWithin_of_readScalar {v : Literal} {c : Char} {cs : List Char}
    (hchars : v.chars = c :: cs) (hlist : c ≠ '[') (hmap : c ≠ '{')
    (hread : readScalar (v.chars ++ rest) = some (v, rest))
    (hfuel : v.chars.length ≤ fuel) (hrest : AtPunctuation rest)
    (htext : skipBlank text = v.chars ++ rest) : readWithin fuel text = .ok (v, rest) := by
  rw [hchars] at hfuel
  rw [hchars, List.cons_append] at hread htext
  obtain ⟨fuel, rfl⟩ := Nat.exists_eq_add_of_le' (Nat.le_trans (Nat.succ_pos _) hfuel)
  rw [readWithin_of_scalar htext hlist hmap, hread]
  simp only [hrest.skipBlank_eq]

theorem not_mem_of_hasReturn {s : String} (h : hasReturn s = false) : '\r' ∉ s.toList := by
  simpa [hasReturn] using h

theorem mem_of_hasReturn {s : String} (h : hasReturn s = true) : '\r' ∈ s.toList := by
  simpa [hasReturn] using h

theorem readWithin_str {s : String} (hs : hasReturn s = false)
    (hfuel : (Text.quote s.toList).length ≤ fuel) (hrest : AtPunctuation rest)
    (htext : skipBlank text = Text.quote s.toList ++ rest) :
    readWithin fuel text = .ok (str s, rest) := by
  obtain ⟨c, cs, hquote, hc⟩ := exists_quote_eq_cons s.toList
  have hlist : c ≠ '[' := by rcases hc with rfl | rfl <;> decide
  have hmap : c ≠ '{' := by rcases hc with rfl | rfl <;> decide
  have hread := readScalar_quote (not_mem_of_hasReturn hs) rest
  exact readWithin_of_readScalar (v := str s) hquote hlist hmap hread hfuel hrest htext

theorem exists_readWithin_str_of_hasReturn {s : String} (hs : hasReturn s = true)
    (htext : skipBlank text = Text.quote s.toList ++ rest) :
    ∃ left, readWithin fuel text = .error left := by
  obtain ⟨c, cs, hquote, hc⟩ := exists_quote_eq_cons s.toList
  have hlist : c ≠ '[' := by rcases hc with rfl | rfl <;> decide
  have hmap : c ≠ '{' := by rcases hc with rfl | rfl <;> decide
  have hread := readScalar_quote_of_mem (mem_of_hasReturn hs) rest
  rw [hquote, List.cons_append] at htext hread
  cases fuel with
  | zero => exact ⟨text, rfl⟩
  | succ fuel => exact ⟨_, by rw [readWithin_of_scalar htext hlist hmap, hread]⟩

end Scalar

end TablePhrase.Literal
