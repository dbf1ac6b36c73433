import TablePhrase.Proofs.KeyMap
import TablePhrase.Proofs.Literal.Reading

/-!
Reading back written literals, at any depth. A value without doubles is read back exactly if no
carriage return stands in it; else nothing is read.
-/

namespace TablePhrase.Literal

theorem atPunctuation_moreItemChars (xs : List Literal) (rest : List Char) :
    AtPunctuation (moreItemChars xs ++ ']' :: rest) := by
  cases xs with
  | nil => exact atPunctuation_cons (by decide) _
  | cons x xs => exact atPunctuation_cons (by decide) _

theorem atPunctuation_moreEntryChars (es : List (String × Literal)) (rest : List Char) :
    AtPunctuation (moreEntryChars es ++ '}' :: rest) := by
  cases es with
  | nil => exact atPunctuation_cons (by decide) _
  | cons e es => exact atPunctuation_cons (by decide) _

theorem skipBlank_space_chars {v : Literal} (hfloat : v.IsFloatFree) (rest : List Char) :
    skipBlank (' ' :: (v.chars ++ rest)) = v.chars ++ rest :=
  skipBlank_chars_append hfloat rest

theorem skipBlank_itemChars {items : List Literal} (hfloat : (list items).IsFloatFree)
    (rest : List Char) :
    skipBlank (itemChars items ++ ']' :: rest) = itemChars items ++ ']' :: rest := by
  cases items with
  | nil => rfl
  | cons x xs =>
    obtain ⟨hx, -⟩ := isFloatFree_list_cons.mp hfloat
    rw [itemChars, List.append_assoc]
    exact skipBlank_chars_append hx _

theorem skipBlank_quote (s rest : List Char) :
    skipBlank (Text.quote s ++ rest) = Text.quote s ++ rest := by
  obtain ⟨c, cs, hquote, hc⟩ := exists_quote_eq_cons s
  rw [hquote]
  rcases hc with rfl | rfl <;> rfl

theorem skipBlank_entryChars (entries : List (String × Literal)) (rest : List Char) :
    skipBlank (entryChars entries ++ '}' :: rest) = entryChars entries ++ '}' :: rest := by
  cases entries with
  | nil => rfl
  | cons e es =>
    rw [entryChars, List.append_assoc]
    exact skipBlank_quote _ _

section Fuel
variable {fuel : Nat} {text rest : List Char}

theorem exists_of_list_chars {items : List Literal} (hfuel : (list items).chars.length ≤ fuel)
    (htext : skipBlank text = (list items).chars ++ rest) :
    ∃ less, fuel = less + 1 ∧ (itemChars items).length < less ∧
      skipBlank text = '[' :: (itemChars items ++ ']' :: rest) := by
  rw [chars, List.length_cons, List.length_append, List.length_singleton] at hfuel
  obtain ⟨less, rfl⟩ := Nat.exists_eq_add_of_le' (Nat.le_trans (Nat.le_add_left 1 _) hfuel)
  exact ⟨less, rfl, Nat.le_of_succ_le_succ hfuel, by simpa [chars] using htext⟩

theorem exists_of_map_chars {entries : List (String × Literal)}
    (hfuel : (map entries).chars.length ≤ fuel)
    (htext : skipBlank text = (map entries).chars ++ rest) :
    ∃ less, fuel = less + 1 ∧ (entryChars entries).length < less ∧
      skipBlank text = '{' :: (entryChars entries ++ '}' :: rest) := by
  rw [chars, List.length_cons, List.length_append, List.length_singleton] at hfuel
  obtain ⟨less, rfl⟩ := Nat.exists_eq_add_of_le' (Nat.le_trans (Nat.le_add_left 1 _) hfuel)
  exact ⟨less, rfl, Nat.le_of_succ_le_succ hfuel, by simpa [chars] using htext⟩

end Fuel

section Entries
variable (k : String) (v : Literal) (es : List (String × Literal))

theorem length_entryChars_cons :
    (entryChars ((k, v) :: es)).length =
      (Text.quote k.toList).length + (v.chars.length + (moreEntryChars es).length + 2) := by
  simp [entryChars]

theorem entryChars_cons_append (rest : List Char) :
    entryChars ((k, v) :: es) ++ rest =
      Text.quote k.toList ++ ':' :: ' ' :: (v.chars ++ (moreEntryChars es ++ rest)) := by
  simp [entryChars]

end Entries

def keyed (entries : List (String × Literal)) : List (Literal × Literal) :=
  entries.map fun (k, v) => (str k, v)

theorem map_raw_keyed (entries : List (String × Literal)) :
    ((keyed entries).map fun (k, v) => (k.raw, v)) = entries := by
  rw [keyed, List.map_map]
  exact List.map_id'' (fun _ => rfl) entries

mutual

/-- A written value is read back where punctuation follows, if there is no carriage return in it.
Every character written allows for one step of the recursion. -/
theorem readWithin_chars : ∀ (v : Literal) {fuel : Nat} {text rest : List Char},
    v.IsFloatFree → v.IsOrdered → v.holdsReturn = false → v.chars.length ≤ fuel →
    AtPunctuation rest → skipBlank text = v.chars ++ rest → readWithin fuel text = .ok (v, rest)
  | null, _, _, _, _, _, _, hfuel, hrest, htext =>
    readWithin_of_readScalar rfl (by decide) (by decide) rfl hfuel hrest htext
  | bool true, _, _, _, _, _, _, hfuel, hrest, htext =>
    readWithin_of_readScalar rfl (by decide) (by decide) rfl hfuel hrest htext
  | bool false, _, _, _, _, _, _, hfuel, hrest, htext =>
    readWithin_of_readScalar rfl (by decide) (by decide) rfl hfuel hrest htext
  | int i, _, _, rest, _, _, _, hfuel, hrest, htext => by
    obtain ⟨c, cs, hchars, hc⟩ := exists_integerText_eq_cons i.toInt
    have hne : ∀ d : Char, d ≠ '-' → d.isDigit = false → c ≠ d := by
      rintro d hminus hdigit rfl
      rcases hc with hc | hc
      · exact hminus hc
      · rw [hc] at hdigit
        cases hdigit
    have hread := readScalar_integerText i hrest.endsNumber
    exact readWithin_of_readScalar (v := int i) hchars (hne _ (by decide) (by decide))
      (hne _ (by decide) (by decide)) hread hfuel hrest htext
  | float x, _, _, _, hfloat, _, _, _, _, _ => nomatch hfloat
  | str s, _, _, _, _, _, hreturn, hfuel, hrest, htext => readWithin_str hreturn hfuel hrest htext
  | list items, fuel, text, rest, hfloat, hordered, hreturn, hfuel, hrest, htext => by
    obtain ⟨fuel, rfl, hlength, hbody⟩ := exists_of_list_chars hfuel htext
    obtain ⟨left, hread, hleft⟩ := readItems_itemChars items hfloat hordered hreturn
      hlength (skipBlank_itemChars hfloat rest)
    rw [readWithin_of_list hbody hread, hleft]
    simp only [hrest.skipBlank_eq]
  | map entries, fuel, text, rest, hfloat, hordered, hreturn, hfuel, hrest, htext => by
    obtain ⟨fuel, rfl, hlength, hbody⟩ := exists_of_map_chars hfuel htext
    obtain ⟨left, hread, hleft⟩ := readPairs_entryChars entries hfloat hordered hreturn
      hlength (skipBlank_entryChars entries rest)
    rw [readWithin_of_map hbody hread, hleft]
    simp only [hrest.skipBlank_eq, map_raw_keyed, ofEntries,
      sortEntries_of_keysIncrease hordered.keysIncrease]

theorem readItems_itemChars : ∀ (items : List Literal) {fuel : Nat} {text rest : List Char},
    (list items).IsFloatFree → (list items).IsOrdered → (list items).holdsReturn = false →
    (itemChars items).length < fuel → skipBlank text = itemChars items ++ ']' :: rest →
    ∃ left, readItems fuel text = (items, left) ∧ skipBlank left = ']' :: rest
  | [], fuel, text, rest, _, _, _, hfuel, htext => by
    obtain ⟨fuel, rfl⟩ := Nat.exists_eq_add_of_le' hfuel
    obtain ⟨left, hleft⟩ := exists_readWithin_closing htext (.inl rfl)
    exact ⟨text, readItems_of_error hleft, htext⟩
  | x :: xs, fuel, text, rest, hfloat, hordered, hreturn, hfuel, htext => by
    obtain ⟨hxfloat, hxsfloat⟩ := isFloatFree_list_cons.mp hfloat
    obtain ⟨hxordered, hxsordered⟩ := isOrdered_list_cons.mp hordered
    rw [holdsReturn_list_cons, Bool.or_eq_false_iff] at hreturn
    rw [itemChars, List.append_assoc] at htext
    rw [itemChars, List.length_append] at hfuel
    obtain ⟨fuel, rfl⟩ := Nat.exists_eq_add_of_le' (Nat.le_trans (Nat.succ_pos _) hfuel)
    have hx := readWithin_chars x hxfloat hxordered hreturn.1 (by omega : _ ≤ fuel)
      (atPunctuation_moreItemChars xs rest) htext
    cases xs with
    | nil => exact ⟨_, readItems_of_last (by decide) hx, skipBlank_cons (by decide) rest⟩
    | cons y ys =>
      have hmore : (moreItemChars (y :: ys)).length = (itemChars (y :: ys)).length + 2 := rfl
      have hcomma : readWithin fuel text =
          .ok (x, ',' :: ' ' :: (itemChars (y :: ys) ++ ']' :: rest)) := hx
      have hblank : skipBlank (' ' :: (itemChars (y :: ys) ++ ']' :: rest)) =
          itemChars (y :: ys) ++ ']' :: rest := skipBlank_itemChars hxsfloat rest
      obtain ⟨left, hread, hleft⟩ := readItems_itemChars (y :: ys) hxsfloat hxsordered hreturn.2
        (by omega : _ < fuel) hblank
      refine ⟨left, ?_, hleft⟩
      rw [readItems_of_comma hcomma, hread]

theorem readPairs_entryChars : ∀ (entries : List (String × Literal)) {fuel : Nat}
    {text rest : List Char}, (map entries).IsFloatFree → (map entries).IsOrdered →
    (map entries).holdsReturn = false → (entryChars entries).length < fuel →
    skipBlank text = entryChars entries ++ '}' :: rest →
    ∃ left, readPairs fuel text = (keyed entries, left) ∧ skipBlank left = '}' :: rest
  | [], fuel, text, rest, _, _, _, hfuel, htext => by
    obtain ⟨fuel, rfl⟩ := Nat.exists_eq_add_of_le' hfuel
    obtain ⟨left, hleft⟩ := exists_readWithin_closing htext (.inr rfl)
    exact ⟨text, readPairs_of_key_error hleft, htext⟩
  | (k, v) :: es, fuel, text, rest, hfloat, hordered, hreturn, hfuel, htext => by
    obtain ⟨hvfloat, hesfloat⟩ := isFloatFree_map_cons.mp hfloat
    obtain ⟨hvordered, hesordered⟩ := hordered.of_map_cons
    rw [holdsReturn_map_cons, Bool.or_eq_false_iff, Bool.or_eq_false_iff] at hreturn
    obtain ⟨⟨hkreturn, hvreturn⟩, hesreturn⟩ := hreturn
    rw [length_entryChars_cons] at hfuel
    rw [entryChars_cons_append] at htext
    obtain ⟨fuel, rfl⟩ := Nat.exists_eq_add_of_le' (Nat.le_trans (Nat.succ_pos _) hfuel)
    let body := ' ' :: (v.chars ++ (moreEntryChars es ++ '}' :: rest))
    have hk := readWithin_str hkreturn (by omega : _ ≤ fuel)
      (atPunctuation_cons (by decide) body) htext
    have hv := readWithin_chars v hvfloat hvordered hvreturn (by omega : _ ≤ fuel)
      (atPunctuation_moreEntryChars es rest) (skipBlank_space_chars hvfloat _)
    cases es with
    | nil => exact ⟨_, readPairs_of_last hk (by decide) hv, skipBlank_cons (by decide) rest⟩
    | cons e es =>
      have hmore : (moreEntryChars (e :: es)).length = (entryChars (e :: es)).length + 2 := rfl
      have hcomma : readWithin fuel body =
          .ok (v, ',' :: ' ' :: (entryChars (e :: es) ++ '}' :: rest)) := hv
      have hblank : skipBlank (' ' :: (entryChars (e :: es) ++ '}' :: rest)) =
          entryChars (e :: es) ++ '}' :: rest := skipBlank_entryChars (e :: es) rest
      obtain ⟨left, hread, hleft⟩ := readPairs_entryChars (e :: es) hesfloat hesordered hesreturn
        (by omega : _ < fuel) hblank
      refine ⟨left, ?_, hleft⟩
      rw [readPairs_of_comma hk hcomma, hread]
      rfl

end

section Unclosed
variable {fuel : Nat} {text body left : List Char}

theorem exists_readWithin_of_unclosed_list (htext : skipBlank text = '[' :: body)
    (hleft : ∀ rest, skipBlank (readItems fuel body).2 ≠ ']' :: rest) :
    ∃ left, readWithin (fuel + 1) text = .error left := by
  refine ⟨'[' :: body, ?_⟩
  rw [readWithin_of_list htext rfl]
  split
  · next rest heq => exact absurd heq (hleft rest)
  · rfl

theorem exists_readWithin_of_unclosed_map (htext : skipBlank text = '{' :: body)
    (hleft : ∀ rest, skipBlank (readPairs fuel body).2 ≠ '}' :: rest) :
    ∃ left, readWithin (fuel + 1) text = .error left := by
  refine ⟨skipBlank (readPairs fuel body).2, ?_⟩
  rw [readWithin_of_map htext rfl]
  split
  · next rest heq => exact absurd heq (hleft rest)
  · rfl

theorem readItems_of_comma_unclosed {v : Literal} (h : readWithin fuel text = .ok (v, ',' :: body))
    (hbody : ∀ rest, skipBlank (readItems fuel body).2 ≠ ']' :: rest) (rest : List Char) :
    skipBlank (readItems (fuel + 1) text).2 ≠ ']' :: rest := by
  rw [readItems_of_comma h]
  split
  · rw [skipBlank_cons (by decide)]
    simp
  · next heq =>
    rw [heq] at hbody
    exact hbody rest

theorem readPairs_of_comma_unclosed {k v : Literal} {next : List Char}
    (hk : readWithin fuel text = .ok (k, ':' :: body))
    (hv : readWithin fuel body = .ok (v, ',' :: next))
    (hnext : ∀ rest, skipBlank (readPairs fuel next).2 ≠ '}' :: rest) (rest : List Char) :
    skipBlank (readPairs (fuel + 1) text).2 ≠ '}' :: rest := by
  rw [readPairs_of_comma hk hv]
  split
  · rw [skipBlank_cons (by decide)]
    simp
  · next heq =>
    rw [heq] at hnext
    exact hnext rest

end Unclosed

theorem chars_append_ne_cons {v : Literal} (hfloat : v.IsFloatFree) {c : Char}
    (hc : isOpening c = false) (rest more : List Char) : v.chars ++ rest ≠ c :: more := by
  obtain ⟨d, ds, hchars, hd⟩ := exists_chars_eq_cons hfloat
  rw [hchars, List.cons_append]
  intro heq
  rw [(List.cons.inj heq).1, hc] at hd
  cases hd

mutual

theorem exists_readWithin_chars_of_holdsReturn : ∀ (v : Literal) {fuel : Nat}
    {text rest : List Char}, v.IsFloatFree → v.IsOrdered → v.holdsReturn = true →
    v.chars.length ≤ fuel → skipBlank text = v.chars ++ rest →
    ∃ left, readWithin fuel text = .error left
  | null, _, _, _, _, _, hreturn, _, _ => nomatch hreturn
  | bool b, _, _, _, _, _, hreturn, _, _ => nomatch hreturn
  | int i, _, _, _, _, _, hreturn, _, _ => nomatch hreturn
  | float x, _, _, _, hfloat, _, _, _, _ => nomatch hfloat
  | str s, _, _, _, _, _, hreturn, _, htext => exists_readWithin_str_of_hasReturn hreturn htext
  | list items, fuel, text, rest, hfloat, hordered, hreturn, hfuel, htext => by
    obtain ⟨fuel, rfl, hlength, hbody⟩ := exists_of_list_chars hfuel htext
    exact exists_readWithin_of_unclosed_list hbody
      (readItems_itemChars_of_holdsReturn items hfloat hordered hreturn
        hlength (skipBlank_itemChars hfloat rest))
  | map entries, fuel, text, rest, hfloat, hordered, hreturn, hfuel, htext => by
    obtain ⟨fuel, rfl, hlength, hbody⟩ := exists_of_map_chars hfuel htext
    exact exists_readWithin_of_unclosed_map hbody
      (readPairs_entryChars_of_holdsReturn entries hfloat hordered hreturn
        hlength (skipBlank_entryChars entries rest))

theorem readItems_itemChars_of_holdsReturn : ∀ (items : List Literal) {fuel : Nat}
    {text rest : List Char}, (list items).IsFloatFree → (list items).IsOrdered →
    (list items).holdsReturn = true → (itemChars items).length < fuel →
    skipBlank text = itemChars items ++ ']' :: rest →
    ∀ more, skipBlank (readItems fuel text).2 ≠ ']' :: more
  | [], _, _, _, _, _, hreturn, _, _, _ => nomatch hreturn
  | x :: xs, fuel, text, rest, hfloat, hordered, hreturn, hfuel, htext, more => by
    obtain ⟨hxfloat, hxsfloat⟩ := isFloatFree_list_cons.mp hfloat
    obtain ⟨hxordered, hxsordered⟩ := isOrdered_list_cons.mp hordered
    rw [holdsReturn_list_cons] at hreturn
    rw [itemChars, List.append_assoc] at htext
    rw [itemChars, List.length_append] at hfuel
    obtain ⟨fuel, rfl⟩ := Nat.exists_eq_add_of_le' (Nat.le_trans (Nat.succ_pos _) hfuel)
    cases hx : x.holdsReturn with
    | true =>
      obtain ⟨left, hleft⟩ := exists_readWithin_chars_of_holdsReturn x hxfloat hxordered hx
        (by omega : _ ≤ fuel) htext
      rw [readItems_of_error hleft, htext]
      exact chars_append_ne_cons hxfloat (by decide) _ more
    | false =>
      rw [hx, Bool.false_or] at hreturn
      have hread := readWithin_chars x hxfloat hxordered hx (by omega : _ ≤ fuel)
        (atPunctuation_moreItemChars xs rest) htext
      cases xs with
      | nil => cases hreturn
      | cons y ys =>
        have hmore : (moreItemChars (y :: ys)).length = (itemChars (y :: ys)).length + 2 := rfl
        have hcomma : readWithin fuel text =
            .ok (x, ',' :: ' ' :: (itemChars (y :: ys) ++ ']' :: rest)) := hread
        have hblank : skipBlank (' ' :: (itemChars (y :: ys) ++ ']' :: rest)) =
            itemChars (y :: ys) ++ ']' :: rest := skipBlank_itemChars hxsfloat rest
        exact readItems_of_comma_unclosed hcomma
          (readItems_itemChars_of_holdsReturn (y :: ys) hxsfloat hxsordered hreturn
            (by omega : _ < fuel) hblank) more

theorem readPairs_entryChars_of_holdsReturn : ∀ (entries : List (String × Literal)) {fuel : Nat}
    {text rest : List Char}, (map entries).IsFloatFree → (map entries).IsOrdered →
    (map entries).holdsReturn = true → (entryChars entries).length < fuel →
    skipBlank text = entryChars entries ++ '}' :: rest →
    ∀ more, skipBlank (readPairs fuel text).2 ≠ '}' :: more
  | [], _, _, _, _, _, hreturn, _, _, _ => nomatch hreturn
  | (k, v) :: es, fuel, text, rest, hfloat, hordered, hreturn, hfuel, htext, more => by
    obtain ⟨hvfloat, hesfloat⟩ := isFloatFree_map_cons.mp hfloat
    obtain ⟨hvordered, hesordered⟩ := hordered.of_map_cons
    rw [holdsReturn_map_cons] at hreturn
    rw [length_entryChars_cons] at hfuel
    rw [entryChars_cons_append] at htext
    obtain ⟨fuel, rfl⟩ := Nat.exists_eq_add_of_le' (Nat.le_trans (Nat.succ_pos _) hfuel)
    let body := ' ' :: (v.chars ++ (moreEntryChars es ++ '}' :: rest))
    have hunread : skipBlank text ≠ '}' :: more := by
      rw [htext]
      exact chars_append_ne_cons (v := str k) rfl (by decide) _ more
    cases hkreturn : hasReturn k with
    | true =>
      have hunreadable : ∃ left, readWithin fuel text = .error left :=
        exists_readWithin_str_of_hasReturn hkreturn htext
      obtain ⟨left, hleft⟩ := hunreadable
      rw [readPairs_of_key_error hleft]
      exact hunread
    | false =>
      have hk := readWithin_str hkreturn (by omega : _ ≤ fuel)
        (atPunctuation_cons (by decide) body) htext
      cases hvreturn : v.holdsReturn with
      | true =>
        obtain ⟨left, hleft⟩ := exists_readWithin_chars_of_holdsReturn v hvfloat hvordered hvreturn
          (by omega : _ ≤ fuel) (skipBlank_space_chars hvfloat _)
        rw [readPairs_of_value_error hk hleft]
        exact hunread
      | false =>
        rw [hkreturn, hvreturn, Bool.false_or, Bool.false_or] at hreturn
        have hv := readWithin_chars v hvfloat hvordered hvreturn (by omega : _ ≤ fuel)
          (atPunctuation_moreEntryChars es rest) (skipBlank_space_chars hvfloat _)
        cases es with
        | nil => cases hreturn
        | cons e es =>
          have hmore : (moreEntryChars (e :: es)).length = (entryChars (e :: es)).length + 2 := rfl
          have hcomma : readWithin fuel body =
              .ok (v, ',' :: ' ' :: (entryChars (e :: es) ++ '}' :: rest)) := hv
          have hblank : skipBlank (' ' :: (entryChars (e :: es) ++ '}' :: rest)) =
              entryChars (e :: es) ++ '}' :: rest := skipBlank_entryChars (e :: es) rest
          exact readPairs_of_comma_unclosed hk hcomma
            (readPairs_entryChars_of_holdsReturn (e :: es) hesfloat hesordered hreturn
              (by omega : _ < fuel) hblank) more

end

theorem toList_code (v : Literal) : v.code.toList = v.chars :=
  String.toList_ofList

/-- The code of a value without doubles is read back as that value where no string and no key in it
holds a carriage return, and cannot be read where one does. -/
theorem parse_code {v : Literal} (hfloat : v.IsFloatFree) (hordered : v.IsOrdered) :
    (v.holdsReturn = false → parse v.code = .ok v) ∧
      (v.holdsReturn = true → ∃ e, parse v.code = .error e) := by
  have hfuel : v.chars.length ≤ 2 * v.chars.length + 2 := by omega
  have hblank : skipBlank v.chars = v.chars ++ [] := by
    simpa using skipBlank_chars_append hfloat []
  constructor
  · intro hreturn
    have hread := readWithin_chars v hfloat hordered hreturn hfuel atPunctuation_nil hblank
    rw [parse, read, toList_code, hread]
  · intro hreturn
    obtain ⟨left, hread⟩ :=
      exists_readWithin_chars_of_holdsReturn v hfloat hordered hreturn hfuel hblank
    exact ⟨.unreadable left, by rw [parse, read, toList_code, hread]⟩

def quotedRows : Literal :=
  list [map [("\\\"", str "a'\"\n"), ("it's", list [null, bool true, int (-7)])], list [], map []]

def returningRows : Literal :=
  list [quotedRows, map [("a\r", null)]]

theorem parse_code_rows :
    (quotedRows.IsFloatFree ∧ quotedRows.IsOrdered ∧ quotedRows.holdsReturn = false ∧
      parse quotedRows.code = .ok quotedRows) ∧
    (returningRows.IsFloatFree ∧ returningRows.IsOrdered ∧ returningRows.holdsReturn = true ∧
      ∃ e, parse returningRows.code = .error e) := by
  have hquoted :
      quotedRows.IsFloatFree ∧ quotedRows.IsOrdered ∧ quotedRows.holdsReturn = false := by
    decide
  have hreturning :
      returningRows.IsFloatFree ∧ returningRows.IsOrdered ∧ returningRows.holdsReturn = true := by
    decide
  obtain ⟨hqfloat, hqordered, hqreturn⟩ := hquoted
  obtain ⟨hrfloat, hrordered, hrreturn⟩ := hreturning
  exact ⟨⟨hqfloat, hqordered, hqreturn, (parse_code hqfloat hqordered).1 hqreturn⟩,
    hrfloat, hrordered, hrreturn, (parse_code hrfloat hrordered).2 hrreturn⟩

end TablePhrase.Literal
