import TablePhrase.Proofs.Literal.RoundTrip

/-!
Written literals delimit themselves. Where punctuation follows, the text alone says which value
without doubles was written and where it ends, whatever its strings hold: a carriage return too,
which the reader of literals refuses.
-/

namespace TablePhrase

namespace Text

variable {quote : Char} {rest more : List Char}

def escaped (c : Char) : Char :=
  if c = 'n' then '\n' else if c = 'r' then '\r' else if c = 't' then '\t' else c

theorem escapeChar_cases (hquote : quote = '\'' ∨ quote = '"') (c : Char) :
    (∃ e, escapeChar quote c = ['\\', e] ∧ c = escaped e) ∨
      (escapeChar quote c = [c] ∧ c ≠ '\\' ∧ c ≠ quote) := by
  unfold escapeChar
  split
  · next h => exact .inl ⟨_, rfl, h⟩
  · next hbackslash =>
    split
    · next h => exact .inl ⟨_, rfl, h⟩
    · split
      · next h => exact .inl ⟨_, rfl, h⟩
      · split
        · next h => exact .inl ⟨_, rfl, h⟩
        · split
          · next h =>
            refine .inl ⟨_, rfl, ?_⟩
            rw [h]
            rcases hquote with rfl | rfl <;> rfl
          · next hne => exact .inr ⟨rfl, hbackslash, hne⟩

theorem escapeChar_append_inj (hquote : quote = '\'' ∨ quote = '"') {c d : Char}
    (h : escapeChar quote c ++ rest = escapeChar quote d ++ more) : c = d ∧ rest = more := by
  rcases escapeChar_cases hquote c with ⟨e, hc, hce⟩ | ⟨hc, hcbackslash, -⟩ <;>
    rcases escapeChar_cases hquote d with ⟨f, hd, hdf⟩ | ⟨hd, hdbackslash, -⟩ <;>
    rw [hc, hd] at h
  · obtain ⟨rfl, hrest⟩ := List.cons.inj (List.cons.inj h).2
    exact ⟨hce.trans hdf.symm, hrest⟩
  · exact absurd (List.cons.inj h).1.symm hdbackslash
  · exact absurd (List.cons.inj h).1 hcbackslash
  · exact List.cons.inj h

theorem escapeChar_append_ne (hquote : quote = '\'' ∨ quote = '"') (c : Char) :
    escapeChar quote c ++ rest ≠ quote :: more := by
  intro h
  rcases escapeChar_cases hquote c with ⟨e, hc, -⟩ | ⟨hc, -, hne⟩
  · rw [hc] at h
    rcases hquote with rfl | rfl <;> cases h
  · rw [hc] at h
    exact hne (List.cons.inj h).1

theorem escape_append_inj (hquote : quote = '\'' ∨ quote = '"') {s t : List Char}
    (h : escape quote s ++ quote :: rest = escape quote t ++ quote :: more) :
    s = t ∧ rest = more := by
  induction s generalizing t with
  | nil =>
    cases t with
    | nil => exact ⟨rfl, (List.cons.inj h).2⟩
    | cons d t =>
      rw [escape, escape, List.flatMap_cons, List.append_assoc] at h
      exact absurd h.symm (escapeChar_append_ne hquote d)
  | cons c s ih =>
    rw [escape, List.flatMap_cons, List.append_assoc] at h
    cases t with
    | nil => exact absurd h (escapeChar_append_ne hquote c)
    | cons d t =>
      rw [escape, List.flatMap_cons, List.append_assoc] at h
      obtain ⟨rfl, htail⟩ := escapeChar_append_inj hquote h
      obtain ⟨rfl, hrest⟩ := ih htail
      exact ⟨rfl, hrest⟩

theorem quote_append_inj {s t : List Char} (h : Text.quote s ++ rest = Text.quote t ++ more) :
    s = t ∧ rest = more := by
  simp only [Text.quote, quoteWith, List.cons_append, List.append_assoc, List.nil_append] at h
  obtain ⟨hquote, h⟩ := List.cons.inj h
  rw [hquote] at h
  exact escape_append_inj (Literal.preferredQuote_eq t) h

end Text

namespace Literal

inductive Shape
  | null
  | bool
  | number
  | string
  | list
  | map
deriving DecidableEq

def shape : Literal → Shape
  | null => .null
  | bool _ => .bool
  | int _ | float _ => .number
  | str _ => .string
  | list _ => .list
  | map _ => .map

def Shape.ofOpening (c : Char) : Shape :=
  if c = 'N' then .null
  else if c = 'T' || c = 'F' then .bool
  else if c = '\'' || c = '"' then .string
  else if c = '[' then .list
  else if c = '{' then .map
  else .number

theorem Shape.ofOpening_of_isDigit {c : Char} (h : c.isDigit = true) : ofOpening c = .number := by
  have hne : ∀ d : Char, d.isDigit = false → c ≠ d := by
    rintro d hd rfl
    rw [h] at hd
    cases hd
  simp [ofOpening, hne]

theorem exists_chars_eq_cons_shape {v : Literal} (hfloat : v.IsFloatFree) :
    ∃ c cs, v.chars = c :: cs ∧ Shape.ofOpening c = v.shape := by
  cases v with
  | null => exact ⟨_, _, rfl, rfl⟩
  | bool b => cases b <;> exact ⟨_, _, rfl, rfl⟩
  | int i =>
    obtain ⟨c, cs, htext, hc⟩ := exists_integerText_eq_cons i.toInt
    refine ⟨c, cs, htext, ?_⟩
    rcases hc with rfl | hc
    · rfl
    · exact Shape.ofOpening_of_isDigit hc
  | float x => cases hfloat
  | str s =>
    obtain ⟨c, cs, htext, hc⟩ := exists_quote_eq_cons s.toList
    refine ⟨c, cs, htext, ?_⟩
    rcases hc with rfl | rfl <;> rfl
  | list items => exact ⟨_, _, rfl, rfl⟩
  | map entries => exact ⟨_, _, rfl, rfl⟩

section Same
variable {v w : Literal} {rest more : List Char}

theorem shape_eq_of_chars_append_eq (hv : v.IsFloatFree) (hw : w.IsFloatFree)
    (h : v.chars ++ rest = w.chars ++ more) : v.shape = w.shape := by
  obtain ⟨c, cs, hvchars, hc⟩ := exists_chars_eq_cons_shape hv
  obtain ⟨d, ds, hwchars, hd⟩ := exists_chars_eq_cons_shape hw
  rw [hvchars, hwchars] at h
  rw [← hc, ← hd, (List.cons.inj h).1]

theorem itemChars_eq_of_moreItemChars_eq {xs ys : List Literal}
    (h : moreItemChars xs ++ ']' :: rest = moreItemChars ys ++ ']' :: more) :
    itemChars xs ++ ']' :: rest = itemChars ys ++ ']' :: more := by
  cases xs with
  | nil =>
    cases ys with
    | nil => exact h
    | cons y ys => cases h
  | cons x xs =>
    cases ys with
    | nil => cases h
    | cons y ys => exact (List.cons.inj (List.cons.inj h).2).2

theorem entryChars_eq_of_moreEntryChars_eq {es fs : List (String × Literal)}
    (h : moreEntryChars es ++ '}' :: rest = moreEntryChars fs ++ '}' :: more) :
    entryChars es ++ '}' :: rest = entryChars fs ++ '}' :: more := by
  cases es with
  | nil =>
    cases fs with
    | nil => exact h
    | cons f fs => cases h
  | cons e es =>
    cases fs with
    | nil => cases h
    | cons f fs => exact (List.cons.inj (List.cons.inj h).2).2

end Same

mutual

/-- No two values have the same text in front of punctuation. -/
theorem chars_append_inj : ∀ (v : Literal) {w : Literal} {rest more : List Char},
    v.IsFloatFree → w.IsFloatFree → AtPunctuation rest → AtPunctuation more →
    v.chars ++ rest = w.chars ++ more → v = w ∧ rest = more
  | null, w, _, _, hv, hw, _, _, h => by
    have hshape := shape_eq_of_chars_append_eq hv hw h
    cases w with
    | null => exact ⟨rfl, List.append_cancel_left h⟩
    | _ => cases hshape
  | bool a, w, _, _, hv, hw, _, _, h => by
    have hshape := shape_eq_of_chars_append_eq hv hw h
    cases w with
    | bool b =>
      cases a <;> cases b
      · exact ⟨rfl, List.append_cancel_left h⟩
      · cases h
      · cases h
      · exact ⟨rfl, List.append_cancel_left h⟩
    | _ => cases hshape
  | int i, w, rest, more, hv, hw, hrest, hmore, h => by
    have hshape := shape_eq_of_chars_append_eq hv hw h
    cases w with
    | int j =>
      have htext : integerText i.toInt ++ rest = integerText j.toInt ++ more := h
      have hread := readScalar_integerText i hrest.endsNumber
      rw [htext, readScalar_integerText j hmore.endsNumber] at hread
      cases hread
      exact ⟨rfl, rfl⟩
    | float x => cases hw
    | _ => cases hshape
  | float x, _, _, _, hv, _, _, _, _ => nomatch hv
  | str s, w, _, _, hv, hw, _, _, h => by
    have hshape := shape_eq_of_chars_append_eq hv hw h
    cases w with
    | str t =>
      obtain ⟨htext, hrest⟩ := Text.quote_append_inj h
      exact ⟨congrArg str (String.toList_injective htext), hrest⟩
    | _ => cases hshape
  | list xs, w, rest, more, hv, hw, _, _, h => by
    have hshape := shape_eq_of_chars_append_eq hv hw h
    cases w with
    | list ys =>
      have hitems : itemChars xs ++ ']' :: rest = itemChars ys ++ ']' :: more := by
        simpa [chars] using h
      obtain ⟨rfl, hrest⟩ := itemChars_append_inj xs hv hw hitems
      exact ⟨rfl, hrest⟩
    | _ => cases hshape
  | map es, w, rest, more, hv, hw, _, _, h => by
    have hshape := shape_eq_of_chars_append_eq hv hw h
    cases w with
    | map fs =>
      have hentries : entryChars es ++ '}' :: rest = entryChars fs ++ '}' :: more := by
        simpa [chars] using h
      obtain ⟨rfl, hrest⟩ := entryChars_append_inj es hv hw hentries
      exact ⟨rfl, hrest⟩
    | _ => cases hshape

theorem itemChars_append_inj : ∀ (xs : List Literal) {ys : List Literal} {rest more : List Char},
    (list xs).IsFloatFree → (list ys).IsFloatFree →
    itemChars xs ++ ']' :: rest = itemChars ys ++ ']' :: more → xs = ys ∧ rest = more
  | [], [], _, _, _, _, h => ⟨rfl, (List.cons.inj h).2⟩
  | [], y :: ys, rest, _, _, hys, h => by
    rw [itemChars, itemChars, List.append_assoc] at h
    exact absurd h.symm (chars_append_ne_cons (isFloatFree_list_cons.mp hys).1 (by decide) _ rest)
  | x :: xs, [], _, more, hxs, _, h => by
    rw [itemChars, itemChars, List.append_assoc] at h
    exact absurd h (chars_append_ne_cons (isFloatFree_list_cons.mp hxs).1 (by decide) _ more)
  | x :: xs, y :: ys, rest, more, hxs, hys, h => by
    obtain ⟨hx, hxs'⟩ := isFloatFree_list_cons.mp hxs
    obtain ⟨hy, hys'⟩ := isFloatFree_list_cons.mp hys
    rw [itemChars, itemChars, List.append_assoc, List.append_assoc] at h
    obtain ⟨rfl, hmore⟩ := chars_append_inj x hx hy (atPunctuation_moreItemChars xs rest)
      (atPunctuation_moreItemChars ys more) h
    have hitems := itemChars_eq_of_moreItemChars_eq hmore
    obtain ⟨rfl, hrest⟩ := itemChars_append_inj xs hxs' hys' hitems
    exact ⟨rfl, hrest⟩

theorem entryChars_append_inj : ∀ (es : List (String × Literal)) {fs : List (String × Literal)}
    {rest more : List Char}, (map es).IsFloatFree → (map fs).IsFloatFree →
    entryChars es ++ '}' :: rest = entryChars fs ++ '}' :: more → es = fs ∧ rest = more
  | [], [], _, _, _, _, h => ⟨rfl, (List.cons.inj h).2⟩
  | [], (k, v) :: fs, rest, _, _, _, h => by
    rw [entryChars, entryChars_cons_append] at h
    exact absurd h.symm (chars_append_ne_cons (v := str k) rfl (by decide) _ rest)
  | (k, v) :: es, [], _, more, _, _, h => by
    rw [entryChars_cons_append, entryChars] at h
    exact absurd h (chars_append_ne_cons (v := str k) rfl (by decide) _ more)
  | (k, v) :: es, (l, w) :: fs, rest, more, hes, hfs, h => by
    obtain ⟨hv, hes'⟩ := isFloatFree_map_cons.mp hes
    obtain ⟨hw, hfs'⟩ := isFloatFree_map_cons.mp hfs
    rw [entryChars_cons_append, entryChars_cons_append] at h
    obtain ⟨hkey, hvalue⟩ := Text.quote_append_inj h
    obtain ⟨rfl, hmore⟩ := chars_append_inj v hv hw (atPunctuation_moreEntryChars es rest)
      (atPunctuation_moreEntryChars fs more) (List.cons.inj (List.cons.inj hvalue).2).2
    have hentries := entryChars_eq_of_moreEntryChars_eq hmore
    obtain ⟨rfl, hrest⟩ := entryChars_append_inj es hes' hfs' hentries
    rw [String.toList_injective hkey]
    exact ⟨rfl, hrest⟩

end

end Literal
end TablePhrase
