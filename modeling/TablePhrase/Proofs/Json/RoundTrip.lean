import TablePhrase.Proofs.Json.Number
import TablePhrase.Proofs.Json.Text

/-!
Reading back a JSON text, however deep and in whatever layout: the document that was written, with
the tokens of its numbers.
-/

namespace TablePhrase.Json

/-- All strings and names in the document denote texts, and all numbers in it have a token. -/
inductive IsPlain : Json → Prop
  | null : IsPlain null
  | bool (b : Bool) : IsPlain (bool b)
  | number {token : List Char} (h : IsToken token) : IsPlain (number token)
  | str (s : String) : IsPlain (str (some s))
  | arr {items : List Json} (h : ∀ j ∈ items, IsPlain j) : IsPlain (arr items)
  | obj {members : List (Option String × Json)} (names : ∀ m ∈ members, m.1.isSome = true)
      (h : ∀ m ∈ members, IsPlain m.2) : IsPlain (obj members)

structure Style.IsBlank (style : Style) : Prop where
  line : ∀ depth, ∀ c ∈ style.line depth, isBlank c = true
  colon : ∃ blanks, style.colon = ':' :: blanks ∧ ∀ c ∈ blanks, isBlank c = true

theorem isBlank_indented : Style.indented.IsBlank where
  line := by
    intro depth c hc
    rcases List.mem_cons.mp hc with rfl | hc
    · rfl
    · rw [List.eq_of_mem_replicate hc]
      rfl
  colon := ⟨[' '], rfl, List.forall_mem_singleton.mpr rfl⟩

section Blank
variable {c : Char} {text rest : List Char}

theorem skipBlank_cons (h : isBlank c = false) (rest : List Char) :
    skipBlank (c :: rest) = c :: rest := by
  rw [skipBlank, List.dropWhile_cons_of_neg (by simp [h])]

theorem skipBlank_append (h : ∀ c ∈ text, isBlank c = true) (rest : List Char) :
    skipBlank (text ++ rest) = skipBlank rest := by
  rw [skipBlank, List.dropWhile_append, List.dropWhile_eq_nil_iff.mpr h]
  rfl

theorem endsNumber_cons (h : ∃ d ∈ [',', ']', '\x7d'], c = d) (rest : List Char) :
    EndsNumber (c :: rest) := by
  rintro d ⟨⟩
  obtain ⟨d, hd, rfl⟩ := h
  simp only [List.mem_cons, List.not_mem_nil, or_false] at hd
  rcases hd with rfl | rfl | rfl <;> decide

theorem endsNumber_blank_append (h : ∀ c ∈ text, isBlank c = true) (hrest : EndsNumber rest) :
    EndsNumber (text ++ rest) := by
  cases text with
  | nil => exact hrest
  | cons c text =>
    rintro d ⟨⟩
    have hblank := h c List.mem_cons_self
    simp only [isBlank, Bool.or_eq_true, beq_iff_eq] at hblank
    rcases hblank with ((rfl | rfl) | rfl) | rfl <;> decide

end Blank

variable {style : Style} {depth fuel : Nat} {text body rest : List Char}

theorem exists_chars_eq_cons {j : Json} (h : j.IsPlain) (style : Style) (depth : Nat) :
    ∃ c cs, chars style depth j = c :: cs ∧ isBlank c = false ∧ c ≠ ']' := by
  cases h with
  | null => exact ⟨_, _, rfl, by decide, by decide⟩
  | bool b => cases b <;> exact ⟨_, _, rfl, by decide, by decide⟩
  | str s => exact ⟨_, _, rfl, by decide, by decide⟩
  | number h =>
    obtain ⟨c, cs, htext, hc⟩ := h.exists_eq_cons
    refine ⟨c, cs, htext, ?_, ?_⟩
    · cases hblank : isBlank c with
      | false => rfl
      | true =>
        simp only [isBlank, Bool.or_eq_true, beq_iff_eq] at hblank
        rcases hblank with ((rfl | rfl) | rfl) | rfl <;> rcases hc with hc | hc <;> cases hc
    · rintro rfl
      rcases hc with hc | hc <;> cases hc
  | @arr items h => cases items <;> exact ⟨_, _, rfl, by decide, by decide⟩
  | @obj members names h => cases members <;> exact ⟨_, _, rfl, by decide, by decide⟩

theorem skipBlank_chars {j : Json} (h : j.IsPlain) (style : Style) (depth : Nat)
    (rest : List Char) :
    skipBlank (chars style depth j ++ rest) = chars style depth j ++ rest := by
  obtain ⟨c, cs, hchars, hc, -⟩ := exists_chars_eq_cons h style depth
  rw [hchars]
  exact skipBlank_cons hc _

section Equations

theorem readValue_of_scalar {c : Char} {cs : List Char} (htext : skipBlank text = c :: cs)
    (hbracket : c ≠ '[') (hbrace : c ≠ '\x7b') :
    readValue (fuel + 1) text = readScalar (c :: cs) := by
  rw [readValue, htext]
  split
  · next heq =>
    cases heq
    exact absurd rfl hbracket
  · next heq =>
    cases heq
    exact absurd rfl hbrace
  · rfl

theorem readValue_of_items {c : Char} {cs : List Char} (htext : skipBlank text = '[' :: body)
    (hbody : skipBlank body = c :: cs) (hc : c ≠ ']') :
    readValue (fuel + 1) text =
      (readItems fuel body).map fun (items, rest) => (arr items, rest) := by
  rw [readValue, htext]
  simp only [hbody]
  split
  · next heq =>
    cases heq
    exact absurd rfl hc
  · rfl

theorem readValue_of_members {cs : List Char} (htext : skipBlank text = '\x7b' :: body)
    (hbody : skipBlank body = '"' :: cs) :
    readValue (fuel + 1) text =
      (readMembers fuel body).map fun (members, rest) => (obj members, rest) := by
  rw [readValue, htext]
  simp only [hbody]
  split
  · next heq => cases heq
  · rfl

theorem readItems_of_last {j : Json} {left : List Char} (hj : readValue fuel text = some (j, left))
    (hleft : skipBlank left = ']' :: rest) : readItems (fuel + 1) text = some ([j], rest) := by
  simp [readItems, hj, hleft]

theorem readItems_of_comma {j : Json} {js : List Json} {left : List Char}
    (hj : readValue fuel text = some (j, left)) (hleft : skipBlank left = ',' :: body)
    (hjs : readItems fuel body = some (js, rest)) :
    readItems (fuel + 1) text = some (j :: js, rest) := by
  simp [readItems, hj, hleft, hjs]

theorem readMembers_of_last {name : Option String} {j : Json} {left : List Char}
    (hname : readName text = some (name, body)) (hj : readValue fuel body = some (j, left))
    (hleft : skipBlank left = '\x7d' :: rest) :
    readMembers (fuel + 1) text = some ([(name, j)], rest) := by
  simp [readMembers, hname, hj, hleft]

theorem readMembers_of_comma {name : Option String} {j : Json}
    {ms : List (Option String × Json)} {left next : List Char}
    (hname : readName text = some (name, body)) (hj : readValue fuel body = some (j, left))
    (hleft : skipBlank left = ',' :: next) (hms : readMembers fuel next = some (ms, rest)) :
    readMembers (fuel + 1) text = some ((name, j) :: ms, rest) := by
  simp [readMembers, hname, hj, hleft, hms]

end Equations

/-- Wherever a number may end, the written document is read back. Every character written allows for
one step of the recursion. -/
def ReadsBack (style : Style) (j : Json) : Prop :=
  ∀ {depth fuel : Nat} {text rest : List Char}, (chars style depth j).length ≤ fuel →
    EndsNumber rest → skipBlank text = chars style depth j ++ rest →
      readValue fuel text = some (j, rest)

theorem readsBack_of_scalar {j : Json} {c : Char} {cs : List Char}
    (hchars : ∀ depth, chars style depth j = c :: cs) (hbracket : c ≠ '[') (hbrace : c ≠ '\x7b')
    (hread : ∀ {rest}, EndsNumber rest → readScalar (c :: (cs ++ rest)) = some (j, rest)) :
    ReadsBack style j := by
  intro depth fuel text rest hfuel hrest htext
  rw [hchars] at hfuel htext
  obtain ⟨fuel, rfl⟩ := Nat.exists_eq_succ_of_ne_zero (Nat.ne_zero_of_lt hfuel)
  rw [readValue_of_scalar htext hbracket hbrace]
  exact hread hrest

section Items

theorem readItems_chars (hstyle : style.IsBlank) {x : Json} {xs : List Json}
    (hplain : ∀ j ∈ x :: xs, j.IsPlain) (hread : ∀ j ∈ x :: xs, ReadsBack style j)
    (hfuel : (chars style depth x).length + (itemChars style depth xs).length < fuel) {last : Nat}
    (htext : skipBlank text =
      chars style depth x ++ (itemChars style depth xs ++ (style.line last ++ ']' :: rest))) :
    readItems fuel text = some (x :: xs, rest) := by
  induction xs generalizing x fuel text with
  | nil =>
    obtain ⟨fuel, rfl⟩ := Nat.exists_eq_succ_of_ne_zero (Nat.ne_zero_of_lt hfuel)
    have hclose : EndsNumber (']' :: rest) := endsNumber_cons ⟨_, by simp, rfl⟩ rest
    have hends := endsNumber_blank_append (hstyle.line last) hclose
    have hx := hread x List.mem_cons_self (by omega : _ ≤ fuel) hends htext
    refine readItems_of_last hx ?_
    rw [skipBlank_append (hstyle.line last), skipBlank_cons (by decide)]
  | cons y ys ih =>
    obtain ⟨fuel, rfl⟩ := Nat.exists_eq_succ_of_ne_zero (Nat.ne_zero_of_lt hfuel)
    have hlength : (chars style depth y).length + (itemChars style depth ys).length <
        (itemChars style depth (y :: ys)).length := by
      simp only [itemChars, List.length_cons, List.length_append]
      omega
    have hx := hread x List.mem_cons_self (by omega : _ ≤ fuel)
      (endsNumber_cons ⟨',', by simp, rfl⟩ _) htext
    refine readItems_of_comma hx (skipBlank_cons (by decide) _) ?_
    refine ih (fun j hj => hplain j (List.mem_cons_of_mem x hj))
      (fun j hj => hread j (List.mem_cons_of_mem x hj)) (by omega) ?_
    have hy := hplain y (List.mem_cons_of_mem x List.mem_cons_self)
    show skipBlank (style.line depth ++ chars style depth y ++ itemChars style depth ys
      ++ (style.line last ++ ']' :: rest)) = _
    rw [List.append_assoc, List.append_assoc, skipBlank_append (hstyle.line depth),
      skipBlank_chars hy style depth]

theorem readsBack_arr (hstyle : style.IsBlank) {items : List Json}
    (hplain : ∀ j ∈ items, j.IsPlain) (hread : ∀ j ∈ items, ReadsBack style j) :
    ReadsBack style (arr items) := by
  intro depth fuel text rest hfuel hrest htext
  cases items with
  | nil =>
    obtain ⟨fuel, rfl⟩ := Nat.exists_eq_succ_of_ne_zero (Nat.ne_zero_of_lt hfuel)
    have hclose : skipBlank (']' :: rest) = ']' :: rest := skipBlank_cons (by decide) rest
    rw [chars, List.cons_append, List.cons_append, List.nil_append] at htext
    rw [readValue, htext]
    simp only [hclose]
  | cons x xs =>
    obtain ⟨c, cs, hchars, -, hc⟩ :=
      exists_chars_eq_cons (hplain x List.mem_cons_self) style (depth + 1)
    rw [chars] at hfuel htext
    rw [List.cons_append] at htext
    simp only [List.length_cons, List.length_append, List.length_nil] at hfuel
    obtain ⟨fuel, rfl⟩ := Nat.exists_eq_succ_of_ne_zero (by omega : fuel ≠ 0)
    have hbody : skipBlank (style.line (depth + 1) ++ chars style (depth + 1) x
        ++ itemChars style (depth + 1) xs ++ style.line depth ++ [']'] ++ rest) =
          chars style (depth + 1) x ++ (itemChars style (depth + 1) xs
            ++ (style.line depth ++ ']' :: rest)) := by
      simp only [List.append_assoc]
      rw [skipBlank_append (hstyle.line _),
        skipBlank_chars (hplain x List.mem_cons_self) style (depth + 1)]
      rfl
    have hitems := readItems_chars hstyle hplain hread (by omega : _ < fuel) hbody
    have hfirst := hbody.trans (congrArg (· ++ _) hchars)
    rw [readValue_of_items htext hfirst hc, hitems]
    rfl

end Items

section Members

theorem readName_quoted {blanks : List Char} (name : String)
    (htext : skipBlank text = quoted name ++ (':' :: blanks)) :
    readName text = some (some name, blanks) := by
  have hcolon : skipBlank (':' :: blanks) = ':' :: blanks := skipBlank_cons (by decide) blanks
  rw [quoted, List.cons_append, List.append_assoc, List.singleton_append] at htext
  simp [readName, htext, readString_escaped, hcolon]

theorem readMembers_chars (hstyle : style.IsBlank) {name : String} {x : Json}
    {ms : List (Option String × Json)} (hnames : ∀ m ∈ ms, m.1.isSome = true)
    (hplain : ∀ m ∈ (some name, x) :: ms, m.2.IsPlain)
    (hread : ∀ m ∈ (some name, x) :: ms, ReadsBack style m.2)
    (hfuel : (chars style depth x).length + (memberChars style depth ms).length < fuel)
    {last : Nat}
    (htext : skipBlank text = quoted name ++ (style.colon ++ (chars style depth x
      ++ (memberChars style depth ms ++ (style.line last ++ '\x7d' :: rest))))) :
    readMembers fuel text = some ((some name, x) :: ms, rest) := by
  obtain ⟨blanks, hcolon, hblanks⟩ := hstyle.colon
  rw [hcolon] at htext
  induction ms generalizing name x fuel text with
  | nil =>
    obtain ⟨fuel, rfl⟩ := Nat.exists_eq_succ_of_ne_zero (Nat.ne_zero_of_lt hfuel)
    have hx : x.IsPlain := hplain _ List.mem_cons_self
    have hxread : ReadsBack style x := hread _ List.mem_cons_self
    have hclose : EndsNumber ('\x7d' :: rest) := endsNumber_cons ⟨_, by simp, rfl⟩ rest
    have hends := endsNumber_blank_append (hstyle.line last) hclose
    have hbody (tail : List Char) := (skipBlank_append hblanks (chars style depth x ++ tail)).trans
      (skipBlank_chars hx style depth tail)
    have hvalue := hxread (by omega : _ ≤ fuel) hends (hbody _)
    refine readMembers_of_last (readName_quoted name htext) hvalue ?_
    rw [skipBlank_append (hstyle.line last), skipBlank_cons (by decide)]
  | cons m ms ih =>
    obtain ⟨fuel, rfl⟩ := Nat.exists_eq_succ_of_ne_zero (Nat.ne_zero_of_lt hfuel)
    obtain ⟨other, y⟩ := m
    obtain ⟨other, rfl⟩ := Option.isSome_iff_exists.mp (hnames _ List.mem_cons_self)
    have hx : x.IsPlain := hplain _ List.mem_cons_self
    have hxread : ReadsBack style x := hread _ List.mem_cons_self
    have hlength : (chars style depth y).length + (memberChars style depth ms).length <
        (memberChars style depth ((some other, y) :: ms)).length := by
      simp [memberChars]
      omega
    have hbody (tail : List Char) := (skipBlank_append hblanks (chars style depth x ++ tail)).trans
      (skipBlank_chars hx style depth tail)
    have hvalue (tail : List Char) :
        readValue fuel (blanks ++ (chars style depth x ++ ',' :: tail)) = some (x, ',' :: tail) :=
      hxread (by omega) (endsNumber_cons ⟨',', by simp, rfl⟩ tail) (hbody _)
    refine readMembers_of_comma (readName_quoted name htext) (hvalue _)
      (skipBlank_cons (by decide) _) ?_
    refine ih (fun m hm => hnames m (List.mem_cons_of_mem _ hm))
      (fun m hm => hplain m (List.mem_cons_of_mem _ hm))
      (fun m hm => hread m (List.mem_cons_of_mem _ hm)) (by omega) ?_
    show skipBlank (style.line depth ++ quoted other ++ style.colon ++ chars style depth y
      ++ memberChars style depth ms ++ (style.line last ++ '\x7d' :: rest)) = _
    simp only [List.append_assoc, hcolon]
    rw [skipBlank_append (hstyle.line depth), quoted, List.cons_append,
      skipBlank_cons (by decide)]

theorem readsBack_obj (hstyle : style.IsBlank) {members : List (Option String × Json)}
    (hnames : ∀ m ∈ members, m.1.isSome = true) (hplain : ∀ m ∈ members, m.2.IsPlain)
    (hread : ∀ m ∈ members, ReadsBack style m.2) : ReadsBack style (obj members) := by
  intro depth fuel text rest hfuel hrest htext
  cases members with
  | nil =>
    obtain ⟨fuel, rfl⟩ := Nat.exists_eq_succ_of_ne_zero (Nat.ne_zero_of_lt hfuel)
    have hclose : skipBlank ('\x7d' :: rest) = '\x7d' :: rest := skipBlank_cons (by decide) rest
    rw [chars, List.cons_append, List.cons_append, List.nil_append] at htext
    rw [readValue, htext]
    simp only [hclose]
  | cons m ms =>
    obtain ⟨name, x⟩ := m
    obtain ⟨name, rfl⟩ := Option.isSome_iff_exists.mp (hnames _ List.mem_cons_self)
    rw [chars, Option.getD_some] at hfuel htext
    rw [List.cons_append] at htext
    simp only [List.length_cons, List.length_append, List.length_nil] at hfuel
    obtain ⟨fuel, rfl⟩ := Nat.exists_eq_succ_of_ne_zero (by omega : fuel ≠ 0)
    have hbody : skipBlank (style.line (depth + 1) ++ quoted name ++ style.colon
        ++ chars style (depth + 1) x ++ memberChars style (depth + 1) ms ++ style.line depth
        ++ ['\x7d'] ++ rest) =
          quoted name ++ (style.colon ++ (chars style (depth + 1) x
            ++ (memberChars style (depth + 1) ms ++ (style.line depth ++ '\x7d' :: rest)))) := by
      simp only [List.append_assoc]
      rw [skipBlank_append (hstyle.line _), quoted, List.cons_append, skipBlank_cons (by decide)]
      rfl
    have hmembers := readMembers_chars hstyle
      (fun m hm => hnames m (List.mem_cons_of_mem _ hm)) hplain hread
      (by omega : _ < fuel) hbody
    have hquote : skipBlank _ = '"' :: _ := hbody.trans (by rw [quoted, List.cons_append])
    rw [readValue_of_members htext hquote, hmembers]
    rfl

end Members

theorem IsPlain.readsBack {j : Json} (h : j.IsPlain) (hstyle : style.IsBlank) :
    ReadsBack style j := by
  induction h with
  | null => exact readsBack_of_scalar (fun _ => rfl) (by decide) (by decide) fun _ => rfl
  | bool b =>
    cases b with
    | true => exact readsBack_of_scalar (fun _ => rfl) (by decide) (by decide) fun _ => rfl
    | false => exact readsBack_of_scalar (fun _ => rfl) (by decide) (by decide) fun _ => rfl
  | @number token h =>
    obtain ⟨c, cs, htext, hc⟩ := h.exists_eq_cons
    refine readsBack_of_scalar (j := Json.number token) (fun _ => htext) ?_ ?_ fun {rest} hrest => ?_
    · rintro rfl
      rcases hc with hc | hc <;> cases hc
    · rintro rfl
      rcases hc with hc | hc <;> cases hc
    · rw [← List.cons_append, ← htext]
      exact readScalar_token h hrest
  | str s =>
    exact readsBack_of_scalar (fun _ => rfl) (by decide) (by decide) fun {rest} _ =>
      readScalar_quoted s rest
  | arr h ih => exact readsBack_arr hstyle h ih
  | obj names h ih => exact readsBack_obj hstyle names h ih

/-- The indented text of a plain document is read as that document. -/
theorem parse?_indented {j : Json} (h : j.IsPlain) : parse? j.indented = some j := by
  have hblank : skipBlank (chars .indented 0 j) = chars .indented 0 j ++ [] := by
    simpa using skipBlank_chars h .indented 0 []
  have hread : readValue _ (chars .indented 0 j) = some (j, []) :=
    h.readsBack isBlank_indented (by omega : _ ≤ 2 * (chars .indented 0 j).length + 2)
      (fun _ hc => nomatch hc) hblank
  rw [parse?, read, indented, String.toList_ofList, hread]
  rfl

end TablePhrase.Json
