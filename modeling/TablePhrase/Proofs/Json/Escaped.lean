import Mathlib.Algebra.Group.Nat.Even
import TablePhrase.Proofs.Json.RoundTrip

/-!
Reading texts whose escapes are all of one character. Such a text may be a document only if the
quotes outside of escapes pair up and no control stands in it, and the document has the characters
of the text.
-/

namespace TablePhrase.Json

def isForbidden (c : Char) : Bool :=
  c.toNat < 0x20 && !isBlank c

/-- Every escape is of one character, and so many quotes stand outside of escapes. What stands for
itself, quotes apart, and what the escapes stand for is in `p`. -/
inductive IsEscaped (p : Char → Prop) : List Char → Nat → Prop
  | nil : IsEscaped p [] 0
  | plain {c : Char} {text : List Char} {n : Nat} (hquote : c ≠ '"') (hbackslash : c ≠ '\\')
      (hc : p c) (h : IsEscaped p text n) : IsEscaped p (c :: text) n
  | quote {text : List Char} {n : Nat} (h : IsEscaped p text n) : IsEscaped p ('"' :: text) (n + 1)
  | escape {e c : Char} {text : List Char} {n : Nat} (he : unescape? e = some c) (hc : p c)
      (h : IsEscaped p text n) : IsEscaped p ('\\' :: e :: text) n

inductive IsOver (p : Char → Prop) : Json → Prop
  | null : IsOver p null
  | bool (b : Bool) : IsOver p (bool b)
  | number (token : List Char) : IsOver p (number token)
  | str {text : Option String} (h : ∀ s ∈ text, ∀ c ∈ s.toList, p c) : IsOver p (str text)
  | arr {items : List Json} (h : ∀ j ∈ items, IsOver p j) : IsOver p (arr items)
  | obj {members : List (Option String × Json)}
      (names : ∀ m ∈ members, ∀ name ∈ m.1, ∀ c ∈ name.toList, p c)
      (h : ∀ m ∈ members, IsOver p m.2) : IsOver p (obj members)

variable {p : Char → Prop} {text middle rest : List Char} {n : Nat}

theorem IsEscaped.append {other : List Char} {k : Nat} (h : IsEscaped p text n)
    (hother : IsEscaped p other k) : IsEscaped p (text ++ other) (n + k) := by
  induction h with
  | nil => rwa [List.nil_append, Nat.zero_add]
  | plain hquote hbackslash hc _ ih => exact .plain hquote hbackslash hc ih
  | quote _ ih =>
    rw [Nat.add_right_comm]
    exact .quote ih
  | escape he hc _ ih => exact .escape he hc ih

/-- Of an escaped text an escaped text is left; the quotes that were taken pair up, and no forbidden
control was taken. -/
def Leaves (p : Char → Prop) (text rest : List Char) : Prop :=
  ∀ n, IsEscaped p text n → ∃ k, IsEscaped p rest k ∧ (Even n ↔ Even k) ∧
    rest.countP isForbidden = text.countP isForbidden

section Leaves

theorem Leaves.refl (text : List Char) : Leaves p text text :=
  fun n h => ⟨n, h, .rfl, rfl⟩

theorem Leaves.trans (h : Leaves p text middle) (hrest : Leaves p middle rest) :
    Leaves p text rest := by
  intro n htext
  obtain ⟨m, hmiddle, hm, hcount⟩ := h n htext
  obtain ⟨k, hleft, hk, hmore⟩ := hrest m hmiddle
  exact ⟨k, hleft, hm.trans hk, hmore.trans hcount⟩

structure IsInert (c : Char) : Prop where
  quote : c ≠ '"'
  backslash : c ≠ '\\'
  allowed : isForbidden c = false

instance (c : Char) : Decidable (IsInert c) :=
  decidable_of_iff (c ≠ '"' ∧ c ≠ '\\' ∧ isForbidden c = false)
    ⟨fun ⟨hquote, hbackslash, h⟩ => ⟨hquote, hbackslash, h⟩,
      fun ⟨hquote, hbackslash, h⟩ => ⟨hquote, hbackslash, h⟩⟩

theorem IsInert.leaves {c : Char} (hc : IsInert c) (rest : List Char) :
    Leaves p (c :: rest) rest := by
  intro n h
  cases h with
  | plain _ _ _ h => exact ⟨n, h, .rfl, (List.countP_cons_of_neg (by simp [hc.allowed])).symm⟩
  | quote => exact absurd rfl hc.quote
  | escape => exact absurd rfl hc.backslash

theorem leaves_append (taken : List Char) (h : ∀ c ∈ taken, IsInert c) (rest : List Char) :
    Leaves p (taken ++ rest) rest := by
  induction taken with
  | nil => exact .refl rest
  | cons c taken ih =>
    obtain ⟨hc, htaken⟩ := List.forall_mem_cons.mp h
    exact (hc.leaves _).trans (ih htaken)

theorem leaves_word (taken : List Char) (h : taken.all (fun c => decide (IsInert c)) = true)
    (rest : List Char) : Leaves p (taken ++ rest) rest :=
  leaves_append taken (fun c hc => of_decide_eq_true (List.all_eq_true.mp h c hc)) rest

theorem isInert_of_isBlank {c : Char} (h : isBlank c = true) : IsInert c := by
  simp only [isBlank, Bool.or_eq_true, beq_iff_eq] at h
  rcases h with ((rfl | rfl) | rfl) | rfl <;> decide

theorem isInert_of_isDigit {c : Char} (h : c.isDigit = true) : IsInert c := by
  refine ⟨?_, ?_, ?_⟩
  · rintro rfl
    cases h
  · rintro rfl
    cases h
  · have hlow : '0' ≤ c := by
      simp only [Char.isDigit, Bool.and_eq_true, decide_eq_true_eq] at h
      exact h.1
    have hcode : 0x20 ≤ c.toNat := Nat.le_trans (by decide) hlow
    simp [isForbidden, hcode]

theorem leaves_skipBlank (text : List Char) : Leaves p text (skipBlank text) := by
  have h := leaves_append (p := p) (text.takeWhile isBlank)
    (fun c hc => isInert_of_isBlank (List.mem_takeWhile_imp hc)) (skipBlank text)
  rwa [skipBlank, List.takeWhile_append_dropWhile] at h

theorem leaves_of_skipBlank_eq {c : Char} (hc : IsInert c) (h : skipBlank text = c :: rest) :
    Leaves p text rest :=
  (leaves_skipBlank text).trans (h ▸ hc.leaves rest)

/-- What was read has a property if the text was escaped, and an escaped text is left. -/
structure Reads (p : Char → Prop) (text rest : List Char) (result : Prop) : Prop where
  leaves : Leaves p text rest
  result : ∀ n, IsEscaped p text n → result

theorem Leaves.reads {result : Prop} (h : Leaves p text middle)
    (hread : Reads p middle rest result) : Reads p text rest result where
  leaves := h.trans hread.leaves
  result := by
    intro n htext
    obtain ⟨m, hmiddle, -⟩ := h n htext
    exact hread.result m hmiddle

theorem Reads.imp {result other : Prop} (h : Reads p text rest result) (himp : result → other) :
    Reads p text rest other :=
  ⟨h.leaves, fun n htext => himp (h.result n htext)⟩

theorem Reads.trans {result other : Prop} (h : Reads p text middle result)
    (hrest : Reads p middle rest other) : Reads p text rest (result ∧ other) where
  leaves := h.leaves.trans hrest.leaves
  result n htext := ⟨h.result n htext, (h.leaves.reads hrest).result n htext⟩

theorem Reads.leaving {result : Prop} (h : Reads p text middle result)
    (hrest : Leaves p middle rest) : Reads p text rest result :=
  ⟨h.leaves.trans hrest, h.result⟩

end Leaves

section Strings
variable {pieces : List Piece}

theorem Leaves.quote (h : Leaves p text rest) : Leaves p ('"' :: text) ('"' :: rest) := by
  rintro n hquote
  cases hquote with
  | plain hquote => exact absurd rfl hquote
  | quote htext =>
    obtain ⟨k, hrest, heven, hcount⟩ := h _ htext
    refine ⟨k + 1, hrest.quote, ?_, ?_⟩
    · rw [Nat.even_add_one, Nat.even_add_one, heven]
    · rw [List.countP_cons, List.countP_cons, hcount]

theorem leaves_empty (rest : List Char) : Leaves p ('"' :: '"' :: rest) rest := by
  rintro n hquotes
  cases hquotes with
  | plain hquote => exact absurd rfl hquote
  | quote hquote =>
    cases hquote with
    | plain hquote => exact absurd rfl hquote
    | quote h =>
      exact ⟨_, h, by rw [Nat.even_add_one, Nat.even_add_one, not_not], rfl⟩

theorem mem_of_unescape? {e c : Char} (h : unescape? e = some c) :
    e ∈ ['"', '\\', '/', 'b', 'f', 'n', 'r', 't'] := by
  by_contra hne
  simp only [List.mem_cons, List.not_mem_nil, or_false, not_or] at hne
  obtain ⟨hquote, hbackslash, hslash, hb, hf, hn, hr, ht⟩ := hne
  simp [unescape?, hquote, hbackslash, hslash, hb, hf, hn, hr, ht] at h

theorem leaves_escape {e c : Char} (he : unescape? e = some c) (rest : List Char) :
    Leaves p ('\\' :: e :: rest) rest := by
  rintro n h
  cases h with
  | plain _ hbackslash => exact absurd rfl hbackslash
  | escape _ _ h =>
    have hall : ['"', '\\', '/', 'b', 'f', 'n', 'r', 't'].all (!isForbidden ·) = true := by
      decide
    have hallowed : ¬ isForbidden e = true := by
      simpa using List.all_eq_true.mp hall e (mem_of_unescape? he)
    refine ⟨n, h, .rfl, ?_⟩
    rw [List.countP_cons_of_neg (by decide), List.countP_cons_of_neg hallowed]

theorem leaves_readPieces (h : readPieces text = some (pieces, rest)) :
    Leaves p ('"' :: text) rest := by
  fun_induction readPieces text generalizing pieces rest with
  | case1 => cases h
  | case2 =>
    cases h
    exact leaves_empty _
  | case3 a b c d left ih =>
    intro n hquote
    cases hquote with
    | plain hquote => exact absurd rfl hquote
    | quote htext =>
      cases htext with
      | plain _ hbackslash => exact absurd rfl hbackslash
      | escape he => cases he
  | case4 e left hunit ih =>
    obtain ⟨c, he, h⟩ := Option.bind_eq_some_iff.mp h
    obtain ⟨⟨more, after⟩, hread, h⟩ := Option.bind_eq_some_iff.mp h
    cases h
    exact (leaves_escape he left).quote.trans (ih hread)
  | case5 => cases h
  | case6 c left hquote hunit hescape hplain ih =>
    obtain ⟨⟨more, after⟩, hread, h⟩ := Option.bind_eq_some_iff.mp h
    cases h
    have hc : IsInert c := by
      simp only [Bool.or_eq_true, decide_eq_true_eq, not_or, Nat.not_lt] at hplain
      exact ⟨hquote, hplain.2, by simp [isForbidden, hplain.1]⟩
    exact (hc.leaves left).quote.trans (ih hread)

theorem exists_of_readPieces (h : readPieces text = some (pieces, rest))
    (htext : IsEscaped p text n) :
    ∃ s : List Char, pieces = s.map .char ∧ ∀ c ∈ s, p c := by
  fun_induction readPieces text generalizing pieces rest n with
  | case1 => cases h
  | case2 =>
    cases h
    exact ⟨[], rfl, nofun⟩
  | case3 =>
    cases htext with
    | plain _ hbackslash => exact absurd rfl hbackslash
    | escape he => cases he
  | case4 e left hunit ih =>
    obtain ⟨c, he, h⟩ := Option.bind_eq_some_iff.mp h
    obtain ⟨⟨more, after⟩, hread, h⟩ := Option.bind_eq_some_iff.mp h
    cases h
    cases htext with
    | plain _ hbackslash => exact absurd rfl hbackslash
    | escape hd hc hleft =>
      obtain rfl := Option.some.inj (he.symm.trans hd)
      obtain ⟨s, rfl, hs⟩ := ih hread hleft
      exact ⟨c :: s, rfl, List.forall_mem_cons.mpr ⟨hc, hs⟩⟩
  | case5 => cases h
  | case6 c left hquote hunit hescape hplain ih =>
    obtain ⟨⟨more, after⟩, hread, h⟩ := Option.bind_eq_some_iff.mp h
    cases h
    cases htext with
    | plain _ _ hc hleft =>
      obtain ⟨s, rfl, hs⟩ := ih hread hleft
      exact ⟨c :: s, rfl, List.forall_mem_cons.mpr ⟨hc, hs⟩⟩
    | quote => exact absurd rfl hquote
    | escape => exact absurd rfl (hescape _ _ rfl)

theorem joinPieces_char (s : List Char) : joinPieces (s.map .char) = some s := by
  induction s with
  | nil => rfl
  | cons c s ih => rw [List.map_cons, joinPieces, ih]; rfl

theorem reads_readString {s : Option String} (h : readString text = some (s, rest)) :
    Reads p ('"' :: text) rest (∀ t ∈ s, ∀ c ∈ t.toList, p c) := by
  obtain ⟨⟨pieces, after⟩, hread, h⟩ := Option.map_eq_some_iff.mp h
  cases h
  refine ⟨leaves_readPieces hread, ?_⟩
  intro n hquote
  cases hquote with
  | plain hquote => exact absurd rfl hquote
  | quote htext =>
    obtain ⟨s, rfl, hs⟩ := exists_of_readPieces hread htext
    rw [joinPieces_char]
    rintro t ⟨⟩ c hc
    exact hs c (by simpa using hc)

end Strings

section Numbers
variable {token : List Char}

theorem leaves_readDigits (h : readDigits text = some (token, rest)) : Leaves p text rest := by
  simp only [readDigits] at h
  split at h
  · cases h
  · cases h
    have hdigits := leaves_append (p := p) (text.takeWhile Char.isDigit)
      (fun c hc => isInert_of_isDigit (List.mem_takeWhile_imp hc)) (text.dropWhile Char.isDigit)
    rwa [List.takeWhile_append_dropWhile] at hdigits

theorem leaves_readWhole (h : readWhole text = some (token, rest)) : Leaves p text rest := by
  obtain ⟨⟨digits, after⟩, hdigits, h⟩ := Option.bind_eq_some_iff.mp h
  dsimp only at h
  split at h
  · cases h
  · cases h
    exact leaves_readDigits hdigits

theorem leaves_readFraction (h : readFraction text = some (token, rest)) : Leaves p text rest := by
  unfold readFraction at h
  split at h
  · next body =>
    obtain ⟨⟨digits, after⟩, hdigits, h⟩ := Option.map_eq_some_iff.mp h
    cases h
    exact (IsInert.leaves (by decide) body).trans (leaves_readDigits hdigits)
  · cases h
    exact .refl _

theorem leaves_readExponent (h : readExponent text = some (token, rest)) : Leaves p text rest := by
  unfold readExponent at h
  split at h
  · next c body =>
    split at h
    · cases h
      exact .refl _
    · next hc =>
      obtain ⟨⟨digits, after⟩, hdigits, h⟩ := Option.map_eq_some_iff.mp h
      cases h
      have hinert : IsInert c := by
        simp only [Bool.and_eq_true, bne_iff_ne, not_and, not_not] at hc
        by_cases he : c = 'e'
        · exact he ▸ by decide
        · exact hc he ▸ by decide
      refine (hinert.leaves body).trans ?_
      split at hdigits
      · exact (IsInert.leaves (by decide) _).trans (leaves_readDigits hdigits)
      · exact (IsInert.leaves (by decide) _).trans (leaves_readDigits hdigits)
      · exact leaves_readDigits hdigits
  · cases h
    exact .refl _

theorem leaves_readNumber (h : readNumber text = some (token, rest)) : Leaves p text rest := by
  obtain ⟨⟨whole, after⟩, hwhole, h⟩ := Option.bind_eq_some_iff.mp h
  obtain ⟨⟨fraction, left⟩, hfraction, h⟩ := Option.bind_eq_some_iff.mp h
  obtain ⟨⟨exponent, last⟩, hexponent, h⟩ := Option.bind_eq_some_iff.mp h
  cases h
  have hbody := (leaves_readWhole (p := p) hwhole).trans
    ((leaves_readFraction hfraction).trans (leaves_readExponent hexponent))
  split at hbody
  · exact (IsInert.leaves (by decide) _).trans hbody
  · exact hbody

end Numbers

section Documents

theorem reads_readScalar {j : Json} (h : readScalar text = some (j, rest)) :
    Reads p text rest (IsOver p j) := by
  unfold readScalar at h
  split at h
  · cases h
    exact ⟨leaves_word ['n', 'u', 'l', 'l'] (by decide) _, fun _ _ => .null⟩
  · cases h
    exact ⟨leaves_word ['t', 'r', 'u', 'e'] (by decide) _, fun _ _ => .bool true⟩
  · cases h
    exact ⟨leaves_word ['f', 'a', 'l', 's', 'e'] (by decide) _, fun _ _ => .bool false⟩
  · obtain ⟨⟨s, after⟩, hread, h⟩ := Option.map_eq_some_iff.mp h
    cases h
    exact (reads_readString hread).imp .str
  · obtain ⟨⟨token, after⟩, hread, h⟩ := Option.map_eq_some_iff.mp h
    cases h
    exact ⟨leaves_readNumber hread, fun _ _ => .number token⟩

theorem reads_readName {name : Option String} (h : readName text = some (name, rest)) :
    Reads p text rest (∀ s ∈ name, ∀ c ∈ s.toList, p c) := by
  unfold readName at h
  split at h
  · next body htext =>
    obtain ⟨⟨s, after⟩, hread, h⟩ := Option.bind_eq_some_iff.mp h
    dsimp only at h
    split at h
    · next last hcolon =>
      cases h
      have hstring := (reads_readString (p := p) hread).leaving
        (leaves_of_skipBlank_eq (by decide) hcolon)
      exact (leaves_skipBlank text).reads (htext ▸ hstring)
    · cases h
  · cases h

mutual

theorem reads_readValue : ∀ (fuel : Nat) {text rest : List Char} {j : Json},
    readValue fuel text = some (j, rest) → Reads p text rest (IsOver p j)
  | 0, _, _, _, h => nomatch h
  | fuel + 1, text, rest, j, h => by
    rw [readValue] at h
    split at h
    · next body htext =>
      have hopen := leaves_of_skipBlank_eq (p := p) (by decide) htext
      split at h
      · next hbody =>
        cases h
        exact ⟨hopen.trans (leaves_of_skipBlank_eq (by decide) hbody), fun _ _ => .arr nofun⟩
      · obtain ⟨⟨items, after⟩, hread, h⟩ := Option.map_eq_some_iff.mp h
        cases h
        exact hopen.reads ((reads_readItems fuel hread).imp .arr)
    · next body htext =>
      have hopen := leaves_of_skipBlank_eq (p := p) (by decide) htext
      split at h
      · next hbody =>
        cases h
        exact ⟨hopen.trans (leaves_of_skipBlank_eq (by decide) hbody), fun _ _ => .obj nofun nofun⟩
      · obtain ⟨⟨members, after⟩, hread, h⟩ := Option.map_eq_some_iff.mp h
        cases h
        exact hopen.reads ((reads_readMembers fuel hread).imp fun hmembers =>
          .obj (fun m hm => (hmembers m hm).1) fun m hm => (hmembers m hm).2)
    · exact (leaves_skipBlank text).reads (reads_readScalar h)

theorem reads_readItems : ∀ (fuel : Nat) {text rest : List Char} {items : List Json},
    readItems fuel text = some (items, rest) → Reads p text rest (∀ j ∈ items, IsOver p j)
  | 0, _, _, _, h => nomatch h
  | fuel + 1, text, rest, items, h => by
    obtain ⟨⟨item, left⟩, hitem, h⟩ := Option.bind_eq_some_iff.mp h
    have hfirst := reads_readValue fuel hitem
    dsimp only at h
    split at h
    · next next hcomma =>
      obtain ⟨⟨more, after⟩, hmore, h⟩ := Option.bind_eq_some_iff.mp h
      cases h
      have hrest := (leaves_of_skipBlank_eq (by decide) hcomma).reads (reads_readItems fuel hmore)
      exact (hfirst.trans hrest).imp List.forall_mem_cons.mpr
    · next hclose =>
      cases h
      exact (hfirst.leaving (leaves_of_skipBlank_eq (by decide) hclose)).imp
        List.forall_mem_singleton.mpr
    · cases h

theorem reads_readMembers : ∀ (fuel : Nat) {text rest : List Char}
    {members : List (Option String × Json)}, readMembers fuel text = some (members, rest) →
    Reads p text rest
      (∀ m ∈ members, (∀ name ∈ m.1, ∀ c ∈ name.toList, p c) ∧ IsOver p m.2)
  | 0, _, _, _, h => nomatch h
  | fuel + 1, text, rest, members, h => by
    obtain ⟨⟨name, body⟩, hname, h⟩ := Option.bind_eq_some_iff.mp h
    obtain ⟨⟨value, left⟩, hvalue, h⟩ := Option.bind_eq_some_iff.mp h
    have hfirst := (reads_readName hname).trans (reads_readValue fuel hvalue)
    dsimp only at h
    split at h
    · next next hcomma =>
      obtain ⟨⟨more, after⟩, hmore, h⟩ := Option.bind_eq_some_iff.mp h
      cases h
      have hrest := (leaves_of_skipBlank_eq (by decide) hcomma).reads (reads_readMembers fuel hmore)
      exact (hfirst.trans hrest).imp fun h => List.forall_mem_cons.mpr h
    · next hclose =>
      cases h
      exact (hfirst.leaving (leaves_of_skipBlank_eq (by decide) hclose)).imp fun h =>
        List.forall_mem_singleton.mpr h
    · cases h

end

/-- An escaped text that is a document has its quotes in pairs and no forbidden control, and the
document is over its characters. -/
theorem of_parse? {text : String} {j : Json} (htext : IsEscaped p text.toList n)
    (h : parse? text = some j) :
    Even n ∧ (∀ c ∈ text.toList, isForbidden c = false) ∧ IsOver p j := by
  unfold parse? at h
  split at h
  · next value rest hread =>
    split at h
    · next hblank =>
      cases h
      have hvalue := reads_readValue (p := p) _ hread
      have hnil : skipBlank rest = [] := List.isEmpty_iff.mp hblank
      obtain ⟨k, hrest, heven, hcount⟩ :=
        (hnil ▸ hvalue.leaves.trans (leaves_skipBlank rest)) n htext
      cases hrest
      refine ⟨heven.mpr ⟨0, rfl⟩, fun c hc => ?_, hvalue.result n htext⟩
      have hnone := List.countP_eq_zero.mp hcount.symm c hc
      simpa using hnone
    · cases h
  · cases h

end Documents

end TablePhrase.Json
