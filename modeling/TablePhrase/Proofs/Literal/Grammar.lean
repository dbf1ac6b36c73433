import Mathlib.Data.List.DropRight
import TablePhrase.Proofs.KeyMap
import TablePhrase.Proofs.Literal.Token

/-!
The grammar of literals as users type them, and that the reader accepts just the texts that derive
a value by it. The reader tries one alternative after another and never goes back, so that both
directions go by recursion on what bounds it: what it reads is derived, and what is derived it
reads wherever punctuation follows.
-/

namespace TablePhrase.Literal

namespace Grammar

def Blanks (text : List Char) : Prop :=
  ∀ c ∈ text, c = ' ' ∨ c = '\t' ∨ c = '\r' ∨ c = '\n'

/-- The entries of a map: in key order, each key with the last value that a pair gives it. -/
structure Collects (pairs : List (Literal × Literal)) (entries : List (String × Literal)) :
    Prop where
  increasing : KeysIncrease entries
  lookup : ∀ key,
    entries.lookup key = (pairs.filter fun pair => pair.1.raw == key).getLast?.map (·.2)

mutual

inductive Core : List Char → Literal → Prop
  | scalar {text : List Char} {v : Literal} (h : Scalar text v) : Core text v
  | emptyList {blanks : List Char} (h : Blanks blanks) : Core ('[' :: (blanks ++ [']'])) (list [])
  | list {text : List Char} {items : List Literal} (h : Items text items) :
      Core ('[' :: (text ++ [']'])) (list items)
  | emptyMap {blanks : List Char} (h : Blanks blanks) : Core ('{' :: (blanks ++ ['}'])) (map [])
  | map {text : List Char} {pairs : List (Literal × Literal)} {entries : List (String × Literal)}
      (h : Pairs text pairs) (hentries : Collects pairs entries) :
      Core ('{' :: (text ++ ['}'])) (map entries)

/-- A text that is a literal, and its value. -/
inductive Denotes : List Char → Literal → Prop
  | padded {before core after : List Char} {v : Literal} (hbefore : Blanks before)
      (h : Core core v) (hafter : Blanks after) : Denotes (before ++ core ++ after) v

inductive Items : List Char → List Literal → Prop
  | one {text : List Char} {v : Literal} (h : Denotes text v) : Items text [v]
  | more {text rest : List Char} {v : Literal} {items : List Literal} (h : Denotes text v)
      (hrest : Items rest items) : Items (text ++ ',' :: rest) (v :: items)

inductive Pairs : List Char → List (Literal × Literal) → Prop
  | one {key value : List Char} {k v : Literal} (hkey : Denotes key k) (hvalue : Denotes value v) :
      Pairs (key ++ ':' :: value) [(k, v)]
  | more {key value rest : List Char} {k v : Literal} {pairs : List (Literal × Literal)}
      (hkey : Denotes key k) (hvalue : Denotes value v) (hrest : Pairs rest pairs) :
      Pairs (key ++ ':' :: (value ++ ',' :: rest)) ((k, v) :: pairs)

end

theorem collects_iff {pairs : List (Literal × Literal)} {entries : List (String × Literal)} :
    Collects pairs entries ↔ entries = sortEntries (pairs.map fun (k, v) => (k.raw, v)) := by
  have hlookup : ∀ key, (sortEntries (pairs.map fun (k, v) => (k.raw, v))).lookup key =
      (pairs.filter fun pair => pair.1.raw == key).getLast?.map (·.2) := by
    intro key
    rw [lookup_sortEntries, List.filter_map, List.getLast?_map, Option.map_map]
    rfl
  constructor
  · intro h
    refine h.increasing.eq_of_lookup_eq (keysIncrease_sortEntries _) fun key => ?_
    rw [h.lookup, hlookup]
  · rintro rfl
    exact ⟨keysIncrease_sortEntries _, hlookup⟩

theorem blanks_iff {text : List Char} : Blanks text ↔ ∀ c ∈ text, isBlank c = true := by
  simp [Blanks, isBlank, or_assoc]

end Grammar

open Grammar

theorem exists_blanks_append (text : List Char) :
    ∃ before, Blanks before ∧ text = before ++ skipBlank text :=
  ⟨text.takeWhile isBlank, blanks_iff.mpr fun _ => List.mem_takeWhile_imp,
    List.takeWhile_append_dropWhile.symm⟩

theorem skipBlank_skipBlank (text : List Char) : skipBlank (skipBlank text) = skipBlank text :=
  List.dropWhile_idempotent _ text

theorem skipBlank_blanks_append {before text : List Char} (h : Blanks before) :
    skipBlank (before ++ text) = skipBlank text :=
  List.dropWhile_append_of_pos (blanks_iff.mp h)

section Soundness
variable {text body left rest : List Char}

theorem exists_denotes {core : List Char} {v : Literal} (h : Core core v)
    (htext : skipBlank text = core ++ left) :
    ∃ front, text = front ++ skipBlank left ∧ Denotes front v := by
  obtain ⟨before, hbefore, hfront⟩ := exists_blanks_append text
  obtain ⟨after, hafter, hback⟩ := exists_blanks_append left
  refine ⟨before ++ core ++ after, ?_, .padded hbefore h hafter⟩
  rw [hfront, htext]
  conv_lhs => rw [hback]
  simp

theorem exists_core_list {items : List Literal}
    (h : items = [] ∧ left = body ∨
      skipBlank left = left ∧ ∃ front, body = front ++ left ∧ Items front items)
    (hclose : skipBlank left = ']' :: rest) :
    ∃ core, '[' :: body = core ++ rest ∧ Core core (list items) := by
  rcases h with ⟨rfl, rfl⟩ | ⟨hleft, front, rfl, hfront⟩
  · obtain ⟨blanks, hblanks, hbody⟩ := exists_blanks_append left
    rw [hclose] at hbody
    exact ⟨'[' :: (blanks ++ [']']), by simp [hbody], .emptyList hblanks⟩
  · rw [hleft] at hclose
    exact ⟨'[' :: (front ++ [']']), by simp [hclose], .list hfront⟩

theorem exists_core_map {pairs : List (Literal × Literal)}
    (h : pairs = [] ∧ left = body ∨
      skipBlank left = left ∧ ∃ front, body = front ++ left ∧ Pairs front pairs)
    (hclose : skipBlank left = '}' :: rest) :
    ∃ core, '{' :: body = core ++ rest ∧
      Core core (ofEntries (pairs.map fun (k, v) => (k.raw, v))) := by
  rcases h with ⟨rfl, rfl⟩ | ⟨hleft, front, rfl, hfront⟩
  · obtain ⟨blanks, hblanks, hbody⟩ := exists_blanks_append left
    rw [hclose] at hbody
    exact ⟨'{' :: (blanks ++ ['}']), by simp [hbody], .emptyMap hblanks⟩
  · rw [hleft] at hclose
    exact ⟨'{' :: (front ++ ['}']), by simp [hclose], .map hfront (collects_iff.mpr rfl)⟩

mutual

theorem exists_of_readWithin : ∀ (fuel : Nat) {text rest : List Char} {v : Literal},
    readWithin fuel text = .ok (v, rest) →
    skipBlank rest = rest ∧ ∃ front, text = front ++ rest ∧ Denotes front v
  | 0, text, rest, v, h => by cases h
  | fuel + 1, text, rest, v, h => by
    cases htext : skipBlank text with
    | nil =>
      rw [readWithin, htext] at h
      cases h
    | cons c body =>
      by_cases hlist : c = '['
      · subst hlist
        rcases hitems : readItems fuel body with ⟨items, left⟩
        rw [readWithin_of_list htext hitems] at h
        split at h
        · next left hclose =>
          cases h
          obtain ⟨core, hcore, hlist⟩ := exists_core_list (exists_of_readItems fuel hitems) hclose
          exact ⟨skipBlank_skipBlank left, exists_denotes hlist (htext.trans hcore)⟩
        · cases h
      · by_cases hmap : c = '{'
        · subst hmap
          rcases hpairs : readPairs fuel body with ⟨pairs, left⟩
          rw [readWithin_of_map htext hpairs] at h
          split at h
          · next left hclose =>
            cases h
            obtain ⟨core, hcore, hmap⟩ := exists_core_map (exists_of_readPairs fuel hpairs) hclose
            exact ⟨skipBlank_skipBlank left, exists_denotes hmap (htext.trans hcore)⟩
          · cases h
        · rw [readWithin_of_scalar htext hlist hmap] at h
          split at h
          · next w left hread =>
            cases h
            obtain ⟨core, hcore, hscalar⟩ := exists_of_readScalar hread
            exact ⟨skipBlank_skipBlank left, exists_denotes (.scalar hscalar) (htext.trans hcore)⟩
          · cases h

theorem exists_of_readItems : ∀ (fuel : Nat) {text rest : List Char} {items : List Literal},
    readItems fuel text = (items, rest) →
    items = [] ∧ rest = text ∨
      skipBlank rest = rest ∧ ∃ front, text = front ++ rest ∧ Items front items
  | 0, text, rest, items, h => by
    cases h
    exact .inl ⟨rfl, rfl⟩
  | fuel + 1, text, rest, items, h => by
    rw [readItems] at h
    split at h
    · cases h
      exact .inl ⟨rfl, rfl⟩
    · next v next hread =>
      obtain ⟨hnext, front, rfl, hfront⟩ := exists_of_readWithin fuel hread
      right
      rcases hmore : readItems fuel next with ⟨_ | ⟨w, more⟩, left⟩
      · simp only [hmore] at h
        cases h
        exact ⟨hnext, front, rfl, .one hfront⟩
      · simp only [hmore] at h
        cases h
        obtain ⟨hempty, -⟩ | ⟨hleft, back, rfl, hback⟩ := exists_of_readItems fuel hmore
        · cases hempty
        · exact ⟨hleft, front ++ ',' :: back, by simp, .more hfront hback⟩
    · next v left _ hread =>
      cases h
      obtain ⟨hleft, front, htext, hfront⟩ := exists_of_readWithin fuel hread
      exact .inr ⟨hleft, front, htext, .one hfront⟩

theorem exists_of_readPairs : ∀ (fuel : Nat) {text rest : List Char}
    {pairs : List (Literal × Literal)}, readPairs fuel text = (pairs, rest) →
    pairs = [] ∧ rest = text ∨
      skipBlank rest = rest ∧ ∃ front, text = front ++ rest ∧ Pairs front pairs
  | 0, text, rest, pairs, h => by
    cases h
    exact .inl ⟨rfl, rfl⟩
  | fuel + 1, text, rest, pairs, h => by
    rw [readPairs] at h
    split at h
    · next k body hread =>
      obtain ⟨-, key, rfl, hkey⟩ := exists_of_readWithin fuel hread
      split at h
      · cases h
        exact .inl ⟨rfl, rfl⟩
      · next v next hread =>
        obtain ⟨hnext, value, rfl, hvalue⟩ := exists_of_readWithin fuel hread
        right
        rcases hmore : readPairs fuel next with ⟨_ | ⟨pair, more⟩, left⟩
        · simp only [hmore] at h
          cases h
          exact ⟨hnext, key ++ ':' :: value, by simp, .one hkey hvalue⟩
        · simp only [hmore] at h
          cases h
          obtain ⟨hempty, -⟩ | ⟨hleft, back, rfl, hback⟩ := exists_of_readPairs fuel hmore
          · cases hempty
          · exact ⟨hleft, key ++ ':' :: (value ++ ',' :: back), by simp,
              .more hkey hvalue hback⟩
      · next v left _ hread =>
        cases h
        obtain ⟨hleft, value, rfl, hvalue⟩ := exists_of_readWithin fuel hread
        exact .inr ⟨hleft, key ++ ':' :: value, by simp, .one hkey hvalue⟩
    · cases h
      exact .inl ⟨rfl, rfl⟩

end

end Soundness

section Completeness

theorem Grammar.Core.exists_eq_cons {text : List Char} {v : Literal} (h : Core text v) :
    ∃ c cs, text = c :: cs ∧ isOpening c = true := by
  cases h with
  | scalar h =>
    obtain ⟨c, cs, htext, hc, -⟩ := h.exists_eq_cons
    exact ⟨c, cs, htext, hc⟩
  | emptyList => exact ⟨_, _, rfl, by decide⟩
  | list => exact ⟨_, _, rfl, by decide⟩
  | emptyMap => exact ⟨_, _, rfl, by decide⟩
  | map => exact ⟨_, _, rfl, by decide⟩

theorem AtPunctuation.skipBlank_blanks_append {blanks rest : List Char} (h : AtPunctuation rest)
    (hblanks : Blanks blanks) : skipBlank (blanks ++ rest) = rest :=
  (Literal.skipBlank_blanks_append hblanks).trans h.skipBlank_eq

theorem AtPunctuation.endsNumber_blanks_append {blanks rest : List Char} (h : AtPunctuation rest)
    (hblanks : Blanks blanks) : EndsNumber (blanks ++ rest) := by
  cases blanks with
  | nil => exact h.endsNumber
  | cons c blanks =>
    rintro d ⟨⟩
    rcases hblanks c List.mem_cons_self with rfl | rfl | rfl | rfl <;> decide

theorem skipBlank_core_append {before core rest : List Char} {v : Literal} (h : Core core v)
    (hbefore : Blanks before) : skipBlank (before ++ core ++ rest) = core ++ rest := by
  obtain ⟨c, cs, rfl, hc⟩ := h.exists_eq_cons
  simp only [isOpening, Bool.and_eq_true, Bool.not_eq_true'] at hc
  rw [List.append_assoc, skipBlank_blanks_append hbefore, List.cons_append,
    skipBlank_cons hc.1.1.1.1]

section Closing
variable {blanks rest : List Char} {c : Char} {fuel : Nat}

theorem exists_readWithin_blanks (h : Blanks blanks) (hc : c = ']' ∨ c = '}') :
    ∃ left, readWithin fuel (blanks ++ c :: rest) = .error left := by
  have hskipped : skipBlank (blanks ++ c :: rest) = c :: rest := by
    rw [skipBlank_blanks_append h, skipBlank_cons]
    rcases hc with rfl | rfl <;> decide
  exact exists_readWithin_closing hskipped hc

theorem readItems_blanks (h : Blanks blanks) :
    readItems fuel (blanks ++ ']' :: rest) = ([], blanks ++ ']' :: rest) := by
  cases fuel with
  | zero => rfl
  | succ fuel =>
    obtain ⟨left, hleft⟩ := exists_readWithin_blanks h (.inl rfl)
    exact readItems_of_error hleft

theorem readPairs_blanks (h : Blanks blanks) :
    readPairs fuel (blanks ++ '}' :: rest) = ([], blanks ++ '}' :: rest) := by
  cases fuel with
  | zero => rfl
  | succ fuel =>
    obtain ⟨left, hleft⟩ := exists_readWithin_blanks h (.inr rfl)
    exact readPairs_of_key_error hleft

end Closing

theorem readWithin_of_listed {fuel : Nat} {text body left rest : List Char} {items : List Literal}
    (htext : skipBlank text = '[' :: body) (hitems : readItems fuel body = (items, left))
    (hclose : skipBlank left = ']' :: rest) :
    readWithin (fuel + 1) text = .ok (list items, skipBlank rest) := by
  rw [readWithin_of_list htext hitems, hclose]
  rfl

theorem readWithin_of_paired {fuel : Nat} {text body left rest : List Char}
    {pairs : List (Literal × Literal)} {entries : List (String × Literal)}
    (htext : skipBlank text = '{' :: body) (hpairs : readPairs fuel body = (pairs, left))
    (hclose : skipBlank left = '}' :: rest) (hentries : Collects pairs entries) :
    readWithin (fuel + 1) text = .ok (map entries, skipBlank rest) := by
  rw [readWithin_of_map htext hpairs, hclose, collects_iff.mp hentries]
  rfl

mutual

theorem readWithin_of_denotes : ∀ {text : List Char} {v : Literal}, Denotes text v →
    ∀ {fuel : Nat} {rest : List Char}, text.length ≤ fuel → AtPunctuation rest →
    readWithin fuel (text ++ rest) = .ok (v, rest)
  | _, v, @Denotes.padded before core after _ hbefore h hafter, fuel, rest, hfuel, hrest => by
    have htext : skipBlank (before ++ core ++ after ++ rest) = core ++ (after ++ rest) := by
      rw [List.append_assoc, skipBlank_core_append h hbefore]
    have hlength : core.length ≤ fuel := by
      rw [List.length_append, List.length_append] at hfuel
      omega
    rw [readWithin_of_core h hlength (hrest.endsNumber_blanks_append hafter) htext,
      hrest.skipBlank_blanks_append hafter]

theorem readWithin_of_core : ∀ {core : List Char} {v : Literal}, Core core v →
    ∀ {fuel : Nat} {text rest : List Char}, core.length ≤ fuel → EndsNumber rest →
    skipBlank text = core ++ rest → readWithin fuel text = .ok (v, skipBlank rest)
  | _, _, h, 0, text, rest, hfuel, _, htext => by
    obtain ⟨c, cs, rfl, -⟩ := h.exists_eq_cons
    cases hfuel
  | _, _, .scalar h, fuel + 1, text, rest, hfuel, hrest, htext => by
    have hread := readScalar_of_scalar h hrest
    obtain ⟨c, cs, rfl, -, hlist, hmap⟩ := h.exists_eq_cons
    rw [List.cons_append] at htext hread
    rw [readWithin_of_scalar htext hlist hmap, hread]
  | _, _, @Core.emptyList blanks h, fuel + 1, text, rest, hfuel, hrest, htext => by
    have htext : skipBlank text = '[' :: (blanks ++ ']' :: rest) := by simp [htext]
    refine readWithin_of_listed htext (readItems_blanks h) ?_
    rw [skipBlank_blanks_append h, skipBlank_cons (by decide)]
  | _, _, @Core.list body items h, fuel + 1, text, rest, hfuel, hrest, htext => by
    have htext : skipBlank text = '[' :: (body ++ ']' :: rest) := by simp [htext]
    have hlength : body.length < fuel := by
      simp only [List.length_cons, List.length_append] at hfuel
      omega
    exact readWithin_of_listed htext (readItems_of_items h _ hlength) (skipBlank_cons (by decide) rest)
  | _, _, @Core.emptyMap blanks h, fuel + 1, text, rest, hfuel, hrest, htext => by
    have htext : skipBlank text = '{' :: (blanks ++ '}' :: rest) := by simp [htext]
    refine readWithin_of_paired htext (readPairs_blanks h) ?_ (collects_iff.mpr rfl)
    rw [skipBlank_blanks_append h, skipBlank_cons (by decide)]
  | _, _, @Core.map body pairs entries h hentries, fuel + 1, text, rest, hfuel, hrest, htext => by
    have htext : skipBlank text = '{' :: (body ++ '}' :: rest) := by simp [htext]
    have hlength : body.length < fuel := by
      simp only [List.length_cons, List.length_append] at hfuel
      omega
    exact readWithin_of_paired htext (readPairs_of_pairs h _ hlength)
      (skipBlank_cons (by decide) rest) hentries

theorem readItems_of_items : ∀ {text : List Char} {items : List Literal}, Items text items →
    ∀ {fuel : Nat} (rest : List Char), text.length < fuel →
    readItems fuel (text ++ ']' :: rest) = (items, ']' :: rest)
  | _, _, .one h, fuel + 1, rest, hfuel => by
    have hrest := atPunctuation_cons (.inr (.inr (.inl rfl))) rest
    exact readItems_of_last (by decide) (readWithin_of_denotes h (Nat.le_of_lt_succ hfuel) hrest)
  | _, _, @Items.more text more v items h hmore, fuel + 1, rest, hfuel => by
    rw [List.length_append, List.length_cons] at hfuel
    have hcomma := atPunctuation_cons (.inl rfl) (more ++ ']' :: rest)
    have hfirst := readWithin_of_denotes h (by omega : text.length ≤ fuel) hcomma
    have hitems := readItems_of_items hmore rest (by omega : more.length < fuel)
    rw [List.append_assoc, List.cons_append, readItems_of_comma hfirst, hitems]
    cases hmore <;> rfl

theorem readPairs_of_pairs : ∀ {text : List Char} {pairs : List (Literal × Literal)},
    Pairs text pairs → ∀ {fuel : Nat} (rest : List Char), text.length < fuel →
    readPairs fuel (text ++ '}' :: rest) = (pairs, '}' :: rest)
  | _, _, @Pairs.one key value k v hkey hvalue, fuel + 1, rest, hfuel => by
    rw [List.length_append, List.length_cons] at hfuel
    have hcolon := atPunctuation_cons (.inr (.inl rfl)) (value ++ '}' :: rest)
    have hclose := atPunctuation_cons (.inr (.inr (.inr rfl))) rest
    have hk := readWithin_of_denotes hkey (by omega : key.length ≤ fuel) hcolon
    have hv := readWithin_of_denotes hvalue (by omega : value.length ≤ fuel) hclose
    rw [List.append_assoc, List.cons_append, readPairs_of_last hk (by decide) hv]
  | _, _, @Pairs.more key value more k v pairs hkey hvalue hmore, fuel + 1, rest, hfuel => by
    rw [List.length_append, List.length_cons, List.length_append, List.length_cons] at hfuel
    have hcolon := atPunctuation_cons (.inr (.inl rfl)) (value ++ ',' :: (more ++ '}' :: rest))
    have hcomma := atPunctuation_cons (.inl rfl) (more ++ '}' :: rest)
    have hk := readWithin_of_denotes hkey (by omega : key.length ≤ fuel) hcolon
    have hv := readWithin_of_denotes hvalue (by omega : value.length ≤ fuel) hcomma
    have hpairs := readPairs_of_pairs hmore rest (by omega : more.length < fuel)
    simp only [List.append_assoc, List.cons_append]
    rw [readPairs_of_comma hk hv, hpairs]
    cases hmore <;> rfl

end

end Completeness

/-- A text is read as a value just if it derives that value by the grammar. -/
theorem parse_eq_ok_iff_denotes (text : String) (v : Literal) :
    parse text = .ok v ↔ Denotes text.toList v := by
  constructor
  · intro h
    unfold parse at h
    split at h
    · next w hread =>
      cases h
      obtain ⟨-, front, htext, hfront⟩ := exists_of_readWithin _ hread
      rw [List.append_nil] at htext
      exact htext ▸ hfront
    · cases h
    · cases h
  · intro h
    have hread : read text.toList = .ok (v, []) := by
      have hlength : text.toList.length ≤ 2 * text.toList.length + 2 := by omega
      have hwithin := readWithin_of_denotes h hlength atPunctuation_nil
      rwa [List.append_nil] at hwithin
    rw [parse, hread]

end TablePhrase.Literal
