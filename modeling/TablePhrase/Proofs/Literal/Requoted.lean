import Mathlib.Algebra.GroupWithZero.Nat
import Mathlib.Algebra.Order.BigOperators.Group.List
import Mathlib.Algebra.Order.Group.Nat
import TablePhrase.Proofs.Json.Escaped
import TablePhrase.Proofs.Literal.Json
import TablePhrase.Proofs.Literal.RoundTrip

/-!
The text of a mapping from strings to strings, read as a JSON document after every single quote in
it has become a double one. Without quotes and controls in its strings the document is the mapping;
otherwise it is not, but there may be one if the quotes inside the strings pair up.
-/

namespace TablePhrase

open Json (IsEscaped isForbidden)

namespace Json
variable {style : Style}

theorem parse?_members (hstyle : style.IsBlank) {name : String} {x : Json}
    {ms : List (Option String × Json)} {depth last : Nat} (hnames : ∀ m ∈ ms, m.1.isSome = true)
    (hplain : ∀ m ∈ (some name, x) :: ms, m.2.IsPlain) :
    parse? (String.ofList ('\x7b' :: (quoted name ++ (style.colon ++ (chars style depth x ++
      (memberChars style depth ms ++ (style.line last ++ ['\x7d'])))))) ) =
      some (obj ((some name, x) :: ms)) := by
  let body := quoted name ++ (style.colon ++ (chars style depth x ++
    (memberChars style depth ms ++ (style.line last ++ ['\x7d']))))
  have hopen : skipBlank ('\x7b' :: body) = '\x7b' :: body := skipBlank_cons (by decide) body
  have hbody : skipBlank body = body := skipBlank_cons (by decide) _
  have hlength : (chars style depth x).length + (memberChars style depth ms).length <
      2 * ('\x7b' :: body).length + 1 := by
    simp only [body, List.length_cons, List.length_append]
    omega
  have hmembers := readMembers_chars hstyle hnames hplain
    (fun m hm => (hplain m hm).readsBack hstyle) hlength hbody
  have hread : read ('\x7b' :: body) = some (obj ((some name, x) :: ms), []) := by
    rw [read, readValue_of_members hopen hbody, hmembers]
    rfl
  rw [parse?, String.toList_ofList, hread]
  rfl

end Json

namespace Text

def requote (c : Char) : Char :=
  if c = '\'' then '"' else c

def strayQuote (text : List Char) : Char :=
  if '"' ∈ text then '"' else '\''

/-- How many quotes end a written text too early where both kinds of quotes are taken for one. -/
def strayQuotes (text : List Char) : Nat :=
  text.count (strayQuote text)

/-- No quotes, and no controls but the escaped ones. -/
def IsUnquoted (text : List Char) : Prop :=
  ∀ c ∈ text, c ≠ '\'' ∧ c ≠ '"' ∧ isForbidden c = false

instance (text : List Char) : Decidable (IsUnquoted text) :=
  List.decidableBAll (fun c => c ≠ '\'' ∧ c ≠ '"' ∧ isForbidden c = false) text

section Quote
variable {p : Char → Prop} {text : List Char}

theorem isEscaped_flatMap {f : Char → List Char} {q : Char → Bool}
    (h : ∀ c ∈ text, IsEscaped p (f c) (if q c then 1 else 0)) :
    IsEscaped p (text.flatMap f) (text.countP q) := by
  induction text with
  | nil => exact .nil
  | cons c text ih =>
    obtain ⟨hc, htext⟩ := List.forall_mem_cons.mp h
    rw [List.flatMap_cons, List.countP_cons, Nat.add_comm]
    exact hc.append (ih htext)

theorem isEscaped_escapeChar (hp : ∀ c, c ≠ '\'' → c ≠ '"' → p c) {quote c : Char}
    (hquote : quote = '\'' ∨ quote = '"') (hsingle : c ≠ '\'') (hdouble : c ≠ '"') :
    IsEscaped p ((escapeChar quote c).map requote) 0 := by
  have hescape {e d : Char} (he : Json.unescape? e = some d) (hd : d ≠ '\'') (hd' : d ≠ '"') :
      IsEscaped p ['\\', e] 0 := .escape he (hp d hd hd') .nil
  unfold escapeChar
  split
  · exact hescape (d := '\\') rfl (by decide) (by decide)
  · next hbackslash =>
    split
    · exact hescape (d := '\n') rfl (by decide) (by decide)
    · split
      · exact hescape (d := '\r') rfl (by decide) (by decide)
      · split
        · exact hescape (d := '\t') rfl (by decide) (by decide)
        · split
          · next heq =>
            rcases hquote with rfl | rfl
            · exact absurd heq hsingle
            · exact absurd heq hdouble
          · rw [List.map_singleton, requote, if_neg hsingle]
            exact .plain hdouble hbackslash (hp c hsingle hdouble) .nil

theorem preferredQuote_eq (text : List Char) :
    preferredQuote text = if '\'' ∈ text ∧ '"' ∉ text then '"' else '\'' := by
  simp [preferredQuote]

theorem isEscaped_quote (hp : ∀ c, c ≠ '\'' → c ≠ '"' → p c)
    (hboth : '\'' ∈ text → '"' ∈ text → p '"') :
    IsEscaped p ((quote text).map requote) (strayQuotes text + 2) := by
  have hpreferred := preferredQuote_eq text
  have hquote : preferredQuote text = '\'' ∨ preferredQuote text = '"' := by
    rw [hpreferred]
    split
    · exact .inr rfl
    · exact .inl rfl
  have hchars : ∀ c ∈ text, IsEscaped p ((escapeChar (preferredQuote text) c).map requote)
      (if c == strayQuote text then 1 else 0) := by
    intro c hc
    by_cases hsingle : c = '\''
    · subst hsingle
      by_cases hdouble : '"' ∈ text
      · rw [hpreferred, if_neg (fun h => h.2 hdouble), strayQuote, if_pos hdouble]
        exact .escape rfl (hboth hc hdouble) .nil
      · rw [hpreferred, if_pos ⟨hc, hdouble⟩, strayQuote, if_neg hdouble]
        exact .quote .nil
    by_cases hdouble : c = '"'
    · subst hdouble
      rw [hpreferred, if_neg (fun h => h.2 hc), strayQuote, if_pos hc]
      exact .quote .nil
    have hstray : ¬(c == strayQuote text) = true := by
      unfold strayQuote
      split <;> simpa
    rw [if_neg hstray]
    exact isEscaped_escapeChar hp hquote hsingle hdouble
  have hopen : requote (preferredQuote text) = '"' := by
    rcases hquote with h | h <;> rw [h] <;> rfl
  have hbody :
      IsEscaped p ((escape (preferredQuote text) text).map requote) (strayQuotes text) := by
    rw [escape, List.map_flatMap]
    exact isEscaped_flatMap hchars
  rw [quote, quoteWith, List.map_cons, List.map_append, List.map_singleton, hopen]
  exact .quote (hbody.append (.quote .nil))

theorem requote_escapeChar_of_isUnquoted {c : Char} (hsingle : c ≠ '\'') (hdouble : c ≠ '"')
    (hallowed : isForbidden c = false) :
    (escapeChar '\'' c).map requote = Json.escapeChar c := by
  by_cases hescaped : c ∈ ['\\', '\n', '\r', '\t']
  · simp only [List.mem_cons, List.not_mem_nil, or_false] at hescaped
    rcases hescaped with rfl | rfl | rfl | rfl <;> rfl
  simp only [List.mem_cons, List.not_mem_nil, or_false, not_or] at hescaped
  obtain ⟨hbackslash, hline, hreturn, htab⟩ := hescaped
  have hcontrol : ¬c.toNat < 0x20 := by
    intro hlow
    have hspace : c = ' ' := by
      simpa [isForbidden, Json.isBlank, hlow, hline, hreturn, htab] using hallowed
    rw [hspace] at hlow
    exact absurd hlow (by decide)
  have hbell : c ≠ '\x08' := fun h => hcontrol (h ▸ by decide)
  have hform : c ≠ '\x0c' := fun h => hcontrol (h ▸ by decide)
  simp [escapeChar, Json.escapeChar, requote, hsingle, hdouble, hbackslash, hline, hreturn, htab,
    hbell, hform, hcontrol]

theorem requote_quote_of_isUnquoted {s : String} (h : IsUnquoted s.toList) :
    (quote s.toList).map requote = Json.quoted s := by
  have hsingle : '\'' ∉ s.toList := fun hmem => (h _ hmem).1 rfl
  have hpreferred : preferredQuote s.toList = '\'' := by
    rw [preferredQuote_eq, if_neg fun h => hsingle h.1]
  have hbody : (escape '\'' s.toList).map requote = s.toList.flatMap Json.escapeChar := by
    rw [escape, List.map_flatMap]
    refine List.flatMap_congr fun c hc => ?_
    obtain ⟨hsingle, hdouble, hallowed⟩ := h c hc
    exact requote_escapeChar_of_isUnquoted hsingle hdouble hallowed
  rw [quote, hpreferred, quoteWith, List.map_cons, List.map_append, List.map_singleton, hbody]
  rfl

theorem mem_quote_of_isForbidden {c : Char} (hc : c ∈ text) (h : isForbidden c = true) :
    c ∈ quote text := by
  have hline : c ≠ '\n' := fun heq => by simp [heq, isForbidden, Json.isBlank] at h
  have hreturn : c ≠ '\r' := fun heq => by simp [heq, isForbidden, Json.isBlank] at h
  have htab : c ≠ '\t' := fun heq => by simp [heq, isForbidden, Json.isBlank] at h
  have hchar : c ∈ escapeChar (preferredQuote text) c := by
    simp only [escapeChar, hline, hreturn, htab, if_false]
    repeat' split
    all_goals simp_all
  refine List.mem_cons_of_mem _ (List.mem_append_left _ ?_)
  exact List.mem_flatMap.mpr ⟨c, hc, hchar⟩

end Quote
end Text

namespace Literal
variable {levels : Nat}

theorem isNumber_of_literal? {t : Json.Token} {v : Literal} (h : t.literal? = some v) :
    (∃ i, v = .int i) ∨ ∃ x, v = .float x := by
  simp only [Json.Token.literal?] at h
  split at h
  · cases h
    exact .inl ⟨_, rfl⟩
  · obtain ⟨x, -, rfl⟩ := Option.map_eq_some_iff.mp h
    exact .inr ⟨x, rfl⟩

theorem exists_list_of_ofJson?_arr {items : List Json} {v : Literal}
    (h : ofJson? levels (.arr items) = some v) : ∃ vs, v = .list vs := by
  rw [ofJson?] at h
  split at h
  · cases h
  · obtain ⟨vs, -, rfl⟩ := Option.map_eq_some_iff.mp h
    exact ⟨vs, rfl⟩

theorem exists_entries_of_ofJson?_obj {members : List (Option String × Json)} {v : Literal}
    (h : ofJson? levels (.obj members) = some v) :
    ∃ es, entriesOfJson? (levels - 1) members = some es ∧ v = .ofEntries es := by
  rw [ofJson?] at h
  split at h
  · cases h
  · obtain ⟨es, hes, rfl⟩ := Option.map_eq_some_iff.mp h
    exact ⟨es, hes, rfl⟩

theorem eq_str_of_ofJson? {j : Json} {s : String} (h : ofJson? levels j = some (.str s)) :
    j = .str (some s) := by
  cases j with
  | null => cases h
  | bool b => cases h
  | number token => rcases isNumber_of_literal? h with ⟨i, hi⟩ | ⟨x, hx⟩ <;> contradiction
  | str text =>
    obtain ⟨t, rfl, ht⟩ := Option.map_eq_some_iff.mp h
    cases ht
    rfl
  | arr items =>
    obtain ⟨vs, hvs⟩ := exists_list_of_ofJson?_arr h
    cases hvs
  | obj members =>
    obtain ⟨es, -, hes⟩ := exists_entries_of_ofJson?_obj h
    cases hes

theorem exists_members_of_ofJson? {j : Json} {entries : List (String × Literal)}
    (h : ofJson? levels j = some (.map entries)) :
    ∃ members es, j = .obj members ∧ entriesOfJson? (levels - 1) members = some es ∧
      sortEntries es = entries := by
  cases j with
  | null => cases h
  | bool b => cases h
  | number token => rcases isNumber_of_literal? h with ⟨i, hi⟩ | ⟨x, hx⟩ <;> contradiction
  | str text =>
    obtain ⟨t, -, ht⟩ := Option.map_eq_some_iff.mp h
    cases ht
  | arr items =>
    obtain ⟨vs, hvs⟩ := exists_list_of_ofJson?_arr h
    cases hvs
  | obj members =>
    obtain ⟨es, hes, hmap⟩ := exists_entries_of_ofJson?_obj h
    exact ⟨members, es, rfl, hes, (map.inj hmap).symm⟩

theorem exists_member_of_mem {members : List (Option String × Json)}
    {es : List (String × Literal)} (h : entriesOfJson? levels members = some es)
    {e : String × Literal} (he : e ∈ es) :
    ∃ x, (some e.1, x) ∈ members ∧ ofJson? levels x = some e.2 := by
  induction members generalizing es with
  | nil =>
    cases h
    cases he
  | cons member members ih =>
    obtain ⟨name, x⟩ := member
    simp only [entriesOfJson?, Option.bind_eq_bind, Option.bind_eq_some_iff] at h
    obtain ⟨key, rfl, v, hv, more, hmore, h⟩ := h
    cases h
    rcases List.mem_cons.mp he with rfl | he
    · exact ⟨x, List.mem_cons_self, hv⟩
    · obtain ⟨y, hy, hread⟩ := ih hmore he
      exact ⟨y, List.mem_cons_of_mem _ hy, hread⟩

def written (entries : List (String × String)) : List (String × Literal) :=
  entries.map fun e => (e.1, .str e.2)

def stringsOf (entries : List (String × String)) : List String :=
  entries.flatMap fun e => [e.1, e.2]

def strayQuotes (entries : List (String × String)) : Nat :=
  ((stringsOf entries).map fun s => Text.strayQuotes s.toList).sum

section Entries
variable {p : Char → Prop} {entries : List (String × String)}

theorem forall_stringsOf_cons {q : String → Prop} {e : String × String} :
    (∀ s ∈ stringsOf (e :: entries), q s) ↔ q e.1 ∧ q e.2 ∧ ∀ s ∈ stringsOf entries, q s := by
  simp [stringsOf]

theorem strayQuotes_cons (e : String × String) : strayQuotes (e :: entries) =
    Text.strayQuotes e.1.toList + Text.strayQuotes e.2.toList + strayQuotes entries := by
  simp [strayQuotes, stringsOf]
  omega

theorem entryChars_written_cons (e : String × String) (entries : List (String × String)) :
    entryChars (written (e :: entries)) =
      Text.quote e.1.toList ++ ':' :: ' ' :: Text.quote e.2.toList ++
        moreEntryChars (written entries) := by
  simp [written, entryChars, chars]

theorem moreEntryChars_written_cons (e : String × String) (entries : List (String × String)) :
    moreEntryChars (written (e :: entries)) = [',', ' '] ++
      (Text.quote e.1.toList ++ ':' :: ' ' :: Text.quote e.2.toList ++
        moreEntryChars (written entries)) := by
  simp [written, moreEntryChars, chars]

theorem isEscaped_entry (hp : ∀ c, c ≠ '\'' → c ≠ '"' → p c) {e : String × String}
    (hkey : '\'' ∈ e.1.toList → '"' ∈ e.1.toList → p '"')
    (hvalue : '\'' ∈ e.2.toList → '"' ∈ e.2.toList → p '"') :
    IsEscaped p ((Text.quote e.1.toList ++ ':' :: ' ' :: Text.quote e.2.toList).map Text.requote)
      (Text.strayQuotes e.1.toList + Text.strayQuotes e.2.toList + 4) := by
  have hcolon : IsEscaped p [':', ' '] 0 :=
    .plain (by decide) (by decide) (hp _ (by decide) (by decide))
      (.plain (by decide) (by decide) (hp _ (by decide) (by decide)) .nil)
  have h := (Text.isEscaped_quote hp hkey).append (hcolon.append (Text.isEscaped_quote hp hvalue))
  have hcount : Text.strayQuotes e.1.toList + Text.strayQuotes e.2.toList + 4 =
      Text.strayQuotes e.1.toList + 2 + (0 + (Text.strayQuotes e.2.toList + 2)) := by omega
  rw [List.map_append, hcount]
  exact h

theorem isEscaped_moreEntryChars (hp : ∀ c, c ≠ '\'' → c ≠ '"' → p c)
    (hboth : ∀ s ∈ stringsOf entries, '\'' ∈ s.toList → '"' ∈ s.toList → p '"') :
    IsEscaped p ((moreEntryChars (written entries)).map Text.requote)
      (strayQuotes entries + 4 * entries.length) := by
  induction entries with
  | nil => exact .nil
  | cons e entries ih =>
    obtain ⟨hkey, hvalue, hentries⟩ := forall_stringsOf_cons.mp hboth
    have hcomma : IsEscaped p [',', ' '] 0 :=
      .plain (by decide) (by decide) (hp _ (by decide) (by decide))
        (.plain (by decide) (by decide) (hp _ (by decide) (by decide)) .nil)
    have h := hcomma.append ((isEscaped_entry hp hkey hvalue).append (ih hentries))
    have hcount : strayQuotes (e :: entries) + 4 * (e :: entries).length =
        0 + (Text.strayQuotes e.1.toList + Text.strayQuotes e.2.toList + 4 +
          (strayQuotes entries + 4 * entries.length)) := by
      rw [strayQuotes_cons, List.length_cons]
      omega
    rw [moreEntryChars_written_cons, List.map_append, List.map_append, hcount]
    exact h

theorem isEscaped_mapping (hp : ∀ c, c ≠ '\'' → c ≠ '"' → p c)
    (hboth : ∀ s ∈ stringsOf entries, '\'' ∈ s.toList → '"' ∈ s.toList → p '"') :
    IsEscaped p ((map (written entries)).chars.map Text.requote)
      (strayQuotes entries + 4 * entries.length) := by
  have hopen : IsEscaped p ['\x7b'] 0 :=
    .plain (by decide) (by decide) (hp _ (by decide) (by decide)) .nil
  have hclose : IsEscaped p ['\x7d'] 0 :=
    .plain (by decide) (by decide) (hp _ (by decide) (by decide)) .nil
  cases entries with
  | nil => exact hopen.append hclose
  | cons e entries =>
    obtain ⟨hkey, hvalue, hentries⟩ := forall_stringsOf_cons.mp hboth
    have h := hopen.append (((isEscaped_entry hp hkey hvalue).append
      (isEscaped_moreEntryChars hp hentries)).append hclose)
    have hcount : strayQuotes (e :: entries) + 4 * (e :: entries).length =
        0 + (Text.strayQuotes e.1.toList + Text.strayQuotes e.2.toList + 4 +
          (strayQuotes entries + 4 * entries.length) + 0) := by
      rw [strayQuotes_cons, List.length_cons]
      omega
    rw [chars, entryChars_written_cons, List.map_cons, List.map_append, List.map_append,
      hcount]
    exact h

def spaced : Json.Style :=
  ⟨fun depth => List.replicate depth ' ', [':', ' ']⟩

theorem isBlank_spaced : spaced.IsBlank where
  line depth c hc := by
    rw [List.eq_of_mem_replicate hc]
    rfl
  colon := ⟨[' '], rfl, List.forall_mem_singleton.mpr rfl⟩

theorem requote_moreEntryChars (h : ∀ s ∈ stringsOf entries, Text.IsUnquoted s.toList) :
    (moreEntryChars (written entries)).map Text.requote =
      Json.memberChars spaced 1 (entriesToJson (written entries)) := by
  induction entries with
  | nil => rfl
  | cons e entries ih =>
    obtain ⟨hkey, hvalue, hentries⟩ := forall_stringsOf_cons.mp h
    simp only [written, List.map_cons, moreEntryChars, chars,
      entriesToJson, toJson, Json.memberChars, Json.chars, Option.getD_some,
      List.map_append]
    rw [← Text.requote_quote_of_isUnquoted hkey, ← Text.requote_quote_of_isUnquoted hvalue]
    have hrest := ih hentries
    simp only [written] at hrest
    rw [hrest]
    simp [spaced, Text.requote]

theorem requote_mapping_cons {e : String × String}
    (h : ∀ s ∈ stringsOf (e :: entries), Text.IsUnquoted s.toList) :
    (map (written (e :: entries))).chars.map Text.requote =
      '\x7b' :: (Json.quoted e.1 ++ (spaced.colon ++ (Json.chars spaced 1 (.str (some e.2)) ++
        (Json.memberChars spaced 1 (entriesToJson (written entries)) ++
          (spaced.line 0 ++ ['\x7d']))))) := by
  obtain ⟨hkey, hvalue, hentries⟩ := forall_stringsOf_cons.mp h
  rw [chars, entryChars_written_cons, List.map_cons, List.map_append, List.map_append,
    requote_moreEntryChars hentries, List.map_append, List.map_cons, List.map_cons,
    Text.requote_quote_of_isUnquoted hkey, Text.requote_quote_of_isUnquoted hvalue]
  simp [spaced, Text.requote, Json.chars]

theorem parse?_requote (h : ∀ s ∈ stringsOf entries, Text.IsUnquoted s.toList) :
    Json.parse? (String.ofList ((map (written entries)).chars.map Text.requote)) =
      some (map (written entries)).toJson := by
  cases entries with
  | nil => rfl
  | cons e entries =>
    have hplain : ∀ m ∈ entriesToJson (written (e :: entries)),
        m.1.isSome = true ∧ m.2.IsPlain := fun m hm => of_mem_entriesToJson _ hm
    rw [requote_mapping_cons h]
    exact Json.parse?_members isBlank_spaced
      (fun m hm => (hplain m (List.mem_cons_of_mem _ hm)).1) fun m hm => (hplain m hm).2

theorem entriesOfJson?_written (levels : Nat) (entries : List (String × String)) :
    entriesOfJson? levels (entriesToJson (written entries)) =
      some (written entries) := by
  induction entries with
  | nil => rfl
  | cons e entries ih =>
    simp only [written] at ih
    simp [written, entriesToJson, toJson, entriesOfJson?,
      ofJson?, ih]

theorem keysIncrease_written (h : KeysIncrease entries) : KeysIncrease (written entries) :=
  List.pairwise_map.mpr h

theorem ofJson?_mapping (h : KeysIncrease entries) :
    ofJson? Json.maxLevels (map (written entries)).toJson =
      some (map (written entries)) := by
  rw [toJson, ofJson?, if_neg (by decide), entriesOfJson?_written,
    Option.map_some, ofEntries, sortEntries_of_keysIncrease (keysIncrease_written h)]

theorem mem_stringsOf_cons {e : String × String} {s : String} :
    s ∈ stringsOf (e :: entries) ↔ (s = e.1 ∨ s = e.2) ∨ s ∈ stringsOf entries := by
  simp [stringsOf, or_assoc]

theorem mem_entry {e : String × String} {s : String} (hs : s = e.1 ∨ s = e.2) {c : Char}
    (hc : c ∈ Text.quote s.toList) :
    c ∈ Text.quote e.1.toList ++ ':' :: ' ' :: Text.quote e.2.toList := by
  rcases hs with rfl | rfl
  · exact List.mem_append_left _ hc
  · exact List.mem_append_right _ (List.mem_cons_of_mem _ (List.mem_cons_of_mem _ hc))

theorem mem_moreEntryChars {s : String} (hs : s ∈ stringsOf entries) {c : Char}
    (hc : c ∈ Text.quote s.toList) : c ∈ moreEntryChars (written entries) := by
  induction entries with
  | nil => cases hs
  | cons e entries ih =>
    rw [moreEntryChars_written_cons]
    refine List.mem_append_right _ ?_
    rcases mem_stringsOf_cons.mp hs with hs | hs
    · exact List.mem_append_left _ (mem_entry hs hc)
    · exact List.mem_append_right _ (ih hs)

theorem mem_mapping_chars {s : String} (hs : s ∈ stringsOf entries) {c : Char}
    (hc : c ∈ Text.quote s.toList) : c ∈ (map (written entries)).chars := by
  cases entries with
  | nil => cases hs
  | cons e entries =>
    rw [chars, entryChars_written_cons]
    refine List.mem_cons_of_mem _ (List.mem_append_left _ ?_)
    rcases mem_stringsOf_cons.mp hs with hs | hs
    · exact List.mem_append_left _ (mem_entry hs hc)
    · exact List.mem_append_right _ (mem_moreEntryChars hs hc)

theorem over_of_ofJson? {levels : Nat} {j : Json} (hj : Json.IsOver p j)
    (h : ofJson? levels j = some (.map (written entries))) :
    ∀ s ∈ stringsOf entries, ∀ c ∈ s.toList, p c := by
  obtain ⟨members, es, rfl, hes, hsort⟩ := exists_members_of_ofJson? h
  cases hj with
  | obj names hvalues =>
    intro s hs c hc
    obtain ⟨e, he, hs⟩ := List.mem_flatMap.mp hs
    have hmem : (e.1, str e.2) ∈ es :=
      mem_of_mem_sortEntries (hsort ▸ List.mem_map_of_mem he)
    obtain ⟨x, hx, hread⟩ := exists_member_of_mem hes hmem
    simp only [List.mem_cons, List.not_mem_nil, or_false] at hs
    rcases hs with rfl | rfl
    · exact names _ hx _ rfl c hc
    · have hvalue := hvalues _ hx
      rw [eq_str_of_ofJson? hread] at hvalue
      cases hvalue with
      | str hchars => exact hchars _ rfl c hc

end Entries

section Mapping

def mapping (m : KeyMap String) : Literal :=
  .map (written m.entries)

variable (m : KeyMap String)

def requotedText (m : KeyMap String) : String :=
  String.ofList ((mapping m).chars.map Text.requote)

theorem toList_requotedText : (requotedText m).toList = (mapping m).chars.map Text.requote :=
  String.toList_ofList

theorem isEscaped_requotedText {p : Char → Prop} (hp : ∀ c, c ≠ '\'' → c ≠ '"' → p c)
    (hboth : ∀ s ∈ stringsOf m.entries, '\'' ∈ s.toList → '"' ∈ s.toList → p '"') :
    IsEscaped p (requotedText m).toList (strayQuotes m.entries + 4 * m.entries.length) := by
  rw [toList_requotedText]
  exact isEscaped_mapping hp hboth

theorem isForbidden_of_parse? {j : Json} (h : Json.parse? (requotedText m) = some j) {s : String}
    (hs : s ∈ stringsOf m.entries) {c : Char} (hc : c ∈ s.toList) : isForbidden c = false := by
  have htext := isEscaped_requotedText (p := fun _ => True) m (fun _ _ _ => trivial)
    fun _ _ _ _ => trivial
  obtain ⟨-, hallowed, -⟩ := Json.of_parse? htext h
  by_contra hforbidden
  rw [Bool.not_eq_false] at hforbidden
  have hmem := mem_mapping_chars hs (Text.mem_quote_of_isForbidden hc hforbidden)
  have hrequote : Text.requote c ∈ (requotedText m).toList := by
    rw [toList_requotedText]
    exact List.mem_map_of_mem hmem
  have hkept : Text.requote c = c := by
    refine if_neg ?_
    rintro rfl
    cases hforbidden
  rw [hkept] at hrequote
  rw [hallowed c hrequote] at hforbidden
  cases hforbidden

/-- A document is read from the text only if the stray quotes pair up. -/
theorem even_of_parse? {j : Json} (h : Json.parse? (requotedText m) = some j) :
    Even (strayQuotes m.entries) := by
  have htext := isEscaped_requotedText (p := fun _ => True) m (fun _ _ _ => trivial)
    fun _ _ _ _ => trivial
  obtain ⟨heven, -⟩ := Json.of_parse? htext h
  rw [Nat.even_iff] at heven ⊢
  omega

theorem no_quotes_of_ofJson? {j : Json} {levels : Nat}
    (hparse : Json.parse? (requotedText m) = some j)
    (h : ofJson? levels j = some (mapping m)) :
    ∀ s ∈ stringsOf m.entries, ∀ c ∈ s.toList, c ≠ '\'' ∧ c ≠ '"' := by
  have hsingle : ∀ s ∈ stringsOf m.entries, ∀ c ∈ s.toList, c ≠ '\'' := by
    have htext := isEscaped_requotedText (p := (· ≠ '\'')) m (fun _ hc _ => hc)
      fun _ _ _ _ => by decide
    exact over_of_ofJson? (Json.of_parse? htext hparse).2.2 h
  have htext := isEscaped_requotedText (p := fun c => c ≠ '\'' ∧ c ≠ '"') m
    (fun _ hc hc' => ⟨hc, hc'⟩) fun s hs hquote _ => absurd rfl (hsingle s hs '\'' hquote)
  exact over_of_ofJson? (Json.of_parse? htext hparse).2.2 h

theorem strayQuotes_pos_of_mem {s : String} (hs : s ∈ stringsOf m.entries) {c : Char}
    (hc : c ∈ s.toList) (hquote : c = '\'' ∨ c = '"') : 0 < strayQuotes m.entries := by
  have hstray : 0 < Text.strayQuotes s.toList := by
    rw [Text.strayQuotes, List.count_pos_iff, Text.strayQuote]
    split
    · assumption
    · next hdouble =>
      rcases hquote with rfl | rfl
      · exact hc
      · exact absurd hc hdouble
  exact Nat.lt_of_lt_of_le hstray (List.le_sum_of_mem (List.mem_map_of_mem hs))

end Mapping

end Literal

end TablePhrase
