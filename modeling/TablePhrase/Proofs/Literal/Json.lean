import TablePhrase.Json.Decoder
import TablePhrase.Proofs.Json.RoundTrip
import TablePhrase.Proofs.KeyMap
import TablePhrase.Proofs.Literal.Content

/-!
Literals as JSON documents. The document of a literal is plain, and if there is no double in it, it
denotes that literal to every reader that goes deep enough.
-/

namespace TablePhrase

namespace Json

theorem ofChars_of_digits {token digits : List Char} {negative : Bool}
    (hsign : Decimal.splitSign token = (negative, digits))
    (hdigits : ∀ c ∈ digits, c.isDigit = true) :
    Token.ofChars token = ⟨negative, digits, none, none⟩ := by
  have hwhole : digits.takeWhile Char.isDigit = digits :=
    List.takeWhile_eq_self_iff.mpr hdigits
  have hrest : digits.dropWhile Char.isDigit = [] := List.dropWhile_eq_nil_iff.mpr hdigits
  simp only [Token.ofChars, hsign, hwhole, hrest]

theorem literal?_integerText (i : Int64) :
    (Token.ofChars (integerText i.toInt)).literal? = some (.int i) := by
  have hdigits := (Decimal.isDigits_digits i.toInt.natAbs).isDigit
  have hfit := Decimal.fit64?_toInt i
  unfold integerText
  split
  · next hneg =>
    have hne : i.toInt.natAbs ≠ 0 := by omega
    have habs : -(i.toInt.natAbs : Int) = i.toInt := by omega
    have hsign : Decimal.splitSign ('-' :: Decimal.digits i.toInt.natAbs) =
        (true, Decimal.digits i.toInt.natAbs) := rfl
    rw [ofChars_of_digits hsign hdigits]
    have hnonzero : (i.toInt.natAbs == 0) = false := beq_eq_false_iff_ne.mpr hne
    simp only [Token.literal?, Token.isInteger, Decimal.value_digits, hnonzero, Bool.and_false,
      Bool.not_false, Option.isNone_none, Bool.and_self, if_true, habs, hfit]
  · next hneg =>
    obtain ⟨c, cs, heq⟩ := List.exists_cons_of_ne_nil (Decimal.digits_ne_nil i.toInt.natAbs)
    have hsign : Decimal.splitSign (Decimal.digits i.toInt.natAbs) =
        (false, Decimal.digits i.toInt.natAbs) := by
      rw [heq]
      exact Decimal.splitSign_of_isDigit (hdigits c (heq ▸ List.mem_cons_self)) cs
    have habs : (i.toInt.natAbs : Int) = i.toInt := by omega
    rw [ofChars_of_digits hsign hdigits]
    simp only [Token.literal?, Token.isInteger, Bool.false_and, Bool.not_false, Option.isNone_none,
      Bool.and_self, if_true, Bool.false_eq_true, if_false, Decimal.value_digits, habs, hfit]

end Json

namespace Literal

mutual

def nesting : Literal → Nat
  | list items => nestingAmong items + 1
  | map entries => nestingEntries entries + 1
  | _ => 0
termination_by structural x => x

def nestingAmong : List Literal → Nat
  | [] => 0
  | x :: xs => max (nesting x) (nestingAmong xs)
termination_by structural x => x

def nestingEntries : List (String × Literal) → Nat
  | [] => 0
  | (_, x) :: es => max (nesting x) (nestingEntries es)
termination_by structural x => x

end

mutual

theorem isPlain_toJson : ∀ v : Literal, v.toJson.IsPlain
  | null => .null
  | bool b => .bool b
  | int i => .number (Json.isToken_integerText i.toInt)
  | float x => by
    rw [toJson, Json.binary64]
    split
    · exact .number (Json.isToken_finiteText x)
    · exact .null
  | str s => .str s
  | list items => .arr fun _ => isPlain_of_mem_itemsToJson items
  | map entries =>
    .obj (fun _ hm => (of_mem_entriesToJson entries hm).1) fun _ hm =>
      (of_mem_entriesToJson entries hm).2

theorem isPlain_of_mem_itemsToJson : ∀ (items : List Literal) {j : Json},
    j ∈ itemsToJson items → j.IsPlain
  | x :: xs, j, hj => by
    rcases List.mem_cons.mp hj with rfl | hj
    · exact isPlain_toJson x
    · exact isPlain_of_mem_itemsToJson xs hj

theorem of_mem_entriesToJson : ∀ (entries : List (String × Literal)) {m : Option String × Json},
    m ∈ entriesToJson entries → m.1.isSome = true ∧ m.2.IsPlain
  | (k, x) :: es, m, hm => by
    rcases List.mem_cons.mp hm with rfl | hm
    · exact ⟨rfl, isPlain_toJson x⟩
    · exact of_mem_entriesToJson es hm

end

mutual

theorem ofJson?_toJson : ∀ (v : Literal) {levels : Nat}, v.IsFloatFree → v.IsOrdered →
    v.nesting ≤ levels → ofJson? levels v.toJson = some v
  | null, _, _, _, _ => rfl
  | bool b, _, _, _, _ => rfl
  | int i, _, _, _, _ => Json.literal?_integerText i
  | float x, _, hfloat, _, _ => nomatch hfloat
  | str s, _, _, _, _ => rfl
  | list items, levels, hfloat, hordered, hlevels => by
    rw [nesting] at hlevels
    have hitems : itemsOfJson? (levels - 1) (itemsToJson items) = some items :=
      itemsOfJson?_itemsToJson items hfloat hordered (by omega)
    rw [toJson, ofJson?, if_neg (by omega), hitems]
    rfl
  | map entries, levels, hfloat, hordered, hlevels => by
    rw [nesting] at hlevels
    have hentries : entriesOfJson? (levels - 1) (entriesToJson entries) = some entries :=
      entriesOfJson?_entriesToJson entries hfloat hordered (by omega)
    rw [toJson, ofJson?, if_neg (by omega), hentries, Option.map_some, ofEntries,
      sortEntries_of_keysIncrease hordered.keysIncrease]

theorem itemsOfJson?_itemsToJson : ∀ (items : List Literal) {levels : Nat},
    (list items).IsFloatFree → (list items).IsOrdered → nestingAmong items ≤ levels →
    itemsOfJson? levels (itemsToJson items) = some items
  | [], _, _, _, _ => rfl
  | x :: xs, levels, hfloat, hordered, hlevels => by
    obtain ⟨hxfloat, hxsfloat⟩ := isFloatFree_list_cons.mp hfloat
    obtain ⟨hxordered, hxsordered⟩ := isOrdered_list_cons.mp hordered
    rw [nestingAmong, Nat.max_le] at hlevels
    have hx := ofJson?_toJson x hxfloat hxordered hlevels.1
    have hxs := itemsOfJson?_itemsToJson xs hxsfloat hxsordered hlevels.2
    rw [itemsToJson, itemsOfJson?, hx, hxs]
    rfl

theorem entriesOfJson?_entriesToJson : ∀ (entries : List (String × Literal)) {levels : Nat},
    (map entries).IsFloatFree → (map entries).IsOrdered → nestingEntries entries ≤ levels →
    entriesOfJson? levels (entriesToJson entries) = some entries
  | [], _, _, _, _ => rfl
  | (k, x) :: es, levels, hfloat, hordered, hlevels => by
    obtain ⟨hxfloat, hesfloat⟩ := isFloatFree_map_cons.mp hfloat
    obtain ⟨hxordered, hesordered⟩ := hordered.of_map_cons
    rw [nestingEntries, Nat.max_le] at hlevels
    have hx := ofJson?_toJson x hxfloat hxordered hlevels.1
    have hes := entriesOfJson?_entriesToJson es hesfloat hesordered hlevels.2
    rw [entriesToJson, entriesOfJson?, Option.bind_eq_bind, Option.bind_some, hx, hes]
    rfl

end

end Literal
end TablePhrase
