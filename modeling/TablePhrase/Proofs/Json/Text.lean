import Mathlib.Data.Option.Basic
import TablePhrase.Json.Reader
import TablePhrase.Json.Writer

/-!
Reading back the strings of a JSON text. Every string is read back, because each character that may
not stand for itself has an escape of its own.
-/

namespace TablePhrase.Json

section String

def isNumbered (c : Char) : Bool :=
  c.toNat < 0x20 && !(['\x08', '\x0c', '\n', '\r', '\t'].contains c)

def Piece.ofChar (c : Char) : Piece :=
  if isNumbered c then .unit c.toNat else .char c

theorem readPieces_unescape {e c : Char} (hunescape : unescape? e = some c) (hunit : e ≠ 'u')
    (rest : List Char) :
    readPieces ('\\' :: e :: rest) =
      (readPieces rest).map fun (pieces, rest) => (.char c :: pieces, rest) := by
  rw [readPieces, hunescape]
  · cases readPieces rest <;> rfl
  · rintro a b c d more rfl
    exact absurd rfl hunit

theorem readPieces_unit {a b c d : Char} {n : Nat} (hunit : unit? a b c d = some n)
    (rest : List Char) :
    readPieces ('\\' :: 'u' :: a :: b :: c :: d :: rest) =
      (readPieces rest).map fun (pieces, rest) => (.unit n :: pieces, rest) := by
  rw [readPieces, hunit]
  cases readPieces rest <;> rfl

theorem readPieces_plain {c : Char} (hquote : c ≠ '"') (hbackslash : c ≠ '\\')
    (hcontrol : 0x20 ≤ c.toNat) (rest : List Char) :
    readPieces (c :: rest) =
      (readPieces rest).map fun (pieces, rest) => (.char c :: pieces, rest) := by
  have hallowed : (c.toNat < 0x20 || c = '\\') = false := by
    simp [hbackslash, hcontrol]
  rw [readPieces]
  · rw [hallowed, if_neg Bool.false_ne_true]
    cases readPieces rest <;> rfl
  · exact hquote
  · exact fun _ _ _ _ _ h _ => hbackslash h
  · exact fun _ _ h _ => hbackslash h

theorem unit?_hexDigit : ∀ n < 0x20,
    unit? '0' '0' (hexDigit (n / 16)) (hexDigit (n % 16)) = some n := by
  decide

theorem readPieces_escapeChar (c : Char) (rest : List Char) :
    readPieces (escapeChar c ++ rest) =
      (readPieces rest).map fun (pieces, rest) => (.ofChar c :: pieces, rest) := by
  by_cases hquote : c = '"'
  · subst hquote
    exact readPieces_unescape rfl (by decide) rest
  by_cases hbackslash : c = '\\'
  · subst hbackslash
    exact readPieces_unescape rfl (by decide) rest
  by_cases hnamed : c ∈ ['\x08', '\x0c', '\n', '\r', '\t']
  · simp only [List.mem_cons, List.not_mem_nil, or_false] at hnamed
    rcases hnamed with rfl | rfl | rfl | rfl | rfl <;>
      exact readPieces_unescape rfl (by decide) rest
  have hne := hnamed
  simp only [List.mem_cons, List.not_mem_nil, or_false, not_or] at hne
  obtain ⟨hbell, hform, hline, hreturn, htab⟩ := hne
  rw [escapeChar, if_neg hquote, if_neg hbackslash, if_neg hbell, if_neg hform, if_neg hline,
    if_neg hreturn, if_neg htab]
  by_cases hcontrol : c.toNat < 0x20
  · have hpiece : Piece.ofChar c = .unit c.toNat := by
      simp [Piece.ofChar, isNumbered, hcontrol, hbell, hform, hline, hreturn, htab]
    rw [if_pos hcontrol, hpiece]
    exact readPieces_unit (unit?_hexDigit _ hcontrol) rest
  · have hpiece : Piece.ofChar c = .char c := by
      simp [Piece.ofChar, isNumbered, hcontrol]
    rw [if_neg hcontrol, hpiece]
    exact readPieces_plain hquote hbackslash (Nat.le_of_not_lt hcontrol) rest

theorem readPieces_escaped (text rest : List Char) :
    readPieces (text.flatMap escapeChar ++ '"' :: rest) = some (text.map .ofChar, rest) := by
  induction text with
  | nil => rw [List.flatMap_nil, List.nil_append, readPieces]; rfl
  | cons c text ih =>
    rw [List.flatMap_cons, List.append_assoc, readPieces_escapeChar, ih]
    rfl

theorem joinPieces_unit {m : Nat} (h : m < 0xD800) (rest : List Piece) :
    joinPieces (.unit m :: rest) = (joinPieces rest).map (Char.ofNat m :: ·) := by
  have hleading : isLeading m = false := by simp [isLeading]; omega
  have htrailing : isTrailing m = false := by simp [isTrailing]; omega
  cases rest with
  | nil => simp [joinPieces, hleading, htrailing]
  | cons p rest =>
    cases p with
    | char c => simp [joinPieces, hleading, htrailing]
    | unit n => simp [joinPieces, hleading, htrailing]

theorem joinPieces_ofChar (text : List Char) : joinPieces (text.map .ofChar) = some text := by
  induction text with
  | nil => rw [List.map_nil, joinPieces]
  | cons c text ih =>
    rw [List.map_cons, Piece.ofChar]
    split
    · next hnumbered =>
      have hcontrol : c.toNat < 0x20 := by
        simp only [isNumbered, Bool.and_eq_true, decide_eq_true_eq] at hnumbered
        exact hnumbered.1
      rw [joinPieces_unit (by omega), ih, Char.ofNat_toNat]
      rfl
    · rw [joinPieces, ih]
      rfl

theorem readString_escaped (s : String) (rest : List Char) :
    readString (s.toList.flatMap escapeChar ++ '"' :: rest) = some (some s, rest) := by
  rw [readString, readPieces_escaped]
  simp [joinPieces_ofChar]

theorem readScalar_quoted (s : String) (rest : List Char) :
    readScalar (quoted s ++ rest) = some (str (some s), rest) := by
  rw [quoted, List.cons_append, List.append_assoc, List.singleton_append]
  show (readString (s.toList.flatMap escapeChar ++ '"' :: rest)).map _ = _
  rw [readString_escaped]
  rfl

end String

end TablePhrase.Json
