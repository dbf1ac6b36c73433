import TablePhrase.Entity.Texts
import TablePhrase.Lifting.Condition
import TablePhrase.Proofs.Text.Pieces
import TablePhrase.Unicode.Word

/-!
The command language: phrases of words and entities with single spaces between them. The structures
carry what makes their texts well formed.
-/

namespace TablePhrase.Phrase

open Lifting (isOperator)

structure Run (p : Char → Bool) where
  chars : List Char
  ne_nil : chars ≠ []
  all : ∀ c ∈ chars, p c = true

def Run.ofText {p : Char → Bool} (text : String)
    (h : (!text.toList.isEmpty && text.toList.all p) = true) : Run p where
  chars := text.toList
  ne_nil := by
    rintro hnil
    rw [hnil] at h
    cases h
  all := List.all_eq_true.mp (Bool.and_eq_true_iff.mp h).2

def isLetterOrDigit (c : Char) : Bool :=
  Unicode.isAlphabetic c || Unicode.isNumber c

def isLabelChar (c : Char) : Bool :=
  c.isAlphanum || c == '_' || c == ' '

/-- Digits, with a minus sign before them or not, and with a point and more digits behind them or
not. -/
structure Numeral where
  negative : Bool
  whole : Run Unicode.isDigit
  fraction : Option (Run Unicode.isDigit)

def Numeral.unsigned (n : Numeral) : List Char :=
  n.whole.chars ++
    match n.fraction with
    | some digits => '.' :: digits.chars
    | none => []

def Numeral.chars (n : Numeral) : List Char :=
  if n.negative then '-' :: n.unsigned else n.unsigned

/-- The text of a value: letters, digits, low lines and spaces, of which neither the first nor the
last is a low line or a space. -/
structure Label where
  chars : List Char
  all : ∀ c ∈ chars, isLabelChar c = true
  first : ∃ c ∈ chars.head?, c.isAlphanum = true
  last : ∃ c ∈ chars.getLast?, c.isAlphanum = true

def Label.quoted (l : Label) : List Char :=
  '"' :: (l.chars ++ ['"'])

inductive Operand
  | quoted (label : Label)
  | bare (run : Run isLetterOrDigit)

def Operand.chars : Operand → List Char
  | quoted label => label.quoted
  | bare run => run.chars

/-- An operator and its operand, with a space between them or not. -/
structure Condition where
  operator : Run isOperator
  isSpaced : Bool
  operand : Operand

def Condition.body (c : Condition) : List Char :=
  (if c.isSpaced then [' '] else []) ++ c.operand.chars

def Condition.chars (c : Condition) : List Char :=
  c.operator.chars ++ c.body

/-- A word, or an entity of one of the kinds. Lists have at least two items. -/
inductive Token
  | word (run : Run Char.isUpper)
  | number (numeral : Numeral)
  | value (label : Label)
  | numberList (first second : Numeral) (more : List Numeral)
  | stringList (first second : Label) (more : List Label)
  | condition (condition : Condition)

namespace Token

def kind? : Token → Option EntityKind
  | word _ => none
  | number _ => some .number
  | value _ => some .value
  | numberList .. => some .numberList
  | stringList .. => some .stringList
  | condition _ => some .condition

def chars : Token → List Char
  | word run => run.chars
  | number numeral => numeral.chars
  | value label => label.quoted
  | numberList first second more =>
    [',', ' '].intercalate ((first :: second :: more).map Numeral.chars)
  | stringList first second more =>
    [',', ' '].intercalate ((first :: second :: more).map Label.quoted)
  | condition c => c.chars

/-- The entity text of the token: values stand without their quotes. -/
def entityChars : Token → List Char
  | value label => label.chars
  | t => t.chars

def shown (lifted : List EntityKind) (t : Token) : List Char :=
  match t.kind? with
  | some kind => if kind ∈ lifted then kind.placeholder.toList else t.chars
  | none => t.chars

end Token

/-- The tokens with single spaces between them, those of some kinds as their placeholders. -/
def render (lifted : List EntityKind) (ts : List Token) : String :=
  Text.join " " (ts.map fun t => String.ofList (t.shown lifted))

def text (ts : List Token) : String :=
  render [] ts

def template (ts : List Token) : String :=
  render EntityKind.groundOrder ts

def entities (ts : List Token) : EntityTexts :=
  .ofFn fun kind =>
    (ts.filter (·.kind? == some kind)).map fun t => String.ofList t.entityChars

theorem toList_render (lifted : List EntityKind) (ts : List Token) :
    (render lifted ts).toList = Text.spaced (Token.shown lifted) ts :=
  Text.toList_join_space _ ts

/-- The characters that delimit entities: operators, quotes and what a quoted text may not hold. -/
def marks : List Char :=
  ['<', '>', '=', '!', '"', '\'', ',', ';', '\x0b']

def HasNoMarks (p : Char → Bool) : Prop :=
  marks.all (!p ·) = true

theorem HasNoMarks.not_mem {p : Char → Bool} (hp : HasNoMarks p) {c : Char} (hc : p c = true) :
    c ∉ marks := by
  intro hmem
  have hfalse := List.all_eq_true.mp hp c hmem
  rw [hc] at hfalse
  cases hfalse

theorem hasNoMarks_isUpper : HasNoMarks Char.isUpper := by
  unfold HasNoMarks
  decide

theorem hasNoMarks_isDigit : HasNoMarks Unicode.isDigit := by
  unfold HasNoMarks
  decide

theorem hasNoMarks_isLetterOrDigit : HasNoMarks isLetterOrDigit := by
  unfold HasNoMarks
  decide

theorem hasNoMarks_isLabelChar : HasNoMarks isLabelChar := by
  unfold HasNoMarks
  decide

structure IsContent (content : List Char) : Prop where
  ne_nil : content ≠ []
  not_mem_marks : ∀ c ∈ content, c ∉ marks

theorem HasNoMarks.isContent {p : Char → Bool} (hp : HasNoMarks p) (run : Run p) :
    IsContent run.chars :=
  ⟨run.ne_nil, fun c hc => hp.not_mem (run.all c hc)⟩

def inQuotes (content : List Char) : List Char :=
  '"' :: (content ++ ['"'])

theorem mem_inQuotes {content : List Char} {c : Char} (h : c ∈ inQuotes content) :
    c = '"' ∨ c ∈ content := by
  rcases List.mem_cons.mp h with h | h
  · exact .inl h
  · rcases List.mem_append.mp h with h | h
    · exact .inr h
    · exact .inl (List.mem_singleton.mp h)

theorem isOperator_of_not_mem_marks {c : Char} (h : c ∉ marks) : isOperator c = false := by
  simp only [marks, List.mem_cons, not_or] at h
  simp [isOperator, h]

def spaces : List Nat :=
  [0x9, 0xA, 0xB, 0xC, 0xD, 0x20, 0x85, 0xA0, 0x1680, 0x2000, 0x2001, 0x2002, 0x2003, 0x2004,
    0x2005, 0x2006, 0x2007, 0x2008, 0x2009, 0x200A, 0x2028, 0x2029, 0x202F, 0x205F, 0x3000]

theorem toNat_mem_spaces {c : Char} (h : Unicode.isSpace c = true) : c.toNat ∈ spaces := by
  simp only [Unicode.isSpace, Bool.or_eq_true, Bool.and_eq_true, decide_eq_true_eq, beq_iff_eq] at h
  simp only [spaces, List.mem_cons, List.not_mem_nil, or_false]
  omega

theorem isLetterOrDigit_spaces : ∀ n ∈ spaces, isLetterOrDigit (Char.ofNat n) = false := by
  decide +kernel

theorem isSpace_of_isLetterOrDigit {c : Char} (h : isLetterOrDigit c = true) :
    Unicode.isSpace c = false := by
  cases hspace : Unicode.isSpace c with
  | false => rfl
  | true =>
    have hfalse := isLetterOrDigit_spaces c.toNat (toNat_mem_spaces hspace)
    rw [Char.ofNat_toNat, h] at hfalse
    cases hfalse

namespace Numeral

theorem exists_unsigned_eq_cons (n : Numeral) :
    ∃ digit tail, n.unsigned = digit :: tail ∧ Unicode.isDigit digit = true := by
  obtain ⟨digit, tail, hwhole⟩ := List.exists_cons_of_ne_nil n.whole.ne_nil
  have hdigit := n.whole.all digit (hwhole ▸ List.mem_cons_self)
  rw [unsigned, hwhole]
  exact ⟨digit, _, rfl, hdigit⟩

theorem mem_unsigned {n : Numeral} {c : Char} (h : c ∈ n.unsigned) :
    c = '.' ∨ Unicode.isDigit c = true := by
  rcases List.mem_append.mp h with h | h
  · exact .inr (n.whole.all c h)
  · split at h
    · next digits _ =>
      rcases List.mem_cons.mp h with rfl | h
      · exact .inl rfl
      · exact .inr (digits.all c h)
    · cases h

theorem mem_chars {n : Numeral} {c : Char} (h : c ∈ n.chars) :
    c = '-' ∨ c = '.' ∨ Unicode.isDigit c = true := by
  unfold chars at h
  split at h
  · rcases List.mem_cons.mp h with rfl | h
    · exact .inl rfl
    · exact .inr (mem_unsigned h)
  · exact .inr (mem_unsigned h)

theorem not_mem_marks {n : Numeral} {c : Char} (h : c ∈ n.chars) : c ∉ marks := by
  rcases mem_chars h with rfl | rfl | h
  · decide
  · decide
  · exact hasNoMarks_isDigit.not_mem h

theorem chars_ne_nil (n : Numeral) : n.chars ≠ [] := by
  obtain ⟨digit, tail, hunsigned, -⟩ := n.exists_unsigned_eq_cons
  unfold chars
  split
  · exact List.cons_ne_nil _ _
  · rw [hunsigned]
    exact List.cons_ne_nil _ _

end Numeral

namespace Label

theorem not_mem_marks {l : Label} {c : Char} (h : c ∈ l.chars) : c ∉ marks :=
  hasNoMarks_isLabelChar.not_mem (l.all c h)

theorem chars_ne_nil (l : Label) : l.chars ≠ [] := by
  obtain ⟨c, hc, -⟩ := l.first
  rintro h
  rw [h] at hc
  cases hc

theorem isContent (l : Label) : IsContent l.chars :=
  ⟨l.chars_ne_nil, fun _ => not_mem_marks⟩

theorem mem_quoted {l : Label} {c : Char} (h : c ∈ l.quoted) : c = '"' ∨ c ∈ l.chars :=
  mem_inQuotes h

end Label

theorem mem_listed {items : List (List Char)} {c : Char} (h : c ∈ [',', ' '].intercalate items) :
    c = ',' ∨ c = ' ' ∨ ∃ item ∈ items, c ∈ item := by
  cases items with
  | nil => cases h
  | cons first items =>
    rw [Text.intercalate_cons, List.mem_append, List.mem_flatMap] at h
    rcases h with h | ⟨item, hitem, h⟩
    · exact .inr (.inr ⟨first, List.mem_cons_self, h⟩)
    · rcases List.mem_cons.mp h with h | h
      · exact .inl h
      · rcases List.mem_cons.mp h with h | h
        · exact .inr (.inl h)
        · exact .inr (.inr ⟨item, List.mem_cons_of_mem first hitem, h⟩)

end TablePhrase.Phrase
