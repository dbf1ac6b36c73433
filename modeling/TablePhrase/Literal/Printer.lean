import TablePhrase.Decimal.Layout
import TablePhrase.Literal.Basic
import TablePhrase.Text.Quoted

/-!
Literals as source text. `code` is the value written out; `raw` leaves a string without quotes, for
the places where its text is an expression.
-/

namespace TablePhrase

def integerText (i : Int) : List Char :=
  if i < 0 then '-' :: Decimal.digits i.natAbs else Decimal.digits i.natAbs

namespace Literal

mutual

def chars : Literal → List Char
  | null => ['N', 'o', 'n', 'e']
  | bool true => ['T', 'r', 'u', 'e']
  | bool false => ['F', 'a', 'l', 's', 'e']
  | int i => integerText i.toInt
  | float x => Decimal.plainText x
  | str s => Text.quote s.toList
  | list items => '[' :: (itemChars items ++ [']'])
  | map entries => '{' :: (entryChars entries ++ ['}'])
termination_by structural x => x

def itemChars : List Literal → List Char
  | [] => []
  | x :: xs => chars x ++ moreItemChars xs
termination_by structural x => x

def moreItemChars : List Literal → List Char
  | [] => []
  | x :: xs => ',' :: ' ' :: (chars x ++ moreItemChars xs)
termination_by structural x => x

def entryChars : List (String × Literal) → List Char
  | [] => []
  | (k, v) :: es => Text.quote k.toList ++ ':' :: ' ' :: (chars v ++ moreEntryChars es)
termination_by structural x => x

def moreEntryChars : List (String × Literal) → List Char
  | [] => []
  | (k, v) :: es =>
    ',' :: ' ' :: (Text.quote k.toList ++ ':' :: ' ' :: (chars v ++ moreEntryChars es))
termination_by structural x => x

end

def code (v : Literal) : String :=
  String.ofList v.chars

def raw : Literal → String
  | str s => s
  | v => v.code

end Literal
end TablePhrase
