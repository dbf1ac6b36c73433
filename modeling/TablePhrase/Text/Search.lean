/-!
Searching and replacing inside a text. Occurrences are taken from left to right and do not overlap.
-/

namespace TablePhrase.Text

def replaceFirst (needle replacement : List Char) : List Char → List Char
  | [] => if needle.isEmpty then replacement else []
  | c :: cs =>
    if needle.isPrefixOf (c :: cs) then replacement ++ (c :: cs).drop needle.length
    else c :: replaceFirst needle replacement cs

/-- Replaces every occurrence of a needle that is not empty. -/
def replaceAll (needle replacement : List Char) : List Char → List Char
  | [] => []
  | c :: cs =>
    if needle.isPrefixOf (c :: cs) then
      replacement ++ replaceAll needle replacement (cs.drop (needle.length - 1))
    else c :: replaceAll needle replacement cs
termination_by text => text.length

def count (needle : List Char) : List Char → Nat
  | [] => 0
  | c :: cs =>
    if needle.isPrefixOf (c :: cs) then count needle (cs.drop (needle.length - 1)) + 1
    else count needle cs
termination_by text => text.length

def occurs (needle : List Char) : List Char → Bool
  | [] => needle.isEmpty
  | c :: cs => needle.isPrefixOf (c :: cs) || occurs needle cs

def splitOn (separator : List Char) : List Char → List (List Char)
  | [] => [[]]
  | c :: cs =>
    if separator.isPrefixOf (c :: cs) then
      [] :: splitOn separator (cs.drop (separator.length - 1))
    else
      match splitOn separator cs with
      | [] => [[c]]
      | part :: parts => (c :: part) :: parts
termination_by text => text.length

def join (separator : String) (parts : List String) : String :=
  String.intercalate separator parts

end TablePhrase.Text
