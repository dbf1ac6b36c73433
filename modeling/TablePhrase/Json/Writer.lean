import TablePhrase.Json.Basic

/-!
JSON text. The indented form puts every item and member on a line of its own, two spaces further in
than the line that opens it; the compact form has no blanks.
-/

namespace TablePhrase.Json

def hexDigit (n : Nat) : Char :=
  Nat.digitChar n

def escapeChar (c : Char) : List Char :=
  if c = '"' then ['\\', '"']
  else if c = '\\' then ['\\', '\\']
  else if c = '\x08' then ['\\', 'b']
  else if c = '\x0c' then ['\\', 'f']
  else if c = '\n' then ['\\', 'n']
  else if c = '\r' then ['\\', 'r']
  else if c = '\t' then ['\\', 't']
  else if c.toNat < 0x20 then
    ['\\', 'u', '0', '0', hexDigit (c.toNat / 16), hexDigit (c.toNat % 16)]
  else [c]

def quoted (text : String) : List Char :=
  '"' :: (text.toList.flatMap escapeChar ++ ['"'])

structure Style where
  /-- What stands before an item or member, or before the bracket that closes, at a depth. -/
  line : Nat → List Char
  colon : List Char

def Style.compact : Style :=
  ⟨fun _ => [], [':']⟩

def Style.indented : Style :=
  ⟨fun depth => '\n' :: List.replicate (2 * depth) ' ', [':', ' ']⟩

mutual

def chars (style : Style) (depth : Nat) : Json → List Char
  | null => ['n', 'u', 'l', 'l']
  | bool true => ['t', 'r', 'u', 'e']
  | bool false => ['f', 'a', 'l', 's', 'e']
  | number token => token
  | str text => quoted (text.getD "")
  | arr [] => ['[', ']']
  | arr (x :: xs) =>
    '[' :: (style.line (depth + 1) ++ chars style (depth + 1) x
      ++ itemChars style (depth + 1) xs ++ style.line depth ++ [']'])
  | obj [] => ['\x7b', '\x7d']
  | obj ((name, x) :: ms) =>
    '\x7b' :: (style.line (depth + 1) ++ quoted (name.getD "") ++ style.colon
      ++ chars style (depth + 1) x ++ memberChars style (depth + 1) ms ++ style.line depth
      ++ ['\x7d'])
termination_by structural x => x

def itemChars (style : Style) (depth : Nat) : List Json → List Char
  | [] => []
  | x :: xs => ',' :: (style.line depth ++ chars style depth x ++ itemChars style depth xs)
termination_by structural x => x

def memberChars (style : Style) (depth : Nat) : List (Option String × Json) → List Char
  | [] => []
  | (name, x) :: ms =>
    ',' :: (style.line depth ++ quoted (name.getD "") ++ style.colon ++ chars style depth x
      ++ memberChars style depth ms)
termination_by structural x => x

end

def compact (j : Json) : String :=
  String.ofList (chars .compact 0 j)

def indented (j : Json) : String :=
  String.ofList (chars .indented 0 j)

end TablePhrase.Json
