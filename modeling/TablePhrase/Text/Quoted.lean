import TablePhrase.Unicode.Printable

/-!
Texts between quotes. In the generated code a backslash, the quote itself and the three line and
tab controls are escaped, and every other character stands for itself. A diagnostic shows controls
by name or code point, and only printable characters as themselves.
-/

namespace TablePhrase.Text

def escapeChar (quote c : Char) : List Char :=
  if c = '\\' then ['\\', '\\']
  else if c = '\n' then ['\\', 'n']
  else if c = '\r' then ['\\', 'r']
  else if c = '\t' then ['\\', 't']
  else if c = quote then ['\\', c]
  else [c]

def escape (quote : Char) (text : List Char) : List Char :=
  text.flatMap (escapeChar quote)

def quoteWith (quote : Char) (text : List Char) : List Char :=
  quote :: (escape quote text ++ [quote])

/-- The quote of a string value: the double quote where that saves escaping a single one. -/
def preferredQuote (text : List Char) : Char :=
  if text.contains '\'' && !text.contains '"' then '"' else '\''

def quote (text : List Char) : List Char :=
  quoteWith (preferredQuote text) text

def hexCode (c : Char) : List Char :=
  Nat.toDigits 16 c.toNat

def showChar (c : Char) : List Char :=
  if c = '\x00' then ['\\', '0']
  else if c = '\t' then ['\\', 't']
  else if c = '\r' then ['\\', 'r']
  else if c = '\n' then ['\\', 'n']
  else if c = '"' || c = '\\' then ['\\', c]
  else if Unicode.isPrintable c then [c]
  else '\\' :: 'u' :: '\x7b' :: (hexCode c ++ ['\x7d'])

def showQuoted (text : List Char) : List Char :=
  '"' :: (text.flatMap showChar ++ ['"'])

end TablePhrase.Text
