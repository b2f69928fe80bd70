import SyntaxLint.Text.Shapeless

/-!
# Quoted text

Diagnostics show a text between double quotes.  The quote, the backslash, and the characters NUL,
tab, newline and carriage return are written with a backslash, a character without a visible shape
of its own by its code point in hexadecimal between braces, and everything else as it is.
-/

namespace SyntaxLint.Text

/-- How one character is written between double quotes. -/
def quotedChar (c : Char) : List Char :=
  if c = '"' then ['\\', '"']
  else if c = '\\' then ['\\', '\\']
  else if c = '\n' then ['\\', 'n']
  else if c = '\r' then ['\\', 'r']
  else if c = '\t' then ['\\', 't']
  else if c = '\x00' then ['\\', '0']
  else if isShapeless c then ['\\', 'u', '\x7b'] ++ Nat.toDigits 16 c.toNat ++ ['\x7d']
  else [c]

/-- The text between double quotes. -/
def quoted (text : String) : String :=
  String.ofList ('"' :: text.toList.flatMap quotedChar ++ ['"'])

end SyntaxLint.Text
