/-!
# Escaped blanks

A rendering keeps each token on the line it is written to, so the newline, carriage return and tab
of a token are written as a backslash and a letter, and the backslash itself twice.

`escapeChars` writes that form and `unescapeChars` reads it.  Reading is total: a backslash that
opens no known escape stands for itself, and so does one at the very end of the text.
-/

namespace SyntaxLint.Text

/-- The letter that names a blank (or the backslash) after a backslash, if it has one. -/
def escapeLetter? (c : Char) : Option Char :=
  if c = '\\' then some '\\'
  else if c = '\n' then some 'n'
  else if c = '\r' then some 'r'
  else if c = '\t' then some 't'
  else none

/-- The character that a letter after a backslash names, if it names one. -/
def escapedBy? (letter : Char) : Option Char :=
  if letter = '\\' then some '\\'
  else if letter = 'n' then some '\n'
  else if letter = 'r' then some '\r'
  else if letter = 't' then some '\t'
  else none

/-- Write each blank as its escape. -/
def escapeChars : List Char → List Char
  | [] => []
  | c :: cs =>
    match escapeLetter? c with
    | some letter => '\\' :: letter :: escapeChars cs
    | none => c :: escapeChars cs

/-- Read escapes back.  An unknown escape is kept as it stands, both characters of it, and is not
looked at again. -/
def unescapeChars : List Char → List Char
  | [] => []
  | [c] => [c]
  | c :: d :: cs =>
    if c = '\\' then
      match escapedBy? d with
      | some blank => blank :: unescapeChars cs
      | none => '\\' :: d :: unescapeChars cs
    else c :: unescapeChars (d :: cs)

@[simp] theorem escapeChars_nil : escapeChars [] = [] := rfl

@[simp] theorem unescapeChars_nil : unescapeChars [] = [] := rfl

/-- The text with its blanks escaped. -/
def escape (text : String) : String :=
  String.ofList (escapeChars text.toList)

/-- The text with its escapes read back. -/
def unescape (text : String) : String :=
  String.ofList (unescapeChars text.toList)

end SyntaxLint.Text
