/-!
# Spellings of hyphenated names

The names of the vocabulary are lower-case words joined by hyphens.  `camelCase` joins the words
without hyphens, each with a capital first letter, which is how diagnostics show a name, and
`lowerAscii` folds the ASCII letters of a text to lower case, for names that are read in any case.
-/

namespace SyntaxLint.Text

/-- Drop the hyphens and capitalise the letter that opens a word; `opening` says whether the
next letter does. -/
def camelChars (opening : Bool) : List Char → List Char
  | [] => []
  | c :: cs =>
    if c = '-' then camelChars true cs
    else (if opening then c.toUpper else c) :: camelChars false cs

/-- The camel-case spelling of a hyphenated name: `for-binding` becomes `ForBinding`. -/
def camelCase (name : String) : String :=
  String.ofList (camelChars true name.toList)

/-- Fold the letters `A` to `Z` to lower case and leave every other character alone. -/
def lowerAscii (text : String) : String :=
  String.ofList (text.toList.map Char.toLower)

end SyntaxLint.Text
