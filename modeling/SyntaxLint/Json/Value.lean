/-!
# JSON values and their compact text

`Json` is a value of the JSON data format.  An object is the list of its members in the order they
were written, and a name may occur in it more than once: what a repeated name means is for the
reader of the object to say.  A number is an integer if it was written without fraction and
exponent and fits 64 bits, and a real, kept as the decimal `mantissa * 10 ^ exponent`, otherwise.

`Json.compact` writes a value without any blanks.  Inside a string only the quote, the backslash
and the characters below U+0020 are escaped.
-/

namespace SyntaxLint

/-- A number of a JSON text. -/
inductive Number where
  | integer (value : Int)
  | real (mantissa exponent : Int)
  deriving DecidableEq

/-- A JSON value that is no container. -/
inductive Scalar where
  | null
  | bool (value : Bool)
  | number (value : Number)
  | string (text : String)
  deriving DecidableEq

/-- A JSON value. -/
inductive Json where
  | scalar (value : Scalar)
  | array (items : List Json)
  | object (members : List (String × Json))

namespace Json

/-- The JSON string of a text. -/
def string (text : String) : Json := .scalar (.string text)

/-- The JSON number of a natural number. -/
def nat (n : Nat) : Json := .scalar (.number (.integer n))

/-! ## Nesting -/

mutual

/-- How many containers, one inside another, a value consists of at most. -/
def depth : Json → Nat
  | .scalar _ => 0
  | .array items => itemsDepth items + 1
  | .object members => membersDepth members + 1

/-- The greatest depth of the items of an array. -/
def itemsDepth : List Json → Nat
  | [] => 0
  | item :: items => max item.depth (itemsDepth items)

/-- The greatest depth of the members of an object. -/
def membersDepth : List (String × Json) → Nat
  | [] => 0
  | (_, value) :: members => max value.depth (membersDepth members)

end

/-! ## Compact text -/

/-- The two hexadecimal digits of a number below 256. -/
def hexPair (n : Nat) : List Char :=
  [Nat.digitChar (n / 16), Nat.digitChar (n % 16)]

/-- How one character is written inside a JSON string. -/
def stringChar (c : Char) : List Char :=
  if c = '"' then ['\\', '"']
  else if c = '\\' then ['\\', '\\']
  else if c = '\x08' then ['\\', 'b']
  else if c = '\x0c' then ['\\', 'f']
  else if c = '\n' then ['\\', 'n']
  else if c = '\r' then ['\\', 'r']
  else if c = '\t' then ['\\', 't']
  else if c.toNat < 0x20 then ['\\', 'u', '0', '0'] ++ hexPair c.toNat
  else [c]

/-- A text as a JSON string, with its quotes. -/
def stringChars (text : String) : List Char :=
  '"' :: text.toList.flatMap stringChar ++ ['"']

/-- An integer in decimal. -/
def integerChars (n : Int) : List Char :=
  if n < 0 then '-' :: Nat.toDigits 10 n.natAbs else Nat.toDigits 10 n.natAbs

/-- A number; a real is written with its exponent, which keeps it apart from the integers. -/
def numberChars : Number → List Char
  | .integer n => integerChars n
  | .real mantissa exponent => integerChars mantissa ++ 'e' :: integerChars exponent

/-- A value that is no container. -/
def scalarChars : Scalar → List Char
  | .null => ['n', 'u', 'l', 'l']
  | .bool true => ['t', 'r', 'u', 'e']
  | .bool false => ['f', 'a', 'l', 's', 'e']
  | .number n => numberChars n
  | .string text => stringChars text

mutual

/-- The compact text of a value, written in front of a text. -/
def compactOnto : Json → List Char → List Char
  | .scalar value, after => scalarChars value ++ after
  | .array [], after => '[' :: ']' :: after
  | .array (item :: items), after => '[' :: item.compactOnto (itemsOnto items after)
  | .object [], after => '\x7b' :: '\x7d' :: after
  | .object ((name, value) :: members), after =>
    '\x7b' :: stringChars name ++ ':' :: value.compactOnto (membersOnto members after)

/-- The items of an array after its first one, with the closing bracket. -/
def itemsOnto : List Json → List Char → List Char
  | [], after => ']' :: after
  | item :: items, after => ',' :: item.compactOnto (itemsOnto items after)

/-- The members of an object after its first one, with the closing brace. -/
def membersOnto : List (String × Json) → List Char → List Char
  | [], after => '\x7d' :: after
  | (name, value) :: members, after =>
    ',' :: stringChars name ++ ':' :: value.compactOnto (membersOnto members after)

end

/-- The compact text of a value. -/
def compact (value : Json) : String :=
  String.ofList (value.compactOnto [])

end Json

end SyntaxLint
