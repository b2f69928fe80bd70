import SyntaxLint.Json.Outline
import SyntaxLint.Text.Quoted

/-!
# What can be wrong with a JSON text

A text that is to be read as some format is at fault either because it is no JSON (`malformed`) or
because the JSON does not fit the format (`mismatch`).  A mismatch says what was seen and what the
format wants there (`Mismatch.message`); a malformed text is only said to be malformed.
-/

namespace SyntaxLint

/-- A JSON value as a mismatch names it. -/
inductive Seen where
  | null
  | boolean (value : Bool)
  | integer (value : Int)
  | real
  | string (text : String)
  | sequence
  | map
  deriving DecidableEq

/-- What a format wants in some place. -/
inductive Wanted where
  | string
  | sequence
  /-- A depth bound, a number of 64 bits. -/
  | depth
  /-- A line number, a number of 32 bits. -/
  | line
  /-- The empty value of a bare name. -/
  | unit
  /-- A record of some type. -/
  | record (type : String)
  deriving DecidableEq

/-- How a JSON text fails to fit a format. -/
inductive Mismatch where
  | type (seen : Seen) (wanted : Wanted)
  | range (value : Int) (wanted : Wanted)
  | length (items : Nat) (type : String) (fields : Nat)
  | unknownField (name : String) (known : List String)
  | duplicateField (name : String)
  | missingField (name : String)
  | unknownChoice (name : String) (known : List String)
  /-- A value that is neither a rule element nor a token. -/
  | noElement
  deriving DecidableEq

/-- What is wrong with a text. -/
inductive Fault where
  | malformed
  | mismatch (cause : Mismatch)
  deriving DecidableEq

/-- The words for a value that was seen.  A real is named without its digits. -/
def Seen.describe : Seen → String
  | .null => "null"
  | .boolean value => "boolean `" ++ (if value then "true" else "false") ++ "`"
  | .integer value => "integer `" ++ toString value ++ "`"
  | .real => "floating point number"
  | .string text => "string " ++ Text.quoted text
  | .sequence => "sequence"
  | .map => "map"

/-- The words for what a format wants. -/
def Wanted.describe : Wanted → String
  | .string => "a string"
  | .sequence => "a sequence"
  | .depth => "usize"
  | .line => "u32"
  | .unit => "unit"
  | .record type => "struct " ++ type

/-- A name between backquotes. -/
def tickedName (name : String) : String :=
  "`" ++ name ++ "`"

/-- The words for a list of names of which one was wanted. -/
def oneOfNames : List String → String
  | [a] => tickedName a
  | [a, b] => tickedName a ++ " or " ++ tickedName b
  | names => "one of " ++ ", ".intercalate (names.map tickedName)

/-- The wording of a mismatch. -/
def Mismatch.message : Mismatch → String
  | .type seen wanted => "invalid type: " ++ seen.describe ++ ", expected " ++ wanted.describe
  | .range value wanted =>
    "invalid value: " ++ (Seen.integer value).describe ++ ", expected " ++ wanted.describe
  | .length items record fields =>
    "invalid length " ++ toString items ++ ", expected " ++ (Wanted.record record).describe
      ++ " with " ++ toString fields ++ " elements"
  | .unknownField name known =>
    "unknown field " ++ tickedName name ++ ", expected " ++ oneOfNames known
  | .duplicateField name => "duplicate field " ++ tickedName name
  | .missingField name => "missing field " ++ tickedName name
  | .unknownChoice name known =>
    "unknown variant " ++ tickedName name ++ ", expected " ++ oneOfNames known
  | .noElement => "data did not match any variant of untagged enum RawElement"

/-- The wording of a fault. -/
def Fault.message : Fault → String
  | .malformed => "the text is not JSON"
  | .mismatch cause => cause.message

/-- How a mismatch names a scalar. -/
def Scalar.seen : Scalar → Seen
  | .null => .null
  | .bool value => .boolean value
  | .number (.integer value) => .integer value
  | .number (.real _ _) => .real
  | .string text => .string text

/-- The fault of a value that stands where something else is wanted.  A scalar is read through
before it is refused, a container is refused at its opening bracket. -/
def Outline.refused (outline : Outline) (wanted : Wanted) : Fault :=
  match outline with
  | .scalar (some value) => .mismatch (.type value.seen wanted)
  | .array _ _ => .mismatch (.type .sequence wanted)
  | .object _ _ => .mismatch (.type .map wanted)
  | .scalar none | .missing => .malformed

end SyntaxLint
