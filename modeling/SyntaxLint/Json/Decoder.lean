import SyntaxLint.Json.Fault

/-!
# Reading formats

A `Decoder` reads a format from the outline of a text and reports the problem that comes first in
the text, a break of the grammar or a mismatch.  There are decoders for texts, numbers and lists of
texts, for enumerations (`choice`) and for records (`Record.decode`).

A record is written as an object or as the array of its fields.  As an object, each name is judged
when it is read, before its value is looked at: a field given twice is refused, and so is, if the
record is strict, a name that is no field.  What is missing is only known at the closing brace.  As
an array, the fields come in their order.  A record type gives its fields and how to finish a draft
in which some of them are set.
-/

namespace SyntaxLint

/-- A way to read a value of a type from the outline of a text. -/
abbrev Decoder (α : Type) := Outline → Except Fault α

namespace Decoder

/-- A text. -/
def string : Decoder String
  | .scalar (some (.string text)) => .ok text
  | outline => .error (outline.refused .string)

/-- An integer from zero to below a bound. -/
def below (bound : Nat) (wanted : Wanted) : Decoder Nat
  | .scalar (some (.number (.integer value))) =>
    if 0 ≤ value ∧ value < bound then .ok value.toNat
    else .error (.mismatch (.range value wanted))
  | outline => .error (outline.refused wanted)

/-- A line number. -/
def line : Decoder UInt32 := fun outline =>
  (below UInt32.size .line outline).map UInt32.ofNat

/-- A depth bound. -/
def depth : Decoder UInt64 := fun outline =>
  (below UInt64.size .depth outline).map UInt64.ofNat

/-- A list of texts. -/
def strings : Decoder (List String)
  | .array items closed => do
    let texts ← items.mapM string
    if closed then return texts else throw .malformed
  | outline => .error (outline.refused .sequence)

/-- The item of an enumeration that goes by a name. -/
def named {α : Type} (items : List (String × α)) (name : String) : Except Fault α :=
  match items.lookup name with
  | some item => .ok item
  | none => .error (.mismatch (.unknownChoice name (items.map (·.1))))

/-- An item of an enumeration: its name, or an object whose one member has that name and the value
null.  Anything else breaks the grammar of an enumeration. -/
def choice {α : Type} (items : List (String × α)) : Decoder α
  | .scalar (some (.string name)) => named items name
  | .object ((some name, value) :: members) closed => do
    let item ← named items name
    match value with
    | .scalar (some .null) =>
      if members.isEmpty && closed then return item else throw .malformed
    | value => throw (value.refused .unit)
  | _ => .error .malformed

end Decoder

/-! ## Records -/

/-- A field of a record: whether it is set in a draft of the record, and how to set it. -/
structure Field (δ : Type) where
  name : String
  isSet : δ → Bool
  decode : δ → Decoder δ

/-- A field that is read by a decoder and kept in a slot of the draft. -/
def Field.slot {δ β : Type} (name : String) (get : δ → Option β) (set : δ → β → δ)
    (decoder : Decoder β) : Field δ where
  name := name
  isSet draft := (get draft).isSome
  decode draft outline := (decoder outline).map (set draft)

/-- A record type: its name, its fields in order, the draft in which no field is set, how a draft
is finished (naming the first field that it lacks), and whether names that are no fields are
refused. -/
structure Record (δ α : Type) where
  type : String
  fields : List (Field δ)
  blank : δ
  finish : δ → Except String α
  strict : Bool

namespace Record

variable {δ α : Type}

/-- Take one member of an object into a draft. -/
def member (record : Record δ α) (draft : δ) : Option String × Outline → Except Fault δ
  | (some name, value) =>
    match record.fields.find? fun field => field.name = name with
    | some field =>
      if field.isSet draft then .error (.mismatch (.duplicateField name))
      else field.decode draft value
    | none =>
      if record.strict then
        .error (.mismatch (.unknownField name (record.fields.map Field.name)))
      else if value.isWhole then .ok draft
      else .error .malformed
  | (none, _) => .error .malformed

/-- Take the items of an array into a draft, one field after another; `count` items were taken
before. -/
def items (record : Record δ α) (closed : Bool) :
    List (Field δ) → List Outline → δ → Nat → Except Fault α
  | [], _ :: _, _, _ => .error .malformed
  | field :: fields, value :: values, draft, count => do
    let draft ← field.decode draft value
    record.items closed fields values draft (count + 1)
  | _, [], draft, count =>
    if closed then
      match record.finish draft with
      | .ok value => .ok value
      | .error _ => .error (.mismatch (.length count record.type record.fields.length))
    else .error .malformed

/-- Read a record. -/
def decode (record : Record δ α) : Decoder α
  | .array values closed => record.items closed record.fields values record.blank 0
  | .object members closed => do
    let draft ← members.foldlM record.member record.blank
    if closed then
      match record.finish draft with
      | .ok value => return value
      | .error name => throw (.mismatch (.missingField name))
    else throw .malformed
  | outline => .error (outline.refused (.record record.type))

end Record

/-- The value of a slot, or the name of the field that is missing. -/
def slotValue {β : Type} (name : String) : Option β → Except String β
  | some value => .ok value
  | none => .error name

/-- Read a whole text.  What follows the value is looked at last. -/
def Decoder.ofText {α : Type} (decoder : Decoder α) (text : String) : Except Fault α := do
  let document := Document.ofText text
  let value ← decoder document.root
  if document.trailing then throw .malformed else return value

end SyntaxLint
