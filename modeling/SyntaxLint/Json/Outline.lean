import SyntaxLint.Json.Lexeme

/-!
# What a text says before it stops being JSON

A reader that reports the first problem of a text has to see what stands before the problem, also
where the text as a whole is no JSON.  An `Outline` is a JSON value as far as the text gives it: a
container may be open at its end, and a value may be missing where the text breaks off.  From an
outline a reader of a format decides, member by member, whether a break of the grammar or a misfit
of its own comes first.

`Document.ofText` reads a text into an outline in one pass, with the containers that are still
open on a stack.  `Outline.toJson?` is the value of an outline that has no break in it.
-/

namespace SyntaxLint

/-- A JSON value as far as a text gives it. -/
inductive Outline where
  /-- A scalar, with its value if it stands for one. -/
  | scalar (value : Option Scalar)
  /-- An array with the items that could be read, and whether its closing bracket was reached. -/
  | array (items : List Outline) (closed : Bool)
  /-- An object with the members that could be read, each under its name if the name stands for a
  text, and whether its closing brace was reached. -/
  | object (members : List (Option String × Outline)) (closed : Bool)
  /-- Nothing: the text breaks off where a value is due. -/
  | missing

/-- A text as an outline of the value it starts with, and whether anything but blanks follows. -/
structure Document where
  root : Outline
  trailing : Bool

namespace Outline

/-! ## Outlines without a break -/

mutual

/-- Whether the text goes through to the end of the value without a break of the grammar.  Scalars
and names that stand for nothing are let pass. -/
def isWhole : Outline → Bool
  | .scalar _ => true
  | .array items closed => closed && areWhole items
  | .object members closed => closed && membersAreWhole members
  | .missing => false

/-- Whether every item is whole. -/
def areWhole : List Outline → Bool
  | [] => true
  | item :: items => item.isWhole && areWhole items

/-- Whether the value of every member is whole. -/
def membersAreWhole : List (Option String × Outline) → Bool
  | [] => true
  | (_, value) :: members => value.isWhole && membersAreWhole members

end

mutual

/-- The value of an outline in which nothing is open, missing or without value. -/
def toJson? : Outline → Option Json
  | .scalar (some value) => some (.scalar value)
  | .array items true => (itemsToJson? items).map .array
  | .object members true => (membersToJson? members).map .object
  | _ => none

/-- The values of the items of an array. -/
def itemsToJson? : List Outline → Option (List Json)
  | [] => some []
  | item :: items => do
    let value ← item.toJson?
    let values ← itemsToJson? items
    return value :: values

/-- The values of the members of an object. -/
def membersToJson? : List (Option String × Outline) → Option (List (String × Json))
  | [] => some []
  | (some name, outline) :: members => do
    let value ← outline.toJson?
    let values ← membersToJson? members
    return (name, value) :: values
  | (none, _) :: _ => none

end

end Outline

/-! ## Reading a text -/

/-- A container that is open, with its contents so far in reverse order. -/
inductive Frame where
  /-- An array. -/
  | array (items : List Outline)
  /-- An object between two members. -/
  | object (members : List (Option String × Outline))
  /-- An object within the member of this name. -/
  | member (members : List (Option String × Outline)) (name : Option String)

namespace Frame

/-- The container with a value put where one is due. -/
def put : Frame → Outline → Frame
  | .array items, value => .array (value :: items)
  | .object members, _ => .object members
  | .member members name, value => .object ((name, value) :: members)

/-- The container as it stands when the text breaks off. -/
def cut : Frame → Outline
  | .array items => .array items.reverse false
  | .object members => .object members.reverse false
  | .member members name => .object ((name, .missing) :: members).reverse false

end Frame

/-- The outline of a text that breaks off inside these containers, the innermost first. -/
def Outline.ofFrames : List Frame → Outline
  | [] => .missing
  | frame :: outer => outer.foldl (fun value frame => (frame.put value).cut) frame.cut

/-- What may come next in a text. -/
inductive Due where
  /-- A value. -/
  | value
  /-- A value or the end of the array just opened. -/
  | firstItem
  /-- A name or the end of the object just opened. -/
  | firstName
  /-- A name. -/
  | name
  /-- The colon after a name. -/
  | colon
  /-- After a value: a comma or the end of the container. -/
  | separator
  deriving DecidableEq

/-- The blanks that may stand between the parts of a JSON text. -/
def isJsonBlank (c : Char) : Bool :=
  c = ' ' || c = '\t' || c = '\n' || c = '\r'

/-- A text without its leading blanks. -/
def skipBlanks (cs : List Char) : List Char :=
  cs.dropWhile isJsonBlank

theorem skipBlanks_length_le (cs : List Char) : (skipBlanks cs).length ≤ cs.length :=
  Lexeme.length_dropWhile_le _ _

namespace Document

/-- What is known when the text breaks off inside these containers. -/
def broken (frames : List Frame) : Document :=
  ⟨.ofFrames frames, false⟩

mutual

/-- Read on inside the open containers, the innermost first. -/
def read (frames : List Frame) (due : Due) (cs : List Char) : Document :=
  match h : skipBlanks cs with
  | [] => broken frames
  | c :: rest =>
    have : rest.length < cs.length := by
      have := skipBlanks_length_le cs
      simp only [h, List.length_cons] at this
      omega
    readAt frames due c rest
termination_by 4 * cs.length

/-- Read on at a character that is no blank. -/
def readAt (frames : List Frame) (due : Due) (c : Char) (rest : List Char) : Document :=
  match due, frames with
  | .firstItem, .array items :: outer =>
    if c = ']' then deliver outer (.array items.reverse true) rest
    else readValue (.array items :: outer) c rest
  | .value, frames => readValue frames c rest
  | .firstName, .object members :: outer =>
    if c = '\x7d' then deliver outer (.object members.reverse true) rest
    else if c = '"' then readName members outer rest
    else broken (.object members :: outer)
  | .name, .object members :: outer =>
    if c = '"' then readName members outer rest else broken (.object members :: outer)
  | .colon, frames => if c = ':' then read frames .value rest else broken frames
  | .separator, .array items :: outer =>
    if c = ',' then read (.array items :: outer) .value rest
    else if c = ']' then deliver outer (.array items.reverse true) rest
    else broken (.array items :: outer)
  | .separator, .object members :: outer =>
    if c = ',' then read (.object members :: outer) .name rest
    else if c = '\x7d' then deliver outer (.object members.reverse true) rest
    else broken (.object members :: outer)
  | _, frames => broken frames
termination_by 4 * rest.length + 3

/-- Read the value that starts with a character. -/
def readValue (frames : List Frame) (c : Char) (rest : List Char) : Document :=
  if c = '[' then read (.array [] :: frames) .firstItem rest
  else if c = '\x7b' then read (.object [] :: frames) .firstName rest
  else
    match h : Lexeme.scalar? (c :: rest) with
    | none => broken frames
    | some (value, after) =>
      have : after.length < rest.length + 1 := by simpa using Lexeme.scalar?_length h
      deliver frames (.scalar value) after
termination_by 4 * rest.length + 2

/-- Read a name after its opening quote, as the next member of an object. -/
def readName (members : List (Option String × Outline)) (outer : List Frame) (cs : List Char) :
    Document :=
  match h : Lexeme.string? cs with
  | none => broken (.object members :: outer)
  | some (name, rest) =>
    have : rest.length < cs.length := Lexeme.string?_length h
    read (.member members name :: outer) .colon rest
termination_by 4 * cs.length

/-- Put a finished value into the innermost open container and read on; the value is the whole
document if no container is open. -/
def deliver (frames : List Frame) (value : Outline) (cs : List Char) : Document :=
  match frames with
  | [] => ⟨value, !(skipBlanks cs).isEmpty⟩
  | frame :: outer => read (frame.put value :: outer) .separator cs
termination_by 4 * cs.length + 1

end

/-! ## One step of reading -/

theorem read_of_cons {frames : List Frame} {due : Due} {cs : List Char} {c : Char}
    {rest : List Char} (h : skipBlanks cs = c :: rest) :
    read frames due cs = readAt frames due c rest := by
  rw [read]
  split
  · simp_all
  · next h' =>
    rw [h] at h'
    injection h' with hc hrest
    rw [hc, hrest]

/-- A character that is no blank is what reading goes on at. -/
theorem read_cons {frames : List Frame} {due : Due} {c : Char} {rest : List Char}
    (h : isJsonBlank c = false) : read frames due (c :: rest) = readAt frames due c rest :=
  read_of_cons (by simp [skipBlanks, h])

/-- A scalar that can be read is handed on. -/
theorem readValue_of_scalar {frames : List Frame} {c : Char} {rest after : List Char}
    {value : Option Scalar} (harray : c ≠ '[') (hobject : c ≠ '\x7b')
    (h : Lexeme.scalar? (c :: rest) = some (value, after)) :
    readValue frames c rest = deliver frames (.scalar value) after := by
  rw [readValue, if_neg harray, if_neg hobject]
  split <;> simp_all

/-- A name that can be read opens the member it names. -/
theorem readName_of_string {members : List (Option String × Outline)} {outer : List Frame}
    {cs rest : List Char} {name : Option String} (h : Lexeme.string? cs = some (name, rest)) :
    readName members outer cs = read (.member members name :: outer) .colon rest := by
  rw [readName]
  split <;> simp_all

/-- A text read as far as it is JSON. -/
def ofText (text : String) : Document :=
  read [] .value text.toList

end Document

end SyntaxLint
