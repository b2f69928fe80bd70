import SyntaxLint.Json.Decoder
import SyntaxLint.Tree.Node

/-!
# Trees as they arrive

A parser hands over a syntax tree as a JSON document: a rule element is an object with the name of
a rule, a line and its children, a token an object with its text and a line.  `RawElement` is such
a document, a tree labelled by rule names.

`RawElement.ofJson?` reads an element from a JSON value.  An object is taken for a rule element if
it can be one, and else for a token if it can be one.  Members with other names do not matter, nor
does the order of the members, but a member that matters must not be repeated.
`RawElement.ofText` reads a whole text, and can limit how deeply its containers may be nested.

`RawElement.typed` replaces the rule names by kinds, which fails at the first name, in pre-order,
that is not in the vocabulary.  `Tree.untyped` goes back.
-/

namespace SyntaxLint

/-- A syntax tree, or a lone token, labelled by rule names. -/
abbrev RawElement := Element String

namespace RawElement

/-! ## As JSON values -/

/-- The JSON object of a token. -/
def tokenJson (token : Token) : Json :=
  .object [("token", .string token.text), ("line", .nat token.line.toNat)]

/-- The JSON object of a rule element, given its children as JSON values. -/
def ruleJson (rule : String) (line : UInt32) (children : List Json) : Json :=
  .object [("rule", .string rule), ("line", .nat line.toNat), ("children", .array children)]

/-- The JSON values of a sequence of elements. -/
def forestJson : Forest String → List Json
  | .nil => []
  | .token t rest => tokenJson t :: forestJson rest
  | .node rule line inner rest => ruleJson rule line (forestJson inner) :: forestJson rest

/-- The JSON value of an element. -/
def toJson : RawElement → Json
  | .token token => tokenJson token
  | .node tree => ruleJson tree.kind tree.line (forestJson tree.elements)

/-! ## From JSON values -/

/-- The one entry of a list, if there is exactly one and it is not void. -/
def only? {α : Type} : List (Option α) → Option α
  | [entry] => entry
  | _ => none

/-- The values of all members of a name. -/
def valuesOf (name : String) (members : List (String × Json)) : List Json :=
  (members.filter fun member => member.1 = name).map fun member => member.2

/-- The text of a JSON string. -/
def text? : Json → Option String
  | .scalar (.string text) => some text
  | _ => none

/-- The line number of a JSON integer in range. -/
def line? : Json → Option UInt32
  | .scalar (.number (.integer value)) =>
    if 0 ≤ value ∧ value < UInt32.size then some (UInt32.ofNat value.toNat) else none
  | _ => none

/-- The text in the one member of a name. -/
def textOf? (name : String) (members : List (String × Json)) : Option String :=
  only? ((valuesOf name members).map text?)

/-- The line in the one member named `line`. -/
def lineOf? (members : List (String × Json)) : Option UInt32 :=
  only? ((valuesOf "line" members).map line?)

/-- The children of a rule element, given what each member named `children` holds: none at all if
there is no such member. -/
def childrenOf? : List (Option (Forest String)) → Option (Forest String)
  | [] => some .nil
  | entries => only? entries

/-- A rule element from the members of an object, given what its members named `children` hold. -/
def rule? (members : List (String × Json)) (children : List (Option (Forest String))) :
    Option RawElement := do
  let rule ← textOf? "rule" members
  let line ← lineOf? members
  let elements ← childrenOf? children
  return .node ⟨rule, line, elements⟩

/-- A token from the members of an object. -/
def token? (members : List (String × Json)) : Option RawElement := do
  let text ← textOf? "token" members
  let line ← lineOf? members
  return .token ⟨text, line⟩

mutual

/-- The element that a JSON value stands for. -/
def ofJson? : Json → Option RawElement
  | .object members => (rule? members (childrenEntries members)).or (token? members)
  | _ => none

/-- The elements that the items of a JSON array stand for. -/
def forest? : Json → Option (Forest String)
  | .array items => items? items
  | _ => none

/-- The elements that JSON values stand for. -/
def items? : List Json → Option (Forest String)
  | [] => some .nil
  | item :: items => do
    let element ← ofJson? item
    let rest ← items? items
    return .cons element rest

/-- What each member named `children` holds. -/
def childrenEntries : List (String × Json) → List (Option (Forest String))
  | [] => []
  | (name, value) :: members =>
    if name = "children" then forest? value :: childrenEntries members
    else childrenEntries members

end

/-! ## From texts -/

/-- How many containers may be nested where nesting is limited. -/
def nestingLimit : Nat := 127

/-- Whether a depth of nesting is within a limit, if there is one. -/
def withinLimit (limit : Option Nat) (depth : Nat) : Bool :=
  limit.all (depth ≤ ·)

/-- Read an element.  The whole value has to be JSON before it is looked at. -/
def decoder (limit : Option Nat) : Decoder RawElement := fun outline =>
  match outline.toJson? with
  | none => .error .malformed
  | some value =>
    if withinLimit limit value.depth then
      match ofJson? value with
      | some element => .ok element
      | none => .error (.mismatch .noElement)
    else .error .malformed

/-- Read the element of a text. -/
def ofText (limit : Option Nat) (text : String) : Except Fault RawElement :=
  (decoder limit).ofText text

end RawElement

/-! ## Kinds -/

/-- The JSON string of a kind. -/
def Kind.toJson (kind : Kind) : Json :=
  .string kind.name

/-- Read a kind. -/
def Kind.decoder : Decoder Kind :=
  Decoder.choice (Kind.all.map fun kind => (kind.name, kind))

/-! ## Typing -/

/-- Why a document is no typed tree. -/
inductive LoadError where
  | unknownRule (rule : String) (line : UInt32)
  | tokenRoot (line : UInt32)
  | invalidJson (fault : Fault)
  deriving DecidableEq

/-- The wording of a tree error. -/
def LoadError.message : LoadError → String
  | .unknownRule rule line => "unknown grammar rule '" ++ rule ++ "' at line " ++ toString line
  | .tokenRoot line =>
    "raw tree root at line " ++ toString line ++ " is a token, expected a rule node"
  | .invalidJson fault => "invalid raw tree JSON: " ++ fault.message

/-- The kind of a rule name on a line. -/
def kindOfRule (rule : String) (line : UInt32) : Except LoadError Kind :=
  match Kind.ofName? rule with
  | some kind => .ok kind
  | none => .error (.unknownRule rule line)

/-- The sequence of elements with kinds in place of rule names. -/
def Forest.typed : Forest String → Except LoadError (Forest Kind)
  | .nil => .ok .nil
  | .token t rest => do
    let rest ← rest.typed
    return .token t rest
  | .node rule line inner rest => do
    let kind ← kindOfRule rule line
    let inner ← inner.typed
    let rest ← rest.typed
    return .node kind line inner rest

/-- The tree with kinds in place of rule names. -/
def RawElement.typed : RawElement → Except LoadError Node
  | .token token => .error (.tokenRoot token.line)
  | .node tree => do
    let kind ← kindOfRule tree.kind tree.line
    let elements ← tree.elements.typed
    return ⟨kind, tree.line, elements⟩

/-- The sequence of elements with rule names in place of kinds. -/
def Forest.untyped : Forest Kind → Forest String
  | .nil => .nil
  | .token t rest => .token t rest.untyped
  | .node kind line inner rest => .node kind.name line inner.untyped rest.untyped

/-- The tree with rule names in place of kinds, which is how it would arrive. -/
def Tree.untyped (node : Node) : RawElement :=
  .node ⟨node.kind.name, node.line, node.elements.untyped⟩

/-- The typed tree of a document, whose nesting is not limited. -/
def nodeOfText (text : String) : Except LoadError Node := do
  let element ← (RawElement.ofText none text).mapError .invalidJson
  RawElement.typed element

end SyntaxLint
