import SyntaxLint.Json.Decoder
import SyntaxLint.Text.Words

/-!
# Rules

A rule is identified by its `RuleKey`, the repository it comes from and its name in there.  A
`RuleInfo` is what a check says of the rule it implements, and `RuleMetadata` is that together
with the key it is registered under.  Keys and metadata are written as JSON and read back.
-/

namespace SyntaxLint

/-! ## Priorities -/

/-- How much a violation of a rule matters, least first. -/
inductive Priority where
  | info | minor | major | critical | blocker
  deriving DecidableEq

namespace Priority

/-- Every priority, least first. -/
def all : List Priority := [.info, .minor, .major, .critical, .blocker]

/-- The name of a priority. -/
def name : Priority → String
  | .info => "info"
  | .minor => "minor"
  | .major => "major"
  | .critical => "critical"
  | .blocker => "blocker"

/-- The priority of a rule that says nothing of it. -/
def default : Priority := .major

/-- The priority of a name in any case of its ASCII letters. -/
def ofName? (text : String) : Option Priority :=
  all.find? fun priority => priority.name = Text.lowerAscii text

/-- The place of a priority, least first. -/
def index (priority : Priority) : Nat :=
  all.idxOf priority

/-- The camel-case spelling of a priority's name. -/
def camelName (priority : Priority) : String :=
  Text.camelCase priority.name

instance : Ord Priority := ⟨fun a b => compare a.index b.index⟩

/-- The JSON string of a priority. -/
def toJson (priority : Priority) : Json :=
  .string priority.name

/-- Read a priority, whose name has to be spelled exactly. -/
def decoder : Decoder Priority :=
  Decoder.choice (all.map fun priority => (priority.name, priority))

end Priority

/-! ## Keys -/

/-- What identifies a rule. -/
structure RuleKey where
  repository : String
  rule : String
  deriving DecidableEq

namespace RuleKey

/-- The displayed form of a key. -/
def display (key : RuleKey) : String :=
  key.repository ++ ":" ++ key.rule

/-- A key as diagnostics show it. -/
def describe (key : RuleKey) : String :=
  "RuleKey \x7b repository: " ++ Text.quoted key.repository ++ ", rule: "
    ++ Text.quoted key.rule ++ " \x7d"

/-- Keys are ordered by repository, then by rule. -/
instance : Ord RuleKey :=
  ⟨fun a b => (compare a.repository b.repository).then (compare a.rule b.rule)⟩

/-- The JSON object of a key. -/
def toJson (key : RuleKey) : Json :=
  .object [("repository", .string key.repository), ("rule", .string key.rule)]

/-- A key some of whose parts are known. -/
structure Draft where
  repository : Option String
  rule : Option String

/-- How keys are written. -/
def record : Record Draft RuleKey where
  type := "RuleKey"
  fields :=
    [.slot "repository" Draft.repository (fun d text => { d with repository := some text })
      Decoder.string,
     .slot "rule" Draft.rule (fun d text => { d with rule := some text }) Decoder.string]
  blank := ⟨none, none⟩
  finish draft := do
    let repository ← slotValue "repository" draft.repository
    let rule ← slotValue "rule" draft.rule
    return ⟨repository, rule⟩
  strict := false

/-- Read a key. -/
def decoder : Decoder RuleKey := record.decode

end RuleKey

/-! ## Definitions and metadata -/

/-- What a check says of its rule. -/
structure RuleInfo where
  rule : String
  name : String
  description : String
  priority : Priority
  deriving DecidableEq

/-- What is known of a registered rule. -/
structure RuleMetadata where
  key : RuleKey
  name : String
  description : String
  priority : Priority
  deriving DecidableEq

namespace RuleMetadata

/-- The metadata of a rule in a repository. -/
def ofDefinition (repository : String) (definition : RuleInfo) : RuleMetadata :=
  ⟨⟨repository, definition.rule⟩, definition.name, definition.description, definition.priority⟩

/-- The JSON object of a rule's metadata. -/
def toJson (metadata : RuleMetadata) : Json :=
  .object
    [("key", metadata.key.toJson), ("name", .string metadata.name),
     ("description", .string metadata.description), ("priority", metadata.priority.toJson)]

/-- Metadata some of whose parts are known. -/
structure Draft where
  key : Option RuleKey
  name : Option String
  description : Option String
  priority : Option Priority

/-- How metadata is written. -/
def record : Record Draft RuleMetadata where
  type := "RuleMetadata"
  fields :=
    [.slot "key" Draft.key (fun d key => { d with key := some key }) RuleKey.decoder,
     .slot "name" Draft.name (fun d text => { d with name := some text }) Decoder.string,
     .slot "description" Draft.description (fun d text => { d with description := some text })
      Decoder.string,
     .slot "priority" Draft.priority (fun d priority => { d with priority := some priority })
      Priority.decoder]
  blank := ⟨none, none, none, none⟩
  finish draft := do
    let key ← slotValue "key" draft.key
    let name ← slotValue "name" draft.name
    let description ← slotValue "description" draft.description
    let priority ← slotValue "priority" draft.priority
    return ⟨key, name, description, priority⟩
  strict := false

/-- Read metadata. -/
def decoder : Decoder RuleMetadata := record.decode

end RuleMetadata

/-! ## Sorted lists -/

/-- A list in increasing order, equal members in the order they came in. -/
def sorted {α : Type} [Ord α] (items : List α) : List α :=
  items.mergeSort fun a b => (compare a b).isLE

end SyntaxLint
