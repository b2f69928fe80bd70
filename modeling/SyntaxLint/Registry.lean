import SyntaxLint.Config
import SyntaxLint.StrongTyping

/-!
# Registries

A registry holds checks in the order in which their keys were first registered.  Registering a
check under a key that is taken replaces the check and keeps its place.

A check is held with its key, and an entry can only be made with the proof that the rule of the key
is the rule of the check.
-/

namespace SyntaxLint

/-- A check with the key it is registered under. -/
structure Entry where
  key : RuleKey
  check : Check
  /-- The rule of the key is that of the check. -/
  rule_key : key.rule = check.definition.rule

namespace Entry

/-- The entry of a check for a repository: its key is the repository with the rule of the check. -/
def of (repository : String) (check : Check) : Entry :=
  ⟨⟨repository, check.definition.rule⟩, check, rfl⟩

/-- The repository that a check is registered for. -/
def repository (entry : Entry) : String :=
  entry.key.repository

/-- The metadata of a registered check. -/
def metadata (entry : Entry) : RuleMetadata :=
  .ofDefinition entry.key.repository entry.check.definition

theorem key_eq (entry : Entry) :
    entry.key = ⟨entry.repository, entry.check.definition.rule⟩ := by
  rw [← entry.rule_key]
  rfl

/-- An entry is made of its repository and its check alone. -/
theorem of_repository_check (entry : Entry) : of entry.repository entry.check = entry := by
  obtain ⟨key, check, hrule⟩ := entry
  simp [of, repository, ← hrule]

end Entry

/-- Checks in order. -/
structure Registry where
  entries : List Entry

namespace Registry

/-- A registry without checks. -/
def empty : Registry :=
  ⟨[]⟩

/-- Put an entry in the place of the one with its key, or at the end if there is none. -/
def place (entry : Entry) : List Entry → List Entry
  | [] => [entry]
  | first :: rest =>
    if first.key = entry.key then entry :: rest else first :: place entry rest

/-- The registry with a check registered for a repository. -/
def register (registry : Registry) (repository : String) (check : Check) : Registry :=
  ⟨place (.of repository check) registry.entries⟩

/-- The repository of the rules that come with the library. -/
def builtinRepository : String := "xquery"

/-- The rules that come with the library. -/
def builtin : Registry :=
  ((empty.register builtinRepository StrongTyping.flwor).register builtinRepository
    StrongTyping.functionDeclaration).register builtinRepository StrongTyping.moduleVariable

/-- The registry without the rules that a configuration switches off. -/
def enabledBy (registry : Registry) (config : Config) : Registry :=
  ⟨registry.entries.filter fun entry => config.isEnabled entry.key⟩

/-- The keys in order. -/
def keys (registry : Registry) : List RuleKey :=
  registry.entries.map Entry.key

/-- How many checks there are. -/
def size (registry : Registry) : Nat :=
  registry.entries.length

/-- Whether there are no checks. -/
def isEmpty (registry : Registry) : Bool :=
  registry.entries.isEmpty

/-- The first key whose rule has the given name. -/
def keyOfRule? (registry : Registry) (rule : String) : Option RuleKey :=
  registry.keys.find? fun key => key.rule = rule

/-- The metadata of all rules, in order. -/
def metadata (registry : Registry) : List RuleMetadata :=
  registry.entries.map Entry.metadata

/-- A registry as diagnostics show it: the list of its keys. -/
def describe (registry : Registry) : String :=
  "[" ++ ", ".intercalate (registry.keys.map RuleKey.describe) ++ "]"

end Registry

end SyntaxLint
