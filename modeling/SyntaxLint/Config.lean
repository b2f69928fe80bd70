import SyntaxLint.NameSet
import SyntaxLint.Rule

/-!
# Configuration

A configuration bounds the depth of an analysis and names the rules that are switched off.  A rule
is switched off by its bare name, in every repository, or by its displayed key.

In a configuration document both fields may be left out, and nothing else may stand in it.
-/

namespace SyntaxLint

/-- How an analysis is to be run. -/
structure Config where
  maxDepth : UInt64
  disabledRules : NameSet
  deriving DecidableEq

/-- Why a configuration cannot be used. -/
inductive ConfigError where
  | parse (fault : Fault)
  | invalidMaxDepth (value : UInt64)
  deriving DecidableEq

/-- The wording of a configuration error. -/
def ConfigError.message : ConfigError → String
  | .parse fault => "invalid analysis configuration: " ++ fault.message
  | .invalidMaxDepth value => "max_depth must be at least 1, got " ++ toString value

namespace Config

/-- A configuration with a depth bound and every rule switched on. -/
def bounded (maxDepth : UInt64) : Config :=
  ⟨maxDepth, .empty⟩

/-- The configuration that applies where none is given. -/
def default : Config := bounded 512

/-- The configuration with one more rule switched off. -/
def disable (config : Config) (rule : String) : Config :=
  { config with disabledRules := config.disabledRules.insert rule }

/-- Whether a rule is switched on. -/
def isEnabled (config : Config) (key : RuleKey) : Bool :=
  !config.disabledRules.contains key.rule && !config.disabledRules.contains key.display

/-- The configuration itself, if an analysis can be run with it. -/
def validate (config : Config) : Except ConfigError Config :=
  if config.maxDepth = 0 then .error (.invalidMaxDepth config.maxDepth) else .ok config

/-- The JSON object of a configuration. -/
def toJson (config : Config) : Json :=
  .object
    [("max_depth", .nat config.maxDepth.toNat),
     ("disabled_rules", .array (config.disabledRules.toList.map .string))]

/-- A configuration some of whose parts are given. -/
structure Draft where
  maxDepth : Option UInt64
  disabledRules : Option NameSet

/-- Read a set of names from a list of them, in any order. -/
def namesDecoder : Decoder NameSet := fun outline =>
  (Decoder.strings outline).map NameSet.ofList

/-- How configurations are written. -/
def record : Record Draft Config where
  type := "AnalysisConfig"
  fields :=
    [.slot "max_depth" Draft.maxDepth (fun d depth => { d with maxDepth := some depth })
      Decoder.depth,
     .slot "disabled_rules" Draft.disabledRules
      (fun d names => { d with disabledRules := some names }) namesDecoder]
  blank := ⟨none, none⟩
  finish draft :=
    .ok ⟨draft.maxDepth.getD default.maxDepth,
      draft.disabledRules.getD default.disabledRules⟩
  strict := true

/-- Read a configuration, which may be one that cannot be used. -/
def decoder : Decoder Config := record.decode

/-- The configuration of a document. -/
def ofText (text : String) : Except ConfigError Config := do
  let config ← (decoder.ofText text).mapError .parse
  config.validate

end Config

end SyntaxLint
