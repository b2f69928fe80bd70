import SyntaxLint.Rule

/-!
# Issues

An `Issue` is a finding under the key of the rule that raised it.  A `Reporter` stamps findings with
the key of one rule and counts them.
-/

namespace SyntaxLint

/-- What a check has to say of a line. -/
structure Finding where
  line : UInt32
  message : String
  deriving DecidableEq

/-- A finding of a rule. -/
structure Issue where
  rule : RuleKey
  line : UInt32
  message : String
  deriving DecidableEq

/-- A finding under the key of a rule. -/
def Finding.under (finding : Finding) (rule : RuleKey) : Issue :=
  ⟨rule, finding.line, finding.message⟩

namespace Issue

/-- The displayed form of an issue. -/
def display (issue : Issue) : String :=
  issue.rule.display ++ " at line " ++ toString issue.line ++ ": " ++ issue.message

/-- The JSON object of an issue. -/
def toJson (issue : Issue) : Json :=
  .object
    [("rule", issue.rule.toJson), ("line", .nat issue.line.toNat),
     ("message", .string issue.message)]

/-- An issue some of whose parts are known. -/
structure Draft where
  rule : Option RuleKey
  line : Option UInt32
  message : Option String

/-- How issues are written. -/
def record : Record Draft Issue where
  type := "Issue"
  fields :=
    [.slot "rule" Draft.rule (fun d key => { d with rule := some key }) RuleKey.decoder,
     .slot "line" Draft.line (fun d line => { d with line := some line }) Decoder.line,
     .slot "message" Draft.message (fun d text => { d with message := some text })
      Decoder.string]
  blank := ⟨none, none, none⟩
  finish draft := do
    let rule ← slotValue "rule" draft.rule
    let line ← slotValue "line" draft.line
    let message ← slotValue "message" draft.message
    return ⟨rule, line, message⟩
  strict := false

/-- Read an issue. -/
def decoder : Decoder Issue := record.decode

end Issue

/-! ## Reporters -/

/-- The issues that one rule has raised so far, in order. -/
structure Reporter where
  rule : RuleKey
  issues : List Issue
  deriving DecidableEq

namespace Reporter

/-- A reporter before the first finding. -/
def start (rule : RuleKey) : Reporter :=
  ⟨rule, []⟩

/-- The reporter with one more finding. -/
def add (reporter : Reporter) (finding : Finding) : Reporter :=
  { reporter with issues := reporter.issues ++ [finding.under reporter.rule] }

/-- How many findings were reported. -/
def reported (reporter : Reporter) : Nat :=
  reporter.issues.length

/-- A reporter as diagnostics show it. -/
def describe (reporter : Reporter) : String :=
  "Reporter \x7b rule: " ++ reporter.rule.describe ++ ", reported: "
    ++ toString reporter.reported ++ ", .. \x7d"

/-- Reporting findings one after another puts each of them under the rule, in order. -/
theorem issues_foldl_add (findings : List Finding) (reporter : Reporter) :
    (findings.foldl add reporter).issues =
      reporter.issues ++ findings.map (Finding.under · reporter.rule) := by
  induction findings generalizing reporter with
  | nil => simp
  | cons finding findings ih => simp [ih, add]

end Reporter

end SyntaxLint
