import SyntaxLint.Analysis.Basic

/-!
# The log of an analysis

Every unit starts and ends with an event of its own, and between them stands one event for each
issue raised and each check failed.  Only the first subtree that is left out in a unit is logged.
The analysis of several units ends with a summary.
-/

namespace SyntaxLint

/-- How much an event matters. -/
inductive Level where
  | debug | info | warn
  deriving DecidableEq

/-- The name of a level. -/
def Level.name : Level → String
  | .debug => "DEBUG"
  | .info => "INFO"
  | .warn => "WARN"

/-- The value of a field of an event. -/
inductive LogValue where
  | text (value : String)
  | number (value : Nat)
  | flag (value : Bool)
  deriving DecidableEq

/-- An event of an analysis. -/
inductive LogEvent where
  | unitStarted (uri : String) (checks : Nat)
  | issueRaised (issue : Issue)
  | checkFailed (uri : String) (failure : Failure)
  | depthReached (uri : String) (line : UInt32) (maxDepth : UInt64)
  | unitFinished (uri : String) (issues failures nodes : Nat) (truncated : Bool)
  | finished (units issues : Nat)
  deriving DecidableEq

namespace LogEvent

/-- The level of an event. -/
def level : LogEvent → Level
  | .unitStarted _ _ | .finished _ _ => .info
  | .issueRaised _ | .unitFinished _ _ _ _ _ => .debug
  | .checkFailed _ _ | .depthReached _ _ _ => .warn

/-- The part of the program that an event is attributed to. -/
def target : LogEvent → String
  | .issueRaised _ => "xqlint::issues"
  | _ => "xqlint::analysis"

/-- The fields of an event: a fixed message, then what varies. -/
def fields : LogEvent → List (String × LogValue)
  | .unitStarted uri checks =>
    [("message", .text "analysing unit"), ("uri", .text uri), ("checks", .number checks)]
  | .issueRaised issue =>
    [("message", .text "issue raised"), ("rule", .text issue.rule.display),
     ("line", .number issue.line.toNat), ("message", .text issue.message)]
  | .checkFailed uri failure =>
    [("message", .text "check failed"), ("uri", .text uri), ("rule", .text failure.rule.display),
     ("line", .number failure.line.toNat), ("error", .text failure.error.message)]
  | .depthReached uri line maxDepth =>
    [("message", .text "depth bound reached, skipping subtree"), ("uri", .text uri),
     ("line", .number line.toNat), ("max_depth", .number maxDepth.toNat)]
  | .unitFinished uri issues failures nodes truncated =>
    [("message", .text "unit analysed"), ("uri", .text uri), ("issues", .number issues),
     ("failures", .number failures), ("nodes", .number nodes), ("truncated", .flag truncated)]
  | .finished units issues =>
    [("message", .text "analysis complete"), ("units", .number units), ("issues", .number issues)]

end LogEvent

/-- The events of the steps of a walk; `skipped` says whether a subtree was left out before. -/
def logSteps (uri : String) (maxDepth : UInt64) : Bool → List Step → List LogEvent
  | _, [] => []
  | skipped, .enter :: steps => logSteps uri maxDepth skipped steps
  | skipped, .raise issue :: steps => .issueRaised issue :: logSteps uri maxDepth skipped steps
  | skipped, .fail failure :: steps =>
    .checkFailed uri failure :: logSteps uri maxDepth skipped steps
  | true, .skip _ :: steps => logSteps uri maxDepth true steps
  | false, .skip line :: steps =>
    .depthReached uri line maxDepth :: logSteps uri maxDepth true steps

namespace Analyzer

/-- The event that ends the analysis of a unit. -/
def unitFinished (report : Report) : LogEvent :=
  .unitFinished report.uri report.issues.length report.failures.length report.nodesVisited
    report.truncated

/-- The log of the analysis of a unit. -/
def unitLog (analyzer : Analyzer) (unit : Source) : List LogEvent :=
  .unitStarted unit.uri analyzer.registry.size
    :: logSteps unit.uri analyzer.maxDepth false (analyzer.steps unit)
    ++ [unitFinished (analyzer.analyze unit)]

/-- The log of the analysis of several units. -/
def log (analyzer : Analyzer) (units : List Source) : List LogEvent :=
  let reports := analyzer.reports units
  units.flatMap analyzer.unitLog
    ++ [.finished reports.length
      (reports.foldl (fun total report => total + report.issues.length) 0)]

end Analyzer

end SyntaxLint
