import SyntaxLint.RawTree
import SyntaxLint.Registry

/-!
# Analysis

An analysis walks a tree in pre-order down to a depth bound and runs every check on every node it
enters.  The walk is a list of steps (`Forest.walk`): a node entered, a finding raised, a check
failed, a subtree skipped because its root lies below the bound.  A report sums the steps up
(`Report.ofSteps`), and the log of the run tells them one by one.
-/

namespace SyntaxLint

/-- A tree with the name of the source it was read from. -/
structure Source where
  uri : String
  root : Node
  deriving DecidableEq

/-- A check that could not finish on a node. -/
structure Failure where
  rule : RuleKey
  line : UInt32
  error : CheckError
  deriving DecidableEq

/-- What happens on a walk. -/
inductive Step where
  /-- A node is entered. -/
  | enter
  /-- A check raises an issue. -/
  | raise (issue : Issue)
  /-- A check fails. -/
  | fail (failure : Failure)
  /-- The subtree of a node on a line is left out. -/
  | skip (line : UInt32)
  deriving DecidableEq

/-! ## The walk -/

/-- The steps of one check on a visit: what it reports under its key, then its failure, if it
fails. -/
def Entry.run (visit : Visit) (entry : Entry) : List Step :=
  let outcome := entry.check.inspect visit
  let reporter := outcome.findings.foldl Reporter.add (.start entry.key)
  reporter.issues.map .raise
    ++ (outcome.failure.map fun error => .fail ⟨entry.key, visit.node.line, error⟩).toList

/-- The steps of a walk through a forest below the given ancestors. -/
def Forest.walk (entries : List Entry) (bound : Nat) (ancestors : List Node) :
    Forest Kind → List Step
  | .nil => []
  | .token _ rest => rest.walk entries bound ancestors
  | .node kind line inner rest =>
    let node : Node := ⟨kind, line, inner⟩
    let here : List Step :=
      if bound < ancestors.length then [.skip line]
      else
        .enter :: entries.flatMap (Entry.run ⟨node, ancestors⟩)
          ++ inner.walk entries bound (ancestors ++ [node])
    here ++ rest.walk entries bound ancestors

/-- The steps of a walk through a tree. -/
def Tree.walk (entries : List Entry) (bound : Nat) (node : Node) : List Step :=
  (Forest.cons (.node node) .nil).walk entries bound []

/-! ## Reports -/

/-- The issue that a step raises. -/
def Step.issue? : Step → Option Issue
  | .raise issue => some issue
  | _ => none

/-- The failure that a step is. -/
def Step.failure? : Step → Option Failure
  | .fail failure => some failure
  | _ => none

/-- Whether a step enters a node. -/
def Step.isEnter : Step → Bool
  | .enter => true
  | _ => false

/-- Whether a step leaves out a subtree. -/
def Step.isSkip : Step → Bool
  | .skip _ => true
  | _ => false

/-- The result of an analysis. -/
structure Report where
  uri : String
  issues : List Issue
  failures : List Failure
  nodesVisited : Nat
  /-- Whether some subtree was left out. -/
  truncated : Bool
  deriving DecidableEq

/-- The sum of the steps of a walk. -/
def Report.ofSteps (uri : String) (steps : List Step) : Report where
  uri := uri
  issues := steps.filterMap Step.issue?
  failures := steps.filterMap Step.failure?
  nodesVisited := steps.countP Step.isEnter
  truncated := steps.any Step.isSkip

/-- Whether nothing was found and nothing failed. -/
def Report.isClean (report : Report) : Bool :=
  report.issues.isEmpty && report.failures.isEmpty

/-! ## Analyzers -/

/-- What is needed to analyse units: the checks to run and the depth bound. -/
structure Analyzer where
  registry : Registry
  maxDepth : UInt64

namespace Analyzer

/-- The analyzer of the enabled checks of a registry. -/
def new (registry : Registry) (config : Config) : Analyzer :=
  ⟨registry.enabledBy config, config.maxDepth⟩

/-- The analyzer of the rules that come with the library. -/
def builtin (config : Config) : Analyzer :=
  new .builtin config

/-- The steps of the analysis of a unit. -/
def steps (analyzer : Analyzer) (unit : Source) : List Step :=
  unit.root.walk analyzer.registry.entries analyzer.maxDepth.toNat

/-- The report on a unit. -/
def analyze (analyzer : Analyzer) (unit : Source) : Report :=
  .ofSteps unit.uri (analyzer.steps unit)

/-- The reports on several units. -/
def reports (analyzer : Analyzer) (units : List Source) : List Report :=
  units.map analyzer.analyze

end Analyzer

end SyntaxLint
