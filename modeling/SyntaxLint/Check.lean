import SyntaxLint.Issue
import SyntaxLint.Query

/-!
# Visits and checks

A `Visit` is a node together with its ancestors, the root first.  A `Check` implements a rule: it
looks at one visit and answers with findings, in the order it raises them, and perhaps a failure
that stopped it.  What it had found before it failed still counts.

`Tree.visits` lists every node of a tree in pre-order with its exact ancestors.
-/

namespace SyntaxLint

/-! ## Visits -/

/-- A node as it is met on the way through a tree. -/
structure Visit where
  node : Node
  /-- The ancestors, from the root down to the parent. -/
  ancestors : List Node
  deriving DecidableEq

namespace Visit

/-- A node on its own. -/
def root (node : Node) : Visit :=
  ⟨node, []⟩

/-- How many ancestors the node has. -/
def depth (visit : Visit) : Nat :=
  visit.ancestors.length

/-- The parent of the node. -/
def parent? (visit : Visit) : Option Node :=
  visit.ancestors.getLast?

/-- The innermost ancestor of one of the given kinds. -/
def nearest? (visit : Visit) (kinds : List Kind) : Option Node :=
  visit.ancestors.reverse.find? fun ancestor => kinds.contains ancestor.kind

end Visit

/-- The visits of all nodes of a forest in pre-order, below the given ancestors. -/
def Forest.visits (ancestors : List Node) : Forest Kind → List Visit
  | .nil => []
  | .token _ rest => rest.visits ancestors
  | .node kind line inner rest =>
    ⟨⟨kind, line, inner⟩, ancestors⟩
      :: inner.visits (ancestors ++ [⟨kind, line, inner⟩]) ++ rest.visits ancestors

/-- The visits of all nodes of a tree in pre-order. -/
def Tree.visits (node : Node) : List Visit :=
  .root node :: node.elements.visits [node]

/-- The visit of the node at the end of a path, below the given ancestors. -/
def Tree.visitBelow? (ancestors : List Node) : Node → Path → Option Visit
  | node, [] => some ⟨node, ancestors⟩
  | node, i :: path =>
    match node.toList[i]? with
    | some (.node child) => child.visitBelow? (ancestors ++ [node]) path
    | _ => none

/-- The visit of the node at the end of a path. -/
def Tree.visitAt? (node : Node) (path : Path) : Option Visit :=
  node.visitBelow? [] path

/-! ## Checks -/

/-- Why a check could not finish. -/
inductive CheckError where
  | query (error : SearchError)
  /-- A node, named by any word for its kind, has not the shape that the check relies on. -/
  | malformedNode (kind : String) (line : UInt32) (reason : String)
  deriving DecidableEq

/-- The wording of a check error. -/
def CheckError.message : CheckError → String
  | .query error => "query failed: " ++ error.message
  | .malformedNode kind line reason =>
    "malformed " ++ kind ++ " at line " ++ toString line ++ ": " ++ reason

/-- What a check says of a visit. -/
structure Outcome where
  findings : List Finding
  failure : Option CheckError
  deriving DecidableEq

namespace Outcome

/-- Nothing to say. -/
def nothing : Outcome :=
  ⟨[], none⟩

/-- One finding. -/
def found (line : UInt32) (message : String) : Outcome :=
  ⟨[⟨line, message⟩], none⟩

/-- A failure without a finding. -/
def failed (error : CheckError) : Outcome :=
  ⟨[], some error⟩

end Outcome

/-- The implementation of a rule. -/
structure Check where
  definition : RuleInfo
  inspect : Visit → Outcome

end SyntaxLint
