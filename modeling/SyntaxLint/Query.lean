import SyntaxLint.Tree.Node

/-!
# Searching a tree for a chain of kinds

A query is a chain of kinds.  It asks for a node on whose way down from the root the kinds of the
chain occur in order, the last of them at the node itself; nodes of other kinds may stand between
them.  `Tree.search?` answers with the first such node in pre-order and its path.  The search never
goes back on a kind once it is met: below a node that has the kind due next only the rest of the
chain is looked for, which loses nothing, since a longer part of the chain left to meet can only be
harder to meet.

`Tree.search` is the strict form.  Where nothing is found it blames the first kind of the chain
that could not be met on any way down (`Tree.progress` counts those that could).
-/

namespace SyntaxLint

/-- A node together with its path from the node the search started at. -/
structure Found where
  path : Path
  node : Node
  deriving DecidableEq

/-- The same node, seen from the parent of the node its path starts at. -/
def Found.below (found : Found) (i : Nat) : Found :=
  { found with path := i :: found.path }

/-- What is left of a chain after passing a node of a kind. -/
def afterKind (kind : Kind) : List Kind → List Kind
  | [] => []
  | due :: chain => if due = kind then chain else due :: chain

/-- Search the elements of a forest, the first of which has index `i` in its parent. -/
def Forest.search? : Forest Kind → List Kind → Nat → Option Found
  | .nil, _, _ => none
  | .token _ rest, chain, i => rest.search? chain (i + 1)
  | .node kind line inner rest, chain, i =>
    let here :=
      if chain = [kind] then some ⟨[], ⟨kind, line, inner⟩⟩
      else inner.search? (afterKind kind chain) 0
    match here with
    | some found => some (found.below i)
    | none => rest.search? chain (i + 1)

/-- The first node in pre-order at which the chain is complete. -/
def Tree.search? (node : Node) (chain : List Kind) : Option Found :=
  if chain = [node.kind] then some ⟨[], node⟩
  else node.elements.search? (afterKind node.kind chain) 0

/-- How many kinds of a chain, from its start, can be met in order on some way down a forest. -/
def Forest.progress : Forest Kind → List Kind → Nat
  | .nil, _ => 0
  | .token _ rest, chain => rest.progress chain
  | .node kind _ inner rest, chain =>
    let left := afterKind kind chain
    max (chain.length - left.length + inner.progress left) (rest.progress chain)

/-- How many kinds of a chain, from its start, can be met in order on some way down from a node. -/
def Tree.progress (node : Node) (chain : List Kind) : Nat :=
  let left := afterKind node.kind chain
  chain.length - left.length + node.elements.progress left

/-! ## The strict form -/

/-- Why a strict query has no answer. -/
inductive SearchError where
  | emptyChain
  | notFound (unmet : Kind) (chain : List Kind)
  deriving DecidableEq

/-- The wording of a query error. -/
def SearchError.message : SearchError → String
  | .emptyChain => "empty constraint chain"
  | .notFound unmet chain =>
    unmet.name ++ " not found (searching " ++ " > ".intercalate (chain.map Kind.name) ++ ")"

/-- The first node in pre-order at which the chain is complete, or the kind to blame. -/
def Tree.search (node : Node) (chain : List Kind) : Except SearchError Found :=
  match chain.getLast? with
  | none => .error .emptyChain
  | some target =>
    match node.search? chain with
    | some found => .ok found
    | none => .error (.notFound (chain[node.progress chain]?.getD target) chain)

/-- The text of the node that a strict query finds. -/
def Tree.searchText (node : Node) (chain : List Kind) : Except SearchError String :=
  (node.search chain).map fun found => found.node.text

/-- The text of the item type that a node declares, if it declares one. -/
def Tree.typeText? (node : Node) : Option String := do
  let declaration ← node.declaration?
  let found ← declaration.search? [.sequenceType, .itemType]
  return found.node.text

end SyntaxLint
