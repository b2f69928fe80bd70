import SyntaxLint.Kind
import SyntaxLint.Tree.Basic

/-!
# Typed nodes and positions

A `Node` is a tree whose labels are kinds of the vocabulary.  A node inside a tree is identified by
its `Path` from the root, the list of the indices to follow, where tokens count: two nodes of a
tree may well be equal, their paths never are.
-/

namespace SyntaxLint

/-- A typed syntax tree. -/
abbrev Node := Tree Kind

/-- The way from a node to one below it: at each step the index of an element. -/
abbrev Path := List Nat

namespace Tree

variable {κ : Type}

/-- The node at the end of a path, if the path leads to a node. -/
def at? : Tree κ → Path → Option (Tree κ)
  | tree, [] => some tree
  | tree, i :: path =>
    match tree.toList[i]? with
    | some (.node child) => child.at? path
    | _ => none

@[simp] theorem at?_nil (tree : Tree κ) : tree.at? [] = some tree := by
  cases tree; rfl

/-- The first direct child of a kind. -/
def child? [DecidableEq κ] (tree : Tree κ) (kind : κ) : Option (Tree κ) :=
  tree.children.find? fun child => child.kind = kind

/-- The index, among all elements, of the first direct child of a kind. -/
def childIndex? [DecidableEq κ] (tree : Tree κ) (kind : κ) : Option Nat :=
  tree.toList.findIdx? fun
    | .node child => child.kind = kind
    | .token _ => false

/-- The child in which a node declares its type, if the node can declare one and does. -/
def declaration? (node : Node) : Option Node :=
  node.kind.declarationKind?.bind node.child?

end Tree

end SyntaxLint
