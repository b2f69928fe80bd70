import SyntaxLint.Text.Escape
import SyntaxLint.Tree.Node

/-!
# Renderings of a tree

Two one-way renderings for people.  `Tree.layout` starts a line for every node that has elements,
indents it by the depth of the node and marks where the node opens and closes with that depth.
`Tree.bracketed` is one line, a node with elements being its name and its elements in parentheses.
A node without elements is its bare name in both, and tokens have their blanks escaped, so no token
can start a line of its own.
-/

namespace SyntaxLint

/-- What opens a node of the layout that has elements. -/
def layoutOpening (depth : Nat) (kind : Kind) : List Char :=
  '\n' :: List.replicate depth ' ' ++ kind.name.toList
    ++ ['<', '['] ++ Nat.toDigits 10 depth ++ [']', '(']

/-- What closes a node of the layout that has elements. -/
def layoutClosing (depth : Nat) : List Char :=
  [' ', ')', '['] ++ Nat.toDigits 10 depth ++ [']', '>']

/-- The layout of the elements of a forest at a depth, each after a space, written in front of a
text. -/
def Forest.layoutOnto (depth : Nat) : Forest Kind → List Char → List Char
  | .nil, after => after
  | .token t rest, after =>
    ' ' :: Text.escapeChars t.text.toList ++ rest.layoutOnto depth after
  | .node kind _ inner rest, after =>
    let next := rest.layoutOnto depth after
    ' ' :: if inner.isEmpty then kind.name.toList ++ next
      else
        layoutOpening depth kind ++ inner.layoutOnto (depth + 1) (layoutClosing depth ++ next)

/-- The layout of a tree, with depth markers. -/
def Tree.layout (node : Node) : String :=
  String.ofList
    (if node.isLeaf then node.kind.name.toList
     else layoutOpening 0 node.kind ++ node.elements.layoutOnto 1 (layoutClosing 0))

/-- The bracketed forms of the elements of a forest, each after a space, written in front of a
text. -/
def Forest.bracketedOnto : Forest Kind → List Char → List Char
  | .nil, after => after
  | .token t rest, after =>
    ' ' :: Text.escapeChars t.text.toList ++ rest.bracketedOnto after
  | .node kind _ inner rest, after =>
    let next := rest.bracketedOnto after
    ' ' :: if inner.isEmpty then kind.name.toList ++ next
      else '(' :: kind.name.toList ++ inner.bracketedOnto (')' :: next)

/-- The bracketed form of a tree, on one line. -/
def Tree.bracketed (node : Node) : String :=
  String.ofList
    (if node.isLeaf then node.kind.name.toList
     else '(' :: node.kind.name.toList ++ node.elements.bracketedOnto [')'])

end SyntaxLint
