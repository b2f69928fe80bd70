/-!
# Ordered trees with tokens

A concrete syntax tree keeps everything of the source it was read from: each node has a label, the
line it starts on and an ordered sequence of elements, and an element is a token or again a node.

The label type `κ` is a parameter, because the same tree exists in two states: as it arrives, with
rule names for labels, and after typing, with the kinds of the vocabulary.

`Forest` is the sequence of elements.  It is one plain inductive type: a node of the sequence
carries the sequence of its own elements (`inner`) and the sequence that follows it (`rest`), so a
function on trees is one structural recursion and a proof about trees one induction.  `Tree` is a
node on its own and `Element` one member of a sequence; `Forest.toList` is the view of a forest as
the list of its elements.
-/

namespace SyntaxLint

/-- A piece of source text, with the line it stands on. -/
structure Token where
  text : String
  line : UInt32
  deriving DecidableEq

/-- An ordered sequence of elements, each a token or a node. -/
inductive Forest (κ : Type) where
  | nil
  | token (token : Token) (rest : Forest κ)
  | node (kind : κ) (line : UInt32) (inner rest : Forest κ)
  deriving DecidableEq

/-- A node with everything below it. -/
structure Tree (κ : Type) where
  kind : κ
  line : UInt32
  elements : Forest κ
  deriving DecidableEq

/-- One member of a forest. -/
inductive Element (κ : Type) where
  | node (tree : Tree κ)
  | token (token : Token)
  deriving DecidableEq

variable {κ : Type}

/-- The line an element starts on. -/
def Element.line : Element κ → UInt32
  | .node tree => tree.line
  | .token t => t.line

/-- Whether an element is a token. -/
def Element.isToken : Element κ → Bool
  | .node _ => false
  | .token _ => true

namespace Forest

/-- The forest with one more element in front. -/
def cons : Element κ → Forest κ → Forest κ
  | .token t, rest => .token t rest
  | .node tree, rest => .node tree.kind tree.line tree.elements rest

/-- One forest after another. -/
def append : Forest κ → Forest κ → Forest κ
  | .nil, after => after
  | .token t rest, after => .token t (rest.append after)
  | .node kind line inner rest, after => .node kind line inner (rest.append after)

instance : Append (Forest κ) := ⟨append⟩

/-- The forest with one more element at its end. -/
def push (forest : Forest κ) (element : Element κ) : Forest κ :=
  forest ++ cons element .nil

/-- Whether there are no elements. -/
def isEmpty : Forest κ → Bool
  | .nil => true
  | _ => false

/-- The elements in order. -/
def toList : Forest κ → List (Element κ)
  | .nil => []
  | .token t rest => .token t :: rest.toList
  | .node kind line inner rest => .node ⟨kind, line, inner⟩ :: rest.toList

/-- The forest of the given elements. -/
def ofList : List (Element κ) → Forest κ
  | [] => .nil
  | element :: rest => cons element (ofList rest)

/-- The nodes among the elements, in order. -/
def children : Forest κ → List (Tree κ)
  | .nil => []
  | .token _ rest => rest.children
  | .node kind line inner rest => ⟨kind, line, inner⟩ :: rest.children

/-- All tokens at any depth, in document order. -/
def tokens : Forest κ → List Token
  | .nil => []
  | .token t rest => t :: rest.tokens
  | .node _ _ inner rest => inner.tokens ++ rest.tokens

/-- The source text: the texts of all tokens at any depth, without anything between them. -/
def text : Forest κ → String
  | .nil => ""
  | .token t rest => t.text ++ rest.text
  | .node _ _ inner rest => inner.text ++ rest.text

/-- Every element at any depth with its depth, parents before their elements; the elements of the
forest itself are at the given depth. -/
def preorder (depth : Nat) : Forest κ → List (Nat × Element κ)
  | .nil => []
  | .token t rest => (depth, .token t) :: rest.preorder depth
  | .node kind line inner rest =>
    (depth, .node ⟨kind, line, inner⟩) :: inner.preorder (depth + 1) ++ rest.preorder depth

/-! ## The list view -/

@[simp] theorem append_eq (a b : Forest κ) : a.append b = a ++ b := rfl

@[simp] theorem nil_append (b : Forest κ) : (.nil : Forest κ) ++ b = b := rfl

@[simp] theorem token_append (t : Token) (rest b : Forest κ) :
    .token t rest ++ b = .token t (rest ++ b) := rfl

@[simp] theorem node_append (kind : κ) (line : UInt32) (inner rest b : Forest κ) :
    .node kind line inner rest ++ b = .node kind line inner (rest ++ b) := rfl

@[simp] theorem toList_cons (element : Element κ) (rest : Forest κ) :
    (cons element rest).toList = element :: rest.toList := by
  cases element <;> rfl

@[simp] theorem toList_append (a b : Forest κ) : (a ++ b).toList = a.toList ++ b.toList := by
  induction a with
  | nil => rfl
  | token t rest ih => simp [toList, ih]
  | node kind line inner rest _ ih => simp [toList, ih]

@[simp] theorem children_append (a b : Forest κ) :
    (a ++ b).children = a.children ++ b.children := by
  induction a with
  | nil => rfl
  | token t rest ih => simp [children, ih]
  | node kind line inner rest _ ih => simp [children, ih]

@[simp] theorem tokens_append (a b : Forest κ) : (a ++ b).tokens = a.tokens ++ b.tokens := by
  induction a with
  | nil => rfl
  | token t rest ih => simp [tokens, ih]
  | node kind line inner rest _ ih => simp [tokens, ih]

@[simp] theorem text_append (a b : Forest κ) : (a ++ b).text = a.text ++ b.text := by
  induction a with
  | nil => simp [text]
  | token t rest ih => simp [text, ih, String.append_assoc]
  | node kind line inner rest _ ih => simp [text, ih, String.append_assoc]

@[simp] theorem isEmpty_eq_true {forest : Forest κ} : forest.isEmpty = true ↔ forest = .nil := by
  cases forest <;> simp [isEmpty]

@[simp] theorem toList_push (forest : Forest κ) (element : Element κ) :
    (forest.push element).toList = forest.toList ++ [element] := by
  simp [push, toList]

@[simp] theorem toList_ofList (elements : List (Element κ)) :
    (ofList elements).toList = elements := by
  induction elements with
  | nil => rfl
  | cons element rest ih => simp [ofList, ih]

end Forest

namespace Tree

/-- A node without elements. -/
def leaf (kind : κ) (line : UInt32) : Tree κ :=
  ⟨kind, line, .nil⟩

/-- The node with one more element at its end. -/
def push (tree : Tree κ) (element : Element κ) : Tree κ :=
  { tree with elements := tree.elements.push element }

/-- The node with one more child at its end. -/
def pushChild (tree child : Tree κ) : Tree κ :=
  tree.push (.node child)

/-- The node with one more token at its end, on the given line. -/
def pushTokenAt (tree : Tree κ) (text : String) (line : UInt32) : Tree κ :=
  tree.push (.token ⟨text, line⟩)

/-- The node with one more token at its end, on the node's own line. -/
def pushToken (tree : Tree κ) (text : String) : Tree κ :=
  tree.pushTokenAt text tree.line

/-- The direct elements in order. -/
def toList (tree : Tree κ) : List (Element κ) :=
  tree.elements.toList

/-- The direct children: the nodes among the elements, in order. -/
def children (tree : Tree κ) : List (Tree κ) :=
  tree.elements.children

/-- Whether the node has no elements at all, not even a token. -/
def isLeaf (tree : Tree κ) : Bool :=
  tree.elements.isEmpty

/-- The source text below the node. -/
def text (tree : Tree κ) : String :=
  tree.elements.text

/-- The texts of several nodes, one after another. -/
def textOfAll (trees : List (Tree κ)) : String :=
  String.join (trees.map text)

/-- The node and every element below it with their depths, in pre-order, the node at depth zero. -/
def preorder (tree : Tree κ) : List (Nat × Element κ) :=
  (0, .node tree) :: tree.elements.preorder 1

end Tree

end SyntaxLint
