import Mathlib
import SyntaxLint.Proofs.DepthBound
import SyntaxLint.Proofs.Repair

/-!
# A report is put together as its tree is

The report of the rules on declared types is read off here from the children of nodes, not from
places: `Raises` says which issues are raised on a sequence of siblings and on all that is below them,
and has one rule for each way to put nodes together.  Siblings are put one after another
(`Raises.append`), and a node is put around its children (`Raises.node_of_children`), where what is
due on the node itself comes first.  Ancestors are part of the relation, since what is said of a
parameter depends on the function around it.

A tree on whose root something is raised in this way has a report with just that
(`analyze_of_raises`), if it is not higher than the depth bound; its height can be bounded along its
children as well.
-/

namespace SyntaxLint

/-! ## Trees by their children -/

namespace Forest

variable {κ : Type}

lemma ofList_append (elements others : List (Element κ)) :
    ofList (elements ++ others) = ofList elements ++ ofList others := by
  induction elements with
  | nil => rfl
  | cons element elements ih =>
    rw [List.cons_append, ofList, ofList, ih]
    cases element <;> rfl

lemma children_ofList_map_node (trees : List (Tree κ)) :
    (ofList (trees.map Element.node)).children = trees := by
  induction trees with
  | nil => rfl
  | cons tree trees ih => rw [List.map_cons, ofList, cons, children, ih]

/-- What separates nodes does not count among them if it consists of tokens. -/
lemma children_ofList_intercalate {separator : List (Element κ)}
    (h : (ofList separator).children = []) (trees : List (Tree κ)) :
    (ofList (separator.intercalate (trees.map fun tree => [.node tree]))).children = trees := by
  induction trees with
  | nil => rfl
  | cons tree trees ih =>
    cases trees with
    | nil => rfl
    | cons next trees =>
      rw [List.map_cons] at ih
      rw [List.map_cons, List.map_cons, List.intercalate_cons_cons, ofList_append, ofList_append,
        children_append, children_append, h, ih]
      rfl

/-- The height of a forest is bounded by what its nodes allow. -/
lemma height_le_iff_children (forest : Forest κ) (n : Nat) :
    forest.height ≤ n ↔ ∀ child ∈ forest.children, child.height < n := by
  induction forest with
  | nil => simp [height, children]
  | token t rest ih => exact ih
  | node kind line inner rest _ ihRest =>
    rw [height, max_le_iff, ihRest, children, List.forall_mem_cons, Nat.succ_le_iff]
    rfl

end Forest

lemma Tree.height_le_of_children {κ : Type} {tree : Tree κ} {n : Nat}
    (h : ∀ child ∈ tree.children, child.height < n) : tree.height ≤ n :=
  (tree.elements.height_le_iff_children n).2 h

/-- The visits of a tree below the given ancestors, in pre-order. -/
def Tree.visitsUnder (ancestors : List Node) (node : Node) : List Visit :=
  ⟨node, ancestors⟩ :: node.elements.visits (ancestors ++ [node])

lemma Forest.visits_eq_flatMap_children (forest : Forest Kind) (ancestors : List Node) :
    forest.visits ancestors = forest.children.flatMap (Tree.visitsUnder ancestors) := by
  induction forest with
  | nil => rfl
  | token t rest ih => exact ih
  | node kind line inner rest _ ihRest =>
    rw [visits, children, List.flatMap_cons, ihRest]
    rfl

/-- A tree is visited at its root, then in its children below the root. -/
lemma Tree.visitsUnder_eq (ancestors : List Node) (node : Node) :
    node.visitsUnder ancestors =
      ⟨node, ancestors⟩ :: node.children.flatMap (Tree.visitsUnder (ancestors ++ [node])) := by
  rw [visitsUnder, Forest.visits_eq_flatMap_children, children]

namespace StrongTyping

/-! ## What is raised on siblings -/

/-- On a sequence of siblings below the given ancestors, and on all that is below them, the rules
raise these issues, in pre-order, and do not fail. -/
structure Raises (ancestors nodes : List Node) (issues : List Issue) : Prop where
  issues_eq : (nodes.flatMap (Tree.visitsUnder ancestors)).flatMap issuesAt = issues
  failures_eq : (nodes.flatMap (Tree.visitsUnder ancestors)).flatMap failuresAt = []

/-- Nothing is said of nodes, nor of what is below them, whatever is around them. -/
def Silent (nodes : List Node) : Prop :=
  ∀ ancestors, Raises ancestors nodes []

namespace Raises

variable {ancestors nodes others : List Node} {node : Node} {issues more own below : List Issue}

lemma nil : Raises ancestors [] [] :=
  ⟨rfl, rfl⟩

lemma append (h : Raises ancestors nodes issues) (h' : Raises ancestors others more) :
    Raises ancestors (nodes ++ others) (issues ++ more) := by
  constructor
  · rw [List.flatMap_append, List.flatMap_append, h.issues_eq, h'.issues_eq]
  · rw [List.flatMap_append, List.flatMap_append, h.failures_eq, h'.failures_eq, List.append_nil]

lemma cons (h : Raises ancestors [node] issues) (h' : Raises ancestors others more) :
    Raises ancestors (node :: others) (issues ++ more) :=
  append h h'

/-- On a node is raised what is due there, then what is raised on its children. -/
lemma node_of_children (hown : issuesAt ⟨node, ancestors⟩ = own)
    (hfailures : failuresAt ⟨node, ancestors⟩ = [])
    (hbelow : Raises (ancestors ++ [node]) node.children below) :
    Raises ancestors [node] (own ++ below) := by
  constructor
  · rw [List.flatMap_singleton, Tree.visitsUnder_eq, List.flatMap_cons, hown, hbelow.issues_eq]
  · rw [List.flatMap_singleton, Tree.visitsUnder_eq, List.flatMap_cons, hfailures,
      hbelow.failures_eq, List.append_nil]

/-- Of a node of a kind that never declares a type nothing is said. -/
lemma node_of_kind (hkind : node.kind.declarationKind? = none)
    (hbelow : Raises (ancestors ++ [node]) node.children below) :
    Raises ancestors [node] below := by
  have hquiet : issuesAt ⟨node, ancestors⟩ = [] ∧ failuresAt ⟨node, ancestors⟩ = [] :=
    quiet fun hdeclares => absurd (hkind.symm.trans hdeclares.1) (by simp)
  exact node_of_children hquiet.1 hquiet.2 hbelow

/-- On nodes that are built alike is raised what is raised on each of them. -/
lemma map {α : Type} {items : List α} {build : α → Node} {due : α → List Issue}
    (h : ∀ item ∈ items, Raises ancestors [build item] (due item)) :
    Raises ancestors (items.map build) (items.flatMap due) := by
  induction items with
  | nil => exact nil
  | cons item items ih =>
    obtain ⟨hitem, hitems⟩ := List.forall_mem_cons.1 h
    exact append hitem (ih hitems)

end Raises

namespace Silent

lemma nil : Silent [] :=
  fun _ => .nil

lemma node_of_kind {node : Node} (hkind : node.kind.declarationKind? = none)
    (h : Silent node.children) : Silent [node] :=
  fun _ => .node_of_kind hkind (h _)

end Silent

/-! ## Reports -/

/-- With all rules switched on, the report on a tree within the depth bound is what is raised on the
tree. -/
lemma analyze_of_raises {config : Config} {root : Node} {issues : List Issue} (uri : String)
    (henabled : ∀ key ∈ Registry.builtin.keys, config.isEnabled key = true)
    (hheight : root.height ≤ config.maxDepth.toNat) (h : Raises [] [root] issues) :
    (Analyzer.builtin config).analyze ⟨uri, root⟩ =
      ⟨uri, issues, [], root.places.length, false⟩ := by
  have hvisits : root.places.map Place.visit = [root].flatMap (Tree.visitsUnder []) := by
    rw [Tree.map_visit_places, List.flatMap_singleton]
    rfl
  have hissues : root.places.flatMap (fun place => issuesAt place.visit) = issues := by
    rw [← h.issues_eq, ← hvisits, List.flatMap_map]
  have hfailures : root.places.flatMap (fun place => failuresAt place.visit) = [] := by
    rw [← h.failures_eq, ← hvisits, List.flatMap_map]
  rw [@Analyzer.analyze_of_height_le (Analyzer.builtin config) ⟨uri, root⟩ hheight,
    entries_builtin_of_isEnabled henabled, ← hissues, ← hfailures]
  rfl

end StrongTyping

end SyntaxLint
