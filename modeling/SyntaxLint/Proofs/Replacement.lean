import Mathlib
import SyntaxLint.Proofs.Subtree
import SyntaxLint.Proofs.Verdict

/-!
# Replacing a subtree

`Tree.replaceAt` puts another node in the place of the one at the end of a path.  Every node around
that place is a new one, since the replaced subtree is part of it, but seen without texts nothing
has changed there: at a path that does not lead through the place, the new tree has a node with the
same sketch as the old one, or none if there was none (`Tree.map_sketch_replaceAt`).  This needs the
new node to be of the same kind as the old one, because its parent may declare a type in it.

Two trees with the same sketches at some paths have the same sketches at their places with these
paths, in pre-order (`Tree.map_sketch_filter_congr`).  So what is known path by path is known of the
list of nodes that an analysis goes through.
-/

namespace SyntaxLint

open scoped List

/-! ## Replacement at a path -/

section Replacement

variable {κ : Type}

/-- The tree with another node in the place of the one at the end of a path.  If the path does not
lead to a node, nothing is replaced. -/
def Tree.replaceAt : Tree κ → Path → Tree κ → Tree κ
  | _, [], new => new
  | tree, i :: path, new =>
    match tree.toList[i]? with
    | some (.node child) =>
      { tree with elements := .ofList (tree.toList.set i (.node (child.replaceAt path new))) }
    | _ => tree

/-- The kind of an element that is a node. -/
def Element.kind? : Element κ → Option κ
  | .node tree => some tree.kind
  | .token _ => none

lemma Forest.map_kind_children (forest : Forest κ) :
    forest.children.map Tree.kind = forest.toList.filterMap Element.kind? := by
  induction forest with
  | nil => rfl
  | token t rest ih => exact ih
  | node kind line inner rest _ ih => exact congrArg (kind :: ·) ih

namespace Tree

variable {tree child node new : Tree κ} {i : Nat} {path : Path}

@[simp] lemma replaceAt_nil (tree new : Tree κ) : tree.replaceAt [] new = new := by
  rw [replaceAt]

/-- A path that leaves a node leads to one of its children first. -/
lemma exists_child_of_at? (h : tree.at? (i :: path) = some node) :
    ∃ child, tree.toList[i]? = some (.node child) ∧ child.at? path = some node := by
  rw [at?] at h
  split at h
  · next child hchild => exact ⟨child, hchild, h⟩
  · exact absurd h (by simp)

lemma toList_replaceAt (h : tree.toList[i]? = some (.node child)) (path : Path) (new : Tree κ) :
    (tree.replaceAt (i :: path) new).toList =
      tree.toList.set i (.node (child.replaceAt path new)) := by
  rw [replaceAt, h]
  exact Forest.toList_ofList _

/-- The child on the way to the place is the one in which something is replaced. -/
lemma getElem?_replaceAt_self (h : tree.toList[i]? = some (.node child)) (path : Path)
    (new : Tree κ) :
    (tree.replaceAt (i :: path) new).toList[i]? = some (.node (child.replaceAt path new)) := by
  obtain ⟨hi, -⟩ := List.getElem?_eq_some_iff.1 h
  rw [toList_replaceAt h, List.getElem?_set_self hi]

lemma kind_replaceAt_cons (tree : Tree κ) (i : Nat) (path : Path) (new : Tree κ) :
    (tree.replaceAt (i :: path) new).kind = tree.kind := by
  rw [replaceAt]
  split <;> rfl

lemma line_replaceAt_cons (tree : Tree κ) (i : Nat) (path : Path) (new : Tree κ) :
    (tree.replaceAt (i :: path) new).line = tree.line := by
  rw [replaceAt]
  split <;> rfl

lemma kind_replaceAt (h : tree.at? path = some node) (hkind : new.kind = node.kind) :
    (tree.replaceAt path new).kind = tree.kind := by
  cases path with
  | nil =>
    rw [at?_nil, Option.some.injEq] at h
    rw [replaceAt_nil, hkind, h]
  | cons i path => exact kind_replaceAt_cons tree i path new

/-- Replacing a node below it by one of the same kind leaves a node with children of the same
kinds. -/
lemma map_kind_children_replaceAt (h : tree.at? (i :: path) = some node)
    (hkind : new.kind = node.kind) :
    (tree.replaceAt (i :: path) new).children.map Tree.kind = tree.children.map Tree.kind := by
  obtain ⟨child, hchild, hbelow⟩ := exists_child_of_at? h
  have hlist : (tree.replaceAt (i :: path) new).elements.toList =
      tree.toList.set i (.node (child.replaceAt path new)) := toList_replaceAt hchild path new
  have hsplit : tree.toList = tree.toList.take i ++ .node child :: tree.toList.drop (i + 1) := by
    obtain ⟨hi, hget⟩ := List.getElem?_eq_some_iff.1 hchild
    rw [← hget, ← List.drop_eq_getElem_cons hi, List.take_append_drop]
  have hset : tree.toList.set i (.node (child.replaceAt path new)) =
      tree.toList.take i ++ .node (child.replaceAt path new) :: tree.toList.drop (i + 1) := by
    rw [List.set_eq_take_append_cons_drop, if_pos (List.getElem?_eq_some_iff.1 hchild).1]
  have hsame : Element.kind? (.node (child.replaceAt path new)) = Element.kind? (.node child) :=
    congrArg some (kind_replaceAt hbelow hkind)
  rw [children, children, Forest.map_kind_children, Forest.map_kind_children, hlist, hset,
    ← Tree.toList]
  conv_rhs => rw [hsplit]
  rw [List.filterMap_append, List.filterMap_append, List.filterMap_cons, List.filterMap_cons, hsame]

end Tree

end Replacement

/-! ## Sketches at paths -/

/-- A sketch with more kinds around. -/
def Sketch.under (kinds : List Kind) (sketch : Sketch) : Sketch :=
  { sketch with around := kinds ++ sketch.around }

lemma Visit.sketch_under (ancestors : List Node) (visit : Visit) :
    (visit.under ancestors).sketch = visit.sketch.under (ancestors.map Tree.kind) := by
  simp [Visit.sketch, Visit.under, Sketch.under]

lemma Visit.map_sketch_map_under (ancestors : List Node) (visit : Option Visit) :
    (visit.map (Visit.under ancestors)).map Visit.sketch =
      (visit.map Visit.sketch).map (Sketch.under (ancestors.map Tree.kind)) := by
  cases visit with
  | none => rfl
  | some visit => exact congrArg some (visit.sketch_under ancestors)

namespace Tree

variable {root other child node new : Node} {i : Nat} {path : Path}

/-- A node's declaring a type is a matter of its kind and of the kinds of its children. -/
lemma isSome_declaration?_congr (hkind : node.kind = other.kind)
    (hchildren : node.children.map Tree.kind = other.children.map Tree.kind) :
    node.declaration?.isSome = other.declaration?.isSome := by
  have hchild : ∀ (node : Node) (kind : Kind),
      (node.child? kind).isSome = (node.children.map Tree.kind).any fun found => found = kind := by
    intro node kind
    rw [child?, List.isSome_find?, List.any_map]
    rfl
  rw [declaration?, declaration?, hkind]
  cases other.kind.declarationKind? with
  | none => rfl
  | some kind => rw [Option.bind_some, Option.bind_some, hchild, hchild, hchildren]

/-- A path that leaves a node through a child goes on in the child, below the node. -/
lemma visitAt?_of_child (h : root.toList[i]? = some (.node child)) (path : Path) :
    root.visitAt? (i :: path) = (child.visitAt? path).map (Visit.under [root]) := by
  have hforest : root.elements.visitAt? (i :: path) = child.visitAt? path := by
    rw [Forest.visitAt?, ← Tree.toList, h]
  rw [visitAt?_cons, hforest]

/-- Nodes of the same kind with the same element at an index look alike below it. -/
lemma map_sketch_visitAt?_congr (hkind : root.kind = other.kind)
    (helement : root.toList[i]? = other.toList[i]?) (path : Path) :
    (root.visitAt? (i :: path)).map Visit.sketch =
      (other.visitAt? (i :: path)).map Visit.sketch := by
  have hforest : root.elements.visitAt? (i :: path) = other.elements.visitAt? (i :: path) := by
    rw [Forest.visitAt?, Forest.visitAt?, ← Tree.toList, ← Tree.toList, helement]
  rw [visitAt?_cons, visitAt?_cons, hforest, Visit.map_sketch_map_under,
    Visit.map_sketch_map_under, List.map_singleton, List.map_singleton, hkind]

/-- The new node stands in the place of the old one, and the kinds around it are the same. -/
lemma visitAt?_replaceAt {visit : Visit} (h : root.visitAt? path = some visit) (new : Node) :
    ∃ ancestors, (root.replaceAt path new).visitAt? path = some ⟨new, ancestors⟩ ∧
      ancestors.map Tree.kind = visit.ancestors.map Tree.kind := by
  induction path generalizing root visit with
  | nil =>
    rw [visitAt?_root, Option.some.injEq] at h
    exact ⟨[], by rw [replaceAt_nil, visitAt?_root, Visit.root], by rw [← h, Visit.root]⟩
  | cons i path ih =>
    obtain ⟨child, hchild, -⟩ := exists_child_of_at? (at?_of_visitAt? h)
    rw [visitAt?_of_child hchild, Option.map_eq_some_iff] at h
    obtain ⟨inner, hinner, rfl⟩ := h
    obtain ⟨ancestors, hreplaced, hkinds⟩ := ih hinner
    refine ⟨root.replaceAt (i :: path) new :: ancestors, ?_, ?_⟩
    · rw [visitAt?_of_child (getElem?_replaceAt_self hchild path new), hreplaced]
      rfl
    · rw [List.map_cons, kind_replaceAt_cons, hkinds]
      rfl

/-- A view of visits is the same at a path that does not lead through the replaced node, if it sees
nothing of ancestors but their kinds and is the same at nodes that contain the replaced one. -/
lemma map_visitAt?_replaceAt {α : Type} {view : Visit → α} {away : Path}
    (hunder : ∀ (outer other : Node) (visit visit' : Visit), outer.kind = other.kind →
      view visit = view visit' → view (visit.under [outer]) = view (visit'.under [other]))
    (hroot : ∀ (outer : Node) (i : Nat) (path : Path), outer.at? (i :: path) = some node →
      view (.root (outer.replaceAt (i :: path) new)) = view (.root outer))
    (hnode : root.at? path = some node) (haway : ¬ path <+: away) :
    ((root.replaceAt path new).visitAt? away).map view = (root.visitAt? away).map view := by
  induction path generalizing root away with
  | nil => exact absurd List.nil_prefix haway
  | cons i path ih =>
    obtain ⟨child, hchild, hbelow⟩ := exists_child_of_at? hnode
    have hkind := kind_replaceAt_cons root i path new
    have hlift : ∀ {a b : Option Visit}, a.map view = b.map view →
        (a.map (Visit.under [root.replaceAt (i :: path) new])).map view =
          (b.map (Visit.under [root])).map view := by
      rintro (_ | a) (_ | b) hsame
      · rfl
      · exact absurd hsame (by simp)
      · exact absurd hsame (by simp)
      · exact congrArg some (hunder _ _ a b hkind (Option.some.inj hsame))
    cases away with
    | nil =>
      rw [visitAt?_root, visitAt?_root, Option.map_some, Option.map_some, hroot root i path hnode]
    | cons j away =>
      by_cases hij : i = j
      · subst hij
        rw [visitAt?_of_child (getElem?_replaceAt_self hchild path new), visitAt?_of_child hchild]
        exact hlift (ih hbelow fun h => haway ((List.prefix_cons_inj i).2 h))
      · have hforest : (root.replaceAt (i :: path) new).elements.visitAt? (j :: away) =
            root.elements.visitAt? (j :: away) := by
          rw [Forest.visitAt?, Forest.visitAt?, ← Tree.toList, ← Tree.toList,
            toList_replaceAt hchild, List.getElem?_set_ne hij]
        rw [visitAt?_cons, visitAt?_cons]
        exact hlift (congrArg _ hforest)

/-- **Away from the replaced node nothing has changed** but for texts: at a path that does not lead
through its place there is a node with the same sketch, or none as before. -/
lemma map_sketch_replaceAt {away : Path} (hnode : root.at? path = some node)
    (hkind : new.kind = node.kind) (haway : ¬ path <+: away) :
    ((root.replaceAt path new).visitAt? away).map Visit.sketch =
      (root.visitAt? away).map Visit.sketch := by
  refine map_visitAt?_replaceAt (fun outer other visit visit' hsame hview => ?_)
    (fun outer i path hat => ?_) hnode haway
  · rw [Visit.sketch_under, Visit.sketch_under, hview, List.map_singleton, List.map_singleton,
      hsame]
  · have houter := kind_replaceAt_cons outer i path new
    have hdeclares := isSome_declaration?_congr houter (map_kind_children_replaceAt hat hkind)
    exact Visit.sketch_eq_iff.2 ⟨houter, line_replaceAt_cons outer i path new, hdeclares, rfl⟩

/-! ## Sketches of places -/

/-- What is at a path, among the places within a bound whose paths are kept. -/
lemma mem_map_sketch_filter {keep : Path → Prop} [DecidablePred keep] {bound : Nat}
    {item : Path × Sketch} :
    item ∈ ((root.placesWithin bound).filter fun place => keep place.path).map
        (fun place => (place.path, place.visit.sketch)) ↔
      keep item.1 ∧ item.1.length ≤ bound ∧
        (root.visitAt? item.1).map Visit.sketch = some item.2 := by
  simp only [List.mem_map, List.mem_filter, (root.isPreorder_placesWithin bound).mem_iff,
    decide_eq_true_eq, Option.map_eq_some_iff]
  constructor
  · rintro ⟨place, ⟨⟨hvisit, hlength⟩, hkeep⟩, rfl⟩
    exact ⟨hkeep, hlength, place.visit, hvisit, rfl⟩
  · rintro ⟨hkeep, hlength, visit, hvisit, hsketch⟩
    exact ⟨⟨item.1, visit⟩, ⟨⟨hvisit, hlength⟩, hkeep⟩, by rw [hsketch]⟩

/-- Trees with the same sketches at some paths have the same sketches at their places with these
paths, in pre-order. -/
lemma map_sketch_filter_congr {keep : Path → Prop} [DecidablePred keep]
    (h : ∀ path, keep path →
      (root.visitAt? path).map Visit.sketch = (other.visitAt? path).map Visit.sketch)
    (bound : Nat) :
    ((root.placesWithin bound).filter fun place => keep place.path).map
        (fun place => place.visit.sketch) =
      ((other.placesWithin bound).filter fun place => keep place.path).map
        fun place => place.visit.sketch := by
  have hsorted : ∀ tree : Node, (((tree.placesWithin bound).filter fun place =>
      keep place.path).map fun place => (place.path, place.visit.sketch)).Pairwise
        fun a b => a.1 < b.1 :=
    fun tree => List.pairwise_map.2 ((tree.pairwise_placesWithin bound).filter _)
  have hsame := eq_of_increasing_paths Prod.fst (hsorted root) (hsorted other) fun item => by
    rw [mem_map_sketch_filter, mem_map_sketch_filter]
    exact and_congr_right fun hkeep => by rw [h item.1 hkeep]
  have hsketches := congrArg (List.map Prod.snd) hsame
  rwa [List.map_map, List.map_map] at hsketches

end Tree

end SyntaxLint
