import Mathlib
import SyntaxLint.Check

/-!
# Places of a tree in pre-order

The nodes of a tree are told apart by their paths, and pre-order is the lexicographic order of
paths: an ancestor comes before what is below it, because its path is an initial part, and the
subtree of an element before the subtrees of the elements after it, because of the index at which
the paths part.

A `Place` is a path together with the visit of the node it leads to.  `Tree.places` lists the
places of a tree.  Two facts determine the list (`Tree.IsPreorder`): the paths increase, and a place
is in the list exactly if following its path from the root gives its visit, ancestors included
(`Tree.isPreorder_placesWithin`).  The list of visits that checks are run on is the same list
without the paths (`Tree.map_visit_places`).

The forest form `Forest.places` gives every place as seen from the forest: paths start with the
index of an element of the forest, and ancestors are those inside the forest.  Nothing is
accumulated, so a fact about what is below a node is a fact about the forest of its elements, seen
through `Place.inside`.
-/

namespace SyntaxLint

/-- A node of a tree: the path to it, and its visit. -/
structure Place where
  path : Path
  visit : Visit
  deriving DecidableEq

namespace Place

/-- The same place, seen from the parent of the node its path starts at. -/
def below (i : Nat) (place : Place) : Place :=
  { place with path := i :: place.path }

/-- The same place, with one more ancestor in front. -/
def inside (node : Node) (place : Place) : Place :=
  { place with visit := ⟨place.visit.node, node :: place.visit.ancestors⟩ }

@[simp] lemma path_below (i : Nat) (place : Place) : (place.below i).path = i :: place.path := rfl

@[simp] lemma visit_below (i : Nat) (place : Place) : (place.below i).visit = place.visit := rfl

@[simp] lemma path_inside (node : Node) (place : Place) :
    (place.inside node).path = place.path := rfl

@[simp] lemma visit_inside (node : Node) (place : Place) :
    (place.inside node).visit = ⟨place.visit.node, node :: place.visit.ancestors⟩ := rfl

end Place

/-- The places of a forest in pre-order, as seen from the forest; its first element has index
`i`. -/
def Forest.places : Forest Kind → Nat → List Place
  | .nil, _ => []
  | .token _ rest, i => rest.places (i + 1)
  | .node kind line inner rest, i =>
    let node : Node := ⟨kind, line, inner⟩
    ⟨[i], .root node⟩ :: (inner.places 0).map (fun place => (place.inside node).below i)
      ++ rest.places (i + 1)

/-- The places of a tree in pre-order. -/
def Tree.places (root : Node) : List Place :=
  ⟨[], .root root⟩ :: (root.elements.places 0).map (Place.inside root)

/-- The places of a tree whose depth is within a bound, in pre-order. -/
def Tree.placesWithin (root : Node) (bound : Nat) : List Place :=
  root.places.filter fun place => place.visit.depth ≤ bound

/-- A list is the pre-order of the nodes of a tree down to a depth: it holds exactly the places
that are found by following paths of at most that length, in the order of their paths. -/
structure Tree.IsPreorder (root : Node) (bound : Nat) (places : List Place) : Prop where
  increasing : (places.map Place.path).Pairwise (· < ·)
  mem_iff : ∀ place, place ∈ places ↔
    root.visitAt? place.path = some place.visit ∧ place.path.length ≤ bound

/-! ## Following a path -/

/-- A visit with ancestors put in front of its own. -/
def Visit.under (ancestors : List Node) (visit : Visit) : Visit :=
  ⟨visit.node, ancestors ++ visit.ancestors⟩

/-- Ancestors given at the start of a path stay in front of those met on it. -/
lemma Tree.visitBelow?_append (path : Path) (outer inner : List Node) (node : Node) :
    node.visitBelow? (outer ++ inner) path =
      (node.visitBelow? inner path).map (Visit.under outer) := by
  induction path generalizing inner node with
  | nil => simp [Tree.visitBelow?, Visit.under]
  | cons i path ih =>
    rw [Tree.visitBelow?, Tree.visitBelow?]
    split
    · rw [List.append_assoc, ih]
    · rfl

/-- The visit at the end of a path that starts at an element of a forest. -/
def Forest.visitAt? (forest : Forest Kind) : Path → Option Visit
  | [] => none
  | i :: path =>
    match forest.toList[i]? with
    | some (.node child) => child.visitAt? path
    | _ => none

@[simp] lemma Forest.nil_visitAt? (path : Path) : Forest.visitAt? .nil path = none := by
  cases path <;> rfl

@[simp] lemma Forest.token_visitAt?_zero (t : Token) (rest : Forest Kind) (path : Path) :
    (Forest.token t rest).visitAt? (0 :: path) = none := rfl

@[simp] lemma Forest.token_visitAt?_succ (t : Token) (rest : Forest Kind) (i : Nat)
    (path : Path) :
    (Forest.token t rest).visitAt? ((i + 1) :: path) = rest.visitAt? (i :: path) := rfl

@[simp] lemma Forest.node_visitAt?_zero (kind : Kind) (line : UInt32) (inner rest : Forest Kind)
    (path : Path) :
    (Forest.node kind line inner rest).visitAt? (0 :: path) =
      Tree.visitAt? ⟨kind, line, inner⟩ path := rfl

@[simp] lemma Forest.node_visitAt?_succ (kind : Kind) (line : UInt32) (inner rest : Forest Kind)
    (i : Nat) (path : Path) :
    (Forest.node kind line inner rest).visitAt? ((i + 1) :: path) =
      rest.visitAt? (i :: path) := rfl

@[simp] lemma Tree.visitAt?_root (root : Node) : root.visitAt? [] = some (.root root) := by
  simp [Tree.visitAt?, Tree.visitBelow?, Visit.root]

/-- A path that leaves the root goes on in the forest of the root's elements. -/
lemma Tree.visitAt?_cons (root : Node) (i : Nat) (path : Path) :
    root.visitAt? (i :: path) = (root.elements.visitAt? (i :: path)).map (Visit.under [root]) := by
  rw [Tree.visitAt?, Tree.visitBelow?, Forest.visitAt?, Tree.toList]
  rcases root.elements.toList[i]? with _ | child | t
  · rfl
  · exact Tree.visitBelow?_append path [root] [] child
  · rfl

/-- The visit at the end of a path is the visit of the node that stands there. -/
lemma Tree.map_node_visitBelow? (path : Path) (ancestors : List Node) (node : Node) :
    (node.visitBelow? ancestors path).map Visit.node = node.at? path := by
  induction path generalizing ancestors node with
  | nil => simp [Tree.visitBelow?]
  | cons i path ih =>
    rw [Tree.visitBelow?, Tree.at?]
    rcases node.toList[i]? with _ | child | t
    · rfl
    · exact ih _ child
    · rfl

lemma Tree.at?_of_visitAt? {root : Node} {path : Path} {visit : Visit}
    (h : root.visitAt? path = some visit) : root.at? path = some visit.node := by
  rw [← Tree.map_node_visitBelow? path [], ← Tree.visitAt?, h, Option.map_some]

lemma Tree.exists_visitAt?_of_at? {root node : Node} {path : Path}
    (h : root.at? path = some node) :
    ∃ visit, root.visitAt? path = some visit ∧ visit.node = node := by
  rwa [← Tree.map_node_visitBelow? path [], ← Tree.visitAt?, Option.map_eq_some_iff] at h

/-- A node has as many ancestors as the path to it has steps. -/
lemma Tree.depth_of_visitBelow? {path : Path} {ancestors : List Node} {node : Node}
    {visit : Visit} (h : node.visitBelow? ancestors path = some visit) :
    visit.depth = ancestors.length + path.length := by
  induction path generalizing ancestors node with
  | nil =>
    simp only [Tree.visitBelow?, Option.some.injEq] at h
    simp [← h, Visit.depth]
  | cons i path ih =>
    rw [Tree.visitBelow?] at h
    split at h
    · have := ih h
      simp only [List.length_append, List.length_singleton] at this
      simp only [List.length_cons]
      omega
    · exact absurd h (by simp)

/-! ## Pre-order and paths -/

/-- The places of a forest that starts with a node are those of the node's tree, then the rest. -/
lemma Forest.places_node (kind : Kind) (line : UInt32) (inner rest : Forest Kind) (i : Nat) :
    (Forest.node kind line inner rest).places i =
      (Tree.places ⟨kind, line, inner⟩).map (Place.below i) ++ rest.places (i + 1) := by
  simp [Forest.places, Tree.places, Place.below, Function.comp_def]

/-- If the places of its elements are the ends of the paths into them, then the places of a tree are
the ends of the paths from its root. -/
lemma Tree.mem_places_of_elements (root : Node)
    (helements : ∀ sub : Place, sub ∈ root.elements.places 0 ↔
      ∃ j path, sub.path = (0 + j) :: path ∧ root.elements.visitAt? (j :: path) = some sub.visit)
    (place : Place) :
    place ∈ root.places ↔ root.visitAt? place.path = some place.visit := by
  rw [Tree.places, List.mem_cons, List.mem_map]
  constructor
  · rintro (rfl | ⟨sub, hsub, rfl⟩)
    · exact Tree.visitAt?_root root
    · obtain ⟨j, path, hpath, hvisit⟩ := (helements sub).1 hsub
      rw [Nat.zero_add] at hpath
      rw [Place.path_inside, hpath, Tree.visitAt?_cons, hvisit]
      rfl
  · intro h
    rcases place with ⟨_ | ⟨i, path⟩, visit⟩
    · exact .inl (by simpa using h.symm)
    · rw [Tree.visitAt?_cons, Option.map_eq_some_iff] at h
      obtain ⟨sub, hsub, rfl⟩ := h
      exact .inr ⟨⟨i :: path, sub⟩, (helements _).2 ⟨i, path, by simp, hsub⟩, rfl⟩

/-- The places of a forest are the ends of the paths into it. -/
lemma Forest.mem_places (forest : Forest Kind) (i : Nat) (place : Place) :
    place ∈ forest.places i ↔
      ∃ j path, place.path = (i + j) :: path ∧
        forest.visitAt? (j :: path) = some place.visit := by
  induction forest generalizing i place with
  | nil => simp [Forest.places]
  | token t rest ih =>
    rw [Forest.places, ih]
    constructor
    · rintro ⟨j, path, hpath, hvisit⟩
      exact ⟨j + 1, path, by rw [hpath]; congr 1; omega, hvisit⟩
    · rintro ⟨j, path, hpath, hvisit⟩
      cases j with
      | zero => simp at hvisit
      | succ j => exact ⟨j, path, by rw [hpath]; congr 1; omega, hvisit⟩
  | node kind line inner rest ihInner ihRest =>
    have htree := Tree.mem_places_of_elements ⟨kind, line, inner⟩ (ihInner 0)
    rw [Forest.places_node, List.mem_append, List.mem_map, ihRest]
    constructor
    · rintro (⟨sub, hsub, rfl⟩ | ⟨j, path, hpath, hvisit⟩)
      · exact ⟨0, sub.path, rfl, (htree sub).1 hsub⟩
      · exact ⟨j + 1, path, by rw [hpath]; congr 1; omega, hvisit⟩
    · rintro ⟨j, path, hpath, hvisit⟩
      rcases place with ⟨placePath, visit⟩
      obtain rfl : placePath = (i + j) :: path := hpath
      cases j with
      | zero => exact .inl ⟨⟨path, visit⟩, (htree _).2 hvisit, rfl⟩
      | succ j => exact .inr ⟨j, path, by simp; omega, hvisit⟩

/-- If the places of its elements come in the order of their paths, so do the places of a tree. -/
lemma Tree.pairwise_places_of_elements (root : Node)
    (helements : (root.elements.places 0).Pairwise fun a b => a.path < b.path) :
    root.places.Pairwise fun a b => a.path < b.path := by
  rw [Tree.places, List.pairwise_cons, List.pairwise_map]
  refine ⟨?_, helements⟩
  intro place hplace
  obtain ⟨sub, hsub, rfl⟩ := List.mem_map.1 hplace
  obtain ⟨j, path, hpath, -⟩ := (Forest.mem_places _ _ sub).1 hsub
  simp [hpath]

/-- The places of a forest come in the order of their paths. -/
lemma Forest.pairwise_places (forest : Forest Kind) (i : Nat) :
    (forest.places i).Pairwise fun a b => a.path < b.path := by
  induction forest generalizing i with
  | nil => exact List.Pairwise.nil
  | token t rest ih => exact ih (i + 1)
  | node kind line inner rest ihInner ihRest =>
    have htree := Tree.pairwise_places_of_elements ⟨kind, line, inner⟩ (ihInner 0)
    rw [Forest.places_node, List.pairwise_append, List.pairwise_map]
    refine ⟨htree.imp fun h => List.cons_lt_cons_iff.2 (.inr ⟨rfl, h⟩), ihRest (i + 1), ?_⟩
    intro place hplace after hafter
    obtain ⟨sub, -, rfl⟩ := List.mem_map.1 hplace
    obtain ⟨j, path, hpath, -⟩ := (Forest.mem_places _ _ after).1 hafter
    rw [hpath]
    exact List.cons_lt_cons_iff.2 (.inl (by omega))

namespace Tree

/-- The places of a tree are the ends of the paths from its root. -/
lemma mem_places {root : Node} {place : Place} :
    place ∈ root.places ↔ root.visitAt? place.path = some place.visit :=
  mem_places_of_elements root (root.elements.mem_places 0) place

/-- The places of a tree come in the order of their paths. -/
lemma pairwise_places (root : Node) :
    root.places.Pairwise fun a b => a.path < b.path :=
  pairwise_places_of_elements root (root.elements.pairwise_places 0)

/-- The depth of a place is the length of its path. -/
lemma depth_of_mem_places {root : Node} {place : Place} (h : place ∈ root.places) :
    place.visit.depth = place.path.length := by
  have := Tree.depth_of_visitBelow? (mem_places.1 h)
  simpa using this

/-- A path leads to a node exactly if the node has a place with this path. -/
lemma at?_eq_some_iff {root node : Node} {path : Path} :
    root.at? path = some node ↔ ∃ place ∈ root.places, place.path = path ∧ place.visit.node = node := by
  rw [← map_node_visitBelow? path [], Option.map_eq_some_iff]
  constructor
  · rintro ⟨visit, hvisit, rfl⟩
    exact ⟨⟨path, visit⟩, mem_places.2 hvisit, rfl, rfl⟩
  · rintro ⟨place, hplace, rfl, rfl⟩
    exact ⟨place.visit, mem_places.1 hplace, rfl⟩

/-- A tree has a place below a depth exactly if a path longer than that leads to a node. -/
lemma exists_deep_place_iff (root : Node) (bound : Nat) :
    (∃ place ∈ root.places, bound < place.visit.depth) ↔
      ∃ path, (root.at? path).isSome ∧ bound < path.length := by
  simp only [Option.isSome_iff_exists, at?_eq_some_iff]
  constructor
  · rintro ⟨place, hplace, hdeep⟩
    exact ⟨place.path, ⟨_, place, hplace, rfl, rfl⟩, by rwa [← depth_of_mem_places hplace]⟩
  · rintro ⟨_, ⟨_, place, hplace, rfl, rfl⟩, hlong⟩
    exact ⟨place, hplace, by rwa [depth_of_mem_places hplace]⟩

/-- The first place with some property comes no later than any other that has it. -/
lemma path_le_of_find?_places {root : Node} {p : Place → Bool} {place other : Place}
    (hfind : root.places.find? p = some place) (hother : other ∈ root.places) (hp : p other = true) :
    place.path ≤ other.path := by
  obtain ⟨-, before, after, hsplit, hbefore⟩ := List.find?_eq_some_iff_append.1 hfind
  rw [hsplit, List.mem_append, List.mem_cons] at hother
  rcases hother with hmem | rfl | hmem
  · exact absurd hp (by simpa using hbefore other hmem)
  · exact le_rfl
  · have hsorted := pairwise_places root
    rw [hsplit, List.pairwise_append, List.pairwise_cons] at hsorted
    exact le_of_lt (hsorted.2.1.1 other hmem)

/-- **The list is the pre-order.**  The places within a bound are exactly those that a path of at
most that length leads to, each once and in the order of the paths. -/
lemma isPreorder_placesWithin (root : Node) (bound : Nat) :
    root.IsPreorder bound (root.placesWithin bound) where
  increasing := List.pairwise_map.2 ((pairwise_places root).filter _)
  mem_iff := by
    intro place
    rw [Tree.placesWithin, List.mem_filter, decide_eq_true_iff]
    constructor
    · rintro ⟨hmem, hdepth⟩
      exact ⟨mem_places.1 hmem, by rwa [← depth_of_mem_places hmem]⟩
    · rintro ⟨hvisit, hlength⟩
      have hmem : place ∈ root.places := mem_places.2 hvisit
      exact ⟨hmem, by rwa [depth_of_mem_places hmem]⟩

end Tree

/-! ## Visits -/

/-- The visits of a forest are those of its places, below the given ancestors. -/
lemma Forest.visits_eq_map_places (forest : Forest Kind) (ancestors : List Node) (i : Nat) :
    forest.visits ancestors =
      (forest.places i).map fun place => place.visit.under ancestors := by
  induction forest generalizing ancestors i with
  | nil => rfl
  | token t rest ih => exact ih ancestors (i + 1)
  | node kind line inner rest ihInner ihRest =>
    rw [Forest.visits, Forest.places, ihInner _ 0, ihRest _ (i + 1)]
    simp [Visit.under, Visit.root, Function.comp_def]

/-- The visits of a tree are those of its places. -/
lemma Tree.map_visit_places (root : Node) : root.places.map Place.visit = root.visits := by
  rw [Tree.visits, Forest.visits_eq_map_places _ _ 0]
  simp [Tree.places, Visit.under, Function.comp_def]

end SyntaxLint
