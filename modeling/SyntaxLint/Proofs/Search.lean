import Mathlib
import SyntaxLint.Proofs.Preorder

/-!
# The search finds the first answer

A node answers a chain of kinds if the chain occurs, in order but not necessarily without gaps, among
the kinds on the way from the root to the node.  The search meets the kinds of its chain as soon as
it can and never goes back on one.  This loses no answer and finds none too late: its result is
the answer that comes first in pre-order (`Tree.search?_eq_some_iff`).

One step of the argument is about lists.  On a way down that starts with some kind, a chain can be met
exactly if what is left of it after that kind can be met on the rest of the way
(`sublist_cons_iff_afterKind`): if the first kind of the chain is met at all, it may as well be met
here.  The rest is that the search looks at the places of a tree in pre-order and stops at the first
that answers (`Forest.search?_eq_find?`).
-/

namespace SyntaxLint

open scoped List

/-! ## Answers -/

/-- The kinds on the way from the root to a node, its own kind last. -/
def Visit.lineage (visit : Visit) : List Kind :=
  visit.ancestors.map Tree.kind ++ [visit.node.kind]

/-- A node is the first answer to a chain: the chain occurs among the kinds on the way to it, and
every node of which this holds has a path that is not before its own. -/
structure Tree.IsFirstAnswer (root : Node) (chain : List Kind) (found : Found) : Prop where
  answers : ∃ visit, root.visitAt? found.path = some visit ∧ visit.node = found.node ∧
    chain <+ visit.lineage
  first : ∀ path visit, root.visitAt? path = some visit → chain <+ visit.lineage →
    found.path ≤ path

/-- What a search answers with if it stops at a place. -/
def Place.toFound (place : Place) : Found :=
  ⟨place.path, place.visit.node⟩

/-! ## Greedy matching -/

/-- Meeting the first kind of a chain as soon as possible loses nothing. -/
lemma sublist_cons_iff_afterKind (kind : Kind) (chain kinds : List Kind) :
    chain <+ kind :: kinds ↔ afterKind kind chain <+ kinds := by
  cases chain with
  | nil => simp [afterKind]
  | cons due chain =>
    by_cases hdue : due = kind
    · subst hdue
      rw [afterKind, if_pos rfl, List.cons_sublist_cons]
    · rw [afterKind, if_neg hdue, List.sublist_cons_iff]
      simp [hdue]

lemma sublist_singleton_iff {chain : List Kind} (hchain : chain ≠ []) (kind : Kind) :
    chain <+ [kind] ↔ chain = [kind] := by
  rw [List.sublist_singleton]
  simp [hchain]

lemma afterKind_ne_nil {kind : Kind} {chain : List Kind} (hchain : chain ≠ [])
    (hkind : chain ≠ [kind]) : afterKind kind chain ≠ [] := by
  cases chain with
  | nil => exact absurd rfl hchain
  | cons due chain =>
    rw [afterKind]
    split
    · next hdue =>
      intro hnil
      exact hkind (by rw [hdue, hnil])
    · simp

lemma getLast?_afterKind {kind : Kind} {chain : List Kind} (h : afterKind kind chain ≠ []) :
    (afterKind kind chain).getLast? = chain.getLast? := by
  cases chain with
  | nil => rfl
  | cons due chain =>
    rw [afterKind] at h ⊢
    split at h
    · next hdue =>
      rw [if_pos hdue, List.getLast?_cons_of_ne_nil h]
    · next hdue => rw [if_neg hdue]

/-! ## The search as a scan of the places -/

lemma Visit.lineage_root (node : Node) : (Visit.root node).lineage = [node.kind] := rfl

lemma Place.lineage_inside (node : Node) (place : Place) :
    (place.inside node).visit.lineage = node.kind :: place.visit.lineage := rfl

/-- Inside a node, a chain is looked for as what is left of it after the node. -/
lemma find?_map_inside (node : Node) (chain : List Kind) (places : List Place) :
    (places.map (Place.inside node)).find? (fun place => chain <+ place.visit.lineage) =
      (places.find? fun place => afterKind node.kind chain <+ place.visit.lineage).map
        (Place.inside node) := by
  rw [List.find?_map]
  congr 2
  funext place
  rw [Function.comp_apply, Place.lineage_inside]
  exact decide_eq_decide.2 (sublist_cons_iff_afterKind node.kind chain _)

@[simp] lemma Found.node_below (found : Found) (i : Nat) : (found.below i).node = found.node := rfl

/-- The search in a forest that starts with a node looks into the node's tree, then at the rest. -/
lemma Forest.search?_node (kind : Kind) (line : UInt32) (inner rest : Forest Kind)
    (chain : List Kind) (i : Nat) :
    (Forest.node kind line inner rest).search? chain i =
      ((Tree.search? ⟨kind, line, inner⟩ chain).map (Found.below · i)).or
        (rest.search? chain (i + 1)) := by
  rw [Forest.search?, Tree.search?]
  split
  · next found hfound => rw [hfound]; rfl
  · next hnone => rw [hnone]; rfl

/-- If the search scans the places of its elements, it scans the places of a tree. -/
lemma Tree.search?_eq_find?_of_elements (root : Node)
    (helements : ∀ chain : List Kind, chain ≠ [] → root.elements.search? chain 0 =
      ((root.elements.places 0).find? fun place => chain <+ place.visit.lineage).map Place.toFound)
    {chain : List Kind} (hchain : chain ≠ []) :
    root.search? chain =
      (root.places.find? fun place => chain <+ place.visit.lineage).map Place.toFound := by
  rw [Tree.search?, Tree.places, List.find?_cons, Visit.lineage_root]
  by_cases hkind : chain = [root.kind]
  · rw [if_pos hkind, decide_eq_true ((sublist_singleton_iff hchain root.kind).2 hkind)]
    rfl
  · rw [if_neg hkind, decide_eq_false ((sublist_singleton_iff hchain root.kind).not.2 hkind),
      helements _ (afterKind_ne_nil hchain hkind), find?_map_inside, Option.map_map]
    rfl

/-- The search goes through the places in pre-order and stops at the first that answers. -/
lemma Forest.search?_eq_find? (forest : Forest Kind) (i : Nat) (chain : List Kind)
    (hchain : chain ≠ []) :
    forest.search? chain i =
      ((forest.places i).find? fun place => chain <+ place.visit.lineage).map Place.toFound := by
  induction forest generalizing i chain with
  | nil => rfl
  | token t rest ih => exact ih (i + 1) chain hchain
  | node kind line inner rest ihInner ihRest =>
    have htree := Tree.search?_eq_find?_of_elements ⟨kind, line, inner⟩ (ihInner 0) hchain
    rw [Forest.search?_node, Forest.places_node, List.find?_append, Option.map_or, htree,
      ihRest (i + 1) chain hchain, List.find?_map, Option.map_map, Option.map_map]
    rfl

lemma Tree.search?_eq_find? (root : Node) {chain : List Kind} (hchain : chain ≠ []) :
    root.search? chain =
      (root.places.find? fun place => chain <+ place.visit.lineage).map Place.toFound :=
  Tree.search?_eq_find?_of_elements root (root.elements.search?_eq_find? 0) hchain

/-- Nothing answers the empty chain. -/
lemma Forest.search?_nil_chain (forest : Forest Kind) (i : Nat) : forest.search? [] i = none := by
  induction forest generalizing i with
  | nil => rfl
  | token t rest ih => exact ih (i + 1)
  | node kind line inner rest ihInner ihRest =>
    rw [Forest.search?, if_neg (by simp), afterKind, ihInner, ihRest]

lemma Tree.search?_nil_chain (root : Node) : root.search? [] = none := by
  rw [Tree.search?, if_neg (by simp), afterKind, Forest.search?_nil_chain]

/-- If a search of its elements ends with the last kind of the chain, so does a search of a tree. -/
lemma Tree.getLast?_of_search?_of_elements (root : Node)
    (helements : ∀ (chain : List Kind) (found : Found), chain ≠ [] →
      root.elements.search? chain 0 = some found → chain.getLast? = some found.node.kind)
    {chain : List Kind} {found : Found} (hchain : chain ≠ [])
    (h : root.search? chain = some found) : chain.getLast? = some found.node.kind := by
  rw [Tree.search?] at h
  by_cases hkind : chain = [root.kind]
  · rw [if_pos hkind] at h
    simp [hkind, ← Option.some.inj h]
  · rw [if_neg hkind] at h
    have hleft := afterKind_ne_nil hchain hkind
    rw [← getLast?_afterKind hleft]
    exact helements _ found hleft h

/-- The kind that a search ends with is the last of its chain. -/
lemma Forest.getLast?_of_search? (forest : Forest Kind) (i : Nat) (chain : List Kind)
    (found : Found) (hchain : chain ≠ []) (h : forest.search? chain i = some found) :
    chain.getLast? = some found.node.kind := by
  induction forest generalizing i chain found with
  | nil => exact absurd h (by simp [Forest.search?])
  | token t rest ih => exact ih (i + 1) chain found hchain h
  | node kind line inner rest ihInner ihRest =>
    rw [Forest.search?_node, Option.or_eq_some_iff, Option.map_eq_some_iff] at h
    rcases h with ⟨sub, hsub, rfl⟩ | ⟨-, hrest⟩
    · rw [Found.node_below]
      exact Tree.getLast?_of_search?_of_elements _ (ihInner 0) hchain hsub
    · exact ihRest (i + 1) chain found hchain hrest

lemma Tree.getLast?_of_search? {root : Node} {chain : List Kind} {found : Found}
    (hchain : chain ≠ []) (h : root.search? chain = some found) :
    chain.getLast? = some found.node.kind :=
  Tree.getLast?_of_search?_of_elements root (root.elements.getLast?_of_search? 0) hchain h

/-! ## The first answer -/

namespace Tree

variable {root : Node} {chain : List Kind} {found : Found}

lemma isFirstAnswer_of_search? (hchain : chain ≠ []) (h : root.search? chain = some found) :
    root.IsFirstAnswer chain found := by
  rw [Tree.search?_eq_find? root hchain, Option.map_eq_some_iff] at h
  obtain ⟨place, hfind, rfl⟩ := h
  have hanswers : chain <+ place.visit.lineage := by simpa using List.find?_some hfind
  refine ⟨⟨place.visit, Tree.mem_places.1 (List.mem_of_find?_eq_some hfind), rfl, hanswers⟩, ?_⟩
  intro path visit hvisit hchain
  have hother : (⟨path, visit⟩ : Place) ∈ root.places := Tree.mem_places.2 hvisit
  exact Tree.path_le_of_find?_places hfind hother (by simpa using hchain)

lemma search?_eq_none_iff (hchain : chain ≠ []) :
    root.search? chain = none ↔
      ∀ path visit, root.visitAt? path = some visit → ¬ chain <+ visit.lineage := by
  rw [Tree.search?_eq_find? root hchain, Option.map_eq_none_iff, List.find?_eq_none]
  constructor
  · intro h path visit hvisit
    have := h ⟨path, visit⟩ (Tree.mem_places.2 hvisit)
    simpa using this
  · intro h place hplace
    simpa using h place.path place.visit (Tree.mem_places.1 hplace)

/-- A tree has at most one first answer to a chain. -/
lemma IsFirstAnswer.unique {other : Found} (h : root.IsFirstAnswer chain found)
    (hother : root.IsFirstAnswer chain other) : found = other := by
  obtain ⟨⟨visit, hvisit, hnode, hchain⟩, hfirst⟩ := h
  obtain ⟨⟨visit', hvisit', hnode', hchain'⟩, hfirst'⟩ := hother
  have hpath : found.path = other.path :=
    le_antisymm (hfirst _ _ hvisit' hchain') (hfirst' _ _ hvisit hchain)
  have hsame : visit = visit' := by
    rw [hpath, hvisit'] at hvisit
    exact (Option.some.inj hvisit).symm
  rcases found with ⟨path, node⟩
  rcases other with ⟨path', node'⟩
  simp_all

lemma search?_eq_some_iff (hchain : chain ≠ []) :
    root.search? chain = some found ↔ root.IsFirstAnswer chain found := by
  refine ⟨isFirstAnswer_of_search? hchain, fun h => ?_⟩
  cases hsearch : root.search? chain with
  | none =>
    obtain ⟨⟨visit, hvisit, -, hanswers⟩, -⟩ := h
    exact absurd hanswers ((search?_eq_none_iff hchain).1 hsearch _ _ hvisit)
  | some other => rw [(isFirstAnswer_of_search? hchain hsearch).unique h]

/-- **The search finds the first answer in pre-order.**  To a chain that is not empty the search
answers with a node exactly if this is the first node, in the order of paths, on the way to which
the chain occurs, and with nothing exactly if there is no such node.  The node it answers with is of
the last kind of the chain, and the kinds before that occur among its proper ancestors.  The empty
chain has no answer. -/
theorem search?_iff_first_answer_in_preorder (root : Node) :
    root.search? [] = none ∧
      ∀ chain : List Kind, chain ≠ [] →
        (∀ found, root.search? chain = some found ↔ root.IsFirstAnswer chain found) ∧
        (root.search? chain = none ↔
          ∀ path visit, root.visitAt? path = some visit → ¬ chain <+ visit.lineage) ∧
        (∀ found, root.search? chain = some found →
          ∃ visit, root.visitAt? found.path = some visit ∧ visit.node = found.node ∧
            chain.getLast? = some found.node.kind ∧
            chain.dropLast <+ visit.ancestors.map Tree.kind) := by
  refine ⟨?_, fun chain hchain => ⟨fun found => search?_eq_some_iff hchain,
    search?_eq_none_iff hchain, fun found hfound => ?_⟩⟩
  · rw [Tree.search?, if_neg (by simp), afterKind, Forest.search?_nil_chain]
  · obtain ⟨⟨visit, hvisit, hnode, hanswers⟩, -⟩ := isFirstAnswer_of_search? hchain hfound
    have hlast := getLast?_of_search? hchain hfound
    refine ⟨visit, hvisit, hnode, hlast, ?_⟩
    -- Chain and lineage end alike, so their ends can be taken off.
    have hsplit : chain = chain.dropLast ++ [visit.node.kind] := by
      rw [hnode]
      exact (List.dropLast_append_getLast? _ hlast).symm
    rw [hsplit, Visit.lineage] at hanswers
    exact (List.append_sublist_append_right _).1 hanswers

/-- The first subtree meets all of the chain but its end; the answer is in the second, where the
first kind occurs twice on the way. -/
theorem search?_past_unfinished_branch :
    let root : Node :=
      ⟨.expr, 1, .node .flworExpr 2 (.node .expr 2 .nil .nil)
        (.token ⟨",", 3⟩ (.node .expr 3 (.node .flworExpr 4 (.node .literal 5 .nil .nil) .nil)
          .nil))⟩
    [Kind.expr, .flworExpr, .literal] ≠ [] ∧
      root.IsFirstAnswer [.expr, .flworExpr, .literal] ⟨[2, 0, 0], ⟨.literal, 5, .nil⟩⟩ := by
  intro root
  refine ⟨by decide, ?_⟩
  exact (((search?_iff_first_answer_in_preorder root).2 _ (by decide)).1 _).1 (by decide)

end Tree

end SyntaxLint
