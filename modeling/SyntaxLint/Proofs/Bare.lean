import Mathlib
import SyntaxLint.Proofs.Search
import SyntaxLint.Proofs.Verdict

/-!
# Tokens do not matter to searches and verdicts

Tokens and nodes stand in one sequence of elements.  A tree without its tokens is *bare*
(`Tree.bare`), and two trees that are bare alike differ only in their tokens.  Such trees are
searched and judged alike: tokens contribute to texts and messages and to nothing else.

A node is found at a path, in which tokens count, so the same node has different paths in trees with
different tokens.  What stays is its *position* (`Tree.position`), the path in which only nodes
count.  The whole argument rests on one equation: the places of the bare tree are the places of the
tree, in the same order, each at its position and with a bare visit (`Tree.places_bare`).  Searches
and analyses go through the places, so for them it remains to see that what they ask of a single
place is the same of its bare form: the kinds on the way to it for a search, and for an analysis what
each check says of it (`Check.IgnoresTokens`).
-/

namespace SyntaxLint

open scoped List

/-! ## Bare trees -/

section Bare

variable {κ : Type}

/-- The elements without the tokens among them, at any depth. -/
def Forest.bare : Forest κ → Forest κ
  | .nil => .nil
  | .token _ rest => rest.bare
  | .node kind line inner rest => .node kind line inner.bare rest.bare

/-- The tree without its tokens. -/
def Tree.bare (tree : Tree κ) : Tree κ :=
  ⟨tree.kind, tree.line, tree.elements.bare⟩

@[simp] lemma Tree.kind_bare (tree : Tree κ) : tree.bare.kind = tree.kind := rfl

@[simp] lemma Tree.line_bare (tree : Tree κ) : tree.bare.line = tree.line := rfl

/-- How many nodes there are among the first `i` elements of a node. -/
def Tree.nodesBefore (tree : Tree κ) (i : Nat) : Nat :=
  (tree.toList.take i).countP fun element => !element.isToken

/-- The position of the node at the end of a path: the way to it if only nodes are counted. -/
def Tree.position : Tree κ → Path → Path
  | _, [] => []
  | tree, i :: path =>
    match tree.toList[i]? with
    | some (.node child) => tree.nodesBefore i :: child.position path
    | _ => []

/-- The children of a bare node are the bare children. -/
lemma Forest.children_bare (forest : Forest κ) :
    forest.bare.children = forest.children.map Tree.bare := by
  induction forest with
  | nil => rfl
  | token t rest ih => exact ih
  | node kind line inner rest _ ih =>
    rw [Forest.bare, Forest.children, Forest.children, ih, List.map_cons]
    rfl

lemma Forest.append_assoc (a b c : Forest κ) : a ++ b ++ c = a ++ (b ++ c) := by
  induction a with
  | nil => rfl
  | token t rest ih => simp [ih]
  | node kind line inner rest _ ih => simp [ih]

lemma Forest.countP_toList (forest : Forest κ) :
    forest.toList.countP (fun element => !element.isToken) = forest.children.length := by
  induction forest with
  | nil => rfl
  | token t rest ih => simpa [Forest.toList, Forest.children, Element.isToken] using ih
  | node kind line inner rest _ ih =>
    simpa [Forest.toList, Forest.children, Element.isToken] using ih

/-- Past some elements, the position goes on with the number of nodes among them. -/
lemma Tree.position_cons {tree child : Tree κ} {done rest : Forest κ}
    (h : tree.elements = done ++ .cons (.node child) rest) (path : Path) :
    tree.position (done.toList.length :: path) = done.children.length :: child.position path := by
  have hlist : tree.toList = done.toList ++ .node child :: rest.toList := by
    rw [Tree.toList, h, Forest.toList_append, Forest.toList_cons]
  have hchild : tree.toList[done.toList.length]? = some (.node child) := by simp [hlist]
  have hbefore : tree.nodesBefore done.toList.length = done.children.length := by
    rw [Tree.nodesBefore, hlist, List.take_left, Forest.countP_toList]
  rw [Tree.position, hchild, hbefore]

end Bare

/-! ## Places of bare trees -/

/-- The visit of the node in the bare tree. -/
def Visit.bare (visit : Visit) : Visit :=
  ⟨visit.node.bare, visit.ancestors.map Tree.bare⟩

/-- The place of a node in the bare tree. -/
def Place.bare (root : Node) (place : Place) : Place :=
  ⟨root.position place.path, place.visit.bare⟩

lemma Visit.depth_bare (visit : Visit) : visit.bare.depth = visit.depth := by
  simp [Visit.depth, Visit.bare]

lemma Visit.lineage_bare (visit : Visit) : visit.bare.lineage = visit.lineage := by
  simp [Visit.lineage, Visit.bare, Function.comp_def]

/-- If it holds of the elements of a node, bare places are places of the bare tree. -/
lemma Tree.places_bare_of_elements (root : Node)
    (helements : root.elements.bare.places 0 = (root.elements.places 0).map (Place.bare root)) :
    root.bare.places = root.places.map (Place.bare root) := by
  have hbare : root.bare.places =
      ⟨[], .root root.bare⟩ :: (root.elements.bare.places 0).map (Place.inside root.bare) := rfl
  rw [hbare, helements, Tree.places, List.map_cons, List.map_map, List.map_map]
  rfl

/-- The bare places of some elements of a node, after those that are done. -/
lemma Forest.places_bare (forest done : Forest Kind) (root : Node)
    (h : root.elements = done ++ forest) :
    forest.bare.places done.children.length =
      (forest.places done.toList.length).map (Place.bare root) := by
  induction forest generalizing done root with
  | nil => rfl
  | token t rest ih =>
    have hmore := ih (done ++ .token t .nil) root (by rw [h, Forest.append_assoc]; rfl)
    rw [Forest.bare, Forest.places]
    simpa [Forest.toList, Forest.children] using hmore
  | node kind line inner rest ihInner ihRest =>
    let child : Node := ⟨kind, line, inner⟩
    have hchild : child.bare.places = child.places.map (Place.bare child) :=
      child.places_bare_of_elements (ihInner .nil child rfl)
    have hmore := ihRest (done ++ .cons (.node child) .nil) root
      (by rw [h, Forest.append_assoc]; rfl)
    have hlengths : (done ++ .cons (.node child) .nil).children.length =
          done.children.length + 1 ∧
        (done ++ .cons (.node child) .nil).toList.length = done.toList.length + 1 := by
      simp [Forest.cons, Forest.children, Forest.toList]
    rw [hlengths.1, hlengths.2] at hmore
    have hbelow : Place.below done.children.length ∘ Place.bare child =
        Place.bare root ∘ Place.below done.toList.length := by
      funext place
      exact congrArg (Place.mk · place.visit.bare) (Tree.position_cons h place.path).symm
    rw [Forest.bare, Forest.places_node, Forest.places_node, List.map_append, ← hmore,
      List.map_map, ← hbelow, ← List.map_map, ← hchild]
    rfl

/-- **The places of a bare tree** are those of the tree, in the same order, at their positions. -/
lemma Tree.places_bare (root : Node) : root.bare.places = root.places.map (Place.bare root) :=
  root.places_bare_of_elements (root.elements.places_bare .nil root rfl)

lemma Tree.placesWithin_bare (root : Node) (bound : Nat) :
    root.bare.placesWithin bound = (root.placesWithin bound).map (Place.bare root) := by
  rw [Tree.placesWithin, Tree.places_bare, List.filter_map, Tree.placesWithin]
  congr 2
  funext place
  simp only [Function.comp_apply, Place.bare, Visit.depth_bare]

namespace Tree

/-- A node stands in the bare tree at its position. -/
lemma at?_bare {root node : Node} {path : Path} (h : root.at? path = some node) :
    root.bare.at? (root.position path) = some node.bare := by
  obtain ⟨place, hplace, rfl, rfl⟩ := at?_eq_some_iff.1 h
  refine at?_eq_some_iff.2 ⟨place.bare root, ?_, rfl, rfl⟩
  rw [places_bare]
  exact List.mem_map_of_mem hplace

/-- What stands in the bare tree is at the position of some node. -/
lemma exists_of_at?_bare {root bare : Node} {position : Path}
    (h : root.bare.at? position = some bare) :
    ∃ path node, root.at? path = some node ∧ root.position path = position ∧ node.bare = bare := by
  obtain ⟨place, hplace, rfl, rfl⟩ := at?_eq_some_iff.1 h
  rw [places_bare] at hplace
  obtain ⟨origin, horigin, rfl⟩ := List.mem_map.1 hplace
  exact ⟨origin.path, origin.visit.node, at?_eq_some_iff.2 ⟨origin, horigin, rfl, rfl⟩, rfl, rfl⟩

/-- No two nodes of a tree have the same position. -/
lemma path_eq_of_position_eq {root : Node} {path other : Path} (hpath : (root.at? path).isSome)
    (hother : (root.at? other).isSome) (h : root.position path = root.position other) :
    path = other := by
  obtain ⟨node, hnode⟩ := Option.isSome_iff_exists.1 hpath
  obtain ⟨otherNode, hotherNode⟩ := Option.isSome_iff_exists.1 hother
  obtain ⟨place, hplace, rfl, -⟩ := at?_eq_some_iff.1 hnode
  obtain ⟨otherPlace, hotherPlace, rfl, -⟩ := at?_eq_some_iff.1 hotherNode
  have hnodup : (root.places.map fun place => root.position place.path).Nodup := by
    have hpairwise := pairwise_places root.bare
    rw [places_bare, List.pairwise_map] at hpairwise
    exact List.pairwise_map.2 (hpairwise.imp fun hlt => ne_of_lt hlt)
  rw [List.inj_on_of_nodup_map hnodup hplace hotherPlace h]

end Tree

/-! ## Searches -/

/-- What is found, in the bare tree. -/
def Found.bare (root : Node) (found : Found) : Found :=
  ⟨root.position found.path, found.node.bare⟩

lemma Forest.progress_bare (forest : Forest Kind) (chain : List Kind) :
    forest.bare.progress chain = forest.progress chain := by
  induction forest generalizing chain with
  | nil => rfl
  | token t rest ih => exact ih chain
  | node kind line inner rest ihInner ihRest =>
    rw [Forest.bare, Forest.progress, Forest.progress, ihInner, ihRest]

namespace Tree

/-- A search of the bare tree finds what a search of the tree finds. -/
lemma search?_bare (root : Node) (chain : List Kind) :
    root.bare.search? chain = (root.search? chain).map (Found.bare root) := by
  by_cases hchain : chain = []
  · rw [hchain, search?_nil_chain, search?_nil_chain, Option.map_none]
  · have hanswers : (fun place : Place => decide (chain <+ place.visit.lineage)) ∘ Place.bare root =
        fun place => decide (chain <+ place.visit.lineage) := by
      funext place
      simp only [Function.comp_apply, Place.bare, Visit.lineage_bare]
    rw [search?_eq_find? _ hchain, search?_eq_find? _ hchain, places_bare, List.find?_map, hanswers,
      Option.map_map, Option.map_map]
    rfl

/-- A strict search of the bare tree finds what one of the tree finds, or blames the same kind. -/
lemma search_bare (root : Node) (chain : List Kind) :
    root.bare.search chain = (root.search chain).map (Found.bare root) := by
  have hprogress : root.bare.progress chain = root.progress chain :=
    congrArg _ (Forest.progress_bare root.elements _)
  rw [search, search, search?_bare, hprogress]
  cases chain.getLast? with
  | none => rfl
  | some target => cases root.search? chain <;> rfl

/-! ## What a check asks of a node -/

lemma child?_bare (node : Node) (kind : Kind) :
    node.bare.child? kind = (node.child? kind).map bare := by
  have hchildren : node.bare.children = node.children.map bare :=
    Forest.children_bare node.elements
  rw [child?, hchildren, List.find?_map, child?]
  rfl

lemma declaration?_bare (node : Node) :
    node.bare.declaration? = node.declaration?.map bare := by
  rw [declaration?, declaration?, kind_bare]
  cases node.kind.declarationKind? with
  | none => rfl
  | some kind => exact child?_bare node kind

lemma isSome_declaration?_bare (node : Node) :
    node.bare.declaration?.isSome = node.declaration?.isSome := by
  rw [declaration?_bare, Option.isSome_map]

end Tree

/-! ## Verdicts -/

/-- Without tokens the sketch of a visit is the same. -/
lemma Visit.sketch_bare (visit : Visit) : visit.bare.sketch = visit.sketch := by
  refine Visit.sketch_eq_iff.2 ⟨rfl, rfl, visit.node.isSome_declaration?_bare, ?_⟩
  simp [Visit.bare, Function.comp_def]

/-- A check says the same of a node without tokens around and below it, but for the words. -/
def Check.IgnoresTokens (check : Check) : Prop :=
  ∀ visit, (check.inspect visit.bare).verdict = (check.inspect visit).verdict

/-- The rules that come with the library ignore tokens. -/
lemma StrongTyping.ignoresTokens_of_mem_builtin {entry : Entry}
    (h : entry ∈ Registry.builtin.entries) : entry.check.IgnoresTokens :=
  fun visit => readsSketch_of_mem_builtin h visit.sketch_bare

/-! ## Reports -/

/-- Two reports say the same, but for the names of their units and the words of their issues. -/
structure Report.Agrees (report other : Report) : Prop where
  issues : report.issues.map Issue.spot = other.issues.map Issue.spot
  failures : report.failures = other.failures
  nodesVisited : report.nodesVisited = other.nodesVisited
  truncated : report.truncated = other.truncated

lemma Report.Agrees.symm {report other : Report} (h : report.Agrees other) :
    other.Agrees report :=
  ⟨h.issues.symm, h.failures.symm, h.nodesVisited.symm, h.truncated.symm⟩

lemma Report.Agrees.trans {report other third : Report} (h : report.Agrees other)
    (hother : other.Agrees third) : report.Agrees third :=
  ⟨h.issues.trans hother.issues, h.failures.trans hother.failures,
    h.nodesVisited.trans hother.nodesVisited, h.truncated.trans hother.truncated⟩

/-- Checks that ignore tokens agree on the places of a tree and on those of the bare tree. -/
lemma Registry.forall₂_agree_bare {registry : Registry}
    (hignore : ∀ entry ∈ registry.entries, entry.check.IgnoresTokens) (root : Node)
    (places : List Place) :
    List.Forall₂ (fun a b : Place => registry.Agree a.visit b.visit)
      (places.map (Place.bare root)) places := by
  rw [List.forall₂_map_left_iff, List.forall₂_same]
  exact fun place _ => ⟨rfl, fun entry hentry => hignore entry hentry place.visit⟩

namespace Analyzer

/-- For checks that ignore tokens, the report on the bare tree says the same. -/
lemma agrees_bare {analyzer : Analyzer}
    (hignore : ∀ entry ∈ analyzer.registry.entries, entry.check.IgnoresTokens) (root : Node)
    (uri uriBare : String) :
    (analyzer.analyze ⟨uriBare, root.bare⟩).Agrees (analyzer.analyze ⟨uri, root⟩) where
  issues := by
    rw [issues_analyze, issues_analyze, Tree.placesWithin_bare]
    exact Registry.map_spot_issuesOn_congr (Registry.forall₂_agree_bare hignore root _)
  failures := by
    rw [failures_analyze, failures_analyze, Tree.placesWithin_bare]
    exact Registry.failuresOn_congr (Registry.forall₂_agree_bare hignore root _)
  nodesVisited := by
    rw [nodesVisited_analyze, nodesVisited_analyze, Tree.placesWithin_bare, List.length_map]
  truncated := by
    rw [Bool.eq_iff_iff, truncated_analyze, truncated_analyze, Tree.places_bare]
    simp [Place.bare, Visit.depth_bare]

end Analyzer

namespace StrongTyping

/-- **Tokens never influence searches and verdicts.**  Take two trees that are equal once their
tokens are deleted.  Each node of the one has exactly one counterpart in the other, the node at the
same position.  A search for any chain finds counterparts in both, or nothing in both, and a strict
search fails in both with the same error.  Of two counterparts either both declare a type or none
does.  Under any configuration, the reports of the rules that come with the library have the same
sequence of rules and lines in their issues, the same failures and the same number of nodes visited,
and both or none are truncated. -/
theorem tokens_never_influence_verdicts (root other : Node) (hbare : root.bare = other.bare) :
    (∀ path, (root.at? path).isSome →
      ∃! path', (other.at? path').isSome ∧ other.position path' = root.position path) ∧
    (∀ chain, (root.search? chain).map (fun found => root.position found.path) =
      (other.search? chain).map fun found => other.position found.path) ∧
    (∀ chain, (root.search chain).map (fun found => root.position found.path) =
      (other.search chain).map fun found => other.position found.path) ∧
    (∀ path path' node node', root.at? path = some node → other.at? path' = some node' →
      root.position path = other.position path' →
      node.declaration?.isSome = node'.declaration?.isSome) ∧
    ∀ (config : Config) (uri uri' : String),
      ((Analyzer.builtin config).analyze ⟨uri, root⟩).Agrees
        ((Analyzer.builtin config).analyze ⟨uri', other⟩) := by
  refine ⟨fun path hpath => ?_, fun chain => ?_, fun chain => ?_, ?_, fun config uri uri' => ?_⟩
  · obtain ⟨node, hnode⟩ := Option.isSome_iff_exists.1 hpath
    have hat := Tree.at?_bare hnode
    rw [hbare] at hat
    obtain ⟨path', node', hnode', hposition, -⟩ := Tree.exists_of_at?_bare hat
    refine ⟨path', ⟨Option.isSome_iff_exists.2 ⟨node', hnode'⟩, hposition⟩, ?_⟩
    rintro path'' ⟨hpath'', hposition''⟩
    exact Tree.path_eq_of_position_eq hpath'' (Option.isSome_iff_exists.2 ⟨node', hnode'⟩)
      (hposition''.trans hposition.symm)
  · have hsearch : ∀ root : Node, (root.search? chain).map (fun found => root.position found.path) =
        (root.bare.search? chain).map Found.path := fun root => by
      rw [Tree.search?_bare, Option.map_map]
      rfl
    rw [hsearch, hsearch, hbare]
  · have hsearch : ∀ root : Node, (root.search chain).map (fun found => root.position found.path) =
        (root.bare.search chain).map Found.path := fun root => by
      rw [Tree.search_bare]
      cases root.search chain <;> rfl
    rw [hsearch, hsearch, hbare]
  · intro path path' node node' hnode hnode' hposition
    have hat := Tree.at?_bare hnode
    rw [hbare, hposition, Tree.at?_bare hnode'] at hat
    rw [← node.isSome_declaration?_bare, ← Option.some.inj hat, node'.isSome_declaration?_bare]
  · have hignore : ∀ entry ∈ (Analyzer.builtin config).registry.entries,
        entry.check.IgnoresTokens := fun entry hentry =>
      ignoresTokens_of_mem_builtin (List.mem_filter.1 hentry).1
    have hroot := Analyzer.agrees_bare hignore root uri uri
    have hother := Analyzer.agrees_bare hignore other uri' uri
    rw [← hbare] at hother
    exact hroot.symm.trans hother

/-- Two functions with other names and other tokens around.  Their parameters are found at different
paths and at the same position, and their reports differ in words alone. -/
theorem tokens_never_influence_verdicts_on_renaming :
    let root : Node :=
      ⟨.prolog, 1, .node .functionDecl 2
        (.node .eqName 2 (.token ⟨"f", 2⟩ .nil) (.node .param 3 .nil .nil)) .nil⟩
    let other : Node :=
      ⟨.prolog, 1, .token ⟨"declare", 1⟩ (.node .functionDecl 2
        (.token ⟨"function", 2⟩ (.node .eqName 2 (.token ⟨"g", 2⟩ .nil)
          (.token ⟨"(", 2⟩ (.node .param 3 (.token ⟨"$x", 3⟩ .nil) .nil)))) .nil)⟩
    let chain : List Kind := [.functionDecl, .param]
    let report := (Analyzer.builtin .default).analyze ⟨"f.xq", root⟩
    let report' := (Analyzer.builtin .default).analyze ⟨"g.xq", other⟩
    root.bare = other.bare ∧
      ((root.search? chain).map Found.path = some [0, 1] ∧
        (other.search? chain).map Found.path = some [1, 3] ∧
        (root.search? chain).map (fun found => root.position found.path) =
          (other.search? chain).map fun found => other.position found.path) ∧
      report.issues.map Issue.message ≠ report'.issues.map Issue.message ∧
      report.Agrees report' := by
  intro root other chain report report'
  have hbare : root.bare = other.bare := by decide
  obtain ⟨-, hsearch, -, -, hreports⟩ := tokens_never_influence_verdicts root other hbare
  exact ⟨hbare, ⟨by decide, by decide, hsearch chain⟩, by decide, hreports .default "f.xq" "g.xq"⟩

end StrongTyping

end SyntaxLint
