import Mathlib
import SyntaxLint.Proofs.ChainLaws
import SyntaxLint.Proofs.Progress
import SyntaxLint.Proofs.Replacement

/-!
# Nodes that a search passes over

A search passes over nodes whose kinds are not in its chain.  So such nodes can be put into a tree
without changing what is found: any node may become an element of a new one in its place, with other
elements before and after it (`Wrapper`), as long as no kind of what is new occurs in the chain
(`Wrapper.Avoids`).

The search in the new tree takes other steps, and there are new nodes on the way to which the chain
occurs, below an answer.  But none of them can be the first answer, since the last kind of a chain
is met at the node where it becomes complete (`Tree.exists_old_answer`).  The nodes of the old tree
keep their order in pre-order (`pathAround_strictMono`), and the kinds on the way to them but for
the new one (`Tree.exists_visit_enclosed`).  Hence the first answer is the same node in its new
position (`Wrapper.carry`).

What a failed search blames is found by searches for initial parts of the chain, to which the same
applies.
-/

namespace SyntaxLint

open scoped List

/-! ## Old positions in the new tree -/

/-- Where the node at a path is found after the node at `place` has become the element with index
`i` of a new node in its place. -/
def pathAround (place : Path) (i : Nat) (path : Path) : Path :=
  if place <+: path then place ++ i :: path.drop place.length else path

lemma pathAround_append (place : Path) (i : Nat) (more : Path) :
    pathAround place i (place ++ more) = place ++ i :: more := by
  rw [pathAround, if_pos (List.prefix_append place more), List.drop_left]

lemma pathAround_of_not_starts {place path : Path} (i : Nat) (h : ¬ place <+: path) :
    pathAround place i path = path :=
  if_neg h

/-- Old nodes keep their order. -/
lemma pathAround_strictMono (place : Path) (i : Nat) : StrictMono (pathAround place i) := by
  intro path other hlt
  by_cases hpath : place <+: path <;> by_cases hother : place <+: other
  · obtain ⟨more, rfl⟩ := hpath
    obtain ⟨otherMore, rfl⟩ := hother
    rw [append_path_lt_iff] at hlt
    rw [pathAround_append, pathAround_append, append_path_lt_iff]
    exact List.cons_lt_cons_iff.2 (.inr ⟨rfl, hlt⟩)
  · obtain ⟨more, rfl⟩ := hpath
    rw [pathAround_append, pathAround_of_not_starts i hother]
    exact append_lt_of_lt (lt_of_le_of_lt (path_le_append place more) hlt) hother _
  · obtain ⟨more, rfl⟩ := hother
    rw [pathAround_append, pathAround_of_not_starts i hpath]
    have hbefore : path < place := by
      by_contra hnot
      have hne : place ≠ path := fun h => hpath (h ▸ List.prefix_refl _)
      have hafter := append_lt_of_lt (lt_of_le_of_ne (not_lt.1 hnot) hne) hpath more
      exact lt_asymm hlt hafter
    exact lt_of_lt_of_le hbefore (path_le_append place _)
  · rwa [pathAround_of_not_starts i hpath, pathAround_of_not_starts i hother]

/-! ## New nodes -/

/-- What is new where a node becomes an element of a new one: the kind and the line of the new node,
and its elements before and after the old one. -/
structure Wrapper where
  kind : Kind
  line : UInt32
  before : Forest Kind
  after : Forest Kind
  deriving DecidableEq

/-- No node of a forest, at any depth, is of one of the given kinds. -/
def Forest.Avoids (forest : Forest Kind) (kinds : List Kind) : Prop :=
  ∀ place ∈ forest.places 0, place.visit.node.kind ∉ kinds

instance (forest : Forest Kind) (kinds : List Kind) : Decidable (forest.Avoids kinds) :=
  inferInstanceAs (Decidable (∀ place ∈ forest.places 0, place.visit.node.kind ∉ kinds))

namespace Wrapper

/-- The new node, around an old one. -/
def enclose (wrapper : Wrapper) (node : Node) : Node :=
  ⟨wrapper.kind, wrapper.line, wrapper.before ++ .cons (.node node) wrapper.after⟩

/-- The index of the old node among the elements of the new one. -/
def index (wrapper : Wrapper) : Nat :=
  wrapper.before.toList.length

/-- No new node, at any depth, is of one of the given kinds. -/
structure Avoids (wrapper : Wrapper) (kinds : List Kind) : Prop where
  kind : wrapper.kind ∉ kinds
  before : wrapper.before.Avoids kinds
  after : wrapper.after.Avoids kinds

/-- A node of the old tree, found in the new one: in its new position and, if the enclosed node was
below it, with the new node in that place. -/
def carry (wrapper : Wrapper) (place : Path) (node : Node) (found : Found) : Found where
  path := pathAround place wrapper.index found.path
  node :=
    if found.path <+: place ∧ found.path ≠ place then
      found.node.replaceAt (place.drop found.path.length) (wrapper.enclose node)
    else found.node

variable {wrapper : Wrapper} {kinds : List Kind}

lemma Avoids.mono {fewer : List Kind} (h : wrapper.Avoids kinds) (hfewer : fewer ⊆ kinds) :
    wrapper.Avoids fewer where
  kind hkind := h.kind (hfewer hkind)
  before place hplace hkind := h.before place hplace (hfewer hkind)
  after place hplace hkind := h.after place hplace (hfewer hkind)

end Wrapper

namespace Forest

variable {forest : Forest Kind} {kinds : List Kind}

lemma Avoids.of_visitAt? (h : forest.Avoids kinds) {path : Path} {visit : Visit}
    (hvisit : forest.visitAt? path = some visit) : visit.node.kind ∉ kinds := by
  cases path with
  | nil => exact absurd hvisit (by simp [visitAt?])
  | cons i path =>
    exact h ⟨i :: path, visit⟩ ((forest.mem_places 0 _).2 ⟨i, path, by simp, hvisit⟩)

/-- A path into one forest after another leads into the first or into the second. -/
lemma visitAt?_append (forest other : Forest Kind) (i : Nat) (path : Path) :
    (forest ++ other).visitAt? (i :: path) =
      if i < forest.toList.length then forest.visitAt? (i :: path)
      else other.visitAt? ((i - forest.toList.length) :: path) := by
  rw [visitAt?, toList_append, List.getElem?_append]
  split_ifs <;> rfl

end Forest

/-- Kinds that are not in a chain do not matter for whether the chain occurs. -/
lemma sublist_filter_iff {kind : Kind} {chain : List Kind} (hkind : kind ∉ chain)
    (kinds : List Kind) :
    chain <+ kinds.filter (· ≠ kind) ↔ chain <+ kinds := by
  refine ⟨fun h => h.trans List.filter_sublist, fun h => ?_⟩
  have hself : chain.filter (· ≠ kind) = chain := by
    rw [List.filter_eq_self]
    intro due hdue
    exact decide_eq_true (ne_of_mem_of_not_mem hdue hkind)
  rw [← hself]
  exact h.filter _

namespace Tree

variable {root node : Node} {place path : Path} {wrapper : Wrapper} {chain : List Kind}

/-- The enclosed node is the element of the new one with the given index. -/
lemma visitAt?_enclose (wrapper : Wrapper) (node : Node) (path : Path) :
    (wrapper.enclose node).visitAt? (wrapper.index :: path) =
      (node.visitAt? path).map (Visit.under [wrapper.enclose node]) := by
  refine visitAt?_of_child ?_ path
  rw [Wrapper.enclose, Tree.toList, Forest.toList_append, Wrapper.index,
    List.getElem?_append_right le_rfl, Nat.sub_self, Forest.toList_cons]
  rfl

/-- Of the new node and what is in it, only what was there before has a kind that was avoided. -/
lemma exists_path_of_visitAt?_enclose (havoids : wrapper.Avoids chain) {inner : Visit}
    (h : (wrapper.enclose node).visitAt? path = some inner) (hkind : inner.node.kind ∈ chain) :
    ∃ more, path = wrapper.index :: more := by
  cases path with
  | nil =>
    rw [visitAt?_root, Option.some.injEq] at h
    rw [← h] at hkind
    exact absurd hkind havoids.kind
  | cons i more =>
    rw [visitAt?_cons, Option.map_eq_some_iff] at h
    obtain ⟨visit, hvisit, rfl⟩ := h
    have hkind : visit.node.kind ∈ chain := hkind
    rw [Wrapper.enclose, Forest.visitAt?_append] at hvisit
    split at hvisit
    · exact absurd hkind (havoids.before.of_visitAt? hvisit)
    · next hi =>
      cases hoffset : i - wrapper.before.toList.length with
      | zero => exact ⟨more, by rw [Wrapper.index]; congr 1; omega⟩
      | succ j =>
        have hafter : wrapper.after.visitAt? (j :: more) = some visit := by
          rwa [hoffset] at hvisit
        exact absurd hkind (havoids.after.of_visitAt? hafter)

/-! ## Old nodes in the new tree -/

/-- Away from a replaced node, the kinds on the way to a node are what they were. -/
lemma map_lineage_replaceAt (hnode : root.at? place = some node) (haway : ¬ place <+: path)
    (new : Node) :
    ((root.replaceAt place new).visitAt? path).map Visit.lineage =
      (root.visitAt? path).map Visit.lineage := by
  refine map_visitAt?_replaceAt (fun outer other visit visit' hsame hview => ?_)
    (fun outer i path _ => ?_) hnode haway
  · rw [Visit.lineage_under, Visit.lineage_under, hview, List.map_singleton, List.map_singleton,
      hsame]
  · rw [Visit.lineage_root, Visit.lineage_root, kind_replaceAt_cons]

/-- Away from a replaced node, the nodes are what they were, but for the new node below them. -/
lemma at?_replaceAt_of_not_starts (hnode : root.at? place = some node)
    (haway : ¬ place <+: path) (new : Node) :
    (root.replaceAt place new).at? path = (root.at? path).map fun old =>
      if path <+: place then old.replaceAt (place.drop path.length) new else old := by
  induction place generalizing root path with
  | nil => exact absurd List.nil_prefix haway
  | cons i place ih =>
    obtain ⟨child, hchild, hbelow⟩ := exists_child_of_at? hnode
    cases path with
    | nil => simp
    | cons j path =>
      by_cases hij : i = j
      · subst hij
        rw [at?, at?, getElem?_replaceAt_self hchild, hchild]
        simp only [List.prefix_cons_inj, List.length_cons, List.drop_succ_cons]
        exact ih hbelow fun h => haway ((List.prefix_cons_inj i).2 h)
      · have hnot : ¬ j :: path <+: i :: place := fun h => hij (List.cons_prefix_cons.1 h).1.symm
        rw [at?, at?, toList_replaceAt hchild, List.getElem?_set_ne hij]
        simp [hnot]

/-- **An old node is found in its new position**, as what has become of it, and the kinds on the way
to it are what they were but for the new one. -/
lemma exists_visit_enclosed (hnode : root.at? place = some node) (wrapper : Wrapper) {visit : Visit}
    (h : root.visitAt? path = some visit) :
    ∃ visit', (root.replaceAt place (wrapper.enclose node)).visitAt?
        (pathAround place wrapper.index path) = some visit' ∧
      visit'.node = (wrapper.carry place node ⟨path, visit.node⟩).node ∧
      visit'.lineage.filter (· ≠ wrapper.kind) = visit.lineage.filter (· ≠ wrapper.kind) := by
  by_cases hstarts : place <+: path
  · obtain ⟨more, rfl⟩ := hstarts
    obtain ⟨outer, houter, rfl⟩ := exists_visitAt?_of_at? hnode
    obtain ⟨ancestors, hnew, hkinds⟩ := visitAt?_replaceAt houter (wrapper.enclose outer.node)
    rw [visitAt?_append houter, Option.map_eq_some_iff] at h
    obtain ⟨inner, hinner, rfl⟩ := h
    refine ⟨(inner.under [wrapper.enclose outer.node]).under ancestors, ?_, ?_, ?_⟩
    · rw [pathAround_append, visitAt?_append hnew, visitAt?_enclose, hinner, Option.map_some,
        Option.map_some]
    · -- The place is not below what is in it.
      have hnot : ¬ (place ++ more <+: place ∧ place ++ more ≠ place) := by
        rintro ⟨hle, hne⟩
        exact hne (hle.eq_of_length_le (by simp))
      exact (if_neg hnot).symm
    · have hnew : (wrapper.enclose outer.node).kind = wrapper.kind := rfl
      rw [Visit.lineage_under, Visit.lineage_under, Visit.lineage_under, hkinds]
      simp [hnew]
  · rw [pathAround_of_not_starts _ hstarts]
    have hlineage := map_lineage_replaceAt hnode hstarts (wrapper.enclose node)
    rw [h, Option.map_some, Option.map_eq_some_iff] at hlineage
    obtain ⟨visit', hvisit', hsame⟩ := hlineage
    refine ⟨visit', hvisit', ?_, by rw [hsame]⟩
    have hat := at?_replaceAt_of_not_starts hnode hstarts (wrapper.enclose node)
    rw [at?_of_visitAt? hvisit', at?_of_visitAt? h, Option.map_some, Option.some.injEq] at hat
    have hne : path ≠ place := fun hsame => hstarts (hsame ▸ List.prefix_refl _)
    rw [hat, Wrapper.carry]
    simp only [hne, ne_eq, not_false_eq_true, and_true]

/-- A node of the new tree whose kind was avoided is an old one. -/
lemma exists_old_path (hnode : root.at? place = some node) (havoids : wrapper.Avoids chain)
    {visit' : Visit}
    (h : (root.replaceAt place (wrapper.enclose node)).visitAt? path = some visit')
    (hkind : visit'.node.kind ∈ chain) :
    ∃ old visit, root.visitAt? old = some visit ∧ pathAround place wrapper.index old = path := by
  by_cases hstarts : place <+: path
  · obtain ⟨more, rfl⟩ := hstarts
    obtain ⟨outer, houter, rfl⟩ := exists_visitAt?_of_at? hnode
    obtain ⟨ancestors, hnew, -⟩ := visitAt?_replaceAt houter (wrapper.enclose outer.node)
    rw [visitAt?_append hnew, Option.map_eq_some_iff] at h
    obtain ⟨inner, hinner, rfl⟩ := h
    obtain ⟨rest, rfl⟩ := exists_path_of_visitAt?_enclose havoids hinner hkind
    rw [visitAt?_enclose, Option.map_eq_some_iff] at hinner
    obtain ⟨visit, hvisit, -⟩ := hinner
    refine ⟨place ++ rest, visit.under outer.ancestors, ?_, pathAround_append place _ rest⟩
    rw [visitAt?_append houter, hvisit, Option.map_some]
  · have hlineage := map_lineage_replaceAt hnode hstarts (wrapper.enclose node)
    rw [h, Option.map_some, eq_comm, Option.map_eq_some_iff] at hlineage
    obtain ⟨visit, hvisit, -⟩ := hlineage
    exact ⟨path, visit, hvisit, pathAround_of_not_starts _ hstarts⟩

/-! ## Answers in the new tree -/

/-- An old node answers a chain without the new kind just as it did. -/
lemma exists_answer_enclosed (hnode : root.at? place = some node) (hkind : wrapper.kind ∉ chain)
    {visit : Visit} (h : root.visitAt? path = some visit) :
    ∃ visit', (root.replaceAt place (wrapper.enclose node)).visitAt?
        (pathAround place wrapper.index path) = some visit' ∧
      visit'.node = (wrapper.carry place node ⟨path, visit.node⟩).node ∧
      (chain <+ visit'.lineage ↔ chain <+ visit.lineage) := by
  obtain ⟨visit', hvisit', hsame, hlineage⟩ := exists_visit_enclosed hnode wrapper h
  refine ⟨visit', hvisit', hsame, ?_⟩
  rw [← sublist_filter_iff hkind, hlineage, sublist_filter_iff hkind]

/-- No answer in the new tree comes before all old ones. -/
lemma exists_old_answer (hnode : root.at? place = some node) (hchain : chain ≠ [])
    (havoids : wrapper.Avoids chain) {visit' : Visit}
    (h : (root.replaceAt place (wrapper.enclose node)).visitAt? path = some visit')
    (hanswers : chain <+ visit'.lineage) :
    ∃ old visit, root.visitAt? old = some visit ∧ chain <+ visit.lineage ∧
      pathAround place wrapper.index old ≤ path := by
  obtain ⟨start, before, ⟨more, rfl⟩, hbefore, hcompletes⟩ := exists_completes hchain h hanswers
  -- A new node may be below an answer, but the chain does not become complete at it.
  have hkind : before.node.kind ∈ chain := by
    rw [← hcompletes.getLast_eq hchain]
    exact List.getLast_mem hchain
  obtain ⟨old, visit, hvisit, rfl⟩ := exists_old_path hnode havoids hbefore hkind
  obtain ⟨same, hsame, -, hiff⟩ := exists_answer_enclosed hnode havoids.kind hvisit
  rw [hbefore, Option.some.injEq] at hsame
  rw [← hsame] at hiff
  exact ⟨old, visit, hvisit, hiff.1 hcompletes.1, path_le_append _ more⟩

/-- Where a chain has an answer, this is its answer in the new tree, too. -/
lemma search?_enclosed_of_some (hnode : root.at? place = some node) (hchain : chain ≠ [])
    (havoids : wrapper.Avoids chain) {found : Found} (h : root.search? chain = some found) :
    (root.replaceAt place (wrapper.enclose node)).search? chain =
      some (wrapper.carry place node found) := by
  obtain ⟨⟨visit, hvisit, hfound, hanswers⟩, hfirst⟩ := (search?_eq_some_iff hchain).1 h
  obtain ⟨visit', hvisit', hnode', hiff⟩ := exists_answer_enclosed hnode havoids.kind hvisit
  rw [hfound] at hnode'
  refine (search?_eq_some_iff hchain).2 ⟨⟨visit', hvisit', hnode', hiff.2 hanswers⟩, ?_⟩
  intro path other hother hotherAnswers
  obtain ⟨old, oldVisit, hold, holdAnswers, hle⟩ :=
    exists_old_answer hnode hchain havoids hother hotherAnswers
  have hmono := (pathAround_strictMono place wrapper.index).monotone
  exact (hmono (hfirst old oldVisit hold holdAnswers)).trans hle

lemma search?_enclosed_eq_none_iff (hnode : root.at? place = some node) (hchain : chain ≠ [])
    (havoids : wrapper.Avoids chain) :
    (root.replaceAt place (wrapper.enclose node)).search? chain = none ↔
      root.search? chain = none := by
  rw [search?_eq_none_iff hchain, search?_eq_none_iff hchain]
  constructor
  · intro hnone path visit hvisit hanswers
    obtain ⟨visit', hvisit', -, hiff⟩ := exists_answer_enclosed hnode havoids.kind hvisit
    exact hnone _ visit' hvisit' (hiff.2 hanswers)
  · intro hnone path visit' hvisit' hanswers
    obtain ⟨old, visit, hvisit, hold, -⟩ :=
      exists_old_answer hnode hchain havoids hvisit' hanswers
    exact hnone old visit hvisit hold

/-- As many kinds of the chain can be met as before. -/
lemma progress_enclosed (hnode : root.at? place = some node) (havoids : wrapper.Avoids chain) :
    (root.replaceAt place (wrapper.enclose node)).progress chain = root.progress chain := by
  let grown := root.replaceAt place (wrapper.enclose node)
  -- Getting past an index of the chain is a matter of searching for the kinds up to it.
  have hindex : ∀ m < chain.length, grown.progress chain ≤ m ↔ root.progress chain ≤ m := by
    intro m hm
    have htake : chain.take (m + 1) ≠ [] :=
      List.ne_nil_of_length_pos (by rw [List.length_take]; omega)
    rw [← search?_take_eq_none_iff _ hm, ← search?_take_eq_none_iff _ hm]
    exact search?_enclosed_eq_none_iff hnode htake (havoids.mono (List.take_subset _ _))
  have hroot := root.progress_le_length chain
  have hgrown := grown.progress_le_length chain
  rcases lt_trichotomy (grown.progress chain) (root.progress chain) with hlt | heq | hgt
  · have := (hindex _ (lt_of_lt_of_le hlt hroot)).1 le_rfl
    omega
  · exact heq
  · have := (hindex _ (lt_of_lt_of_le hgt hgrown)).2 le_rfl
    omega

/-- **A search passes over nodes of other kinds.**  Let any node of a tree become an element of a
new node in its place, together with other elements before and after it, where no kind of the chain
is the kind of a new node at any depth.  Then the chain has an answer in the new tree exactly if it
has one in the old tree, and it is the same node, in the position that it has in the new tree.
Where there is no answer, the strict search blames the same kind in both. -/
theorem search?_passes_over_enclosing_nodes (root node : Node) (place : Path)
    (hnode : root.at? place = some node) (wrapper : Wrapper) (chain : List Kind)
    (hchain : chain ≠ []) (havoids : wrapper.Avoids chain) :
    let grown := root.replaceAt place (wrapper.enclose node)
    ((grown.search? chain).isSome ↔ (root.search? chain).isSome) ∧
      (∀ found, root.search? chain = some found →
        grown.search? chain = some (wrapper.carry place node found)) ∧
      (root.search? chain = none →
        ∃ unmet, root.search chain = .error (.notFound unmet chain) ∧
          grown.search chain = .error (.notFound unmet chain)) := by
  intro grown
  have hnone : grown.search? chain = none ↔ root.search? chain = none :=
    search?_enclosed_eq_none_iff hnode hchain havoids
  refine ⟨?_, fun found => search?_enclosed_of_some hnode hchain havoids, fun hroot => ?_⟩
  · rw [← not_iff_not, Option.not_isSome_iff_eq_none, Option.not_isSome_iff_eq_none, hnone]
  · have hprogress : grown.progress chain = root.progress chain :=
      progress_enclosed hnode havoids
    refine ⟨chain[root.progress chain]?.getD (chain.getLast hchain), ?_, ?_⟩
    · rw [search, List.getLast?_eq_some_getLast hchain, hroot]
    · rw [search, List.getLast?_eq_some_getLast hchain, hnone.2 hroot, hprogress]

/-- The node in the middle is put into parentheses, between a reference and a condition.  One chain
has its answer below it, another one above it, and a third one has none. -/
theorem search?_passes_over_enclosing_nodes_around_middle :
    let answer : Node := ⟨.literal, 5, .nil⟩
    let node : Node := ⟨.flworExpr, 3, .ofList [.token ⟨"return", 4⟩, .node answer]⟩
    let root : Node := ⟨.module, 1, .node .expr 2 (.cons (.node node) .nil) .nil⟩
    let wrapper : Wrapper :=
      ⟨.parenthesizedExpr, 3, .token ⟨"(", 3⟩ (.node .varRef 3 .nil .nil),
        .node .ifExpr 6 (.node .varRef 6 .nil .nil) .nil⟩
    let grown := root.replaceAt [0, 0] (wrapper.enclose node)
    let below : List Kind := [.expr, .flworExpr, .literal]
    let above : List Kind := [.module, .expr]
    let absent : List Kind := [.expr, .flworExpr, .predicate, .literal]
    root.at? [0, 0] = some node ∧
      (wrapper.Avoids below ∧ wrapper.Avoids above ∧ wrapper.Avoids absent) ∧
      (root.search? below = some ⟨[0, 0, 1], answer⟩ ∧
        grown.search? below = some ⟨[0, 0, 2, 1], answer⟩) ∧
      (root.search? above = some ⟨[0], ⟨.expr, 2, .cons (.node node) .nil⟩⟩ ∧
        grown.search? above =
          some ⟨[0], ⟨.expr, 2, .cons (.node (wrapper.enclose node)) .nil⟩⟩) ∧
      (root.search? absent = none ∧
        ∃ unmet, root.search absent = .error (.notFound unmet absent) ∧
          grown.search absent = .error (.notFound unmet absent)) := by
  intro answer node root wrapper grown below above absent
  have hnode : root.at? [0, 0] = some node := by decide
  have hbelow : wrapper.Avoids below := ⟨by decide, by decide, by decide⟩
  have habove : wrapper.Avoids above := ⟨by decide, by decide, by decide⟩
  have habsent : wrapper.Avoids absent := ⟨by decide, by decide, by decide⟩
  have hfound : root.search? below = some ⟨[0, 0, 1], answer⟩ := by decide
  have houter : root.search? above = some ⟨[0], ⟨.expr, 2, .cons (.node node) .nil⟩⟩ := by decide
  have hnone : root.search? absent = none := by decide
  have hpasses := search?_passes_over_enclosing_nodes root node [0, 0] hnode wrapper
  exact ⟨hnode, ⟨hbelow, habove, habsent⟩,
    ⟨hfound, (hpasses below (by decide) hbelow).2.1 _ hfound⟩,
    ⟨houter, (hpasses above (by decide) habove).2.1 _ houter⟩,
    hnone, (hpasses absent (by decide) habsent).2.2 hnone⟩

end Tree

end SyntaxLint
