import Mathlib
import SyntaxLint.Proofs.Search
import SyntaxLint.Proofs.Subtree

/-!
# Shorter chains and chains in two steps

Two laws relate the answers to different chains in one tree.  Neither can be read off the search,
which meets the kinds of another chain at other nodes and so goes other ways; both follow from what
an answer is.

A chain with some of its kinds left out is met wherever the chain is, so its first answer comes no
later.

A chain in two parts can be asked for in two steps: search for the first part, and from its answer
for the second part, whose search starts at that answer and so has to repeat its kind.  If both
steps have an answer, the second one is the answer to the whole chain
(`Tree.search?_append_of_steps`).  The converse is weaker, because the first answer to the first
part need not have the second part below it.  There is still some node from which the second step
leads to the answer.  It is the node on the way to the answer at which the first part becomes
complete (`Visit.Completes`), and below such a node the whole chain is met exactly where the second
step is (`Visit.Completes.append_sublist_iff`).
-/

namespace SyntaxLint

open scoped List

/-! ## Where a chain becomes complete -/

/-- A chain becomes complete at a node: it occurs among the kinds on the way to the node, but not
yet among the kinds above it. -/
def Visit.Completes (visit : Visit) (chain : List Kind) : Prop :=
  chain <+ visit.lineage ∧ ¬ chain <+ visit.ancestors.map Tree.kind

instance (visit : Visit) (chain : List Kind) : Decidable (visit.Completes chain) :=
  inferInstanceAs (Decidable (_ ∧ _))

lemma Visit.lineage_under (ancestors : List Node) (visit : Visit) :
    (visit.under ancestors).lineage = ancestors.map Tree.kind ++ visit.lineage := by
  simp [Visit.lineage, Visit.under]

/-- If two chains, one after the other, occur in two lists of kinds, and the first chain is not over
in the first list, then the second chain occurs in the second list without its head. -/
lemma sublist_tail_of_append_sublist {first second above below : List Kind}
    (h : first ++ second <+ above ++ below) (hopen : ¬ first <+ above) : second <+ below.tail := by
  obtain ⟨met, due, hsplit, hmet, hdue⟩ := List.sublist_append_iff.1 h
  rcases List.append_eq_append_iff.1 hsplit with ⟨more, rfl, -⟩ | ⟨last, rfl, rfl⟩
  · exact absurd ((List.sublist_append_left first more).trans hmet) hopen
  · cases last with
    | nil => exact absurd (by rwa [List.append_nil]) hopen
    | cons kind last => exact (List.sublist_append_right last second).trans hdue.tail

namespace Visit.Completes

variable {visit : Visit} {chain : List Kind}

/-- The kind of the node at which a chain becomes complete is the last of the chain. -/
lemma getLast_eq (h : visit.Completes chain) (hchain : chain ≠ []) :
    chain.getLast hchain = visit.node.kind := by
  obtain ⟨met, due, rfl, hmet, hdue⟩ := List.sublist_append_iff.1 h.1
  rcases List.sublist_singleton.1 hdue with rfl | rfl
  · exact absurd (by rwa [List.append_nil]) h.2
  · exact List.getLast_append_singleton met

end Visit.Completes

namespace Tree

variable {root : Node} {path : Path} {visit : Visit} {chain : List Kind}

/-- The way to a node starts with the kind of the root. -/
lemma exists_lineage_eq_cons (h : root.visitAt? path = some visit) :
    ∃ kinds, visit.lineage = root.kind :: kinds := by
  cases path with
  | nil =>
    rw [visitAt?_root, Option.some.injEq] at h
    exact ⟨[], by rw [← h, Visit.lineage_root]⟩
  | cons i path =>
    rw [visitAt?_cons, Option.map_eq_some_iff] at h
    obtain ⟨inner, -, rfl⟩ := h
    exact ⟨inner.lineage, by rw [Visit.lineage_under]; rfl⟩

/-- The ancestors of a node that is not the root are its parent and the ancestors of that. -/
lemma exists_parent_of_visitAt? {i : Nat} (h : root.visitAt? (path ++ [i]) = some visit) :
    ∃ parent, root.visitAt? path = some parent ∧
      visit.ancestors = parent.ancestors ++ [parent.node] := by
  rw [visitAt?, visitBelow?_path_append, Option.bind_eq_some_iff] at h
  obtain ⟨parent, hparent, hchild⟩ := h
  rw [visitBelow?] at hchild
  split at hchild
  · rw [visitBelow?, Option.some.injEq] at hchild
    exact ⟨parent, hparent, by rw [← hchild]⟩
  · exact absurd hchild (by simp)

/-- On the way to a node that answers a chain, the chain becomes complete somewhere. -/
lemma exists_completes (hchain : chain ≠ []) (h : root.visitAt? path = some visit)
    (hanswers : chain <+ visit.lineage) :
    ∃ start before, start <+: path ∧ root.visitAt? start = some before ∧
      before.Completes chain := by
  induction path using List.reverseRecOn generalizing visit with
  | nil =>
    rw [visitAt?_root, Option.some.injEq] at h
    refine ⟨[], visit, List.nil_prefix, by rw [visitAt?_root, h], hanswers, ?_⟩
    rwa [← h, Visit.root, List.map_nil, List.sublist_nil]
  | append_singleton path i ih =>
    by_cases habove : chain <+ visit.ancestors.map Tree.kind
    · obtain ⟨parent, hparent, hancestors⟩ := exists_parent_of_visitAt? h
      have hlineage : visit.ancestors.map Tree.kind = parent.lineage := by
        rw [hancestors, List.map_append, List.map_singleton, Visit.lineage]
      obtain ⟨start, before, hstart, hbefore⟩ := ih hparent (hlineage ▸ habove)
      exact ⟨start, before, hstart.trans (List.prefix_append path [i]), hbefore⟩
    · exact ⟨path ++ [i], visit, List.prefix_refl _, h, hanswers, habove⟩

/-- A chain becomes complete at its first answer. -/
lemma IsFirstAnswer.exists_completes {found : Found} (hchain : chain ≠ [])
    (h : root.IsFirstAnswer chain found) :
    ∃ visit, root.visitAt? found.path = some visit ∧ visit.node = found.node ∧
      visit.Completes chain := by
  obtain ⟨⟨visit, hvisit, hnode, hanswers⟩, hfirst⟩ := h
  obtain ⟨start, before, ⟨more, hmore⟩, hbefore, hcompletes⟩ :=
    Tree.exists_completes hchain hvisit hanswers
  -- Nothing before the first answer answers, so the chain is complete no earlier than there.
  have hle : found.path ≤ start := hfirst start before hbefore hcompletes.1
  have hpath : start = found.path :=
    le_antisymm (hmore ▸ path_le_append start more) hle
  rw [hpath, hvisit, Option.some.injEq] at hbefore
  exact ⟨visit, hvisit, hnode, hbefore ▸ hcompletes⟩

end Tree

/-- Below a node at which a first chain becomes complete, a longer chain is met exactly where the
kind of the node and the rest of the chain are met from the node on. -/
lemma Visit.Completes.append_sublist_iff {visit inner : Visit} {first second : List Kind}
    {path : Path} (h : visit.Completes first) (hfirst : first ≠ [])
    (hinner : visit.node.visitAt? path = some inner) :
    first ++ second <+ (inner.under visit.ancestors).lineage ↔
      [first.getLast hfirst] ++ second <+ inner.lineage := by
  obtain ⟨kinds, hkinds⟩ := Tree.exists_lineage_eq_cons hinner
  rw [Visit.lineage_under, hkinds, h.getLast_eq hfirst, List.singleton_append,
    List.cons_sublist_cons]
  constructor
  · intro hmet
    exact sublist_tail_of_append_sublist hmet h.2
  · intro hmet
    have happend := h.1.append hmet
    rwa [Visit.lineage, List.append_assoc, List.singleton_append] at happend

/-! ## Chains in two steps -/

/-- Paths that go on from the same node are in the order of what they go on with. -/
lemma append_path_lt_iff (path more other : Path) :
    path ++ more < path ++ other ↔ more < other := by
  induction path with
  | nil => exact Iff.rfl
  | cons i path ih =>
    rw [List.cons_append, List.cons_append, List.cons_lt_cons_iff, ih]
    simp

lemma append_path_le_iff (path more other : Path) :
    path ++ more ≤ path ++ other ↔ more ≤ other := by
  rw [← not_lt, ← not_lt, append_path_lt_iff]

namespace Tree

variable {root : Node} {first second : List Kind} {mid found below : Found}

/-- If both steps have an answer, the second of them is the answer to the whole chain. -/
lemma search?_append_of_steps (hfirst : first ≠ []) (hmid : root.search? first = some mid)
    (hbelow : mid.node.search? ([first.getLast hfirst] ++ second) = some below) :
    root.search? (first ++ second) = some ⟨mid.path ++ below.path, below.node⟩ := by
  have hmidFirst := (search?_eq_some_iff hfirst).1 hmid
  obtain ⟨visit, hvisit, hnode, hcompletes⟩ := hmidFirst.exists_completes hfirst
  obtain ⟨⟨inner, hinner, hinnerNode, hmet⟩, hinnerFirst⟩ :=
    (search?_eq_some_iff (by simp)).1 hbelow
  rw [← hnode] at hinner hinnerFirst
  rw [search?_eq_some_iff (by simp [hfirst])]
  refine ⟨⟨inner.under visit.ancestors, ?_, hinnerNode, ?_⟩, ?_⟩
  · rw [visitAt?_append hvisit, hinner, Option.map_some]
  · exact (hcompletes.append_sublist_iff hfirst hinner).2 hmet
  · intro path other hother hanswers
    have hle : mid.path ≤ path :=
      hmidFirst.first path other hother ((List.sublist_append_left _ _).trans hanswers)
    by_cases hstarts : mid.path <+: path
    · -- Inside the subtree of the first step's answer the second step decides.
      obtain ⟨more, rfl⟩ := hstarts
      rw [visitAt?_append hvisit, Option.map_eq_some_iff] at hother
      obtain ⟨otherInner, hotherInner, rfl⟩ := hother
      rw [append_path_le_iff]
      exact hinnerFirst more otherInner hotherInner
        ((hcompletes.append_sublist_iff hfirst hotherInner).1 hanswers)
    · have hne : mid.path ≠ path := fun h => hstarts (h ▸ List.prefix_refl _)
      exact le_of_lt (append_lt_of_lt (lt_of_le_of_ne hle hne) hstarts below.path)

/-- The answer to a whole chain is the second step's answer from a node at which the first part
becomes complete. -/
lemma exists_steps_of_search?_append (hfirst : first ≠ []) (hsecond : second ≠ [])
    (h : root.search? (first ++ second) = some found) :
    ∃ path visit below, root.visitAt? path = some visit ∧ visit.Completes first ∧
      visit.node.search? ([first.getLast hfirst] ++ second) = some below ∧ below.path ≠ [] ∧
      found = ⟨path ++ below.path, below.node⟩ := by
  obtain ⟨⟨visit, hvisit, hnode, hanswers⟩, hfoundFirst⟩ :=
    (search?_eq_some_iff (by simp [hfirst])).1 h
  obtain ⟨path, before, ⟨more, hmore⟩, hbefore, hcompletes⟩ :=
    exists_completes hfirst hvisit ((List.sublist_append_left _ _).trans hanswers)
  rw [← hmore, visitAt?_append hbefore, Option.map_eq_some_iff] at hvisit
  obtain ⟨inner, hinner, rfl⟩ := hvisit
  have hmet := (hcompletes.append_sublist_iff hfirst hinner).1 hanswers
  refine ⟨path, before, ⟨more, inner.node⟩, hbefore, hcompletes, ?_, ?_, ?_⟩
  · refine (search?_eq_some_iff (by simp)).2 ⟨⟨inner, hinner, rfl, hmet⟩, ?_⟩
    intro other otherInner hother hotherMet
    rw [← append_path_le_iff path, hmore]
    refine hfoundFirst (path ++ other) (otherInner.under before.ancestors) ?_ ?_
    · rw [visitAt?_append hbefore, hother, Option.map_some]
    · exact (hcompletes.append_sublist_iff hfirst hother).2 hotherMet
  · -- The node itself meets one kind only, and the second step asks for two at least.
    rintro rfl
    rw [visitAt?_root, Option.some.injEq] at hinner
    have hlength := hmet.length_le
    rw [← hinner, Visit.lineage_root, List.length_append, List.length_singleton,
      List.length_singleton] at hlength
    have := List.length_pos_of_ne_nil hsecond
    omega
  · rcases found with ⟨foundPath, foundNode⟩
    obtain rfl : inner.node = foundNode := hnode
    obtain rfl : path ++ more = foundPath := hmore
    rfl

/-- **A chain in two parts can be asked for in two steps.**  If the first part has an answer, and
from there the second part, after the kind of that answer, has one too, then the latter is the
answer to the whole chain.  Conversely, where the whole chain has an answer, the first part has one
that comes strictly before it in pre-order; and the answer lies strictly below some node at which
the first part becomes complete, from where the second step leads to it. -/
theorem search?_append_agrees_with_steps (root : Node) (first second : List Kind)
    (hfirst : first ≠ []) (hsecond : second ≠ []) :
    (∀ mid below, root.search? first = some mid →
      mid.node.search? ([first.getLast hfirst] ++ second) = some below →
      root.search? (first ++ second) = some ⟨mid.path ++ below.path, below.node⟩) ∧
    ∀ found, root.search? (first ++ second) = some found →
      (∃ mid, root.search? first = some mid ∧ mid.path < found.path) ∧
      ∃ path visit below, root.visitAt? path = some visit ∧ visit.Completes first ∧
        visit.node.search? ([first.getLast hfirst] ++ second) = some below ∧ below.path ≠ [] ∧
        found = ⟨path ++ below.path, below.node⟩ := by
  refine ⟨fun mid below => search?_append_of_steps hfirst, fun found hfound => ?_⟩
  obtain ⟨path, visit, below, hvisit, hcompletes, hstep, hbelow, rfl⟩ :=
    exists_steps_of_search?_append hfirst hsecond hfound
  refine ⟨?_, path, visit, below, hvisit, hcompletes, hstep, hbelow, rfl⟩
  have hmid : root.search? first ≠ none := fun hnone =>
    (search?_eq_none_iff hfirst).1 hnone path visit hvisit hcompletes.1
  obtain ⟨mid, hmid⟩ := Option.ne_none_iff_exists'.1 hmid
  have hle : mid.path ≤ path :=
    ((search?_eq_some_iff hfirst).1 hmid).first path visit hvisit hcompletes.1
  have hlt : path < path ++ below.path := by
    refine lt_of_le_of_ne (path_le_append path below.path) fun hsame => hbelow ?_
    exact List.self_eq_append_right.1 hsame
  exact ⟨mid, hmid, lt_of_le_of_lt hle hlt⟩

/-- The first answer to the first part leads to a literal, but to no answer to the whole chain.
That is in the other branch, below another node at which the first part is complete. -/
theorem search?_append_agrees_with_steps_past_dead_end :
    let dead : Node := ⟨.flworExpr, 2, .node .literal 2 .nil .nil⟩
    let live : Node := ⟨.flworExpr, 3, .node .flworExpr 4 (.node .varRef 5 .nil .nil) .nil⟩
    let root : Node := ⟨.expr, 1, .ofList [.node dead, .token ⟨",", 2⟩, .node live]⟩
    let first : List Kind := [.expr, .flworExpr]
    let second : List Kind := [.flworExpr, .varRef]
    first ≠ [] ∧ second ≠ [] ∧ root.search? first = some ⟨[0], dead⟩ ∧
      dead.search? ([Kind.flworExpr] ++ [Kind.literal]) = some ⟨[0], ⟨.literal, 2, .nil⟩⟩ ∧
      root.search? (first ++ [Kind.literal]) = some ⟨[0, 0], ⟨.literal, 2, .nil⟩⟩ ∧
      dead.search? ([Kind.flworExpr] ++ second) = none ∧
      root.search? (first ++ second) = some ⟨[2, 0, 0], ⟨.varRef, 5, .nil⟩⟩ ∧
      (∃ mid, root.search? first = some mid ∧ mid.path < [2, 0, 0]) ∧
      ∃ path visit below, root.visitAt? path = some visit ∧ visit.Completes first ∧
        visit.node.search? ([Kind.flworExpr] ++ second) = some below ∧ below.path ≠ [] ∧
        (⟨[2, 0, 0], ⟨.varRef, 5, .nil⟩⟩ : Found) = ⟨path ++ below.path, below.node⟩ := by
  intro dead live root first second
  have hmid : root.search? first = some ⟨[0], dead⟩ := by decide
  have hbelow : dead.search? ([Kind.flworExpr] ++ [Kind.literal]) =
      some ⟨[0], ⟨.literal, 2, .nil⟩⟩ := by decide
  have hfound : root.search? (first ++ second) = some ⟨[2, 0, 0], ⟨.varRef, 5, .nil⟩⟩ := by decide
  have hsteps := search?_append_agrees_with_steps root first [.literal] (by decide) (by decide)
  have hwhole := search?_append_agrees_with_steps root first second (by decide) (by decide)
  exact ⟨by decide, by decide, hmid, hbelow, hsteps.1 _ _ hmid hbelow, by decide, hfound,
    hwhole.2 _ hfound⟩

/-! ## Shorter chains -/

/-- **Leaving out kinds of a chain never loses or delays an answer.**  If a chain has an answer, so
has every part of it that keeps the order and is not empty, and the answer to the part is the same
node or comes before it in pre-order. -/
theorem search?_of_sublist_comes_no_later {root : Node} {chain part : List Kind} {found : Found}
    (hpart : part ≠ []) (hsub : part <+ chain) (h : root.search? chain = some found) :
    ∃ earlier, root.search? part = some earlier ∧
      (earlier = found ∨ earlier.path < found.path) := by
  have hchain : chain ≠ [] := by
    rintro rfl
    exact hpart (List.sublist_nil.1 hsub)
  obtain ⟨⟨visit, hvisit, hnode, hanswers⟩, -⟩ := (search?_eq_some_iff hchain).1 h
  have hmet : part <+ visit.lineage := hsub.trans hanswers
  have hsome : root.search? part ≠ none := fun hnone =>
    (search?_eq_none_iff hpart).1 hnone found.path visit hvisit hmet
  obtain ⟨earlier, hearlier⟩ := Option.ne_none_iff_exists'.1 hsome
  have hfirst := (search?_eq_some_iff hpart).1 hearlier
  refine ⟨earlier, hearlier, ?_⟩
  rcases (hfirst.first found.path visit hvisit hmet).eq_or_lt with heq | hlt
  · exact .inl (hfirst.unique ⟨⟨visit, hvisit, hnode, hmet⟩, heq ▸ hfirst.first⟩)
  · exact .inr hlt

/-- With two kinds left out in the middle and at the end, the answer is in another branch. -/
theorem search?_of_sublist_comes_no_later_in_other_branch :
    let root : Node :=
      ⟨.expr, 1, .node .flworExpr 2 (.node .literal 2 .nil .nil)
        (.node .flworExpr 3 (.node .ifExpr 4 (.node .literal 5 (.node .varRef 6 .nil .nil) .nil)
          .nil) .nil)⟩
    let chain : List Kind := [.expr, .flworExpr, .ifExpr, .literal, .varRef]
    let part : List Kind := [.expr, .flworExpr, .literal]
    part ≠ [] ∧ part <+ chain ∧
      root.search? chain = some ⟨[1, 0, 0, 0], ⟨.varRef, 6, .nil⟩⟩ ∧
      ∃ earlier, root.search? part = some earlier ∧
        (earlier = ⟨[1, 0, 0, 0], ⟨.varRef, 6, .nil⟩⟩ ∨ earlier.path < [1, 0, 0, 0]) := by
  intro root chain part
  have hsub : part <+ chain := by decide
  have hfound : root.search? chain = some ⟨[1, 0, 0, 0], ⟨.varRef, 6, .nil⟩⟩ := by decide
  exact ⟨by decide, hsub, hfound, search?_of_sublist_comes_no_later (by decide) hsub hfound⟩

end Tree

end SyntaxLint
