import Mathlib
import SyntaxLint.Proofs.Search

/-!
# The strict search blames the first kind that cannot be met

Where a strict search finds nothing, it blames one kind of its chain.  It counts the kinds that can
be met, from the start of the chain, on the best way down (`Tree.progress`), and blames the next
one.  The search itself keeps no such count, and goes down with shorter and shorter chains until it
finds something.  Still the two agree: the kind to blame is the last one of the shortest initial
part of the chain that the search does not find.

Both are compared with the initial parts of the chain that occur on the way to some node.  The count
reaches `n` exactly if the first `n` kinds do (`Tree.le_progress_iff`).  This is proved along the
tree for all chains at once, because below a node the count goes on with what is left of the chain:
the first kinds that are due below a node are what is left of the first kinds that were due at it
(`afterKind_take`).
-/

namespace SyntaxLint

open scoped List

/-! ## The first kinds of a chain -/

lemma length_afterKind_le (kind : Kind) (chain : List Kind) :
    (afterKind kind chain).length ≤ chain.length := by
  cases chain with
  | nil => exact le_rfl
  | cons due chain =>
    rw [afterKind]
    split
    · exact Nat.le_succ _
    · exact le_rfl

/-- What is left of the first kinds of a chain is the beginning of what is left of the chain,
shorter by what was met. -/
lemma afterKind_take (kind : Kind) (chain : List Kind) (n : Nat) :
    afterKind kind (chain.take n) =
      (afterKind kind chain).take (n - (chain.length - (afterKind kind chain).length)) := by
  cases chain with
  | nil => simp [afterKind]
  | cons due chain =>
    cases n with
    | zero => simp [afterKind]
    | succ n => by_cases hdue : due = kind <;> simp [afterKind, hdue]

/-! ## The count and the ways down -/

/-- If it holds of the elements of a node, no more kinds are met on a way down than there are. -/
lemma Tree.progress_le_length_of_elements (root : Node)
    (helements : ∀ chain, root.elements.progress chain ≤ chain.length) (chain : List Kind) :
    root.progress chain ≤ chain.length := by
  have hbelow := helements (afterKind root.kind chain)
  have hleft := length_afterKind_le root.kind chain
  rw [Tree.progress]
  omega

/-- The count in a forest that starts with a node is the better of those in the node's tree and in
the rest. -/
lemma Forest.progress_node (kind : Kind) (line : UInt32) (inner rest : Forest Kind)
    (chain : List Kind) :
    (Forest.node kind line inner rest).progress chain =
      max (Tree.progress ⟨kind, line, inner⟩ chain) (rest.progress chain) := rfl

lemma Forest.progress_le_length (forest : Forest Kind) (chain : List Kind) :
    forest.progress chain ≤ chain.length := by
  induction forest generalizing chain with
  | nil => exact Nat.zero_le _
  | token t rest ih => exact ih chain
  | node kind line inner rest ihInner ihRest =>
    rw [Forest.progress_node, max_le_iff]
    exact ⟨Tree.progress_le_length_of_elements ⟨kind, line, inner⟩ ihInner chain, ihRest chain⟩

lemma Tree.progress_le_length (root : Node) (chain : List Kind) :
    root.progress chain ≤ chain.length :=
  root.progress_le_length_of_elements root.elements.progress_le_length chain

/-- If the count reaches just the first kinds that occur on the way to some element, it does so in
the tree. -/
lemma Tree.le_progress_iff_of_elements (root : Node)
    (helements : ∀ (chain : List Kind) (n : Nat), n ≤ chain.length →
      (n ≤ root.elements.progress chain ↔
        n = 0 ∨ ∃ place ∈ root.elements.places 0, chain.take n <+ place.visit.lineage))
    {chain : List Kind} {n : Nat} (hn : n ≤ chain.length) :
    n ≤ root.progress chain ↔ ∃ place ∈ root.places, chain.take n <+ place.visit.lineage := by
  let left := afterKind root.kind chain
  let met := chain.length - left.length
  have hleft : left.length ≤ chain.length := length_afterKind_le root.kind chain
  have hlater : n - met ≤ left.length := by omega
  have htake : ∀ kinds, chain.take n <+ root.kind :: kinds ↔ left.take (n - met) <+ kinds := by
    intro kinds
    rw [sublist_cons_iff_afterKind, afterKind_take]
  have hhere : chain.take n <+ [root.kind] ↔ n - met = 0 := by
    rw [htake, List.sublist_nil, ← List.length_eq_zero_iff, List.length_take_of_le hlater]
  have hcount : n ≤ root.progress chain ↔ n - met ≤ root.elements.progress left := by
    have hprogress : root.progress chain = met + root.elements.progress left := rfl
    omega
  rw [hcount, helements left _ hlater, Tree.places, List.exists_mem_cons_iff, Visit.lineage_root,
    hhere]
  simp only [List.mem_map, exists_exists_and_eq_and, Place.lineage_inside, htake]

/-- The count in a forest reaches just the first kinds that occur on the way to some node. -/
lemma Forest.le_progress_iff (forest : Forest Kind) (i : Nat) (chain : List Kind) (n : Nat)
    (hn : n ≤ chain.length) :
    n ≤ forest.progress chain ↔
      n = 0 ∨ ∃ place ∈ forest.places i, chain.take n <+ place.visit.lineage := by
  induction forest generalizing i chain n with
  | nil => simp [Forest.progress, Forest.places]
  | token t rest ih => exact ih (i + 1) chain n hn
  | node kind line inner rest ihInner ihRest =>
    have htree := Tree.le_progress_iff_of_elements ⟨kind, line, inner⟩ (ihInner 0) hn
    rw [Forest.progress_node, le_max_iff, htree, ihRest (i + 1) chain n hn, Forest.places_node]
    simp only [List.mem_append, List.mem_map, or_and_right, exists_or, exists_exists_and_eq_and,
      Place.visit_below]
    exact or_left_comm

/-- **The count reaches `n` exactly if the first `n` kinds occur on the way to some node.** -/
lemma Tree.le_progress_iff (root : Node) {chain : List Kind} {n : Nat} (hn : n ≤ chain.length) :
    n ≤ root.progress chain ↔
      ∃ path visit, root.visitAt? path = some visit ∧ chain.take n <+ visit.lineage := by
  rw [root.le_progress_iff_of_elements (root.elements.le_progress_iff 0) hn]
  constructor
  · rintro ⟨place, hplace, hmet⟩
    exact ⟨place.path, place.visit, Tree.mem_places.1 hplace, hmet⟩
  · rintro ⟨path, visit, hvisit, hmet⟩
    exact ⟨⟨path, visit⟩, Tree.mem_places.2 hvisit, hmet⟩

/-! ## The kind to blame -/

namespace Tree

/-- The search for the kinds of a chain up to an index fails exactly if the count does not get past
this index. -/
lemma search?_take_eq_none_iff (root : Node) {chain : List Kind} {m : Nat} (hm : m < chain.length) :
    root.search? (chain.take (m + 1)) = none ↔ root.progress chain ≤ m := by
  have hchain : chain.take (m + 1) ≠ [] := by
    rw [Ne, List.take_eq_nil_iff]
    rintro (h | rfl)
    · exact absurd h (Nat.succ_ne_zero m)
    · exact absurd hm (Nat.not_lt_zero m)
  have hcount := root.le_progress_iff (Nat.succ_le_of_lt hm)
  rw [search?_eq_none_iff hchain, ← not_lt, ← Nat.succ_le_iff, hcount]
  simp only [not_exists, not_and]

/-- A search fails exactly if the count does not reach the end of the chain. -/
lemma search?_eq_none_iff_progress_lt (root : Node) {chain : List Kind} (hchain : chain ≠ []) :
    root.search? chain = none ↔ root.progress chain < chain.length := by
  have hlength : 0 < chain.length := List.length_pos_of_ne_nil hchain
  have hlast := root.search?_take_eq_none_iff (Nat.sub_lt hlength Nat.one_pos)
  rw [Nat.sub_add_cancel hlength, List.take_length] at hlast
  rw [hlast]
  omega

lemma search_eq_ok_iff (root : Node) {chain : List Kind} (hchain : chain ≠ []) (found : Found) :
    root.search chain = .ok found ↔ root.search? chain = some found := by
  rw [search, List.getLast?_eq_some_getLast hchain]
  cases root.search? chain with
  | none => simp
  | some other => simp

/-- **The strict search blames the first kind that cannot be met.**  For a chain that is not empty
it succeeds just where the search does, with the same node.  The count of `Tree.progress` is the
greatest length of an initial part of the chain that occurs on the way to some node.  Where nothing
is found, this count is an index of the chain, the least one such that the kinds up to it are not
found, and the error names the kind at this index and the whole chain.  The empty chain is an error
of its own. -/
theorem search_blames_first_unmet_kind (root : Node) :
    root.search [] = .error .emptyChain ∧
      ∀ chain : List Kind, chain ≠ [] →
        (∀ found, root.search chain = .ok found ↔ root.search? chain = some found) ∧
        IsGreatest {n | n ≤ chain.length ∧
          ∃ path visit, root.visitAt? path = some visit ∧ chain.take n <+ visit.lineage}
          (root.progress chain) ∧
        (root.search? chain = none →
          ∃ _ : root.progress chain < chain.length,
            root.search chain = .error (.notFound chain[root.progress chain] chain) ∧
            IsLeast {m | m < chain.length ∧ root.search? (chain.take (m + 1)) = none}
              (root.progress chain)) := by
  refine ⟨rfl, fun chain hchain => ⟨root.search_eq_ok_iff hchain, ⟨?_, ?_⟩, fun hnone => ?_⟩⟩
  · have hlength := root.progress_le_length chain
    exact ⟨hlength, (root.le_progress_iff hlength).1 le_rfl⟩
  · rintro n ⟨hlength, hmet⟩
    exact (root.le_progress_iff hlength).2 hmet
  · have hindex := (root.search?_eq_none_iff_progress_lt hchain).1 hnone
    refine ⟨hindex, ?_, ⟨hindex, (root.search?_take_eq_none_iff hindex).2 le_rfl⟩, ?_⟩
    · rw [search, List.getLast?_eq_some_getLast hchain, hnone, List.getElem?_eq_getElem hindex]
      rfl
    · rintro m ⟨hm, hfails⟩
      exact (root.search?_take_eq_none_iff hm).1 hfails

/-- The first subtree meets two kinds and the second one three, with the kind `expr` twice among
them; the last kind of the chain is there as well, but nowhere below the others. -/
theorem search_blames_first_unmet_kind_past_better_branch :
    let root : Node :=
      ⟨.expr, 1, .node .flworExpr 2 (.node .literal 3 .nil .nil)
        (.token ⟨",", 3⟩ (.node .flworExpr 4 (.node .expr 5 .nil .nil) .nil))⟩
    let chain : List Kind := [.expr, .flworExpr, .expr, .varRef, .literal]
    chain ≠ [] ∧ root.search? chain = none ∧
      (root.search chain = .error (.notFound .varRef chain) ∧
        IsLeast {m | m < chain.length ∧ root.search? (chain.take (m + 1)) = none} 3) := by
  intro root chain
  have hnone : root.search? chain = none := by decide
  obtain ⟨-, hstrict⟩ := search_blames_first_unmet_kind root
  obtain ⟨-, -, hblame⟩ := hstrict chain (by decide)
  obtain ⟨_, herror, hleast⟩ := hblame hnone
  exact ⟨by decide, hnone, herror, hleast⟩

end Tree

end SyntaxLint
