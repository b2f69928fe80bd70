import Mathlib
import SyntaxLint.Proofs.Walk

/-!
# A greater depth bound only adds to the report

An analysis that is cut off at some depth says less than one that goes deeper, and nothing else:
what it reports is reported by the other one too, in the same order.  A walk with a smaller bound
stops in the middle of sequences of elements, but the nodes it enters are, in pre-order, some of
those that a walk with a greater bound enters (`Tree.placesWithin_sublist`), and a check says the
same of a node however far the walk goes: it is handed the whole node, also what lies below the
bound.

The bound ceases to matter at the depth of the deepest node (`Tree.height`).  From there on all
nodes are visited and the report stays the same; below it, the report is marked truncated.
-/

namespace SyntaxLint

open scoped List

/-! ## The height of a tree -/

section Height

variable {κ : Type}

/-- How many nodes there are at most on a way down a forest. -/
def Forest.height : Forest κ → Nat
  | .nil => 0
  | .token _ rest => rest.height
  | .node _ _ inner rest => max (inner.height + 1) rest.height

/-- The depth of the deepest node of a tree, the root being at depth zero. -/
def Tree.height (tree : Tree κ) : Nat :=
  tree.elements.height

end Height

/-- If the height of its elements bounds their depths, the height of a tree bounds the depths of its
nodes. -/
lemma Tree.height_le_iff_of_elements (root : Node)
    (helements : ∀ n, root.elements.height ≤ n ↔
      ∀ place ∈ root.elements.places 0, place.visit.depth < n)
    (n : Nat) : root.height ≤ n ↔ ∀ place ∈ root.places, place.visit.depth ≤ n := by
  have hroot : (Visit.root root).depth ≤ n := Nat.zero_le n
  rw [Tree.height, helements, Tree.places, List.forall_mem_cons, and_iff_right hroot,
    List.forall_mem_map]
  rfl

lemma Forest.height_le_iff (forest : Forest Kind) (i n : Nat) :
    forest.height ≤ n ↔ ∀ place ∈ forest.places i, place.visit.depth < n := by
  induction forest generalizing i n with
  | nil => simp [Forest.height, Forest.places]
  | token t rest ih => exact ih (i + 1) n
  | node kind line inner rest ihInner ihRest =>
    have htree : ∀ n, inner.height ≤ n ↔
        ∀ place ∈ Tree.places ⟨kind, line, inner⟩, place.visit.depth ≤ n :=
      Tree.height_le_iff_of_elements ⟨kind, line, inner⟩ (ihInner 0)
    rw [Forest.height, max_le_iff, ihRest (i + 1), Forest.places_node, List.forall_mem_append,
      List.forall_mem_map]
    refine and_congr_left fun _ => ?_
    cases n with
    | zero =>
      -- Neither holds, since the node itself is in the forest.
      refine iff_of_false (Nat.not_succ_le_zero _) fun hnone => ?_
      exact Nat.not_lt_zero _ (hnone ⟨[], .root ⟨kind, line, inner⟩⟩ List.mem_cons_self)
    | succ n =>
      simp only [Nat.add_le_add_iff_right, Place.visit_below, Nat.lt_succ_iff]
      exact htree n

namespace Tree

/-- The height of a tree is within a bound exactly if all its nodes are. -/
lemma height_le_iff (root : Node) (n : Nat) :
    root.height ≤ n ↔ ∀ place ∈ root.places, place.visit.depth ≤ n :=
  root.height_le_iff_of_elements (root.elements.height_le_iff 0) n

/-- The height of a tree is the greatest depth of a node. -/
lemma isGreatest_height (root : Node) :
    IsGreatest {depth | ∃ path, (root.at? path).isSome ∧ path.length = depth} root.height := by
  have hdepths : ∀ n, root.height ≤ n ↔ ∀ path, (root.at? path).isSome → path.length ≤ n := by
    intro n
    have hdeep := (root.exists_deep_place_iff n).not
    push Not at hdeep
    rw [height_le_iff, hdeep]
  refine ⟨?_, ?_⟩
  · by_contra hnone
    have hbelow : root.height ≤ root.height - 1 := by
      refine (hdepths _).2 fun path hpath => ?_
      have hle := (hdepths _).1 le_rfl path hpath
      have hne : path.length ≠ root.height := fun h => hnone ⟨path, hpath, h⟩
      omega
    exact hnone ⟨[], by simp, by simp only [List.length_nil]; omega⟩
  · rintro depth ⟨path, hpath, rfl⟩
    exact (hdepths _).1 le_rfl path hpath

/-! ## The nodes within a bound -/

lemma placesWithin_sublist (root : Node) {low high : Nat} (h : low ≤ high) :
    root.placesWithin low <+ root.placesWithin high := by
  refine List.monotone_filter_right _ fun place hplace => ?_
  rw [decide_eq_true_iff] at hplace ⊢
  exact hplace.trans h

lemma placesWithin_of_height_le {root : Node} {bound : Nat} (h : root.height ≤ bound) :
    root.placesWithin bound = root.places := by
  refine List.filter_eq_self.2 fun place hplace => ?_
  exact decide_eq_true ((root.height_le_iff bound).1 h place hplace)

end Tree

/-! ## Reports under two bounds -/

namespace Analyzer

/-- A report is truncated exactly if the depth bound is less than the height of the tree. -/
lemma truncated_iff_lt_height (analyzer : Analyzer) (unit : Source) :
    (analyzer.analyze unit).truncated = true ↔ analyzer.maxDepth.toNat < unit.root.height := by
  rw [truncated_analyze, ← not_le, Tree.height_le_iff]
  push Not
  rfl

/-- From the height of the tree on, a report is that of all checks on all nodes. -/
lemma analyze_of_height_le {analyzer : Analyzer} {unit : Source}
    (h : unit.root.height ≤ analyzer.maxDepth.toNat) :
    analyzer.analyze unit =
      { uri := unit.uri
        issues := unit.root.places.flatMap fun place =>
          analyzer.registry.entries.flatMap (Entry.issuesOn place.visit)
        failures := unit.root.places.flatMap fun place =>
          analyzer.registry.entries.filterMap (Entry.failureOn? place.visit)
        nodesVisited := unit.root.places.length
        truncated := false } := by
  have htruncated : (analyzer.analyze unit).truncated = false := by
    rw [← Bool.not_eq_true, truncated_iff_lt_height, not_lt]
    exact h
  have hparts : analyzer.analyze unit =
      ⟨unit.uri, (analyzer.analyze unit).issues, (analyzer.analyze unit).failures,
        (analyzer.analyze unit).nodesVisited, (analyzer.analyze unit).truncated⟩ := rfl
  rw [hparts, htruncated, issues_analyze, failures_analyze, nodesVisited_analyze,
    Tree.placesWithin_of_height_le h]

/-- **A greater depth bound only adds to the report.**  Analyse a unit with the same checks under
two depth bounds.  The issues and the failures under the smaller bound are some of those under the
greater one, in the same order; no fewer nodes are visited under the greater one; and if the report
is truncated under the greater bound, it is so under the smaller one.  A report is truncated exactly
if the bound is less than the height of the tree, which is the greatest depth of a node.  From there
on every node is visited, and the whole report is the same under all bounds. -/
theorem greater_bound_only_adds (registry : Registry) (disabled : NameSet) (unit : Source)
    (low high : UInt64) (hbounds : low ≤ high) :
    let report (maxDepth : UInt64) := (Analyzer.new registry ⟨maxDepth, disabled⟩).analyze unit
    (report low).issues <+ (report high).issues ∧
      (report low).failures <+ (report high).failures ∧
      (report low).nodesVisited ≤ (report high).nodesVisited ∧
      ((report high).truncated = true → (report low).truncated = true) ∧
      ((report low).truncated = true ↔ low.toNat < unit.root.height) ∧
      IsGreatest {depth | ∃ path, (unit.root.at? path).isSome ∧ path.length = depth}
        unit.root.height ∧
      (unit.root.height ≤ low.toNat →
        report high = report low ∧ (report low).truncated = false ∧
          (report low).nodesVisited = unit.root.places.length) := by
  intro report
  have hle : low.toNat ≤ high.toNat := UInt64.le_iff_toNat_le.1 hbounds
  have hplaces := unit.root.placesWithin_sublist hle
  have htruncated : ∀ maxDepth, (report maxDepth).truncated = true ↔
      maxDepth.toNat < unit.root.height :=
    fun maxDepth => truncated_iff_lt_height (Analyzer.new registry ⟨maxDepth, disabled⟩) unit
  refine ⟨?_, ?_, ?_, fun hhigh => ?_, htruncated low, unit.root.isGreatest_height, fun hlow => ?_⟩
  · rw [issues_analyze, issues_analyze]
    exact hplaces.flatMap _
  · rw [failures_analyze, failures_analyze]
    exact hplaces.flatMap _
  · rw [nodesVisited_analyze, nodesVisited_analyze]
    exact hplaces.length_le
  · exact (htruncated low).2 (lt_of_le_of_lt hle ((htruncated high).1 hhigh))
  · have hwhole : report low = _ := analyze_of_height_le hlow
    have hhigh : report high = _ := analyze_of_height_le (hlow.trans hle)
    exact ⟨hhigh.trans hwhole.symm, congrArg Report.truncated hwhole,
      congrArg Report.nodesVisited hwhole⟩

/-- A check that reports every node, and a tree whose second element is the deepest one.  With the
smaller bound the issue in the middle is missing; from its height on the tree is covered. -/
theorem greater_bound_only_adds_in_the_middle :
    let check : Check :=
      ⟨⟨"Lines", "Lines", "", .info⟩, fun visit => .found visit.node.line visit.node.kind.name⟩
    let registry := Registry.empty.register "lab" check
    let root : Node :=
      ⟨.expr, 1, .node .varRef 2 .nil
        (.node .flworExpr 3 (.node .literal 4 .nil .nil) (.node .literal 5 .nil .nil))⟩
    let report (maxDepth : UInt64) :=
      (Analyzer.new registry ⟨maxDepth, .empty⟩).analyze ⟨"module.xq", root⟩
    ((1 : UInt64) ≤ 2 ∧ (2 : UInt64) ≤ 9 ∧ root.height = 2) ∧
      ((report 1).issues.map Issue.line = [1, 2, 3, 5] ∧
        (report 2).issues.map Issue.line = [1, 2, 3, 4, 5]) ∧
      (report 1).issues <+ (report 2).issues ∧ (report 1).truncated = true ∧
      report 9 = report 2 ∧ (report 2).truncated = false := by
  intro check registry root report
  obtain ⟨hissues, -, -, -, htruncated, -, -⟩ :=
    greater_bound_only_adds registry .empty ⟨"module.xq", root⟩ 1 2 (by decide)
  obtain ⟨-, -, -, -, -, -, hwhole⟩ :=
    greater_bound_only_adds registry .empty ⟨"module.xq", root⟩ 2 9 (by decide)
  obtain ⟨hsame, hcomplete, -⟩ := hwhole (by decide)
  exact ⟨by decide, by decide, hissues, htruncated.2 (by decide), hsame, hcomplete⟩

end Analyzer

end SyntaxLint
