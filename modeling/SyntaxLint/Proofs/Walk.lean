import Mathlib
import SyntaxLint.Analysis.Basic
import SyntaxLint.Proofs.Preorder

/-!
# What a walk comes to

A walk descends a tree and leaves out what lies below the depth bound.  Its report can be had
without descending: take the pre-order list of the nodes within the bound, run every check on each
of them, and put the results one after another (`Analyzer.issues_analyze`,
`Analyzer.failures_analyze`).

The steps of a walk split in two.  Without the skips they are the steps of the flat run, visit by
visit (`Forest.filter_walk`).  A skip is among them exactly if some node lies below the bound
(`Forest.any_isSkip_walk`).  The four parts of a report read the steps separately, and only the mark
for truncation looks at skips, so both facts together give the report.
-/

namespace SyntaxLint

/-! ## One check on one visit -/

/-- The issues that a check raises on a visit: each has the key of the check and the line and the
message of a finding. -/
def Entry.issuesOn (visit : Visit) (entry : Entry) : List Issue :=
  (entry.check.inspect visit).findings.map fun finding =>
    ⟨entry.key, finding.line, finding.message⟩

/-- The failure of a check on a visit, if it fails there. -/
def Entry.failureOn? (visit : Visit) (entry : Entry) : Option Failure :=
  (entry.check.inspect visit).failure.map fun error => ⟨entry.key, visit.node.line, error⟩

section Run

variable (visit : Visit) (entry : Entry)

/-- A check raises what its reporter has stamped, and then fails if it fails. -/
lemma Entry.run_eq :
    entry.run visit =
      (entry.issuesOn visit).map .raise ++ (entry.failureOn? visit).toList.map .fail := by
  have hreporter :
      ((entry.check.inspect visit).findings.foldl Reporter.add (.start entry.key)).issues =
        entry.issuesOn visit :=
    Reporter.issues_foldl_add _ _
  rw [Entry.run, hreporter, Entry.failureOn?]
  cases (entry.check.inspect visit).failure <;> rfl

lemma Entry.filterMap_issue?_run :
    (entry.run visit).filterMap Step.issue? = entry.issuesOn visit := by
  rw [Entry.run_eq]
  simp [List.filterMap_map, Function.comp_def, Step.issue?]

lemma Entry.filterMap_failure?_run :
    (entry.run visit).filterMap Step.failure? = (entry.failureOn? visit).toList := by
  rw [Entry.run_eq]
  simp [List.filterMap_map, Function.comp_def, Step.failure?]

/-- A check neither enters nor skips a node. -/
lemma Entry.not_isEnter_not_isSkip_of_mem_run {step : Step} (h : step ∈ entry.run visit) :
    step.isEnter = false ∧ step.isSkip = false := by
  rw [Entry.run_eq, List.mem_append] at h
  rcases h with hraise | hfail
  · obtain ⟨issue, -, rfl⟩ := List.mem_map.1 hraise
    exact ⟨rfl, rfl⟩
  · obtain ⟨failure, -, rfl⟩ := List.mem_map.1 hfail
    exact ⟨rfl, rfl⟩

end Run

/-! ## The steps of a walk -/

/-- The steps on one visit: the node is entered, and the checks are run in order. -/
def stepsOn (entries : List Entry) (visit : Visit) : List Step :=
  .enter :: entries.flatMap (Entry.run visit)

section Steps

variable (entries : List Entry) (visit : Visit)

lemma filterMap_issue?_stepsOn :
    (stepsOn entries visit).filterMap Step.issue? = entries.flatMap (Entry.issuesOn visit) := by
  rw [stepsOn, List.filterMap_cons_none (by rfl), List.filterMap_flatMap]
  simp only [Entry.filterMap_issue?_run]

lemma filterMap_failure?_stepsOn :
    (stepsOn entries visit).filterMap Step.failure? =
      entries.filterMap (Entry.failureOn? visit) := by
  rw [stepsOn, List.filterMap_cons_none (by rfl), List.filterMap_flatMap,
    List.filterMap_eq_flatMap_toList (Entry.failureOn? visit)]
  simp only [Entry.filterMap_failure?_run]

lemma countP_isEnter_stepsOn : (stepsOn entries visit).countP Step.isEnter = 1 := by
  have hnone : ∀ step ∈ entries.flatMap (Entry.run visit), ¬ step.isEnter = true := by
    intro step hstep
    obtain ⟨entry, -, hrun⟩ := List.mem_flatMap.1 hstep
    simp [(entry.not_isEnter_not_isSkip_of_mem_run visit hrun).1]
  rw [stepsOn, List.countP_cons, List.countP_eq_zero.2 hnone]
  rfl

lemma not_isSkip_of_mem_stepsOn {step : Step} (h : step ∈ stepsOn entries visit) :
    step.isSkip = false := by
  rcases List.mem_cons.1 h with rfl | hstep
  · rfl
  · obtain ⟨entry, -, hrun⟩ := List.mem_flatMap.1 hstep
    exact (entry.not_isEnter_not_isSkip_of_mem_run visit hrun).2

end Steps

namespace Forest

variable (entries : List Entry) (bound : Nat)

/-- Every node of a forest is at least as deep as the forest. -/
lemma length_le_depth_of_mem_visits {forest : Forest Kind} {ancestors : List Node} {visit : Visit}
    (h : visit ∈ forest.visits ancestors) : ancestors.length ≤ visit.depth := by
  rw [Forest.visits_eq_map_places _ _ 0] at h
  obtain ⟨place, -, rfl⟩ := List.mem_map.1 h
  simp [Visit.under, Visit.depth]

/-- The steps on a node of a walk: the subtree is skipped, or the node is entered and the walk goes
on below it. -/
lemma walk_node (kind : Kind) (line : UInt32) (inner rest : Forest Kind) (ancestors : List Node) :
    (Forest.node kind line inner rest).walk entries bound ancestors =
      (if bound < ancestors.length then [.skip line]
       else stepsOn entries ⟨⟨kind, line, inner⟩, ancestors⟩
        ++ inner.walk entries bound (ancestors ++ [⟨kind, line, inner⟩]))
        ++ rest.walk entries bound ancestors := rfl

/-- Without its skips, a walk enters the nodes within the bound in pre-order and runs all checks
on each. -/
lemma filter_walk (forest : Forest Kind) (ancestors : List Node) :
    (forest.walk entries bound ancestors).filter (fun step => !step.isSkip) =
      ((forest.visits ancestors).filter fun visit => visit.depth ≤ bound).flatMap
        (stepsOn entries) := by
  induction forest generalizing ancestors with
  | nil => rfl
  | token t rest ih => exact ih ancestors
  | node kind line inner rest ihInner ihRest =>
    rw [walk_node, Forest.visits, List.filter_append, List.filter_append, List.flatMap_append,
      ihRest ancestors]
    congr 1
    split
    · next hdeep =>
      -- Below the bound nothing is left, whatever the subtree holds.
      have hnone : ∀ visit ∈ (⟨⟨kind, line, inner⟩, ancestors⟩ : Visit)
          :: inner.visits (ancestors ++ [⟨kind, line, inner⟩]),
          ¬ decide (visit.depth ≤ bound) = true := by
        intro visit hvisit
        rcases List.mem_cons.1 hvisit with rfl | hbelow
        · rw [decide_eq_true_eq, not_le]
          exact hdeep
        · have := length_le_depth_of_mem_visits hbelow
          simp only [List.length_append, List.length_singleton] at this
          simp only [decide_eq_true_eq]
          omega
      rw [List.filter_eq_nil_iff.2 hnone]
      rfl
    · next hshallow =>
      have hsteps : (stepsOn entries ⟨⟨kind, line, inner⟩, ancestors⟩).filter
          (fun step => !step.isSkip) = stepsOn entries ⟨⟨kind, line, inner⟩, ancestors⟩ :=
        List.filter_eq_self.2 fun step hstep => by
          simp [not_isSkip_of_mem_stepsOn entries _ hstep]
      have hwithin : (⟨⟨kind, line, inner⟩, ancestors⟩ : Visit).depth ≤ bound := by
        simpa [Visit.depth] using hshallow
      rw [List.filter_append, hsteps, ihInner, List.filter_cons_of_pos (by simpa using hwithin),
        List.flatMap_cons]

/-- A walk skips something exactly if some node lies below the bound. -/
lemma any_isSkip_walk (forest : Forest Kind) (ancestors : List Node) :
    (forest.walk entries bound ancestors).any Step.isSkip =
      (forest.visits ancestors).any fun visit => bound < visit.depth := by
  induction forest generalizing ancestors with
  | nil => rfl
  | token t rest ih => exact ih ancestors
  | node kind line inner rest ihInner ihRest =>
    rw [walk_node, Forest.visits, List.any_append, List.any_append, ihRest ancestors]
    congr 1
    rw [List.any_cons]
    split
    · next hdeep => simp [Step.isSkip, Visit.depth, hdeep]
    · next hshallow =>
      have hsteps : (stepsOn entries ⟨⟨kind, line, inner⟩, ancestors⟩).any Step.isSkip = false :=
        List.any_eq_false.2 fun step hstep => by
          simp [not_isSkip_of_mem_stepsOn entries _ hstep]
      rw [List.any_append, hsteps, ihInner]
      simp [Visit.depth, hshallow]

end Forest

/-! ## Reports -/

/-- The visits of a tree within a depth bound are those of its places within it. -/
lemma Tree.filter_visits (root : Node) (bound : Nat) :
    root.visits.filter (fun visit => visit.depth ≤ bound) =
      (root.placesWithin bound).map Place.visit := by
  rw [← Tree.map_visit_places, List.filter_map]
  rfl

lemma Tree.visits_cons_nil (root : Node) :
    (Forest.cons (.node root) .nil).visits [] = root.visits := by
  simp [Forest.cons, Forest.visits, Tree.visits, Visit.root]

/-- A part of a report that does not look at skips can be read off the flat run. -/
lemma Tree.filterMap_walk {α : Type} (entries : List Entry) (bound : Nat) (root : Node)
    (f : Step → Option α) (hskip : ∀ line, f (.skip line) = none) :
    (root.walk entries bound).filterMap f =
      (root.placesWithin bound).flatMap fun place =>
        (stepsOn entries place.visit).filterMap f := by
  have hdrop : (root.walk entries bound).filterMap f =
      ((root.walk entries bound).filter fun step => !step.isSkip).filterMap f := by
    rw [List.filterMap_filter]
    refine List.filterMap_congr fun step _ => ?_
    cases step <;> simp [Step.isSkip, hskip]
  rw [hdrop, Tree.walk, Forest.filter_walk, Tree.visits_cons_nil, Tree.filter_visits,
    List.filterMap_flatMap, List.flatMap_map]

namespace Analyzer

variable (analyzer : Analyzer) (unit : Source)

lemma issues_analyze :
    (analyzer.analyze unit).issues =
      (unit.root.placesWithin analyzer.maxDepth.toNat).flatMap fun place =>
        analyzer.registry.entries.flatMap (Entry.issuesOn place.visit) := by
  have h := Tree.filterMap_walk analyzer.registry.entries analyzer.maxDepth.toNat unit.root
    Step.issue? fun _ => rfl
  simp only [filterMap_issue?_stepsOn] at h
  exact h

lemma failures_analyze :
    (analyzer.analyze unit).failures =
      (unit.root.placesWithin analyzer.maxDepth.toNat).flatMap fun place =>
        analyzer.registry.entries.filterMap (Entry.failureOn? place.visit) := by
  have h := Tree.filterMap_walk analyzer.registry.entries analyzer.maxDepth.toNat unit.root
    Step.failure? fun _ => rfl
  simp only [filterMap_failure?_stepsOn] at h
  exact h

lemma nodesVisited_analyze :
    (analyzer.analyze unit).nodesVisited =
      (unit.root.placesWithin analyzer.maxDepth.toNat).length := by
  have hcount : ∀ steps : List Step,
      steps.countP Step.isEnter =
        (steps.filter fun step => !step.isSkip).countP Step.isEnter := by
    intro steps
    rw [List.countP_filter]
    refine List.countP_congr fun step _ => ?_
    cases step <;> simp [Step.isEnter, Step.isSkip]
  have hwalk : (analyzer.analyze unit).nodesVisited = (analyzer.steps unit).countP Step.isEnter :=
    rfl
  rw [hwalk, hcount, steps, Tree.walk, Forest.filter_walk, Tree.visits_cons_nil,
    Tree.filter_visits, List.countP_flatMap, List.map_map]
  simp [Function.comp_def, countP_isEnter_stepsOn]

lemma truncated_analyze :
    (analyzer.analyze unit).truncated = true ↔
      ∃ place ∈ unit.root.places, analyzer.maxDepth.toNat < place.visit.depth := by
  have hwalk : (analyzer.analyze unit).truncated = (analyzer.steps unit).any Step.isSkip := rfl
  rw [hwalk, steps, Tree.walk, Forest.any_isSkip_walk, Tree.visits_cons_nil,
    ← Tree.map_visit_places]
  simp

/-- **A report is the flat run of the checks over the pre-order of the tree.**  With `within` the
pre-order of the nodes down to the depth bound, each with its ancestors, the issues and the failures
are those of the checks on the nodes of this list, node by node and in the order of registration.
The nodes visited are counted by it, and the report is marked truncated exactly if the tree goes
deeper than the bound, that is, if not every node was visited. -/
theorem analyze_eq_run_on_preorder (analyzer : Analyzer) (unit : Source) :
    let bound := analyzer.maxDepth.toNat
    let within := unit.root.placesWithin bound
    let report := analyzer.analyze unit
    unit.root.IsPreorder bound within ∧
      report.uri = unit.uri ∧
      report.issues = within.flatMap (fun place =>
        analyzer.registry.entries.flatMap (Entry.issuesOn place.visit)) ∧
      report.failures = within.flatMap (fun place =>
        analyzer.registry.entries.filterMap (Entry.failureOn? place.visit)) ∧
      report.nodesVisited = within.length ∧
      (report.truncated = true ↔
        ∃ path, (unit.root.at? path).isSome ∧ bound < path.length) ∧
      (report.truncated = true ↔ report.nodesVisited < unit.root.places.length) := by
  intro bound within report
  refine ⟨unit.root.isPreorder_placesWithin bound, rfl, analyzer.issues_analyze unit,
    analyzer.failures_analyze unit, analyzer.nodesVisited_analyze unit, ?_, ?_⟩
  · rw [analyzer.truncated_analyze unit, Tree.exists_deep_place_iff]
  · rw [analyzer.truncated_analyze unit, analyzer.nodesVisited_analyze unit, Tree.placesWithin,
      List.length_filter_lt_length_iff_exists]
    simp

end Analyzer

end SyntaxLint
