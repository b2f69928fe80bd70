import Mathlib
import SyntaxLint.Proofs.Locality

/-!
# What the verdicts of the rules depend on

The words of an issue quote texts of the tree, and so may change with anything below a node.  Which
issues are raised, and on which lines, depends on much less.  The rules on declared types look at
the kind of a node, its line, whether it declares a type, and the kinds of its ancestors.  This is
the *sketch* of a visit (`Visit.sketch`), and the *verdict* of a check is its outcome without the
words (`Outcome.verdict`).

Where checks agree in their verdicts, place by place, the issues have the same rules and lines and
the failures are the same (`Registry.map_spot_issuesOn_congr`, `Registry.failuresOn_congr`).  The
rules on declared types agree on visits with the same sketch (`Check.ReadsSketch`), so to compare
two of their reports it is enough to compare the sketches of the nodes visited.
-/

namespace SyntaxLint

/-! ## Sketches and verdicts -/

/-- What is left of a visit without texts and without the nodes below. -/
structure Sketch where
  kind : Kind
  line : UInt32
  /-- Whether the node declares a type. -/
  declares : Bool
  /-- The kinds of the ancestors, from the root down to the parent. -/
  around : List Kind
  deriving DecidableEq

/-- The sketch of a visit. -/
def Visit.sketch (visit : Visit) : Sketch :=
  ⟨visit.node.kind, visit.node.line, visit.node.declaration?.isSome, visit.ancestors.map Tree.kind⟩

lemma Visit.sketch_eq_iff {visit other : Visit} :
    visit.sketch = other.sketch ↔
      visit.node.kind = other.node.kind ∧ visit.node.line = other.node.line ∧
        visit.node.declaration?.isSome = other.node.declaration?.isSome ∧
        visit.ancestors.map Tree.kind = other.ancestors.map Tree.kind := by
  rw [Visit.sketch, Visit.sketch, Sketch.mk.injEq]

/-- An outcome without its words: the lines of the findings, and the failure. -/
def Outcome.verdict (outcome : Outcome) : List UInt32 × Option CheckError :=
  (outcome.findings.map Finding.line, outcome.failure)

lemma Outcome.verdict_found (line : UInt32) (message : String) :
    (Outcome.found line message).verdict = ([line], none) := rfl

/-- A check says the same of visits with the same sketch, but for the words. -/
def Check.ReadsSketch (check : Check) : Prop :=
  Function.FactorsThrough (fun visit => (check.inspect visit).verdict) Visit.sketch

/-- The kind of the nearest ancestor of some kinds is read off the kinds of the ancestors. -/
lemma Visit.map_kind_nearest? (visit : Visit) (kinds : List Kind) :
    (visit.nearest? kinds).map Tree.kind =
      (visit.ancestors.map Tree.kind).reverse.find? fun kind => kinds.contains kind := by
  rw [← List.map_reverse, List.find?_map]
  rfl

/-! ## The rules on declared types -/

namespace StrongTyping

variable {visit other : Visit}

lemma readsSketch_flwor : flwor.ReadsSketch := by
  intro visit other hsketch
  obtain ⟨hkind, hline, hdeclares, -⟩ := Visit.sketch_eq_iff.1 hsketch
  have hask : ∀ clause, (inspectBinding.ask visit clause).verdict =
      (inspectBinding.ask other clause).verdict := by
    intro clause
    rw [inspectBinding.ask, inspectBinding.ask, hdeclares]
    split
    · rfl
    · rw [Outcome.verdict_found, Outcome.verdict_found, hline]
  show (inspectBinding visit).verdict = (inspectBinding other).verdict
  rw [inspectBinding, inspectBinding, hkind]
  split
  · exact hask "for"
  · exact hask "let"
  · rfl

/-- Whether there is a function around a parameter, and of which kind, is seen in the sketch. -/
lemma verdict_inspectParam_eq (hsketch : visit.sketch = other.sketch) :
    (inspectParam visit).verdict = (inspectParam other).verdict := by
  obtain ⟨hkind, hline, hdeclares, haround⟩ := Visit.sketch_eq_iff.1 hsketch
  have howner : (visit.nearest? [.functionDecl, .inlineFunctionExpr]).map Tree.kind =
      (other.nearest? [.functionDecl, .inlineFunctionExpr]).map Tree.kind := by
    rw [Visit.map_kind_nearest?, Visit.map_kind_nearest?, haround]
  simp only [inspectParam, hdeclares, hkind, hline]
  split
  · rfl
  · revert howner
    rcases visit.nearest? [.functionDecl, .inlineFunctionExpr] with _ | owner <;>
      rcases other.nearest? [.functionDecl, .inlineFunctionExpr] with _ | another <;>
      intro howner
    · rfl
    · exact absurd howner (by simp)
    · exact absurd howner (by simp)
    · have howners : owner.kind = another.kind := Option.some.inj howner
      simp only [howners]
      split
      · rw [Outcome.verdict_found, Outcome.verdict_found]
      · rfl

lemma verdict_inspectResult_eq {function another : Node} (hline : function.line = another.line)
    (hdeclares : function.declaration?.isSome = another.declaration?.isSome) :
    (inspectResult function).verdict = (inspectResult another).verdict := by
  rw [inspectResult, inspectResult, hdeclares]
  split
  · rfl
  · rw [Outcome.verdict_found, Outcome.verdict_found, hline]

lemma readsSketch_functionDeclaration : functionDeclaration.ReadsSketch := by
  intro visit other hsketch
  obtain ⟨hkind, hline, hdeclares, -⟩ := Visit.sketch_eq_iff.1 hsketch
  simp only [functionDeclaration, hkind]
  split
  · exact verdict_inspectParam_eq hsketch
  · exact verdict_inspectResult_eq hline hdeclares
  · rfl

lemma readsSketch_moduleVariable : moduleVariable.ReadsSketch := by
  intro visit other hsketch
  obtain ⟨hkind, hline, hdeclares, -⟩ := Visit.sketch_eq_iff.1 hsketch
  show (inspectVariable visit).verdict = (inspectVariable other).verdict
  rw [inspectVariable, inspectVariable, hkind, hdeclares]
  split
  · rfl
  · rw [Outcome.verdict_found, Outcome.verdict_found, hline]

/-- The rules that come with the library read sketches. -/
lemma readsSketch_of_mem_builtin {entry : Entry} (h : entry ∈ Registry.builtin.entries) :
    entry.check.ReadsSketch := by
  rw [entries_builtin] at h
  simp only [List.mem_cons, List.not_mem_nil, or_false] at h
  rcases h with rfl | rfl | rfl
  · exact readsSketch_flwor
  · exact readsSketch_functionDeclaration
  · exact readsSketch_moduleVariable

end StrongTyping

/-! ## Places with the same sketches -/

/-- An issue without its words: its rule and its line. -/
def Issue.spot (issue : Issue) : RuleKey × UInt32 :=
  (issue.rule, issue.line)

lemma Entry.map_spot_issuesOn (entry : Entry) (visit : Visit) :
    (entry.issuesOn visit).map Issue.spot =
      (entry.check.inspect visit).verdict.1.map fun line => (entry.key, line) := by
  rw [Entry.issuesOn, Outcome.verdict, List.map_map, List.map_map]
  rfl

namespace Registry

/-- The checks of a registry say the same of two visits, but for the words. -/
structure Agree (registry : Registry) (visit other : Visit) : Prop where
  line : visit.node.line = other.node.line
  verdict : ∀ entry ∈ registry.entries,
    (entry.check.inspect visit).verdict = (entry.check.inspect other).verdict

variable {registry : Registry} {places others : List Place}

/-- Where the checks agree place by place, the same rules raise issues on the same lines. -/
lemma map_spot_issuesOn_congr
    (h : List.Forall₂ (fun a b : Place => registry.Agree a.visit b.visit) places others) :
    (registry.issuesOn places).map Issue.spot = (registry.issuesOn others).map Issue.spot := by
  rw [issuesOn, issuesOn, List.map_flatMap, List.map_flatMap]
  induction h with
  | nil => rfl
  | cons hagree _ ih =>
    rw [List.flatMap_cons, List.flatMap_cons, ih, List.map_flatMap, List.map_flatMap]
    congr 1
    refine List.flatMap_congr fun entry hentry => ?_
    rw [Entry.map_spot_issuesOn, Entry.map_spot_issuesOn, hagree.verdict entry hentry]

/-- Where the checks agree place by place, the same failures are reported. -/
lemma failuresOn_congr
    (h : List.Forall₂ (fun a b : Place => registry.Agree a.visit b.visit) places others) :
    registry.failuresOn places = registry.failuresOn others := by
  rw [failuresOn, failuresOn]
  induction h with
  | nil => rfl
  | @cons place other _ _ hagree _ ih =>
    rw [List.flatMap_cons, List.flatMap_cons, ih]
    congr 1
    refine List.filterMap_congr fun entry hentry => ?_
    have hfailure : (entry.check.inspect place.visit).failure =
        (entry.check.inspect other.visit).failure :=
      congrArg Prod.snd (hagree.verdict entry hentry)
    rw [Entry.failureOn?, Entry.failureOn?, hfailure, hagree.line]

/-- Checks that read sketches agree on places with the same sketches. -/
lemma forall₂_agree_of_sketch
    (hreads : ∀ entry ∈ registry.entries, entry.check.ReadsSketch)
    (hsketches : places.map (fun place => place.visit.sketch) =
      others.map fun place => place.visit.sketch) :
    List.Forall₂ (fun a b : Place => registry.Agree a.visit b.visit) places others := by
  rw [← List.forall₂_eq_eq_eq, List.forall₂_map_left_iff, List.forall₂_map_right_iff] at hsketches
  refine hsketches.imp fun place other hsketch => ⟨(Visit.sketch_eq_iff.1 hsketch).2.1, ?_⟩
  exact fun entry hentry => hreads entry hentry hsketch

end Registry

end SyntaxLint
