import Mathlib
import SyntaxLint.Proofs.DeclaredTypes
import SyntaxLint.Proofs.Subtree

/-!
# A subtree can be analysed on its own

A check sees the ancestors of a node, so what it says of a node may depend on all that is around the
node.  A check is *local* (`Check.IsLocal`) if this never happens where it can do without: what it
says below some ancestors, if it does not fail there, it says below these with any others around
them.

The rules on declared types are local.  Two of them look at the node alone.  The third asks for the
nearest function around a parameter, and a function inside the subtree is nearer than any around it
(`Visit.nearest?_under`); if there is none inside, the check fails on the subtree alone.

For local checks the analysis of a subtree on its own, if nothing fails, is part of the analysis of
the whole tree: the pre-order of the tree holds that of the subtree in one piece
(`Tree.placesWithin_eq_append`), and on each of its nodes the same is said.
-/

namespace SyntaxLint

open scoped List

/-! ## Local checks -/

/-- What a check says of a visit without failing, it says with any further ancestors around. -/
def Check.IsLocal (check : Check) : Prop :=
  ∀ (visit : Visit) (around : List Node), (check.inspect visit).failure = none →
    check.inspect (visit.under around) = check.inspect visit

/-- The nearest ancestor of some kinds stays the nearest with further ancestors around. -/
lemma Visit.nearest?_under {visit : Visit} {kinds : List Kind} {owner : Node}
    (h : visit.nearest? kinds = some owner) (around : List Node) :
    (visit.under around).nearest? kinds = some owner := by
  rw [Visit.nearest?] at h ⊢
  rw [Visit.under, List.reverse_append, List.find?_append, h, Option.some_or]

namespace StrongTyping

lemma isLocal_flwor : flwor.IsLocal :=
  fun _ _ _ => rfl

lemma isLocal_moduleVariable : moduleVariable.IsLocal :=
  fun _ _ _ => rfl

/-- If the check of a parameter does not fail, the parameter is typed or has a function around it
already, and that function decides. -/
lemma inspectParam_under {visit : Visit} (h : (inspectParam visit).failure = none)
    (around : List Node) : inspectParam (visit.under around) = inspectParam visit := by
  have hnode : (visit.under around).node = visit.node := rfl
  by_cases hdeclared : visit.node.declaration?.isSome = true
  · simp only [inspectParam, hnode, hdeclared, if_true]
  · cases hnearest : visit.nearest? [.functionDecl, .inlineFunctionExpr] with
    | none => simp [inspectParam, hdeclared, hnearest, Outcome.failed] at h
    | some owner =>
      simp only [inspectParam, hnode, hnearest, Visit.nearest?_under hnearest around]

lemma isLocal_functionDeclaration : functionDeclaration.IsLocal := by
  intro visit around h
  by_cases hparam : visit.node.kind = .param
  · have hunder : (visit.under around).node.kind = .param := hparam
    rw [inspect_functionDeclaration_of_param hparam] at h
    rw [inspect_functionDeclaration_of_param hunder, inspect_functionDeclaration_of_param hparam]
    exact inspectParam_under h around
  · have hother : ∀ visit : Visit, visit.node.kind ≠ .param →
        functionDeclaration.inspect visit =
          if visit.node.kind = .functionDecl then inspectResult visit.node else .nothing := by
      intro visit hkind
      simp only [functionDeclaration]
      split <;> simp_all
    rw [hother visit hparam, hother (visit.under around) hparam]
    rfl

/-- The rules that come with the library are local. -/
lemma isLocal_of_mem_builtin {entry : Entry} (h : entry ∈ Registry.builtin.entries) :
    entry.check.IsLocal := by
  rw [entries_builtin] at h
  simp only [List.mem_cons, List.not_mem_nil, or_false] at h
  rcases h with rfl | rfl | rfl
  · exact isLocal_flwor
  · exact isLocal_functionDeclaration
  · exact isLocal_moduleVariable

end StrongTyping

/-! ## Local checks on a subtree -/

namespace Registry

variable (registry : Registry)

/-- The issues that the checks raise on some places, place by place. -/
def issuesOn (places : List Place) : List Issue :=
  places.flatMap fun place => registry.entries.flatMap (Entry.issuesOn place.visit)

/-- The failures of the checks on some places, place by place. -/
def failuresOn (places : List Place) : List Failure :=
  places.flatMap fun place => registry.entries.filterMap (Entry.failureOn? place.visit)

lemma issuesOn_append (places others : List Place) :
    registry.issuesOn (places ++ others) = registry.issuesOn places ++ registry.issuesOn others :=
  List.flatMap_append

lemma failuresOn_append (places others : List Place) :
    registry.failuresOn (places ++ others) =
      registry.failuresOn places ++ registry.failuresOn others :=
  List.flatMap_append

lemma failuresOn_eq_nil_iff {places : List Place} :
    registry.failuresOn places = [] ↔
      ∀ place ∈ places, ∀ entry ∈ registry.entries,
        (entry.check.inspect place.visit).failure = none := by
  simp only [failuresOn, List.flatMap_eq_nil_iff, List.filterMap_eq_nil_iff, Entry.failureOn?,
    Option.map_eq_none_iff]

variable {registry}

/-- Where local checks do not fail on the places of a subtree, they say the same of these places
within the whole tree. -/
lemma inspect_graft (hlocal : ∀ entry ∈ registry.entries, entry.check.IsLocal)
    {places : List Place} (hfailures : registry.failuresOn places = []) (path : Path)
    (around : List Node) {place : Place} (hplace : place ∈ places) {entry : Entry}
    (hentry : entry ∈ registry.entries) :
    entry.check.inspect (place.graft path around).visit = entry.check.inspect place.visit :=
  hlocal entry hentry place.visit around
    ((registry.failuresOn_eq_nil_iff).1 hfailures place hplace entry hentry)

lemma issuesOn_map_graft (hlocal : ∀ entry ∈ registry.entries, entry.check.IsLocal)
    {places : List Place} (hfailures : registry.failuresOn places = []) (path : Path)
    (around : List Node) :
    registry.issuesOn (places.map (Place.graft path around)) = registry.issuesOn places := by
  rw [issuesOn, issuesOn, List.flatMap_map]
  refine List.flatMap_congr fun place hplace => List.flatMap_congr fun entry hentry => ?_
  rw [Entry.issuesOn, Entry.issuesOn, inspect_graft hlocal hfailures path around hplace hentry]

lemma failuresOn_map_graft (hlocal : ∀ entry ∈ registry.entries, entry.check.IsLocal)
    {places : List Place} (hfailures : registry.failuresOn places = []) (path : Path)
    (around : List Node) :
    registry.failuresOn (places.map (Place.graft path around)) = [] := by
  rw [failuresOn_eq_nil_iff]
  intro graft hgraft entry hentry
  obtain ⟨place, hplace, rfl⟩ := List.mem_map.1 hgraft
  rw [inspect_graft hlocal hfailures path around hplace hentry]
  exact (registry.failuresOn_eq_nil_iff).1 hfailures place hplace entry hentry

end Registry

/-! ## The analysis of a subtree -/

namespace StrongTyping

/-- **The rules on declared types can be run on a subtree alone.**  Take any node of a tree within
the depth bound, and analyse its subtree on its own, with the same rules switched off and with the
depth bound that is left below it.  If nothing fails there, then the report on the whole tree has
the same issues in one piece, between those raised on the nodes before the subtree and those raised
on the nodes after it, and its failures are all raised before or after the subtree, none inside. -/
theorem builtin_report_local (root node : Node) (path : Path) (disabled : NameSet)
    (maxDepth : UInt64) (uri uriAlone : String) (hnode : root.at? path = some node)
    (hdepth : path.length ≤ maxDepth.toNat) :
    let bound := maxDepth.toNat
    let analyzer := Analyzer.builtin ⟨maxDepth, disabled⟩
    let report := analyzer.analyze ⟨uri, root⟩
    let below : Config := ⟨maxDepth - UInt64.ofNat path.length, disabled⟩
    let alone := (Analyzer.builtin below).analyze ⟨uriAlone, node⟩
    alone.failures = [] →
      root.IsPreorder bound (root.placesWithin bound) ∧
      report.issues = analyzer.registry.issuesOn (root.placesBefore bound path) ++ alone.issues ++
        analyzer.registry.issuesOn (root.placesAfter bound path) ∧
      report.failures = analyzer.registry.failuresOn (root.placesBefore bound path) ++
        analyzer.registry.failuresOn (root.placesAfter bound path) ∧
      analyzer.registry.failuresOn (root.placesInside bound path) = [] := by
  intro bound analyzer report below alone hfailures
  obtain ⟨place, hplace, hpath, rfl⟩ := Tree.at?_eq_some_iff.1 hnode
  have hvisit : root.visitAt? path = some place.visit := hpath ▸ Tree.mem_places.1 hplace
  have hbelow : below.maxDepth.toNat = bound - path.length := by
    have hlength : (UInt64.ofNat path.length).toNat = path.length :=
      UInt64.toNat_ofNat_of_lt' (lt_of_le_of_lt hdepth maxDepth.toNat_lt)
    have hle : UInt64.ofNat path.length ≤ maxDepth := by
      rw [UInt64.le_iff_toNat_le, hlength]
      exact hdepth
    rw [UInt64.toNat_sub_of_le _ _ hle, hlength]
  have hlocal : ∀ entry ∈ analyzer.registry.entries, entry.check.IsLocal := fun entry hentry =>
    isLocal_of_mem_builtin (List.mem_filter.1 hentry).1
  have hinside := Tree.placesInside_eq_map_graft hvisit hdepth
  -- Switching off the same rules leaves the same checks, whatever the depth bound.
  have hissues : alone.issues =
      analyzer.registry.issuesOn (place.visit.node.placesWithin (bound - path.length)) := by
    rw [← hbelow]
    exact (Analyzer.builtin below).issues_analyze ⟨uriAlone, place.visit.node⟩
  have hnone :
      analyzer.registry.failuresOn (place.visit.node.placesWithin (bound - path.length)) = [] := by
    rw [← hbelow, ← hfailures]
    exact ((Analyzer.builtin below).failures_analyze ⟨uriAlone, place.visit.node⟩).symm
  have hinsideFailures : analyzer.registry.failuresOn (root.placesInside bound path) = [] := by
    rw [hinside]
    exact Registry.failuresOn_map_graft hlocal hnone path place.visit.ancestors
  refine ⟨root.isPreorder_placesWithin bound, ?_, ?_, hinsideFailures⟩
  · have hreport : report.issues = analyzer.registry.issuesOn (root.placesWithin bound) :=
      analyzer.issues_analyze _
    rw [hreport, root.placesWithin_eq_append bound path, Registry.issuesOn_append,
      Registry.issuesOn_append, hinside, Registry.issuesOn_map_graft hlocal hnone, ← hissues]
  · have hreport : report.failures = analyzer.registry.failuresOn (root.placesWithin bound) :=
      analyzer.failures_analyze _
    rw [hreport, root.placesWithin_eq_append bound path, Registry.failuresOn_append,
      Registry.failuresOn_append, hinsideFailures, List.append_nil]

/-- A function declaration with an untyped parameter and an inline function, between a parameter
that makes the check fail and an untyped binding. -/
theorem builtin_report_local_function :
    let function : Node :=
      ⟨.functionDecl, 3, .node .param 4 .nil
        (.node .inlineFunctionExpr 5 (.node .param 6 .nil .nil) .nil)⟩
    let root : Node :=
      ⟨.prolog, 1, .node .param 2 .nil
        (.token ⟨";", 2⟩ (.cons (.node function) (.node .letBinding 7 .nil .nil)))⟩
    let analyzer := Analyzer.builtin (Config.bounded 9)
    let alone := (Analyzer.builtin (Config.bounded 8)).analyze ⟨"function.xq", function⟩
    (root.at? [2] = some function ∧ alone.failures = [] ∧ alone.issues.map Issue.line = [3, 4]) ∧
      (analyzer.analyze ⟨"prolog.xq", root⟩).issues =
        analyzer.registry.issuesOn (root.placesBefore 9 [2]) ++ alone.issues ++
          analyzer.registry.issuesOn (root.placesAfter 9 [2]) := by
  intro function root analyzer alone
  have hnode : root.at? [2] = some function := by decide
  have hfailures : alone.failures = [] := by decide
  refine ⟨⟨hnode, hfailures, by decide⟩, ?_⟩
  exact (builtin_report_local root function [2] .empty 9 "prolog.xq" "function.xq" hnode (by decide)
    hfailures).2.1

end StrongTyping

end SyntaxLint
