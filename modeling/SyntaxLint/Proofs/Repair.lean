import Mathlib
import SyntaxLint.Phrase
import SyntaxLint.Proofs.Replacement

/-!
# Declaring a type clears one issue

An issue of the rules on declared types asks for a type declaration on a node.  If one is added to
the node, after the elements it has, the issue is gone, and nothing else has changed: all other
issues are raised on the same lines under the same rules, and the failures are the same.

A type declaration is added at some depth of the tree, so all nodes around it are new ones.  Their
sketches are the same, and so are those of the nodes that the node had below it, since none of them
gets another index (`Tree.map_sketch_replaceAt_pushChild`).  What is left are two kinds of place of
the new tree.  On the node itself nothing is said any more, because it declares a type, and on the
nodes of the declaration nothing is said, because they are of kinds that never declare one
(`quiet`).
-/

namespace SyntaxLint

open scoped List

/-- Items that contribute nothing may be left out. -/
lemma flatMap_filter_of_nil {α β : Type} {keep : α → Bool} {f : α → List β} {items : List α}
    (h : ∀ item ∈ items, keep item = false → f item = []) :
    (items.filter keep).flatMap f = items.flatMap f := by
  induction items with
  | nil => rfl
  | cons item rest ih =>
    obtain ⟨hitem, hrest⟩ := List.forall_mem_cons.1 h
    cases hkeep : keep item with
    | true => rw [List.filter_cons_of_pos hkeep, List.flatMap_cons, List.flatMap_cons, ih hrest]
    | false =>
      rw [List.filter_cons_of_neg (by simp [hkeep]), List.flatMap_cons, hitem hkeep, ih hrest,
        List.nil_append]

/-! ## One more child -/

namespace Tree

variable {root node : Node} {path : Path} {visit : Visit}

lemma toList_pushChild (node child : Node) :
    (node.pushChild child).toList = node.toList ++ [.node child] :=
  Forest.toList_push node.elements (.node child)

lemma children_pushChild (node child : Node) :
    (node.pushChild child).children = node.children ++ [child] :=
  Forest.children_append node.elements (.cons (.node child) .nil)

/-- Below the elements it had before, a node with one more child looks the same. -/
lemma map_sketch_pushChild (child : Node) {i : Nat} (hi : i ≠ node.toList.length) (path : Path) :
    ((node.pushChild child).visitAt? (i :: path)).map Visit.sketch =
      (node.visitAt? (i :: path)).map Visit.sketch := by
  have hkind : (node.pushChild child).kind = node.kind := rfl
  refine map_sketch_visitAt?_congr hkind ?_ path
  rw [toList_pushChild]
  rcases lt_or_gt_of_ne hi with hlt | hgt
  · exact List.getElem?_append_left hlt
  · have hlength : (node.toList ++ [Element.node child]).length ≤ i := by
      rw [List.length_append, List.length_singleton]
      omega
    rw [List.getElem?_eq_none hlength, List.getElem?_eq_none hgt.le]

/-- If a node gets one more child, the tree looks the same at all paths but that of the node and
those into the child. -/
lemma map_sketch_replaceAt_pushChild (hvisit : root.visitAt? path = some visit) (child : Node)
    {away : Path} (hne : away ≠ path) (hold : ¬ path ++ [visit.node.toList.length] <+: away) :
    ((root.replaceAt path (visit.node.pushChild child)).visitAt? away).map Visit.sketch =
      (root.visitAt? away).map Visit.sketch := by
  by_cases hstarts : path <+: away
  · obtain ⟨more, rfl⟩ := hstarts
    cases more with
    | nil => exact absurd (List.append_nil path) hne
    | cons i more =>
      have hi : i ≠ visit.node.toList.length := by
        rintro rfl
        exact hold ⟨more, by simp⟩
      obtain ⟨ancestors, hreplaced, hkinds⟩ :=
        visitAt?_replaceAt hvisit (visit.node.pushChild child)
      rw [visitAt?_append hreplaced, visitAt?_append hvisit, Visit.map_sketch_map_under,
        Visit.map_sketch_map_under, map_sketch_pushChild child hi, hkinds]
  · exact map_sketch_replaceAt (at?_of_visitAt? hvisit) rfl hstarts

/-- At a path into the new child there is a node of the child. -/
lemma exists_of_visitAt?_pushChild (hvisit : root.visitAt? path = some visit) {child : Node}
    {inside : Path} {found : Visit} (hinside : path ++ [visit.node.toList.length] <+: inside)
    (hfound : (root.replaceAt path (visit.node.pushChild child)).visitAt? inside = some found) :
    ∃ place ∈ child.places, place.visit.node = found.node := by
  obtain ⟨more, rfl⟩ := hinside
  obtain ⟨ancestors, hreplaced, -⟩ := visitAt?_replaceAt hvisit (visit.node.pushChild child)
  have hlast : (visit.node.pushChild child).toList[visit.node.toList.length]? =
      some (.node child) := by
    rw [toList_pushChild, List.getElem?_concat_length]
  rw [List.append_assoc, List.singleton_append, visitAt?_append hreplaced,
    visitAt?_of_child hlast, Option.map_map, Option.map_eq_some_iff] at hfound
  obtain ⟨inner, hinner, rfl⟩ := hfound
  exact ⟨⟨more, inner⟩, mem_places.2 hinner, rfl⟩

/-- Before the new child is there, no path leads into it. -/
lemma not_isPrefix_of_visitAt? (hvisit : root.visitAt? path = some visit) {inside : Path}
    {found : Visit} (hfound : root.visitAt? inside = some found) :
    ¬ path ++ [visit.node.toList.length] <+: inside := by
  rintro ⟨more, rfl⟩
  rw [List.append_assoc, List.singleton_append, visitAt?_append hvisit, Option.map_eq_some_iff]
    at hfound
  obtain ⟨inner, hinner, -⟩ := hfound
  rw [visitAt?_cons, Forest.visitAt?, ← Tree.toList, List.getElem?_eq_none le_rfl] at hinner
  exact absurd hinner (by simp)

/-- The nodes before the one that gets another child look the same. -/
lemma map_sketch_placesBefore_pushChild (hvisit : root.visitAt? path = some visit) (child : Node)
    (bound : Nat) :
    ((root.replaceAt path (visit.node.pushChild child)).placesBefore bound path).map
        (fun place => place.visit.sketch) =
      (root.placesBefore bound path).map fun place => place.visit.sketch := by
  have hsame : ∀ away, away < path →
      ((root.replaceAt path (visit.node.pushChild child)).visitAt? away).map Visit.sketch =
        (root.visitAt? away).map Visit.sketch := by
    intro away hlt
    refine map_sketch_replaceAt_pushChild hvisit child hlt.ne ?_
    rintro ⟨more, rfl⟩
    rw [List.append_assoc] at hlt
    exact absurd hlt (not_lt.2 (path_le_append path _))
  exact map_sketch_filter_congr hsame bound

/-- The nodes past the one that gets another child look the same, if those of the child are left
out. -/
lemma map_sketch_placesPast_pushChild (hvisit : root.visitAt? path = some visit) (child : Node)
    (bound : Nat) :
    (((root.replaceAt path (visit.node.pushChild child)).placesPast bound path).filter
        fun place => ¬ path ++ [visit.node.toList.length] <+: place.path).map
        (fun place => place.visit.sketch) =
      (root.placesPast bound path).map fun place => place.visit.sketch := by
  have hroot : (root.placesPast bound path).filter
      (fun place => ¬ path ++ [visit.node.toList.length] <+: place.path) =
        root.placesPast bound path := by
    refine List.filter_eq_self.2 fun place hplace => decide_eq_true ?_
    have hat := ((root.isPreorder_placesWithin bound).mem_iff place).1 (List.mem_filter.1 hplace).1
    exact not_isPrefix_of_visitAt? hvisit hat.1
  have hsame : ∀ away, ¬ path ++ [visit.node.toList.length] <+: away ∧ path < away →
      ((root.replaceAt path (visit.node.pushChild child)).visitAt? away).map Visit.sketch =
        (root.visitAt? away).map Visit.sketch :=
    fun away h => map_sketch_replaceAt_pushChild hvisit child h.2.ne' h.1
  rw [← hroot, placesPast, placesPast, List.filter_filter, List.filter_filter]
  simp only [← Bool.decide_and]
  exact map_sketch_filter_congr hsame bound

end Tree

/-! ## Where nothing is said -/

namespace StrongTyping

variable {visit : Visit}

/-- An issue is due on nodes that can declare a type in a type declaration and do not. -/
lemma Violation.untyped {issue : Issue} (h : Violation visit issue) :
    visit.node.kind.declarationKind? = some .typeDeclaration ∧ Untyped visit.node := by
  cases h with
  | forBinding hkind huntyped _ => exact ⟨by rw [hkind]; rfl, huntyped⟩
  | letBinding hkind huntyped _ => exact ⟨by rw [hkind]; rfl, huntyped⟩
  | result hkind huntyped _ => exact ⟨by rw [hkind]; rfl, huntyped⟩
  | param hkind huntyped _ _ _ _ => exact ⟨by rw [hkind]; rfl, huntyped⟩
  | moduleVariable hkind huntyped _ => exact ⟨by rw [hkind]; rfl, huntyped⟩

/-- A failure is due on such nodes only, too. -/
lemma Stray.untyped {failure : Failure} (h : Stray visit failure) :
    visit.node.kind.declarationKind? = some .typeDeclaration ∧ Untyped visit.node := by
  obtain ⟨hkind, huntyped, -⟩ := h
  exact ⟨by rw [hkind]; rfl, huntyped⟩

/-- Nothing is said of a node that declares a type, or that cannot declare one. -/
lemma quiet
    (h : ¬ (visit.node.kind.declarationKind? = some .typeDeclaration ∧ Untyped visit.node)) :
    issuesAt visit = [] ∧ failuresAt visit = [] := by
  constructor
  · refine (issuesAt_eq_nil_or visit).resolve_right ?_
    rintro ⟨issue, hissue⟩
    exact h hissue.untyped
  · refine (failuresAt_eq_nil_or visit).resolve_right ?_
    rintro ⟨failure, hfailure⟩
    exact h hfailure.untyped

/-- Where an issue is due, nothing fails: a parameter with an issue has a function around it. -/
lemma failuresAt_eq_nil_of_violation {issue : Issue} (h : Violation visit issue) :
    failuresAt visit = [] := by
  refine (failuresAt_eq_nil_or visit).resolve_right ?_
  rintro ⟨_, hparam, -, hnone⟩
  cases h with
  | forBinding hkind _ _ => exact absurd (hkind.symm.trans hparam) (by decide)
  | letBinding hkind _ _ => exact absurd (hkind.symm.trans hparam) (by decide)
  | result hkind _ _ => exact absurd (hkind.symm.trans hparam) (by decide)
  | param _ _ howned _ _ _ =>
    obtain ⟨outer, inner, hancestors, hfunction, -⟩ := howned
    exact hnone _ (by rw [hancestors]; simp) hfunction
  | moduleVariable hkind _ _ => exact absurd (hkind.symm.trans hparam) (by decide)

/-- The nodes of a type declaration are of kinds that never declare a type. -/
lemma declarationKind?_of_mem_typeDeclaration {line : UInt32} {itemType : String} {place : Place}
    (h : place ∈ (Phrase.typeDeclaration line itemType).places) :
    place.visit.node.kind.declarationKind? = none := by
  simp only [Phrase.typeDeclaration, Phrase.construct, Phrase.word, Forest.ofList, Forest.cons,
    Tree.places, Forest.places, List.map_cons, List.map_nil, List.append_nil, List.mem_cons,
    List.not_mem_nil, or_false] at h
  rcases h with rfl | rfl | rfl <;> rfl

/-- Nothing is said of a node to which a type declaration is added. -/
lemma quiet_pushChild (node : Node) (line : UInt32) (itemType : String) (ancestors : List Node) :
    issuesAt ⟨node.pushChild (Phrase.typeDeclaration line itemType), ancestors⟩ = [] ∧
      failuresAt ⟨node.pushChild (Phrase.typeDeclaration line itemType), ancestors⟩ = [] := by
  refine quiet fun ⟨_, huntyped⟩ => huntyped (Phrase.typeDeclaration line itemType) ?_ rfl
  rw [Tree.children_pushChild]
  exact List.mem_append_right _ List.mem_cons_self

/-! ## Reports before and after -/

section Reports

variable {root : Node} {path : Path} {line : UInt32} {itemType : String}

lemma issuesOn_placesWithin {bound : Nat} (hvisit : root.visitAt? path = some visit)
    (hbound : path.length ≤ bound) :
    Registry.builtin.issuesOn (root.placesWithin bound) =
      Registry.builtin.issuesOn (root.placesBefore bound path) ++
        (issuesAt visit ++ Registry.builtin.issuesOn (root.placesPast bound path)) := by
  rw [Tree.placesWithin_eq_cons hvisit hbound, Registry.issuesOn_append]
  rfl

lemma failuresOn_placesWithin {bound : Nat} (hvisit : root.visitAt? path = some visit)
    (hbound : path.length ≤ bound) :
    Registry.builtin.failuresOn (root.placesWithin bound) =
      Registry.builtin.failuresOn (root.placesBefore bound path) ++
        (failuresAt visit ++ Registry.builtin.failuresOn (root.placesPast bound path)) := by
  rw [Tree.placesWithin_eq_cons hvisit hbound, Registry.failuresOn_append]
  rfl

/-- Nothing is said of the nodes of a type declaration that is added to a node. -/
lemma quiet_of_mem_placesPast {bound : Nat} {place : Place}
    (hvisit : root.visitAt? path = some visit)
    (hplace : place ∈ (root.replaceAt path
      (visit.node.pushChild (Phrase.typeDeclaration line itemType))).placesPast bound path)
    (hinside : path ++ [visit.node.toList.length] <+: place.path) :
    issuesAt place.visit = [] ∧ failuresAt place.visit = [] := by
  have hwithin := (List.mem_filter.1 hplace).1
  have hat := ((Tree.isPreorder_placesWithin _ bound).mem_iff place).1 hwithin
  obtain ⟨inner, hinner, hnode⟩ := Tree.exists_of_visitAt?_pushChild hvisit hinside hat.1
  refine quiet fun h => ?_
  rw [← hnode, declarationKind?_of_mem_typeDeclaration hinner] at h
  exact absurd h.1 (by simp)

/-- Past the node with another child, and not in the child, the checks agree with what they said
before. -/
lemma agree_placesPast (hvisit : root.visitAt? path = some visit) (child : Node) (bound : Nat) :
    List.Forall₂ (fun a b : Place => Registry.builtin.Agree a.visit b.visit)
      (((root.replaceAt path (visit.node.pushChild child)).placesPast bound path).filter
        fun place => ¬ path ++ [visit.node.toList.length] <+: place.path)
      (root.placesPast bound path) :=
  Registry.forall₂_agree_of_sketch (fun _ => readsSketch_of_mem_builtin)
    (Tree.map_sketch_placesPast_pushChild hvisit child bound)

/-- Past the node with the new type declaration, the issues have the same rules and lines as
before. -/
lemma map_spot_issuesOn_placesPast (hvisit : root.visitAt? path = some visit) (bound : Nat) :
    (Registry.builtin.issuesOn ((root.replaceAt path (visit.node.pushChild
        (Phrase.typeDeclaration line itemType))).placesPast bound path)).map Issue.spot =
      (Registry.builtin.issuesOn (root.placesPast bound path)).map Issue.spot := by
  rw [← Registry.map_spot_issuesOn_congr
    (agree_placesPast hvisit (Phrase.typeDeclaration line itemType) bound)]
  refine congrArg (List.map Issue.spot) (flatMap_filter_of_nil fun place hplace hinside => ?_).symm
  exact (quiet_of_mem_placesPast hvisit hplace (by simpa using hinside)).1

/-- Past the node with the new type declaration, the same checks fail as before. -/
lemma failuresOn_placesPast (hvisit : root.visitAt? path = some visit) (bound : Nat) :
    Registry.builtin.failuresOn ((root.replaceAt path (visit.node.pushChild
        (Phrase.typeDeclaration line itemType))).placesPast bound path) =
      Registry.builtin.failuresOn (root.placesPast bound path) := by
  rw [← Registry.failuresOn_congr
    (agree_placesPast hvisit (Phrase.typeDeclaration line itemType) bound)]
  refine (flatMap_filter_of_nil fun place hplace hinside => ?_).symm
  exact (quiet_of_mem_placesPast hvisit hplace (by simpa using hinside)).2

end Reports

/-- **Declaring a type clears one issue.**  Take any node within the depth bound on which the rules
on declared types raise an issue, all of them switched on.  It is the only one on this node.  If a
type declaration is added to the node, the new report has issues with the same rules and lines in
the same order as the old one, without this issue, and the same failures. -/
theorem declared_type_clears_one_issue (config : Config)
    (henabled : ∀ key ∈ Registry.builtin.keys, config.isEnabled key = true) (root : Node)
    (path : Path) (visit : Visit) (hvisit : root.visitAt? path = some visit)
    (hdepth : path.length ≤ config.maxDepth.toNat) (hraised : issuesAt visit ≠ [])
    (line : UInt32) (itemType uri uriRepaired : String) :
    let bound := config.maxDepth.toNat
    let analyzer := Analyzer.builtin config
    let repaired := root.replaceAt path
      (visit.node.pushChild (Phrase.typeDeclaration line itemType))
    let report := analyzer.analyze ⟨uri, root⟩
    let reportRepaired := analyzer.analyze ⟨uriRepaired, repaired⟩
    let before := analyzer.registry.issuesOn (root.placesBefore bound path)
    let past := analyzer.registry.issuesOn (root.placesPast bound path)
    ∃ issue, issuesAt visit = [issue] ∧
      report.issues = before ++ issue :: past ∧
      reportRepaired.issues.map Issue.spot = (before ++ past).map Issue.spot ∧
      reportRepaired.failures = report.failures := by
  intro bound analyzer repaired report reportRepaired before past
  obtain ⟨issue, hviolation⟩ := (issuesAt_eq_nil_or visit).resolve_left hraised
  have hissue := issuesAt_of_violation hviolation
  have hregistry : analyzer.registry = Registry.builtin :=
    congrArg Registry.mk (entries_builtin_of_isEnabled henabled)
  obtain ⟨ancestors, hrepaired, -⟩ := Tree.visitAt?_replaceAt hvisit
    (visit.node.pushChild (Phrase.typeDeclaration line itemType))
  have hquiet := quiet_pushChild visit.node line itemType ancestors
  have hbefore := Registry.forall₂_agree_of_sketch (fun _ => readsSketch_of_mem_builtin)
    (Tree.map_sketch_placesBefore_pushChild hvisit (Phrase.typeDeclaration line itemType) bound)
  refine ⟨issue, hissue, ?_, ?_, ?_⟩
  · have hreport : report.issues = analyzer.registry.issuesOn (root.placesWithin bound) :=
      analyzer.issues_analyze _
    simp only [before, past]
    rw [hreport, hregistry, issuesOn_placesWithin hvisit hdepth, hissue, List.singleton_append]
  · have hreport : reportRepaired.issues =
        analyzer.registry.issuesOn (repaired.placesWithin bound) :=
      analyzer.issues_analyze _
    simp only [before, past]
    rw [hreport, hregistry, issuesOn_placesWithin hrepaired hdepth, hquiet.1, List.nil_append,
      List.map_append, List.map_append, Registry.map_spot_issuesOn_congr hbefore,
      map_spot_issuesOn_placesPast hvisit]
  · have hreport : report.failures = analyzer.registry.failuresOn (root.placesWithin bound) :=
      analyzer.failures_analyze _
    have hreportRepaired : reportRepaired.failures =
        analyzer.registry.failuresOn (repaired.placesWithin bound) :=
      analyzer.failures_analyze _
    rw [hreport, hreportRepaired, hregistry, failuresOn_placesWithin hvisit hdepth,
      failuresOn_placesWithin hrepaired hdepth, hquiet.2,
      failuresAt_eq_nil_of_violation hviolation, Registry.failuresOn_congr hbefore,
      failuresOn_placesPast hvisit]

/-- An untyped function declaration with an untyped parameter below it, between a parameter that
makes the check fail and an untyped binding.  With a result type only the issue on the function is
gone. -/
theorem declared_type_clears_one_issue_of_function :
    let config := Config.bounded 9
    let function : Node := ⟨.functionDecl, 3, .node .param 4 .nil .nil⟩
    let root : Node :=
      ⟨.prolog, 1, .node .param 2 .nil
        (.token ⟨";", 2⟩ (.cons (.node function) (.node .letBinding 7 .nil .nil)))⟩
    let visit : Visit := ⟨function, [root]⟩
    let repaired := root.replaceAt [2] (function.pushChild (Phrase.typeDeclaration 3 "xs:int"))
    let analyzer := Analyzer.builtin config
    let report := analyzer.analyze ⟨"prolog.xq", root⟩
    let reportRepaired := analyzer.analyze ⟨"repaired.xq", repaired⟩
    let before := analyzer.registry.issuesOn (root.placesBefore 9 [2])
    let past := analyzer.registry.issuesOn (root.placesPast 9 [2])
    ((∀ key ∈ Registry.builtin.keys, config.isEnabled key = true) ∧
        root.visitAt? [2] = some visit ∧ issuesAt visit ≠ [] ∧
        report.issues.map Issue.line = [3, 4, 7] ∧ report.failures.map Failure.line = [2]) ∧
      ∃ issue, issuesAt visit = [issue] ∧
        report.issues = before ++ issue :: past ∧
        reportRepaired.issues.map Issue.spot = (before ++ past).map Issue.spot ∧
        reportRepaired.failures = report.failures := by
  intro config function root visit repaired analyzer report reportRepaired before past
  have henabled : ∀ key ∈ Registry.builtin.keys, config.isEnabled key = true := by decide
  have hvisit : root.visitAt? [2] = some visit := by decide
  have hraised : issuesAt visit ≠ [] := by decide
  refine ⟨⟨henabled, hvisit, hraised, by decide, by decide⟩, ?_⟩
  exact declared_type_clears_one_issue config henabled root [2] visit hvisit (by decide) hraised 3
    "xs:int" "prolog.xq" "repaired.xq"

end StrongTyping

end SyntaxLint
