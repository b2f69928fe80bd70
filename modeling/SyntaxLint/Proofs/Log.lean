import Mathlib
import SyntaxLint.Analysis.Log
import SyntaxLint.Proofs.Walk

/-!
# The log tells what the report says

The log of a unit and the report on it are two accounts of the same walk.  Each kind of event is one
part of the report: the issues, the failures and, for a report that is marked truncated, one warning
(`Analyzer.log_tells_reports`).  Events are compared with the report by what is read of them, their
levels and the values of their fields (`LogEvent.Reads`).

Issues and failures are logged one by one as they come, so their events are read off the steps as
the report is (`filter_logSteps`).  The warning is different: only the first subtree that is left
out is logged (`filter_isDepthWarning_logSteps`).  What is left out on a walk are the subtrees of
the nodes just below the depth bound, in pre-order (`Forest.filterMap_skipped?_walk`), so the
warning is about the first of these nodes.
-/

namespace SyntaxLint

/-! ## What is read of events -/

/-- The words for an error of a check. -/
def errorText : CheckError → String
  | .query .emptyChain => "query failed: empty constraint chain"
  | .query (.notFound unmet chain) =>
    "query failed: " ++ (unmet.name ++ " not found (searching "
      ++ " > ".intercalate (chain.map Kind.name) ++ ")")
  | .malformedNode kind line reason =>
    "malformed " ++ kind ++ " at line " ++ toString line ++ ": " ++ reason

lemma message_eq_errorText (error : CheckError) : error.message = errorText error := by
  cases error with
  | query search =>
    cases search with
    | emptyChain => rfl
    | notFound unmet chain => rfl
  | malformedNode kind line reason => rfl

namespace LogEvent

/-- What is read of an event: its level, the part of the program it is attributed to, its title and
the named values that follow the title. -/
structure Reads (event : LogEvent) (level : Level) (target title : String)
    (values : List (String × LogValue)) : Prop where
  level_eq : event.level = level
  target_eq : event.target = target
  fields_eq : event.fields = ("message", .text title) :: values

/-- An event tells of an issue: by the key of its rule, its line and its message. -/
def TellsIssue (event : LogEvent) (issue : Issue) : Prop :=
  event.Reads .debug "xqlint::issues" "issue raised"
    [("rule", .text (issue.rule.repository ++ ":" ++ issue.rule.rule)),
     ("line", .number issue.line.toNat), ("message", .text issue.message)]

/-- An event tells of the failure of a check in a unit: by the key of its rule, the line of the node
and the error. -/
def TellsFailure (uri : String) (event : LogEvent) (failure : Failure) : Prop :=
  event.Reads .warn "xqlint::analysis" "check failed"
    [("uri", .text uri), ("rule", .text (failure.rule.repository ++ ":" ++ failure.rule.rule)),
     ("line", .number failure.line.toNat), ("error", .text (errorText failure.error))]

/-- An event tells that the subtree of a node on a line of a unit was left out. -/
def TellsSkip (uri : String) (maxDepth : UInt64) (event : LogEvent) (line : UInt32) : Prop :=
  event.Reads .warn "xqlint::analysis" "depth bound reached, skipping subtree"
    [("uri", .text uri), ("line", .number line.toNat), ("max_depth", .number maxDepth.toNat)]

lemma tellsIssue_issueRaised (issue : Issue) : (issueRaised issue).TellsIssue issue :=
  ⟨rfl, rfl, rfl⟩

lemma tellsFailure_checkFailed (uri : String) (failure : Failure) :
    (checkFailed uri failure).TellsFailure uri failure := by
  refine ⟨rfl, rfl, ?_⟩
  rw [← message_eq_errorText]
  rfl

lemma tellsSkip_depthReached (uri : String) (line : UInt32) (maxDepth : UInt64) :
    (depthReached uri line maxDepth).TellsSkip uri maxDepth line :=
  ⟨rfl, rfl, rfl⟩

/-! ## Kinds of events -/

/-- An event of a level that starts with a fixed message. -/
def isA (level : Level) (title : String) (event : LogEvent) : Bool :=
  event.level = level ∧ event.fields.head? = some ("message", .text title)

/-- An event is an issue that was raised. -/
def isIssue : LogEvent → Bool :=
  isA .debug "issue raised"

/-- An event is the failure of a check. -/
def isFailure : LogEvent → Bool :=
  isA .warn "check failed"

/-- An event is the warning that a subtree was left out. -/
def isDepthWarning : LogEvent → Bool :=
  isA .warn "depth bound reached, skipping subtree"

/-- The kind of an event is seen from its level and its title. -/
lemma Reads.isA_eq {event : LogEvent} {level : Level} {target title : String}
    {values : List (String × LogValue)} (h : event.Reads level target title values)
    (other : Level) (words : String) :
    event.isA other words = decide (other = level ∧ words = title) := by
  simp [isA, h.level_eq, h.fields_eq, eq_comm]

variable (level : Level) (title uri : String)

lemma isA_issueRaised (issue : Issue) :
    (issueRaised issue).isA level title = decide (level = .debug ∧ title = "issue raised") :=
  (tellsIssue_issueRaised issue).isA_eq level title

lemma isA_checkFailed (failure : Failure) :
    (checkFailed uri failure).isA level title =
      decide (level = .warn ∧ title = "check failed") :=
  (tellsFailure_checkFailed uri failure).isA_eq level title

lemma isA_depthReached (line : UInt32) (maxDepth : UInt64) :
    (depthReached uri line maxDepth).isA level title =
      decide (level = .warn ∧ title = "depth bound reached, skipping subtree") :=
  (tellsSkip_depthReached uri line maxDepth).isA_eq level title

end LogEvent

/-! ## Events of steps -/

/-- The line of the subtree that a step leaves out. -/
def Step.skipped? : Step → Option UInt32
  | .skip line => some line
  | _ => none

/-- The event of a step, if every subtree that is left out were logged. -/
def Step.event? (uri : String) (maxDepth : UInt64) : Step → Option LogEvent
  | .enter => none
  | .raise issue => some (.issueRaised issue)
  | .fail failure => some (.checkFailed uri failure)
  | .skip line => some (.depthReached uri line maxDepth)

section Steps

variable (uri : String) (maxDepth : UInt64)

/-- The log leaves out some events of the steps and adds none. -/
lemma logSteps_sublist (skipped : Bool) (steps : List Step) :
    (logSteps uri maxDepth skipped steps).Sublist (steps.filterMap (Step.event? uri maxDepth)) := by
  fun_induction logSteps uri maxDepth skipped steps with
  | case1 skipped => exact .refl _
  | case2 skipped steps ih => exact ih
  | case3 skipped issue steps ih => exact .cons_cons _ ih
  | case4 skipped failure steps ih => exact .cons_cons _ ih
  | case5 line steps ih => exact .cons _ ih
  | case6 line steps ih => exact .cons_cons _ ih

/-- What the log leaves out are warnings of the depth bound only. -/
lemma filter_logSteps (p : LogEvent → Bool)
    (hp : ∀ line, p (.depthReached uri line maxDepth) = false) (skipped : Bool)
    (steps : List Step) :
    (logSteps uri maxDepth skipped steps).filter p =
      (steps.filterMap (Step.event? uri maxDepth)).filter p := by
  fun_induction logSteps uri maxDepth skipped steps with
  | case1 skipped => rfl
  | case2 skipped steps ih => exact ih
  | case3 skipped issue steps ih =>
    rw [List.filterMap_cons_some (by rfl), List.filter_cons, List.filter_cons, ih]
  | case4 skipped failure steps ih =>
    rw [List.filterMap_cons_some (by rfl), List.filter_cons, List.filter_cons, ih]
  | case5 line steps ih =>
    rw [List.filterMap_cons_some (by rfl), List.filter_cons_of_neg (by simp [hp]), ih]
  | case6 line steps ih =>
    rw [List.filterMap_cons_some (by rfl), List.filter_cons_of_neg (by simp [hp]),
      List.filter_cons_of_neg (by simp [hp]), ih]

lemma filter_isIssue_logSteps (skipped : Bool) (steps : List Step) :
    (logSteps uri maxDepth skipped steps).filter LogEvent.isIssue =
      (steps.filterMap Step.issue?).map .issueRaised := by
  rw [filter_logSteps _ _ _ (fun _ => by rw [LogEvent.isIssue, LogEvent.isA_depthReached]; rfl),
    List.filter_filterMap, List.map_filterMap]
  refine List.filterMap_congr fun step _ => ?_
  cases step <;> simp [Step.event?, Step.issue?, LogEvent.isIssue, LogEvent.isA_issueRaised,
    LogEvent.isA_checkFailed, LogEvent.isA_depthReached]

lemma filter_isFailure_logSteps (skipped : Bool) (steps : List Step) :
    (logSteps uri maxDepth skipped steps).filter LogEvent.isFailure =
      (steps.filterMap Step.failure?).map (.checkFailed uri) := by
  rw [filter_logSteps _ _ _ (fun _ => by rw [LogEvent.isFailure, LogEvent.isA_depthReached]; rfl),
    List.filter_filterMap, List.map_filterMap]
  refine List.filterMap_congr fun step _ => ?_
  cases step <;> simp [Step.event?, Step.failure?, LogEvent.isFailure, LogEvent.isA_issueRaised,
    LogEvent.isA_checkFailed, LogEvent.isA_depthReached]

/-- Only the first subtree that is left out is logged, and only if none was before. -/
lemma filter_isDepthWarning_logSteps (skipped : Bool) (steps : List Step) :
    (logSteps uri maxDepth skipped steps).filter LogEvent.isDepthWarning =
      if skipped then []
      else ((steps.filterMap Step.skipped?).head?.map
        (.depthReached uri · maxDepth)).toList := by
  have hissue : ∀ issue, (LogEvent.issueRaised issue).isDepthWarning = false := fun issue => by
    simp [LogEvent.isDepthWarning, LogEvent.isA_issueRaised]
  have hfailure : ∀ failure, (LogEvent.checkFailed uri failure).isDepthWarning = false :=
    fun failure => by simp [LogEvent.isDepthWarning, LogEvent.isA_checkFailed]
  have hdepth : ∀ line, (LogEvent.depthReached uri line maxDepth).isDepthWarning = true :=
    fun line => by simp [LogEvent.isDepthWarning, LogEvent.isA_depthReached]
  fun_induction logSteps uri maxDepth skipped steps with
  | case1 skipped => simp
  | case2 skipped steps ih => exact ih
  | case3 skipped issue steps ih =>
    rw [List.filter_cons_of_neg (by simp [hissue])]
    exact ih
  | case4 skipped failure steps ih =>
    rw [List.filter_cons_of_neg (by simp [hfailure])]
    exact ih
  | case5 line steps ih => exact ih
  | case6 line steps ih =>
    -- From here on the flag is set, so nothing more comes.
    rw [List.filter_cons_of_pos (hdepth line), ih]
    rfl

lemma isA_of_mem_logSteps {skipped : Bool} {steps : List Step} {event : LogEvent}
    (h : event ∈ logSteps uri maxDepth skipped steps) :
    event.isIssue = true ∨ event.isFailure = true ∨ event.isDepthWarning = true := by
  obtain ⟨step, -, hstep⟩ := List.mem_filterMap.1 ((logSteps_sublist _ _ _ _).subset h)
  cases step with
  | enter => exact absurd hstep (by simp [Step.event?])
  | raise issue =>
    obtain rfl := Option.some.inj hstep
    exact .inl (by simp [LogEvent.isIssue, LogEvent.isA_issueRaised])
  | fail failure =>
    obtain rfl := Option.some.inj hstep
    exact .inr (.inl (by simp [LogEvent.isFailure, LogEvent.isA_checkFailed]))
  | skip line =>
    obtain rfl := Option.some.inj hstep
    exact .inr (.inr (by simp [LogEvent.isDepthWarning, LogEvent.isA_depthReached]))

end Steps

/-! ## What a walk leaves out -/

lemma filterMap_skipped?_stepsOn (entries : List Entry) (visit : Visit) :
    (stepsOn entries visit).filterMap Step.skipped? = [] := by
  refine List.filterMap_eq_nil_iff.2 fun step hstep => ?_
  have hskip := not_isSkip_of_mem_stepsOn entries visit hstep
  cases step <;> simp_all [Step.isSkip, Step.skipped?]

/-- A walk leaves out the subtrees of the nodes just below the bound, in pre-order. -/
lemma Forest.filterMap_skipped?_walk (entries : List Entry) (bound : Nat) (forest : Forest Kind)
    (ancestors : List Node) (hancestors : ancestors.length ≤ bound + 1) :
    (forest.walk entries bound ancestors).filterMap Step.skipped? =
      ((forest.visits ancestors).filter fun visit => visit.depth = bound + 1).map
        fun visit => visit.node.line := by
  induction forest generalizing ancestors with
  | nil => rfl
  | token t rest ih => exact ih ancestors hancestors
  | node kind line inner rest ihInner ihRest =>
    rw [Forest.walk_node, Forest.visits, List.filterMap_append, List.filter_append, List.map_append,
      ihRest ancestors hancestors]
    congr 1
    split
    · next hdeep =>
      -- The node is just below the bound, and what is below the node is deeper.
      have hnode : (⟨⟨kind, line, inner⟩, ancestors⟩ : Visit).depth = bound + 1 := by
        simp only [Visit.depth]
        omega
      have hnone : ∀ visit ∈ inner.visits (ancestors ++ [⟨kind, line, inner⟩]),
          ¬ decide (visit.depth = bound + 1) = true := by
        intro visit hvisit
        have := Forest.length_le_depth_of_mem_visits hvisit
        simp only [List.length_append, List.length_singleton] at this
        simp only [decide_eq_true_eq]
        omega
      rw [List.filter_cons_of_pos (by simpa using hnode), List.filter_eq_nil_iff.2 hnone]
      rfl
    · next hshallow =>
      have hnode : ¬ (⟨⟨kind, line, inner⟩, ancestors⟩ : Visit).depth = bound + 1 := by
        simp only [Visit.depth]
        omega
      have hinner : (ancestors ++ [(⟨kind, line, inner⟩ : Node)]).length ≤ bound + 1 := by
        simp only [List.length_append, List.length_singleton]
        omega
      rw [List.filterMap_append, filterMap_skipped?_stepsOn, List.nil_append, ihInner _ hinner,
        List.filter_cons_of_neg (by simpa using hnode)]

/-- A node is the first of its depth: every path of the same length that leads to a node is not
before its own. -/
structure Tree.IsFirstAtDepth (root : Node) (depth : Nat) (path : Path) (node : Node) : Prop where
  found : root.at? path = some node
  length_path : path.length = depth
  first : ∀ other, (root.at? other).isSome → other.length = depth → path ≤ other

lemma Tree.isFirstAtDepth_of_find? {root : Node} {depth : Nat} {place : Place}
    (hfind : root.places.find? (fun place => place.visit.depth = depth) = some place) :
    root.IsFirstAtDepth depth place.path place.visit.node := by
  have hplace : place ∈ root.places := List.mem_of_find?_eq_some hfind
  have hdepth : place.visit.depth = depth := by simpa using List.find?_some hfind
  refine ⟨Tree.at?_eq_some_iff.2 ⟨place, hplace, rfl, rfl⟩, ?_, ?_⟩
  · rw [← Tree.depth_of_mem_places hplace, hdepth]
  · intro path hnode hlength
    obtain ⟨node, hnode⟩ := Option.isSome_iff_exists.1 hnode
    obtain ⟨other, hother, rfl, -⟩ := Tree.at?_eq_some_iff.1 hnode
    exact Tree.path_le_of_find?_places hfind hother
      (by simpa [Tree.depth_of_mem_places hother] using hlength)

/-- A step is a skip if it leaves out a subtree on some line. -/
lemma any_isSkip_eq (steps : List Step) :
    steps.any Step.isSkip = (steps.filterMap Step.skipped?).head?.isSome := by
  induction steps with
  | nil => rfl
  | cons step steps ih =>
    cases step with
    | skip line => rfl
    | enter => exact ih
    | raise issue => exact ih
    | fail failure => exact ih

namespace Analyzer

variable (analyzer : Analyzer) (unit : Source)

/-- The first subtree that is left out is that of the first node below the bound. -/
lemma head?_skipped_steps :
    ((analyzer.steps unit).filterMap Step.skipped?).head? =
      (unit.root.places.find? fun place =>
        place.visit.depth = analyzer.maxDepth.toNat + 1).map fun place =>
          place.visit.node.line := by
  rw [steps, Tree.walk, Forest.filterMap_skipped?_walk _ _ _ _ (by simp), Tree.visits_cons_nil,
    ← Tree.map_visit_places, List.filter_map, List.map_map, List.head?_map, List.head?_filter]
  rfl

/-- The warnings of the depth bound: one, about the first node below the bound, if the report is
marked truncated, and none if it is not. -/
lemma filter_isDepthWarning :
    ((analyzer.analyze unit).truncated = true →
      ∃ path node, unit.root.IsFirstAtDepth (analyzer.maxDepth.toNat + 1) path node ∧
        (logSteps unit.uri analyzer.maxDepth false (analyzer.steps unit)).filter
          LogEvent.isDepthWarning = [.depthReached unit.uri node.line analyzer.maxDepth]) ∧
    ((analyzer.analyze unit).truncated = false →
      (logSteps unit.uri analyzer.maxDepth false (analyzer.steps unit)).filter
        LogEvent.isDepthWarning = []) := by
  have htruncated : (analyzer.analyze unit).truncated = (analyzer.steps unit).any Step.isSkip := rfl
  rw [htruncated, any_isSkip_eq, filter_isDepthWarning_logSteps, analyzer.head?_skipped_steps unit]
  cases hfind : unit.root.places.find? fun place =>
      place.visit.depth = analyzer.maxDepth.toNat + 1 with
  | none => simp
  | some place =>
    refine ⟨fun _ => ⟨place.path, place.visit.node, ?_, rfl⟩, by simp⟩
    exact Tree.isFirstAtDepth_of_find? hfind

/-- The events of a unit, from the first to the last, tell what the report on it says. -/
structure TellsReport (first : LogEvent) (between : List LogEvent) (last : LogEvent) : Prop where
  /-- The first event counts the checks. -/
  starts : first.Reads .info "xqlint::analysis" "analysing unit"
    [("uri", .text unit.uri), ("checks", .number analyzer.registry.entries.length)]
  /-- The issues raised are those of the report, in order. -/
  issues : List.Forall₂ LogEvent.TellsIssue (between.filter LogEvent.isIssue)
    (analyzer.analyze unit).issues
  /-- The failed checks are the failures of the report, in order. -/
  failures : List.Forall₂ (LogEvent.TellsFailure unit.uri) (between.filter LogEvent.isFailure)
    (analyzer.analyze unit).failures
  /-- If the report is marked truncated, there is one warning of the depth bound, on the line of the
  first node in pre-order that is just below the bound. -/
  warning : (analyzer.analyze unit).truncated = true →
    ∃ path node event, unit.root.IsFirstAtDepth (analyzer.maxDepth.toNat + 1) path node ∧
      between.filter LogEvent.isDepthWarning = [event] ∧
      event.TellsSkip unit.uri analyzer.maxDepth node.line
  /-- If the report is not marked truncated, there is no such warning. -/
  no_warning : (analyzer.analyze unit).truncated = false →
    between.filter LogEvent.isDepthWarning = []
  /-- There are no other events. -/
  no_other : ∀ event ∈ between, event.isIssue = true ∨ event.isFailure = true ∨
    event.isDepthWarning = true
  /-- The last event has the numbers of the report and its mark for truncation. -/
  ends : last.Reads .debug "xqlint::analysis" "unit analysed"
    [("uri", .text unit.uri), ("issues", .number (analyzer.analyze unit).issues.length),
     ("failures", .number (analyzer.analyze unit).failures.length),
     ("nodes", .number (analyzer.analyze unit).nodesVisited),
     ("truncated", .flag (analyzer.analyze unit).truncated)]

lemma tellsReport_unitLog :
    analyzer.TellsReport unit (.unitStarted unit.uri analyzer.registry.size)
      (logSteps unit.uri analyzer.maxDepth false (analyzer.steps unit))
      (unitFinished (analyzer.analyze unit)) where
  starts := ⟨rfl, rfl, rfl⟩
  issues := by
    rw [filter_isIssue_logSteps, List.forall₂_map_left_iff]
    exact List.forall₂_same.2 fun issue _ => LogEvent.tellsIssue_issueRaised issue
  failures := by
    rw [filter_isFailure_logSteps, List.forall₂_map_left_iff]
    exact List.forall₂_same.2 fun failure _ => LogEvent.tellsFailure_checkFailed unit.uri failure
  warning := by
    intro htruncated
    obtain ⟨path, node, hfirst, hfilter⟩ := (analyzer.filter_isDepthWarning unit).1 htruncated
    exact ⟨path, node, _, hfirst, hfilter, LogEvent.tellsSkip_depthReached _ _ _⟩
  no_warning := (analyzer.filter_isDepthWarning unit).2
  no_other := fun _ hevent => isA_of_mem_logSteps _ _ hevent
  ends := ⟨rfl, rfl, rfl⟩

/-- The checks of an analyzer are the enabled ones. -/
lemma length_entries_new (registry : Registry) (config : Config) :
    (Analyzer.new registry config).registry.entries.length =
      registry.entries.countP fun entry => config.isEnabled entry.key := by
  rw [List.countP_eq_length_filter]
  rfl

/-- **The log tells what the reports say.**  The log of a unit starts with the number of checks,
which are those that the configuration leaves enabled, and ends with the numbers of the report.
Between the two, the issues raised are those of the report in order, the failed checks its failures
in order, and there is a warning of the depth bound exactly if the report is marked truncated, one
only, with the line of the first node in pre-order that is just below the bound.  There are no other
events.  The log of several units puts their logs one after another and ends with the number of
units and of all issues. -/
theorem log_tells_reports (analyzer : Analyzer) (units : List Source) :
    (∀ unit : Source, ∃ first between last,
      analyzer.unitLog unit = first :: between ++ [last] ∧
        analyzer.TellsReport unit first between last) ∧
    (∀ (registry : Registry) (config : Config) (unit : Source), ∃ first rest,
      (Analyzer.new registry config).unitLog unit = first :: rest ∧
        first.Reads .info "xqlint::analysis" "analysing unit"
          [("uri", .text unit.uri),
           ("checks", .number (registry.entries.countP fun entry => config.isEnabled entry.key))]) ∧
    ∃ summary,
      analyzer.log units = units.flatMap analyzer.unitLog ++ [summary] ∧
        summary.Reads .info "xqlint::analysis" "analysis complete"
          [("units", .number units.length),
           ("issues", .number
            ((units.map analyzer.analyze).map fun report => report.issues.length).sum)] := by
  refine ⟨fun unit => ⟨_, _, _, rfl, analyzer.tellsReport_unitLog unit⟩, ?_, ?_⟩
  · intro registry config unit
    have hstarts := ((Analyzer.new registry config).tellsReport_unitLog unit).starts
    rw [length_entries_new] at hstarts
    exact ⟨_, _, rfl, hstarts⟩
  · have hunits : (analyzer.reports units).length = units.length := List.length_map _
    have hissues : (analyzer.reports units).foldl
        (fun total report => total + report.issues.length) 0 =
          ((units.map analyzer.analyze).map fun report => report.issues.length).sum := by
      rw [List.sum_eq_foldl, List.foldl_map]
      rfl
    refine ⟨.finished units.length
      ((units.map analyzer.analyze).map fun report => report.issues.length).sum, ?_, rfl, rfl, rfl⟩
    rw [log, hunits, hissues]

/-- One of the three rules is switched off.  The name of the binding and its value lie below the
bound, and only the first is logged; the check of the parameter after them still fails and is
logged. -/
theorem log_tells_first_skip :
    let root : Node :=
      ⟨.prolog, 1,
        .node .letBinding 2
          (.node .varName 3 (.token ⟨"x", 3⟩ .nil) (.node .literal 4 (.token ⟨"1", 4⟩ .nil) .nil))
          (.node .param 5 .nil .nil)⟩
    let analyzer := Analyzer.builtin ((Config.bounded 1).disable "StrongTypingInModuleVariable")
    let unit : Source := ⟨"deep.xq", root⟩
    (analyzer.analyze unit).truncated = true ∧
      (analyzer.log [unit]).map LogEvent.fields =
        [[("message", .text "analysing unit"), ("uri", .text "deep.xq"), ("checks", .number 2)],
          [("message", .text "issue raised"), ("rule", .text "xquery:StrongTypingInFLWOR"),
            ("line", .number 2), ("message", .text "Declare a type for the let binding $x.")],
          [("message", .text "depth bound reached, skipping subtree"), ("uri", .text "deep.xq"),
            ("line", .number 3), ("max_depth", .number 1)],
          [("message", .text "check failed"), ("uri", .text "deep.xq"),
            ("rule", .text "xquery:StrongTypingInFunctionDeclaration"), ("line", .number 5),
            ("error", .text "malformed param at line 5: parameter outside any function")],
          [("message", .text "unit analysed"), ("uri", .text "deep.xq"), ("issues", .number 1),
            ("failures", .number 1), ("nodes", .number 3), ("truncated", .flag true)],
          [("message", .text "analysis complete"), ("units", .number 1), ("issues", .number 1)]] ∧
      ∃ path node event, root.IsFirstAtDepth 2 path node ∧ event ∈ analyzer.unitLog unit ∧
        event.fields =
          [("message", .text "depth bound reached, skipping subtree"), ("uri", .text "deep.xq"),
            ("line", .number node.line.toNat), ("max_depth", .number 1)] := by
  intro root analyzer unit
  have htruncated : (analyzer.analyze unit).truncated = true := by decide
  obtain ⟨first, between, last, hlog, htells⟩ := (log_tells_reports analyzer [unit]).1 unit
  obtain ⟨path, node, event, hfirst, hwarning, hskip⟩ := htells.warning htruncated
  have hevent : event ∈ between := by
    have hmem : event ∈ between.filter LogEvent.isDepthWarning := by
      rw [hwarning]
      exact List.mem_singleton_self event
    exact (List.mem_filter.1 hmem).1
  refine ⟨htruncated, by decide, path, node, event, hfirst, ?_, hskip.fields_eq⟩
  rw [hlog]
  exact List.mem_append_left _ (List.mem_cons_of_mem _ hevent)

end Analyzer

end SyntaxLint
