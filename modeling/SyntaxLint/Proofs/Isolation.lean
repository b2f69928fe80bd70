import Mathlib
import SyntaxLint.Proofs.Disabling
import SyntaxLint.Proofs.Registration

/-!
# A check cannot disturb the others

All checks write into one list of issues and one list of failures, node after node, and a check that
fails is run again on the next node.  What stands in these lists under a key is still as if the
checks with other keys had not been there: striking out the issues of some keys gives the report of
the registry without the checks of these keys (`Analyzer.issues_keeping`).

So it is enough to compare registries.  Registering a check under a key leaves the checks with other
keys what they were and where they were (`Registry.keeping_register`), and in a registry that some
history of calls leads to, it leaves nothing else under the key (`Registry.keeping_key`).
-/

namespace SyntaxLint

namespace Registry

/-- Without the checks of its key, a registry is the same before and after a registration. -/
lemma keeping_register (registry : Registry) (entry : Entry) {keep : RuleKey → Bool}
    (hkeep : keep entry.key = false) :
    (registry.call (.register entry)).keeping keep = registry.keeping keep := by
  have hplace : (registry.call (.register entry)).keeping keep =
      ⟨(place entry registry.entries).filter fun other => keep other.key⟩ := by
    rw [call_register, keeping]
  rw [hplace, keeping]
  rcases place_cases entry registry.entries with
    ⟨earlier, old, later, hentries, hold, -, hplaced⟩ | ⟨-, hplaced⟩
  · rw [hplaced, hentries, List.filter_append, List.filter_append,
      List.filter_cons_of_neg (by simp [hkeep]), List.filter_cons_of_neg (by simp [hold, hkeep])]
  · rw [hplaced, List.filter_append, List.filter_cons_of_neg (by simp [hkeep]), List.filter_nil,
      List.append_nil]

/-- If no key is held twice, an entry is all that is kept of a registry for its key. -/
lemma keeping_key {registry : Registry} (h : registry.keys.Nodup) {entry : Entry}
    (hentry : entry ∈ registry.entries) :
    registry.keeping (fun key => key = entry.key) = ⟨[entry]⟩ := by
  obtain ⟨earlier, later, hsplit, hothers⟩ := exists_split_of_mem h hentry
  have hnone : ∀ other ∈ earlier ++ later, ¬ decide (other.key = entry.key) = true := by
    intro other hmem
    simpa using hothers other hmem
  rw [keeping, hsplit, List.filter_append, List.filter_cons_of_pos (by simp),
    List.filter_eq_nil_iff.2 fun other hmem => hnone other (List.mem_append_left _ hmem),
    List.filter_eq_nil_iff.2 fun other hmem => hnone other (List.mem_append_right _ hmem),
    List.nil_append]

lemma keeping_keeping_comm (registry : Registry) (keep other : RuleKey → Bool) :
    (registry.keeping keep).keeping other = (registry.keeping other).keeping keep := by
  simp only [keeping, List.filter_filter, Bool.and_comm]

/-- What was registered last is in the registry. -/
lemma mem_entries_register (registry : Registry) (entry : Entry) :
    entry ∈ (registry.call (.register entry)).entries := by
  have hheld := registry.held?_register entry entry.key
  rw [if_pos rfl] at hheld
  exact List.mem_of_find?_eq_some hheld

end Registry

namespace Analyzer

/-! ## The same checks under some keys -/

section Keys

variable {registry other : Registry} {keep : RuleKey → Bool}
  (h : registry.keeping keep = other.keeping keep) (maxDepth : UInt64) (unit : Source)
include h

/-- With the same checks for some keys, the same issues are raised under these keys. -/
lemma filter_issues_eq :
    ((Analyzer.mk registry maxDepth).analyze unit).issues.filter (fun issue => keep issue.rule) =
      ((Analyzer.mk other maxDepth).analyze unit).issues.filter fun issue => keep issue.rule := by
  rw [← issues_keeping, ← issues_keeping, h]

/-- With the same checks for some keys, the same failures are reported under these keys. -/
lemma filter_failures_eq :
    ((Analyzer.mk registry maxDepth).analyze unit).failures.filter
        (fun failure => keep failure.rule) =
      ((Analyzer.mk other maxDepth).analyze unit).failures.filter fun failure =>
        keep failure.rule := by
  rw [← failures_keeping, ← failures_keeping, h]

end Keys

section Alone

variable {registry : Registry} {entry : Entry}
  (h : registry.keeping (fun key => key = entry.key) = ⟨[entry]⟩) (maxDepth : UInt64)
  (unit : Source)
include h

/-- If an entry is all there is under its key, the issues under this key are its own. -/
lemma filter_issues_of_alone :
    ((Analyzer.mk registry maxDepth).analyze unit).issues.filter
        (fun issue => issue.rule = entry.key) =
      (unit.root.placesWithin maxDepth.toNat).flatMap fun place => entry.issuesOn place.visit := by
  have hkept := issues_keeping registry unit (fun key => key = entry.key) maxDepth
  rw [h, issues_analyze] at hkept
  simpa using hkept.symm

/-- If an entry is all there is under its key, the failures under this key are its own. -/
lemma filter_failures_of_alone :
    ((Analyzer.mk registry maxDepth).analyze unit).failures.filter
        (fun failure => failure.rule = entry.key) =
      (unit.root.placesWithin maxDepth.toNat).flatMap fun place =>
        (entry.failureOn? place.visit).toList := by
  have hkept := failures_keeping registry unit (fun key => key = entry.key) maxDepth
  rw [h, failures_analyze] at hkept
  simpa [List.filterMap_eq_flatMap_toList] using hkept.symm

end Alone

/-! ## Registering a check -/

section Registered

variable {registry : Registry} {entry : Entry} {config : Config}

/-- For the other keys there are the same checks before and after a registration. -/
lemma keeping_others_new :
    (Analyzer.new (registry.call (.register entry)) config).registry.keeping
        (fun key => key ≠ entry.key) =
      (Analyzer.new registry config).registry.keeping fun key => key ≠ entry.key := by
  have hnew : ∀ registry : Registry,
      (Analyzer.new registry config).registry = registry.keeping config.isEnabled := fun _ => rfl
  rw [hnew, hnew, Registry.keeping_keeping_comm, Registry.keeping_register _ _ (by simp),
    Registry.keeping_keeping_comm]

/-- If a check is switched on, it is all there is under its key once it is registered. -/
lemma keeping_key_new (hregistry : registry.Reachable)
    (henabled : config.isEnabled entry.key = true) :
    (Analyzer.new (registry.call (.register entry)) config).registry.keeping
        (fun key => key = entry.key) = ⟨[entry]⟩ := by
  have hnodup : ((registry.call (.register entry)).call (.retain config)).keys.Nodup :=
    Registry.nodup_keys_call (Registry.nodup_keys_call hregistry.nodup_keys _) _
  exact Registry.keeping_key hnodup
    (List.mem_filter.2 ⟨registry.mem_entries_register entry, henabled⟩)

end Registered

/-- **A check cannot disturb the others.**  Compare the reports on a unit before and after a check
is registered, in the place of one with the same key if there is one.  The nodes visited and the
mark for truncation are the same, and so are, in order, the issues and the failures of all rules but
the one registered.  In a registry that was put together by calls, what stands under the key of this
rule is what its new check says of the nodes within the depth bound, node by node: nothing of it is
missing and there is nothing else. -/
theorem registered_check_leaves_others_alone (registry : Registry) (entry : Entry)
    (config : Config) (unit : Source) :
    let replaced := registry.register entry.repository entry.check
    let before := (Analyzer.new registry config).analyze unit
    let after := (Analyzer.new replaced config).analyze unit
    let within := unit.root.placesWithin config.maxDepth.toNat
    (entry.key ∈ registry.keys → replaced.keys = registry.keys) ∧
      (after.uri = before.uri ∧ after.nodesVisited = before.nodesVisited ∧
        after.truncated = before.truncated) ∧
      after.issues.filter (fun issue => issue.rule ≠ entry.key) =
        before.issues.filter (fun issue => issue.rule ≠ entry.key) ∧
      after.failures.filter (fun failure => failure.rule ≠ entry.key) =
        before.failures.filter (fun failure => failure.rule ≠ entry.key) ∧
      (registry.Reachable → config.isEnabled entry.key = true →
        after.issues.filter (fun issue => issue.rule = entry.key) =
          within.flatMap (fun place => entry.issuesOn place.visit) ∧
        after.failures.filter (fun failure => failure.rule = entry.key) =
          within.flatMap (fun place => (entry.failureOn? place.visit).toList)) := by
  intro replaced before after within
  refine ⟨fun hkey => ?_, ⟨rfl, ?_, ?_⟩, ?_, ?_, fun hregistry henabled => ⟨?_, ?_⟩⟩
  · exact (registry.keys_register entry).trans (if_pos hkey)
  · rw [nodesVisited_analyze, nodesVisited_analyze]
    rfl
  · rw [Bool.eq_iff_iff, truncated_analyze, truncated_analyze]
    rfl
  · exact filter_issues_eq keeping_others_new config.maxDepth unit
  · exact filter_failures_eq keeping_others_new config.maxDepth unit
  · exact filter_issues_of_alone (keeping_key_new hregistry henabled) config.maxDepth unit
  · exact filter_failures_of_alone (keeping_key_new hregistry henabled) config.maxDepth unit

/-- The rule on module variables is replaced by a check that raises two issues on every node and
then fails. -/
theorem registered_check_leaves_others_alone_if_it_fails :
    let broken : Entry :=
      .of "xquery" ⟨⟨"StrongTypingInModuleVariable", "Broken", "", .blocker⟩, fun visit =>
        ⟨[⟨visit.node.line, "first"⟩, ⟨visit.node.line, "second"⟩],
          some (.malformedNode visit.node.kind.name visit.node.line "broken")⟩⟩
    let unit : Source :=
      ⟨"prolog.xq", ⟨.prolog, 1, .node .varDecl 2 .nil (.node .param 3 .nil
        (.node .letBinding 4 .nil .nil))⟩⟩
    let config := Config.bounded 9
    let replaced := Registry.builtin.register broken.repository broken.check
    let before := (Analyzer.new .builtin config).analyze unit
    let after := (Analyzer.new replaced config).analyze unit
    (Registry.builtin.Reachable ∧ broken.key ∈ Registry.builtin.keys ∧
        config.isEnabled broken.key = true) ∧
      (after.issues.map Issue.line = [1, 1, 2, 2, 3, 3, 4, 4, 4] ∧
        after.failures.map Failure.line = [1, 2, 3, 3, 4]) ∧
      after.issues.filter (fun issue => issue.rule ≠ broken.key) =
        before.issues.filter (fun issue => issue.rule ≠ broken.key) ∧
      (after.failures.filter fun failure => failure.rule = broken.key).map Failure.line =
        [1, 2, 3, 4] := by
  intro broken unit config replaced before after
  have hreachable : Registry.builtin.Reachable := ⟨[], .inr rfl⟩
  have henabled : config.isEnabled broken.key = true := by decide
  obtain ⟨-, -, hissues, -, hown⟩ :=
    registered_check_leaves_others_alone .builtin broken config unit
  refine ⟨⟨hreachable, by decide, henabled⟩, by decide, hissues, ?_⟩
  rw [(hown hreachable henabled).2]
  decide

end Analyzer

end SyntaxLint
