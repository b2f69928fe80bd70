import Mathlib
import SyntaxLint.Proofs.Fallible
import SyntaxLint.Proofs.Walk

/-!
# Switching rules off only filters the report

Rules are switched off before the walk: their checks are taken out of the registry.  The report is
the same as if all checks had run and what these said had been struck out afterwards
(`Analyzer.disabling_filters_report`).  On a single visit this is so because everything that a check
says stands under the key it is registered with (`filter_flatMap_entries`), and the checks have no
part in which nodes are visited.

What is switched off is a set.  A configuration document lists it in some order, perhaps with
repetitions, and more names may be added one by one (`Config.Built`).  Of all this only the names
count (`Config.Built.mem_iff`).  For a document this is read off the members one by one: a member
sets one field, and no field is set twice (`Config.member_cases`).  A document that lists the same
names in another way is read alike, or refused alike (`Config.Relisted`).
-/

namespace SyntaxLint

/-! ## What a document lists -/

namespace Config

/-- The text of a string. -/
def textOf? : Outline → Option String
  | .scalar (some (.string text)) => some text
  | _ => none

/-- The texts of the strings in an array. -/
def textsOf : Outline → List String
  | .array items _ => items.filterMap textOf?
  | _ => []

/-- The rules that a member of a configuration document lists as switched off. -/
def listedBy (member : Option String × Outline) : List String :=
  if member.1 = some "disabled_rules" then textsOf member.2 else []

/-- The rules that a configuration document lists as switched off, in the order and as often as they
stand there.  In a document that is an array, the list is its second item. -/
def listed : Outline → List String
  | .object members _ => members.flatMap listedBy
  | .array (_ :: names :: _) _ => textsOf names
  | _ => []

/-- The array that lists some names. -/
def listing (names : List String) : Outline :=
  .array (names.map fun name => .scalar (some (.string name))) true

/-- Two configuration documents differ only in how they list the same names. -/
inductive Relisted : Outline → Outline → Prop where
  | object {names others : List String} (before after : List (Option String × Outline))
      (closed : Bool) : (∀ name, name ∈ names ↔ name ∈ others) →
      Relisted (.object (before ++ (some "disabled_rules", listing names) :: after) closed)
        (.object (before ++ (some "disabled_rules", listing others) :: after) closed)
  | array {names others : List String} (depth : Outline) (after : List Outline) (closed : Bool) :
      (∀ name, name ∈ names ↔ name ∈ others) →
      Relisted (.array (depth :: listing names :: after) closed)
        (.array (depth :: listing others :: after) closed)

/-! ## Reading lists of names -/

lemma textOf?_of_string {outline : Outline} {text : String}
    (h : Decoder.string outline = .ok text) : textOf? outline = some text := by
  unfold Decoder.string at h
  split at h
  · rw [Except.ok.inj h, textOf?]
  · exact absurd h (by simp)

lemma filterMap_textOf?_of_mapM {items : List Outline} {texts : List String}
    (h : items.mapM Decoder.string = .ok texts) : items.filterMap textOf? = texts := by
  induction items generalizing texts with
  | nil => exact Except.ok.inj h
  | cons item items ih =>
    rw [List.mapM_cons] at h
    obtain ⟨text, htext, h⟩ := exists_of_bind_eq_ok h
    obtain ⟨rest, hrest, h⟩ := exists_of_bind_eq_ok h
    rw [List.filterMap_cons_some (textOf?_of_string htext), ih hrest]
    exact Except.ok.inj h

lemma mem_of_namesDecoder {outline : Outline} {names : NameSet}
    (h : namesDecoder outline = .ok names) (name : String) :
    name ∈ names ↔ name ∈ textsOf outline := by
  obtain ⟨texts, htexts, rfl⟩ := exists_of_map_eq_ok h
  rw [NameSet.mem_ofList]
  unfold Decoder.strings at htexts
  split at htexts
  · obtain ⟨read, hread, hclosed⟩ := exists_of_bind_eq_ok htexts
    split at hclosed
    · rw [textsOf, filterMap_textOf?_of_mapM hread, Except.ok.inj hclosed]
    · exact absurd hclosed throw_ne_ok
  · exact absurd htexts (by simp)

lemma mapM_string_listing (names : List String) :
    (names.map fun name => Outline.scalar (some (.string name))).mapM Decoder.string =
      .ok names := by
  induction names with
  | nil => rfl
  | cons name names ih =>
    rw [List.map_cons, List.mapM_cons, ih]
    rfl

lemma namesDecoder_listing (names : List String) :
    namesDecoder (listing names) = .ok (NameSet.ofList names) := by
  rw [namesDecoder, listing, Decoder.strings, mapM_string_listing]
  rfl

/-- Lists of the same names are read as the same set. -/
lemma namesDecoder_listing_congr {names others : List String}
    (h : ∀ name, name ∈ names ↔ name ∈ others) :
    namesDecoder (listing names) = namesDecoder (listing others) := by
  rw [namesDecoder_listing, namesDecoder_listing]
  congr 1
  exact NameSet.ext_mem fun name => by simp [h name]

/-! ## Reading documents -/

lemma member_maxDepth (draft : Draft) (value : Outline) :
    record.member draft (some "max_depth", value) =
      if draft.maxDepth.isSome then .error (.mismatch (.duplicateField "max_depth"))
      else (Decoder.depth value).map fun depth => { draft with maxDepth := some depth } := by
  simp [Record.member, record, Field.slot]

lemma member_disabledRules (draft : Draft) (value : Outline) :
    record.member draft (some "disabled_rules", value) =
      if draft.disabledRules.isSome then .error (.mismatch (.duplicateField "disabled_rules"))
      else (namesDecoder value).map fun names => { draft with disabledRules := some names } := by
  simp [Record.member, record, Field.slot]

lemma member_unknown {name : String} (hdepth : name ≠ "max_depth")
    (hrules : name ≠ "disabled_rules") (draft : Draft) (value : Outline) :
    record.member draft (some name, value) =
      .error (.mismatch (.unknownField name ["max_depth", "disabled_rules"])) := by
  simp [Record.member, record, Field.slot, hdepth.symm, hrules.symm]

/-- A member that a configuration document may have is one of the two fields, which was not set
before and is set by it. -/
lemma member_cases {draft next : Draft} {member : Option String × Outline}
    (h : record.member draft member = .ok next) :
    (∃ depth, member.1 = some "max_depth" ∧ draft.maxDepth = none ∧
      Decoder.depth member.2 = .ok depth ∧ next = { draft with maxDepth := some depth }) ∨
    (∃ names, member.1 = some "disabled_rules" ∧ draft.disabledRules = none ∧
      namesDecoder member.2 = .ok names ∧ next = { draft with disabledRules := some names }) := by
  obtain ⟨_ | name, value⟩ := member
  · exact absurd h (by simp [Record.member])
  · by_cases hdepth : name = "max_depth"
    · subst hdepth
      rw [member_maxDepth] at h
      split at h
      · exact absurd h (by simp)
      · next hunset =>
        obtain ⟨depth, hdepth, rfl⟩ := exists_of_map_eq_ok h
        exact .inl ⟨depth, rfl, by simpa using hunset, hdepth, rfl⟩
    by_cases hrules : name = "disabled_rules"
    · subst hrules
      rw [member_disabledRules] at h
      split at h
      · exact absurd h (by simp)
      · next hunset =>
        obtain ⟨names, hnames, rfl⟩ := exists_of_map_eq_ok h
        exact .inr ⟨names, rfl, by simpa using hunset, hnames, rfl⟩
    · exact absurd h (by simp [member_unknown hdepth hrules])

/-- The names switched off in a draft. -/
def Draft.names (draft : Draft) : NameSet :=
  draft.disabledRules.getD default.disabledRules

/-- The draft that the members of a document come to holds the names that they list. -/
lemma mem_names_of_members {members : List (Option String × Outline)} {draft : Draft}
    (h : members.foldlM record.member record.blank = .ok draft) (name : String) :
    name ∈ draft.names ↔ name ∈ members.flatMap listedBy := by
  refine foldlM_invariant (fun done draft => name ∈ draft.names ↔ name ∈ done.flatMap listedBy)
    ?_ ?_ h
  · simp [Draft.names, record, default, bounded]
  · intro done draft member next hdone hstep
    rw [List.flatMap_append, List.flatMap_singleton, List.mem_append, ← hdone]
    rcases member_cases hstep with ⟨depth, hname, -, -, rfl⟩ | ⟨names, hname, hunset, hnames, rfl⟩
    · simp [Draft.names, listedBy, hname]
    · simp [Draft.names, hunset, listedBy, hname, mem_of_namesDecoder hnames, default, bounded]

/-- The end of an array finishes the draft, if the array is closed. -/
lemma disabledRules_of_items_nil {closed : Bool} {fields : List (Field Draft)} {draft : Draft}
    {count : Nat} {config : Config} (h : record.items closed fields [] draft count = .ok config) :
    config.disabledRules = draft.names := by
  rw [Record.items] at h
  split at h
  · rw [← Except.ok.inj h]
    rfl
  · exact absurd h (by simp)

/-- An array that is read as a configuration gives the depth bound first and then the names. -/
lemma mem_of_items {items : List Outline} {closed : Bool} {config : Config}
    (h : decoder (.array items closed) = .ok config) (name : String) :
    name ∈ config.disabledRules ↔ name ∈ listed (.array items closed) := by
  match items with
  | [] =>
    rw [disabledRules_of_items_nil h]
    simp [Draft.names, listed, record, default, bounded]
  | [_] =>
    obtain ⟨draft, hdraft, hrest⟩ := exists_of_bind_eq_ok h
    obtain ⟨depth, -, rfl⟩ := exists_of_map_eq_ok hdraft
    rw [disabledRules_of_items_nil hrest]
    simp [Draft.names, listed, record, default, bounded]
  | _ :: value :: rest =>
    obtain ⟨draft, hdraft, hrest⟩ := exists_of_bind_eq_ok h
    obtain ⟨next, hnext, hrest⟩ := exists_of_bind_eq_ok hrest
    obtain ⟨names, hnames, rfl⟩ := exists_of_map_eq_ok hnext
    cases rest with
    | nil =>
      rw [disabledRules_of_items_nil hrest, listed, ← mem_of_namesDecoder hnames]
      rfl
    | cons extra rest => exact absurd hrest (by simp [Record.items])

/-- A document that is read as a configuration switches off the names that it lists. -/
lemma mem_of_decoder {outline : Outline} {config : Config} (h : decoder outline = .ok config)
    (name : String) : name ∈ config.disabledRules ↔ name ∈ listed outline := by
  cases outline with
  | scalar value => exact absurd h (by simp [decoder, Record.decode])
  | missing => exact absurd h (by simp [decoder, Record.decode])
  | object members closed =>
    obtain ⟨draft, hdraft, hfinish⟩ := exists_of_bind_eq_ok h
    rw [listed, ← mem_names_of_members hdraft]
    split at hfinish
    · rw [← Except.ok.inj hfinish]
      rfl
    · exact absurd hfinish throw_ne_ok
  | array items closed => exact mem_of_items h name

lemma mem_of_ofText {text : String} {config : Config} (h : ofText text = .ok config)
    (name : String) :
    name ∈ config.disabledRules ↔ name ∈ listed (Document.ofText text).root := by
  obtain ⟨read, hread, hvalid⟩ := exists_of_bind_eq_ok h
  have hsame : read = config := by
    unfold validate at hvalid
    split at hvalid
    · exact absurd hvalid (by simp)
    · exact Except.ok.inj hvalid
  obtain ⟨value, hvalue, htrailing⟩ := exists_of_bind_eq_ok (eq_ok_of_mapError_eq_ok hread)
  split at htrailing
  · exact absurd htrailing throw_ne_ok
  · rw [← hsame, ← Except.ok.inj htrailing]
    exact mem_of_decoder hvalue name

/-- Documents that list the same names are read alike, also where they are refused. -/
lemma decoder_eq_of_relisted {outline other : Outline} (h : Relisted outline other) :
    decoder outline = decoder other := by
  cases h with
  | object before after closed hnames =>
    simp only [decoder, Record.decode, List.foldlM_append, List.foldlM_cons, member_disabledRules,
      namesDecoder_listing_congr hnames]
  | array depth after closed hnames =>
    simp only [decoder, Record.decode, record, Record.items, Field.slot,
      namesDecoder_listing_congr hnames]

lemma ofText_eq_of_relisted {text other : String}
    (h : Relisted (Document.ofText text).root (Document.ofText other).root)
    (htrailing : (Document.ofText text).trailing = (Document.ofText other).trailing) :
    ofText text = ofText other := by
  simp only [ofText, Decoder.ofText, decoder_eq_of_relisted h, htrailing]

/-! ## Configurations and how they are put together -/

/-- A configuration is put together with the names in a list switched off, in this order: from
nothing, from a document that lists them, or by adding one more. -/
inductive Built : List String → Config → Prop where
  | bounded (maxDepth : UInt64) : Built [] (bounded maxDepth)
  | read {text : String} {config : Config} : ofText text = .ok config →
      Built (listed (Document.ofText text).root) config
  | disable {names : List String} {config : Config} (rule : String) : Built names config →
      Built (names ++ [rule]) (config.disable rule)

lemma Built.mem_iff {names : List String} {config : Config} (h : Built names config)
    (name : String) : name ∈ config.disabledRules ↔ name ∈ names := by
  induction h with
  | bounded maxDepth => simp [Config.bounded]
  | read hread => exact mem_of_ofText hread name
  | disable rule _ ih => simp [Config.disable, ih, or_comm]

/-- Only the names count, not their order and not how often they are given. -/
lemma Built.eq_of_names {names others : List String} {config other : Config}
    (h : Built names config) (hother : Built others other)
    (hdepth : other.maxDepth = config.maxDepth) (hnames : ∀ name, name ∈ names ↔ name ∈ others) :
    other = config := by
  have hrules : other.disabledRules = config.disabledRules :=
    NameSet.ext_mem fun name => by rw [hother.mem_iff, h.mem_iff, hnames]
  cases config
  cases other
  simp_all

lemma Built.isEnabled_iff {names : List String} {config : Config} (h : Built names config)
    (key : RuleKey) : config.isEnabled key = true ↔ key.rule ∉ names ∧ key.display ∉ names := by
  simp [isEnabled, ← Bool.not_eq_true, h.mem_iff]

end Config

/-! ## Filtering -/

/-- What is said without some of the checks is what all of them say, less what stands under the keys
of the missing ones. -/
lemma filter_flatMap_entries {α : Type} {told : Entry → List α} {key : α → RuleKey}
    (hkey : ∀ entry, ∀ a ∈ told entry, key a = entry.key) (keep : RuleKey → Bool)
    (entries : List Entry) :
    (entries.filter fun entry => keep entry.key).flatMap told =
      (entries.flatMap told).filter fun a => keep (key a) := by
  induction entries with
  | nil => rfl
  | cons entry entries ih =>
    rw [List.flatMap_cons, List.filter_append, ← ih]
    by_cases hkeep : keep entry.key
    · have hall : (told entry).filter (fun a => keep (key a)) = told entry :=
        List.filter_eq_self.2 fun a ha => by rwa [hkey entry a ha]
      rw [List.filter_cons_of_pos (by exact hkeep), List.flatMap_cons, hall]
    · have hnone : (told entry).filter (fun a => keep (key a)) = [] :=
        List.filter_eq_nil_iff.2 fun a ha => by rwa [hkey entry a ha]
      rw [List.filter_cons_of_neg (by exact hkeep), hnone, List.nil_append]

lemma Entry.rule_of_mem_issuesOn {visit : Visit} {entry : Entry} {issue : Issue}
    (h : issue ∈ entry.issuesOn visit) : issue.rule = entry.key := by
  obtain ⟨finding, -, rfl⟩ := List.mem_map.1 h
  rfl

lemma Entry.rule_of_mem_failureOn? {visit : Visit} {entry : Entry} {failure : Failure}
    (h : failure ∈ (entry.failureOn? visit).toList) : failure.rule = entry.key := by
  obtain ⟨error, -, rfl⟩ := Option.map_eq_some_iff.1 (Option.mem_toList.1 h)
  rfl

lemma Registry.enabledBy_bounded (registry : Registry) (maxDepth : UInt64) :
    registry.enabledBy (.bounded maxDepth) = registry := by
  simp [Registry.enabledBy, Config.bounded, Config.isEnabled, NameSet.contains, NameSet.empty]

/-- The registry with those of its checks whose keys are kept. -/
def Registry.keeping (registry : Registry) (keep : RuleKey → Bool) : Registry :=
  ⟨registry.entries.filter fun entry => keep entry.key⟩

namespace Analyzer

variable (registry : Registry) (config : Config) (unit : Source)

lemma issues_keeping (keep : RuleKey → Bool) (maxDepth : UInt64) :
    ((Analyzer.mk (registry.keeping keep) maxDepth).analyze unit).issues =
      ((Analyzer.mk registry maxDepth).analyze unit).issues.filter fun issue =>
        keep issue.rule := by
  rw [issues_analyze, issues_analyze, List.filter_flatMap]
  congr 1
  funext place
  exact filter_flatMap_entries (fun _ _ => Entry.rule_of_mem_issuesOn) keep registry.entries

lemma failures_keeping (keep : RuleKey → Bool) (maxDepth : UInt64) :
    ((Analyzer.mk (registry.keeping keep) maxDepth).analyze unit).failures =
      ((Analyzer.mk registry maxDepth).analyze unit).failures.filter fun failure =>
        keep failure.rule := by
  rw [failures_analyze, failures_analyze, List.filter_flatMap]
  congr 1
  funext place
  rw [List.filterMap_eq_flatMap_toList, List.filterMap_eq_flatMap_toList]
  exact filter_flatMap_entries (fun _ _ => Entry.rule_of_mem_failureOn?) keep registry.entries

lemma issues_new :
    ((Analyzer.new registry config).analyze unit).issues =
      ((Analyzer.mk registry config.maxDepth).analyze unit).issues.filter fun issue =>
        config.isEnabled issue.rule :=
  issues_keeping registry unit config.isEnabled config.maxDepth

lemma failures_new :
    ((Analyzer.new registry config).analyze unit).failures =
      ((Analyzer.mk registry config.maxDepth).analyze unit).failures.filter fun failure =>
        config.isEnabled failure.rule :=
  failures_keeping registry unit config.isEnabled config.maxDepth

/-- **Switching rules off only filters the report.**  Beside the report of all checks of the
registry under the same depth bound, the issues and the failures are those whose rule is switched
on, in the same order, and the rest of the report is the same.  A rule is switched off by its bare
name or its displayed key, and which names these are is all that matters of how a configuration was
put together.  How a document lists them does not matter to whether it is accepted either. -/
theorem disabling_filters_report (registry : Registry) (config : Config) (unit : Source) :
    let report := (Analyzer.new registry config).analyze unit
    let full := (Analyzer.new registry (.bounded config.maxDepth)).analyze unit
    (report.uri = full.uri ∧ report.nodesVisited = full.nodesVisited ∧
        report.truncated = full.truncated) ∧
      report.issues = full.issues.filter (fun issue => config.isEnabled issue.rule) ∧
      report.failures = full.failures.filter (fun failure => config.isEnabled failure.rule) ∧
      (∀ names, Config.Built names config →
        (∀ key, config.isEnabled key = true ↔ key.rule ∉ names ∧ key.display ∉ names) ∧
        ∀ others other, Config.Built others other → other.maxDepth = config.maxDepth →
          (∀ name, name ∈ names ↔ name ∈ others) →
          (Analyzer.new registry other).analyze unit = report) ∧
      (∀ text other, Config.Relisted (Document.ofText text).root (Document.ofText other).root →
        (Document.ofText text).trailing = (Document.ofText other).trailing →
        Config.ofText text = Config.ofText other) := by
  intro report full
  have hfull : full = (Analyzer.mk registry config.maxDepth).analyze unit := by
    rw [← registry.enabledBy_bounded config.maxDepth]
    rfl
  refine ⟨⟨rfl, ?_, ?_⟩, ?_, ?_, fun names hnames => ⟨hnames.isEnabled_iff, ?_⟩,
    fun _ _ => Config.ofText_eq_of_relisted⟩
  · rw [hfull, nodesVisited_analyze, nodesVisited_analyze]
    rfl
  · rw [hfull, Bool.eq_iff_iff, truncated_analyze, truncated_analyze]
    rfl
  · rw [hfull]
    exact issues_new registry config unit
  · rw [hfull]
    exact failures_new registry config unit
  · intro others other hother hdepth hsame
    rw [hnames.eq_of_names hother hdepth hsame]

/-- Three checks that report every node, two of which are switched off: by a document that lists one
of them twice, by one that lists them in another order, and by an array that lists one of them, to
which the other is added. -/
theorem disabling_filters_report_three_listings :
    let entry (rule : String) : Entry :=
      .of "r" ⟨⟨rule, rule, rule, .minor⟩, fun visit => .found visit.node.line rule⟩
    let registry : Registry := ⟨[entry "a", entry "b", entry "c"]⟩
    let unit : Source := ⟨"module.xq", ⟨.prolog, 1, .nil⟩⟩
    ∃ config start : Config,
      Config.ofText "\x7b\"disabled_rules\": [\"a\", \"r:b\", \"a\"]\x7d" = .ok config ∧
      Config.ofText "\x7b\"disabled_rules\": [\"r:b\", \"a\"]\x7d" = .ok config ∧
      Config.ofText "[512, [\"r:b\"]]" = .ok start ∧
      ((Analyzer.new registry config).analyze unit).issues = [⟨⟨"r", "c"⟩, 1, "c"⟩] ∧
      (Analyzer.new registry (start.disable "a")).analyze unit =
        (Analyzer.new registry config).analyze unit := by
  have htwice : Document.ofText "\x7b\"disabled_rules\": [\"a\", \"r:b\", \"a\"]\x7d" =
      ⟨.object [(some "disabled_rules", Config.listing ["a", "r:b", "a"])] true, false⟩ := by cbv
  have honce : Document.ofText "\x7b\"disabled_rules\": [\"r:b\", \"a\"]\x7d" =
      ⟨.object [(some "disabled_rules", Config.listing ["r:b", "a"])] true, false⟩ := by cbv
  have hone : Document.ofText "[512, [\"r:b\"]]" =
      ⟨.array [.scalar (some (.number (.integer 512))), Config.listing ["r:b"]] true, false⟩ := by
    cbv
  intro entry registry unit
  have hconfig : Config.ofText "\x7b\"disabled_rules\": [\"a\", \"r:b\", \"a\"]\x7d" =
      .ok ⟨512, .ofList ["a", "r:b"]⟩ := by
    rw [Config.ofText, Decoder.ofText, htwice]
    decide
  have hstart : Config.ofText "[512, [\"r:b\"]]" = .ok ⟨512, .ofList ["r:b"]⟩ := by
    rw [Config.ofText, Decoder.ofText, hone]
    decide
  obtain ⟨-, hissues, -, hbuilt, hrelisted⟩ :=
    disabling_filters_report registry ⟨512, .ofList ["a", "r:b"]⟩ unit
  refine ⟨_, _, hconfig, ?_, hstart, hissues.trans (by decide), ?_⟩
  · rw [← hconfig]
    refine (hrelisted _ _ ?_ ?_).symm
    · rw [htwice, honce]
      exact .object [] [] true (by simp)
    · rw [htwice, honce]
  · refine (hbuilt _ (.read hconfig)).2 _ _ (.disable "a" (.read hstart)) rfl ?_
    rw [htwice, hone]
    simp [Config.listed, Config.listedBy, Config.textsOf, Config.textOf?, Config.listing, or_comm]

end Analyzer

end SyntaxLint
