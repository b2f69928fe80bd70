import Mathlib
import SyntaxLint.Proofs.DeclaredTypes

/-!
# What a registry holds after a history of calls

A registry changes by two calls: a check is registered, or the checks that a configuration switches
off are dropped.  A registration takes the place of the entry with its key, or comes last if there
is none (`Registry.place_cases`).  What one call does to the keys and to the entry under a key is
read off from this, and what a history does follows by induction on its calls.  In particular no key
is ever held twice (`Registry.nodup_keys_after`), also if checks are registered again after they
were dropped.

In a history of registrations alone two things are decided at different times.  The order of the
keys is that of their first registrations (`Registry.keys_registerAll`), and what is held under a
key is the last check registered under it (`Registry.held?_registerAll`).
-/

namespace SyntaxLint

/-! ## Histories -/

/-- A call that changes a registry. -/
inductive RegistryCall where
  /-- A check is registered for a repository. -/
  | register (entry : Entry)
  /-- The checks that a configuration switches off are dropped. -/
  | retain (config : Config)

namespace Registry

/-- The registry after a call. -/
def call (registry : Registry) : RegistryCall → Registry
  | .register entry => registry.register entry.repository entry.check
  | .retain config => registry.enabledBy config

/-- The registry after a history of calls, the earliest first. -/
def after (registry : Registry) (calls : List RegistryCall) : Registry :=
  calls.foldl call registry

/-- The registry after some registrations, the earliest first. -/
def registerAll (registry : Registry) (entries : List Entry) : Registry :=
  registry.after (entries.map .register)

/-- A registry that some history of calls leads to. -/
def Reachable (registry : Registry) : Prop :=
  ∃ calls, registry = empty.after calls ∨ registry = builtin.after calls

/-- The entry that is held under a key. -/
def held? (registry : Registry) (key : RuleKey) : Option Entry :=
  registry.entries.find? fun entry => entry.key = key

/-- The last of some registrations under a key. -/
def lastUnder (key : RuleKey) (history : List Entry) : Option Entry :=
  (history.filter fun entry => entry.key = key).getLast?

/-! ## One call -/

/-- Placing an entry replaces the first one with its key where it stands, or adds it at the end. -/
lemma place_cases (entry : Entry) (entries : List Entry) :
    (∃ earlier old later, entries = earlier ++ old :: later ∧ old.key = entry.key ∧
      (∀ other ∈ earlier, other.key ≠ entry.key) ∧
      place entry entries = earlier ++ entry :: later) ∨
    ((∀ other ∈ entries, other.key ≠ entry.key) ∧ place entry entries = entries ++ [entry]) := by
  induction entries with
  | nil => exact .inr ⟨by simp, rfl⟩
  | cons first rest ih =>
    by_cases hfirst : first.key = entry.key
    · exact .inl ⟨[], first, rest, rfl, hfirst, by simp, if_pos hfirst⟩
    · have hplace : place entry (first :: rest) = first :: place entry rest := if_neg hfirst
      rcases ih with ⟨earlier, old, later, hrest, hold, hearlier, hplaced⟩ | ⟨hnone, hplaced⟩
      · refine .inl ⟨first :: earlier, old, later, by rw [hrest, List.cons_append], hold, ?_, ?_⟩
        · exact List.forall_mem_cons.2 ⟨hfirst, hearlier⟩
        · rw [hplace, hplaced, List.cons_append]
      · refine .inr ⟨List.forall_mem_cons.2 ⟨hfirst, hnone⟩, ?_⟩
        rw [hplace, hplaced, List.cons_append]

section Call

variable (registry : Registry) (entry : Entry)

/-- The entry that a registration builds from a repository and a check is the one that was given. -/
lemma call_register : registry.call (.register entry) = ⟨place entry registry.entries⟩ := by
  rw [call, register, Entry.of_repository_check]

lemma mem_keys {registry : Registry} {key : RuleKey} :
    key ∈ registry.keys ↔ ∃ entry ∈ registry.entries, entry.key = key :=
  List.mem_map

/-- A registration keeps the keys as they are if its key is among them, and else adds its key. -/
lemma keys_register :
    (registry.call (.register entry)).keys =
      if entry.key ∈ registry.keys then registry.keys else registry.keys ++ [entry.key] := by
  have hkeys : (registry.call (.register entry)).keys =
      (place entry registry.entries).map Entry.key := by rw [call_register, keys]
  rw [hkeys]
  rcases place_cases entry registry.entries with
    ⟨earlier, old, later, hentries, hold, -, hplaced⟩ | ⟨hnone, hplaced⟩
  · have hmem : entry.key ∈ registry.keys := mem_keys.2 ⟨old, by simp [hentries], hold⟩
    rw [if_pos hmem, hplaced, keys, hentries, List.map_append, List.map_append, List.map_cons,
      List.map_cons, hold]
  · have hmem : entry.key ∉ registry.keys := by
      rintro h
      obtain ⟨other, hother, hkey⟩ := mem_keys.1 h
      exact hnone other hother hkey
    rw [if_neg hmem, hplaced, keys, List.map_append, List.map_singleton]

/-- A registration puts its own entry under its key and leaves what is under other keys. -/
lemma held?_register (key : RuleKey) :
    (registry.call (.register entry)).held? key =
      if entry.key = key then some entry else registry.held? key := by
  have hentry : (registry.call (.register entry)).held? key =
      (place entry registry.entries).find? fun other => other.key = key := by
    rw [call_register, held?]
  rw [hentry, held?]
  rcases place_cases entry registry.entries with
    ⟨earlier, old, later, hentries, hold, hearlier, hplaced⟩ | ⟨hnone, hplaced⟩
  · rw [hplaced, hentries, List.find?_append, List.find?_append, List.find?_cons, List.find?_cons,
      hold]
    by_cases hkey : entry.key = key
    · have hskip : earlier.find? (fun other => other.key = key) = none :=
        List.find?_eq_none.2 fun other hother => by simpa [← hkey] using hearlier other hother
      simp [hkey, hskip]
    · simp [hkey]
  · rw [hplaced, List.find?_append]
    by_cases hkey : entry.key = key
    · have hskip : registry.entries.find? (fun other => other.key = key) = none :=
        List.find?_eq_none.2 fun other hother => by simpa [← hkey] using hnone other hother
      simp [hkey, hskip]
    · simp [hkey]

lemma keys_retain (config : Config) :
    (registry.call (.retain config)).keys = registry.keys.filter config.isEnabled := by
  rw [keys, keys, List.filter_map]
  rfl

variable {registry}

lemma nodup_keys_call (h : registry.keys.Nodup) (call : RegistryCall) :
    (registry.call call).keys.Nodup := by
  cases call with
  | register entry =>
    rw [keys_register]
    split
    · exact h
    · next hnew => exact h.append (List.nodup_singleton _) (List.disjoint_singleton.2 hnew)
  | retain config =>
    rw [keys_retain]
    exact h.filter _

/-- After a call there is nothing but what was there and what the call registers. -/
lemma mem_entries_call {entry : Entry} {call : RegistryCall}
    (h : entry ∈ (registry.call call).entries) :
    entry ∈ registry.entries ∨ call = .register entry := by
  cases call with
  | register placed =>
    have hplace : entry ∈ place placed registry.entries := by rwa [call_register] at h
    rcases place_cases placed registry.entries with
      ⟨earlier, old, later, hentries, -, -, hplaced⟩ | ⟨-, hplaced⟩
    · rw [hplaced, List.mem_append, List.mem_cons] at hplace
      rw [hentries, List.mem_append, List.mem_cons]
      rcases hplace with hmem | rfl | hmem
      · exact .inl (.inl hmem)
      · exact .inr rfl
      · exact .inl (.inr (.inr hmem))
    · rw [hplaced, List.mem_append, List.mem_singleton] at hplace
      exact hplace.imp_right fun hsame => by rw [hsame]
  | retain config => exact .inl (List.mem_filter.1 h).1

end Call

/-! ## Histories of any calls -/

/-- No key is held twice after a history of calls if none was before. -/
lemma nodup_keys_after {registry : Registry} (h : registry.keys.Nodup)
    (calls : List RegistryCall) : (registry.after calls).keys.Nodup := by
  induction calls generalizing registry with
  | nil => exact h
  | cons call calls ih => exact ih (nodup_keys_call h call)

lemma mem_entries_after {registry : Registry} {entry : Entry} {calls : List RegistryCall}
    (h : entry ∈ (registry.after calls).entries) :
    entry ∈ registry.entries ∨ .register entry ∈ calls := by
  induction calls generalizing registry with
  | nil => exact .inl h
  | cons call calls ih =>
    rcases ih h with hcall | hlater
    · exact (mem_entries_call hcall).imp_right fun hsame => by simp [hsame]
    · exact .inr (List.mem_cons_of_mem _ hlater)

lemma nodup_keys_empty : empty.keys.Nodup :=
  List.nodup_nil

/-- The rules that come with the library are registered one after another. -/
lemma builtin_eq_registerAll : builtin = empty.registerAll builtin.entries := by
  rw [StrongTyping.entries_builtin]
  rfl

lemma nodup_keys_builtin : builtin.keys.Nodup := by
  rw [builtin_eq_registerAll]
  exact nodup_keys_after nodup_keys_empty _

lemma Reachable.nodup_keys {registry : Registry} (h : registry.Reachable) :
    registry.keys.Nodup := by
  obtain ⟨calls, rfl | rfl⟩ := h
  · exact nodup_keys_after nodup_keys_empty calls
  · exact nodup_keys_after nodup_keys_builtin calls

lemma metadata_map_key (registry : Registry) :
    registry.metadata.map RuleMetadata.key = registry.keys := by
  rw [metadata, List.map_map]
  refine List.map_congr_left fun entry _ => ?_
  exact entry.key_eq.symm

/-- If no key is held twice, the entries before and after an entry have other keys. -/
lemma exists_split_of_mem {registry : Registry} (h : registry.keys.Nodup) {entry : Entry}
    (hentry : entry ∈ registry.entries) :
    ∃ earlier later, registry.entries = earlier ++ entry :: later ∧
      ∀ other ∈ earlier ++ later, other.key ≠ entry.key := by
  obtain ⟨earlier, later, hsplit⟩ := List.append_of_mem hentry
  refine ⟨earlier, later, hsplit, fun other hother hsame => ?_⟩
  rw [keys, hsplit, List.map_append, List.map_cons, List.nodup_middle, List.nodup_cons,
    ← List.map_append] at h
  exact h.1 (List.mem_map.2 ⟨other, hother, hsame⟩)

/-- If no key is held twice, an entry is the one that is held under its key. -/
lemma held?_key_of_mem {registry : Registry} (h : registry.keys.Nodup) {entry : Entry}
    (hentry : entry ∈ registry.entries) : registry.held? entry.key = some entry := by
  cases hfound : registry.held? entry.key with
  | none =>
    have hother : ¬ decide (entry.key = entry.key) = true :=
      List.find?_eq_none.1 hfound entry hentry
    exact absurd (decide_eq_true rfl) hother
  | some found =>
    have hkey : found.key = entry.key := by simpa using List.find?_some hfound
    rw [List.inj_on_of_nodup_map h (List.mem_of_find?_eq_some hfound) hentry hkey]

/-- If no key is held twice, the keys in order and what is held under each make up the registry. -/
lemma entries_eq_filterMap_keys {registry : Registry} (h : registry.keys.Nodup) :
    registry.entries = registry.keys.filterMap registry.held? := by
  rw [keys, List.filterMap_map]
  have hsome : registry.entries.filterMap (registry.held? ∘ Entry.key) =
      registry.entries.filterMap some :=
    List.filterMap_congr fun entry hentry => held?_key_of_mem h hentry
  rw [hsome, List.filterMap_some]

/-! ## Histories of registrations -/

lemma registerAll_append (registry : Registry) (entries others : List Entry) :
    registry.registerAll (entries ++ others) =
      (registry.registerAll entries).registerAll others := by
  rw [registerAll, after, List.map_append, List.foldl_append]
  rfl

lemma registerAll_concat (registry : Registry) (entries : List Entry) (entry : Entry) :
    registry.registerAll (entries ++ [entry]) =
      (registry.registerAll entries).call (.register entry) :=
  registry.registerAll_append entries [entry]

/-- One more item is left out without repeats if it came before, and else comes last. -/
lemma eraseDups_append_singleton {α : Type} [DecidableEq α] (items : List α) (item : α) :
    (items ++ [item]).eraseDups =
      if item ∈ items then items.eraseDups else items.eraseDups ++ [item] := by
  rw [List.eraseDups_append]
  by_cases hitem : item ∈ items <;> simp [List.removeAll, hitem, List.eraseDups_cons]

/-- The first item with a property is not lost without repeats. -/
lemma find?_eraseDups {α : Type} [DecidableEq α] (p : α → Bool) (items : List α) :
    items.eraseDups.find? p = items.find? p := by
  induction items using List.reverseRecOn with
  | nil => rfl
  | append_singleton items item ih =>
    rw [eraseDups_append_singleton, List.find?_append, ← ih]
    split
    · next hitem =>
      cases hfound : items.eraseDups.find? p with
      | some found => rfl
      | none =>
        have hnot : ¬ p item = true :=
          List.find?_eq_none.1 hfound item (List.mem_eraseDups.2 hitem)
        simp [hnot]
    · rw [List.find?_append]

/-- Keys stand in the order of their first registrations. -/
lemma keys_registerAll (history : List Entry) :
    (empty.registerAll history).keys = (history.map Entry.key).eraseDups := by
  induction history using List.reverseRecOn with
  | nil => rfl
  | append_singleton history entry ih =>
    rw [registerAll_concat, keys_register, List.map_append, List.map_singleton,
      eraseDups_append_singleton, ih]
    simp only [List.mem_eraseDups]

/-- What is held under a key is what was registered under it last. -/
lemma held?_registerAll (history : List Entry) (key : RuleKey) :
    (empty.registerAll history).held? key = lastUnder key history := by
  induction history using List.reverseRecOn with
  | nil => rfl
  | append_singleton history entry ih =>
    rw [registerAll_concat, held?_register, ih, lastUnder, lastUnder, List.filter_append]
    by_cases hkey : entry.key = key <;> simp [hkey]

/-- The key that a rule name stands for is that of the first registration with this name. -/
lemma keyOfRule?_registerAll (history : List Entry) (rule : String) :
    (empty.registerAll history).keyOfRule? rule =
      (history.find? fun entry => entry.check.definition.rule = rule).map Entry.key := by
  have hrule : ∀ entry : Entry,
      decide (entry.key.rule = rule) = decide (entry.check.definition.rule = rule) :=
    fun entry => by rw [entry.rule_key]
  rw [keyOfRule?, keys_registerAll, find?_eraseDups, List.find?_map]
  simp only [Function.comp_def, hrule]

/-- A history of registrations on top of a registry to start from is one from nothing. -/
lemma registerAll_start {start : Registry} (hstart : start = empty ∨ start = builtin)
    (entries : List Entry) :
    start.registerAll entries = empty.registerAll (start.entries ++ entries) := by
  rcases hstart with rfl | rfl
  · rfl
  · rw [registerAll_append, ← builtin_eq_registerAll]

/-! ## Both kinds of history -/

/-- The key that a rule name stands for is the first one in order with this rule. -/
lemma keyOfRule?_eq_some_iff {registry : Registry} {rule : String} {key : RuleKey} :
    registry.keyOfRule? rule = some key ↔
      ∃ earlier later, registry.keys = earlier ++ key :: later ∧ key.rule = rule ∧
        ∀ other ∈ earlier, other.rule ≠ rule := by
  rw [keyOfRule?, List.find?_eq_some_iff_append]
  constructor
  · rintro ⟨hrule, earlier, later, hkeys, hearlier⟩
    exact ⟨earlier, later, hkeys, by simpa using hrule, by simpa using hearlier⟩
  · rintro ⟨earlier, later, hkeys, hrule, hearlier⟩
    exact ⟨by simpa using hrule, earlier, later, hkeys, by simpa using hearlier⟩

lemma keyOfRule?_eq_none_iff {registry : Registry} {rule : String} :
    registry.keyOfRule? rule = none ↔ ∀ key ∈ registry.keys, key.rule ≠ rule := by
  rw [keyOfRule?, List.find?_eq_none]
  simp

/-- **The first registration of a key gives its place, the last one its check.**  After any history
of registrations and drops, from nothing or from the rules that come with the library, no key is
held twice, an entry was put there by a registration and its key is its repository with the rule of
its own check, the metadata list one rule for each key in the order of the keys, and a rule name
stands for the first key with this rule.  If nothing was dropped, the keys stand in the order of
their first registrations, without repeats; the check under a key, and so its metadata, is that of
the last registration under this key; and a rule name stands for the key of the first registration
with this name. -/
theorem first_registration_places_last_one_holds (start : Registry)
    (hstart : start = empty ∨ start = builtin) :
    (∀ calls : List RegistryCall,
      let registry := start.after calls
      registry.keys.Nodup ∧
        registry.keys = registry.entries.map (fun entry =>
          ⟨entry.repository, entry.check.definition.rule⟩) ∧
        registry.metadata.map RuleMetadata.key = registry.keys ∧
        (∀ entry ∈ registry.entries, entry ∈ start.entries ∨ .register entry ∈ calls) ∧
        (∀ rule key, registry.keyOfRule? rule = some key ↔
          ∃ earlier later, registry.keys = earlier ++ key :: later ∧ key.rule = rule ∧
            ∀ other ∈ earlier, other.rule ≠ rule) ∧
        ∀ rule, registry.keyOfRule? rule = none ↔ ∀ key ∈ registry.keys, key.rule ≠ rule) ∧
    ∀ entries : List Entry,
      let registry := start.registerAll entries
      let history := start.entries ++ entries
      registry.keys = (history.map Entry.key).eraseDups ∧
        (∀ key, registry.held? key = lastUnder key history) ∧
        registry.metadata =
          registry.keys.filterMap (fun key => (lastUnder key history).map Entry.metadata) ∧
        ∀ rule, registry.keyOfRule? rule =
          (history.find? fun entry => entry.check.definition.rule = rule).map Entry.key := by
  refine ⟨fun calls => ?_, fun entries => ?_⟩
  · intro registry
    have hreachable : registry.Reachable := by
      rcases hstart with rfl | rfl
      · exact ⟨calls, .inl rfl⟩
      · exact ⟨calls, .inr rfl⟩
    have hkeys : registry.keys = registry.entries.map fun entry =>
        ⟨entry.repository, entry.check.definition.rule⟩ :=
      List.map_congr_left fun entry _ => entry.key_eq
    exact ⟨hreachable.nodup_keys, hkeys, registry.metadata_map_key, fun entry => mem_entries_after,
      fun rule key => keyOfRule?_eq_some_iff, fun rule => keyOfRule?_eq_none_iff⟩
  · intro registry history
    have hregistry : registry = empty.registerAll history := registerAll_start hstart entries
    have hheld : ∀ key, registry.held? key = lastUnder key history := fun key => by
      rw [hregistry, held?_registerAll]
    have hnodup : registry.keys.Nodup := hregistry ▸ nodup_keys_after nodup_keys_empty _
    refine ⟨by rw [hregistry, keys_registerAll], hheld, ?_, fun rule => ?_⟩
    · rw [metadata, entries_eq_filterMap_keys hnodup, List.map_filterMap]
      simp only [hheld]
    · rw [hregistry, keyOfRule?_registerAll]

/-- A rule of the library is replaced and stays first; a check registered twice keeps its place and
ends up with its second title.  A rule that was dropped comes last when it is registered again. -/
theorem first_registration_places_replaced_rule :
    let check (rule title : String) : Check := ⟨⟨rule, title, "", .info⟩, fun _ => .nothing⟩
    let entries : List Entry :=
      [.of "lab" (check "Depth" "first"), .of "xquery" (check "StrongTypingInFLWOR" "own"),
        .of "lab" (check "Width" "other"), .of "lab" (check "Depth" "second")]
    let registry := builtin.registerAll entries
    let calls : List RegistryCall :=
      [.retain (Config.default.disable "StrongTypingInFLWOR"),
        .register (.of "xquery" StrongTyping.flwor)]
    (builtin = empty ∨ builtin = builtin) ∧
      (registry.keys.map RuleKey.display =
          ["xquery:StrongTypingInFLWOR", "xquery:StrongTypingInFunctionDeclaration",
            "xquery:StrongTypingInModuleVariable", "lab:Depth", "lab:Width"] ∧
        registry.metadata.map RuleMetadata.name =
          ["own", "Use Strong Typing in Function Declarations",
            "Use Strong Typing when Declaring Module Variables", "second", "other"] ∧
        registry.keyOfRule? "Depth" = some ⟨"lab", "Depth"⟩) ∧
      (builtin.after calls).keys.Nodup ∧
      (builtin.after calls).keys.map RuleKey.rule =
        ["StrongTypingInFunctionDeclaration", "StrongTypingInModuleVariable",
          "StrongTypingInFLWOR"] := by
  intro check entries registry calls
  obtain ⟨hcalls, hregistrations⟩ := first_registration_places_last_one_holds builtin (.inr rfl)
  obtain ⟨hkeys, -, hmetadata, hrule⟩ := hregistrations entries
  refine ⟨.inr rfl, ⟨?_, ?_, (hrule "Depth").trans (by decide)⟩, (hcalls calls).1, by decide⟩
  · rw [hkeys]
    decide
  · rw [hmetadata, hkeys]
    decide

end Registry

end SyntaxLint
