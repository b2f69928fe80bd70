import Mathlib
import SyntaxLint.Proofs.Registration

/-!
# What a displayed key switches off

A rule is switched off by its bare name or by its displayed key, and both are given as one text.
The displayed key joins repository and rule with a colon, and neither of them is kept from having
colons itself.  So the displayed form of a key may name another rule as well (`RuleKey.Collides`).
It is the bare name of a rule whose name has the colon in it, or the displayed form of a key that is
divided at another colon (`RuleKey.display_eq_iff`).

Both need a colon in the name of a rule.  Where no name of a rule has one, a displayed key is
divided at its last colon, whatever colons the repositories have, and switches off its own rule
alone.
-/

namespace SyntaxLint

namespace RuleKey

/-- The end of one key's repository is the beginning of the other's rule: the displayed form of both
is the same, and the second one is divided at an earlier colon. -/
def DividedLater (key other : RuleKey) : Prop :=
  ∃ middle, key.repository = other.repository ++ ":" ++ middle ∧
    other.rule = middle ++ ":" ++ key.rule

/-- The displayed form of a key names another rule as well. -/
inductive Collides (key other : RuleKey) : Prop where
  /-- It is the bare name of the other rule. -/
  | bareName : other.rule = key.display → Collides key other
  /-- It is the displayed form of the other key, divided at an earlier colon. -/
  | earlierColon : key.DividedLater other → Collides key other
  /-- It is the displayed form of the other key, divided at a later colon. -/
  | laterColon : other.DividedLater key → Collides key other

/-! ## Keys that are displayed alike -/

lemma toList_display (key : RuleKey) :
    key.display.toList = key.repository.toList ++ ':' :: key.rule.toList := by
  simp [display]

lemma dividedLater_iff {key other : RuleKey} :
    key.DividedLater other ↔
      ∃ middle : List Char, key.repository.toList = other.repository.toList ++ ':' :: middle ∧
        other.rule.toList = middle ++ ':' :: key.rule.toList := by
  constructor
  · rintro ⟨middle, hrepository, hrule⟩
    exact ⟨middle.toList, by simp [hrepository], by simp [hrule]⟩
  · rintro ⟨middle, hrepository, hrule⟩
    refine ⟨String.ofList middle, ?_, ?_⟩
    · rw [← String.toList_inj, hrepository]
      simp
    · rw [← String.toList_inj, hrule]
      simp

lemma DividedLater.display_eq {key other : RuleKey} (h : key.DividedLater other) :
    key.display = other.display := by
  obtain ⟨middle, hrepository, hrule⟩ := dividedLater_iff.1 h
  rw [← String.toList_inj, toList_display, toList_display, hrepository, hrule]
  simp

/-- Keys that are displayed alike are equal or divided at different colons. -/
lemma display_eq_iff {key other : RuleKey} :
    key.display = other.display ↔
      key = other ∨ key.DividedLater other ∨ other.DividedLater key := by
  constructor
  · intro h
    -- Of the two repositories one is an initial part of the other, and what is left of the longer
    -- one is nothing or starts with a colon.
    have hdivided : ∀ {a b : RuleKey} {more : List Char},
        b.repository.toList = a.repository.toList ++ more →
        ':' :: a.rule.toList = more ++ ':' :: b.rule.toList → a = b ∨ b.DividedLater a := by
      intro a b more hrepository hrule
      cases more with
      | nil =>
        have hrepositories : a.repository = b.repository :=
          String.toList_inj.1 (by simpa using hrepository.symm)
        have hrules : a.rule = b.rule := String.toList_inj.1 (by simpa using hrule)
        cases a
        cases b
        exact .inl (congrArg₂ RuleKey.mk hrepositories hrules)
      | cons c middle =>
        rw [List.cons_append, List.cons.injEq] at hrule
        obtain ⟨rfl, hrule⟩ := hrule
        exact .inr (dividedLater_iff.2 ⟨middle, hrepository, hrule⟩)
    rw [← String.toList_inj, toList_display, toList_display, List.append_eq_append_iff] at h
    rcases h with ⟨more, hrepository, hrule⟩ | ⟨more, hrepository, hrule⟩
    · exact (hdivided hrepository hrule).imp_right .inr
    · exact (hdivided hrepository hrule).imp Eq.symm .inl
  · rintro (rfl | h | h)
    · rfl
    · exact h.display_eq
    · exact h.display_eq.symm

/-- A rule name that a displayed key is taken for, or that goes on where another is divided, has a
colon in it. -/
lemma Collides.colon_mem {key other : RuleKey} (h : key.Collides other) :
    ':' ∈ key.rule.toList ∨ ':' ∈ other.rule.toList := by
  cases h with
  | bareName hrule =>
    refine .inr ?_
    rw [hrule, toList_display]
    simp
  | earlierColon hdivided =>
    obtain ⟨middle, -, hrule⟩ := dividedLater_iff.1 hdivided
    exact .inr (by simp [hrule])
  | laterColon hdivided =>
    obtain ⟨middle, -, hrule⟩ := dividedLater_iff.1 hdivided
    exact .inl (by simp [hrule])

/-- A key does not collide with itself. -/
lemma Collides.ne {key other : RuleKey} (h : key.Collides other) : other ≠ key := by
  rintro rfl
  have hdivided : ¬ other.DividedLater other := by
    intro hdivided
    obtain ⟨middle, hrepository, -⟩ := dividedLater_iff.1 hdivided
    have hlength := congrArg List.length hrepository
    simp at hlength
  cases h with
  | bareName hrule =>
    have hlength := congrArg List.length (String.toList_inj.2 hrule)
    rw [toList_display, List.length_append, List.length_cons] at hlength
    omega
  | earlierColon h => exact hdivided h
  | laterColon h => exact hdivided h

/-- **What a displayed key names** beside its own rule is what it collides with. -/
lemma collides_iff {key other : RuleKey} :
    key.Collides other ↔
      other ≠ key ∧ (other.rule = key.display ∨ other.display = key.display) := by
  constructor
  · intro h
    refine ⟨h.ne, ?_⟩
    cases h with
    | bareName hrule => exact .inl hrule
    | earlierColon hdivided => exact .inr hdivided.display_eq.symm
    | laterColon hdivided => exact .inr hdivided.display_eq
  · rintro ⟨hne, hrule | hdisplay⟩
    · exact .bareName hrule
    · rcases display_eq_iff.1 hdisplay with hsame | hdivided | hdivided
      · exact absurd hsame hne
      · exact .laterColon hdivided
      · exact .earlierColon hdivided

instance (key other : RuleKey) : Decidable (key.Collides other) :=
  decidable_of_iff _ collides_iff.symm

end RuleKey

/-! ## Switching off by a displayed key -/

/-- A displayed key leaves on all but its own rule and those that it collides with. -/
lemma Config.isEnabled_disable_display (key other : RuleKey) :
    (Config.default.disable key.display).isEnabled other = true ↔
      other ≠ key ∧ ¬ key.Collides other := by
  have hnames : (Config.default.disable key.display).isEnabled other = true ↔
      other.rule ≠ key.display ∧ other.display ≠ key.display := by
    simp [Config.isEnabled, Config.disable, Config.default, Config.bounded, ← Bool.not_eq_true]
  rw [hnames, RuleKey.collides_iff]
  constructor
  · rintro ⟨hrule, hdisplay⟩
    have hne : other ≠ key := fun hsame => hdisplay (congrArg RuleKey.display hsame)
    exact ⟨hne, fun h => h.2.elim hrule hdisplay⟩
  · rintro ⟨hne, hapart⟩
    exact ⟨fun hrule => hapart ⟨hne, .inl hrule⟩, fun hdisplay => hapart ⟨hne, .inr hdisplay⟩⟩

namespace Registry

/-- If no key is held twice, leaving out a key that is held leaves out one entry. -/
lemma exists_filter_ne_eq_append {registry : Registry} (h : registry.keys.Nodup) {key : RuleKey}
    (hkey : key ∈ registry.keys) :
    ∃ earlier entry later, registry.entries = earlier ++ entry :: later ∧ entry.key = key ∧
      registry.entries.filter (fun other => other.key ≠ key) = earlier ++ later := by
  obtain ⟨entry, hentry, rfl⟩ := mem_keys.1 hkey
  obtain ⟨earlier, later, hsplit, hothers⟩ := exists_split_of_mem h hentry
  refine ⟨earlier, entry, later, hsplit, rfl, ?_⟩
  rw [hsplit, List.filter_append, List.filter_cons_of_neg (by simp), ← List.filter_append]
  exact List.filter_eq_self.2 fun other hother => decide_eq_true (hothers other hother)

/-- **A displayed key switches off its own rule and those that it collides with.**  In a registry
that was put together by calls, switch off the displayed form of a key that is held.  The entries
that are left are, in order, all those whose key is another one and does not collide with this key.
A collision takes a colon in the name of one of the two rules.  So if the names of the registered
rules have none, whatever their repositories are, exactly the entry of the key is dropped, and the
displayed form of the key is neither displayed for another key nor the bare name of a rule. -/
theorem displayed_key_drops_exactly (registry : Registry) (hregistry : registry.Reachable)
    (key : RuleKey) (hkey : key ∈ registry.keys) :
    let kept := registry.enabledBy (Config.default.disable key.display)
    kept.entries =
        registry.entries.filter (fun entry => entry.key ≠ key ∧ ¬ key.Collides entry.key) ∧
      (∀ other, key.Collides other → ':' ∈ key.rule.toList ∨ ':' ∈ other.rule.toList) ∧
      ((∀ other ∈ registry.keys, ':' ∉ other.rule.toList) →
        (∃ earlier entry later, registry.entries = earlier ++ entry :: later ∧ entry.key = key ∧
          kept.entries = earlier ++ later) ∧
        ∀ other ∈ registry.keys, other.rule ≠ key.display ∧
          (other.display = key.display → other = key)) := by
  intro kept
  have hkept : kept.entries =
      registry.entries.filter fun entry => entry.key ≠ key ∧ ¬ key.Collides entry.key :=
    List.filter_congr fun entry _ => by
      rw [Bool.eq_iff_iff, decide_eq_true_iff]
      exact Config.isEnabled_disable_display key entry.key
  refine ⟨hkept, fun other => RuleKey.Collides.colon_mem, fun hplain => ?_⟩
  have hapart : ∀ other ∈ registry.keys, ¬ key.Collides other := by
    intro other hother hcollides
    exact hcollides.colon_mem.elim (hplain key hkey) (hplain other hother)
  constructor
  · obtain ⟨earlier, entry, later, hsplit, hentry, hothers⟩ :=
      exists_filter_ne_eq_append hregistry.nodup_keys hkey
    refine ⟨earlier, entry, later, hsplit, hentry, ?_⟩
    rw [hkept, ← hothers]
    refine List.filter_congr fun other hother => ?_
    rw [decide_eq_decide]
    exact and_iff_left (hapart other.key (List.mem_map_of_mem hother))
  · intro other hother
    refine ⟨fun hrule => hapart other hother (.bareName hrule), fun hdisplay => ?_⟩
    by_contra hne
    exact hapart other hother (RuleKey.collides_iff.2 ⟨hne, .inr hdisplay⟩)

/-- Two repositories have the same rule, and the name of the one starts with the name of the other
and a colon.  A third has a rule with the name of a repository. -/
theorem displayed_key_drops_exactly_in_nested_repository :
    let check (rule : String) : Check := ⟨⟨rule, rule, "", .info⟩, fun _ => .nothing⟩
    let registry := empty.registerAll
      [.of "lab" (check "Depth"), .of "lab:old" (check "Depth"), .of "lab" (check "lab")]
    let key : RuleKey := ⟨"lab:old", "Depth"⟩
    let kept := registry.enabledBy (Config.default.disable key.display)
    (registry.Reachable ∧ key ∈ registry.keys ∧
        ∀ other ∈ registry.keys, ':' ∉ other.rule.toList) ∧
      kept.keys = [⟨"lab", "Depth"⟩, ⟨"lab", "lab"⟩] ∧
      ∃ earlier entry later, registry.entries = earlier ++ entry :: later ∧ entry.key = key ∧
        kept.entries = earlier ++ later := by
  intro check registry key kept
  have hregistry : registry.Reachable := ⟨_, .inl rfl⟩
  have hkey : key ∈ registry.keys := by decide
  have hplain : ∀ other ∈ registry.keys, ':' ∉ other.rule.toList := by decide
  obtain ⟨-, -, hone⟩ := displayed_key_drops_exactly registry hregistry key hkey
  exact ⟨⟨hregistry, hkey, hplain⟩, by decide, (hone hplain).1⟩

/-- A displayed key may switch off other rules: one that has it for its bare name, and one that is
displayed alike. -/
theorem displayed_key_drops_other_rules :
    let check (rule : String) : Check := ⟨⟨rule, rule, "", .info⟩, fun _ => .nothing⟩
    let registry := empty.registerAll
      [.of "a" (check "b:c"), .of "x" (check "a:b:c"), .of "a:b" (check "c"), .of "x" (check "c")]
    let key : RuleKey := ⟨"a", "b:c"⟩
    let kept := registry.enabledBy (Config.default.disable key.display)
    registry.Reachable ∧ key ∈ registry.keys ∧
      registry.keys.filter (fun other => other ≠ key) =
        [⟨"x", "a:b:c"⟩, ⟨"a:b", "c"⟩, ⟨"x", "c"⟩] ∧
      kept.keys = [⟨"x", "c"⟩] ∧
      kept.entries ≠ registry.entries.filter fun entry => entry.key ≠ key := by
  intro check registry key kept
  refine ⟨⟨_, .inl rfl⟩, by decide, by decide, by decide, fun h => ?_⟩
  have hlength := congrArg List.length h
  exact absurd hlength (by decide)

end Registry

end SyntaxLint
