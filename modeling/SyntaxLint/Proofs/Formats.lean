import Mathlib
import SyntaxLint.Issue
import SyntaxLint.Proofs.Disabling
import SyntaxLint.Proofs.RawTree

/-!
# Written values are read back

A decoder belongs to a writer if it makes every written value out of its outline again
(`Decoder.Reads`).  Then it also reads the value from its compact text (`Decoder.Reads.ofText`).

This passes from the parts of a record to the record.  A written record is the list of its members.
They set the slots of a draft one after another, each to the value that was written and none of them
twice (`Record.Sets`), so reading them ends with the draft in which all parts are known
(`Record.Sets.foldlM_member`).  For each type of record it remains to name the decoders of its fields
(`RuleKey.reads`, `RuleMetadata.reads`, `Issue.reads`, `Config.reads`).

A configuration holds its names as a set, which is written in the order of code points.  So its text
says which names were switched off and nothing of how they were listed
(`written_formats_are_read_back`).
-/

namespace SyntaxLint

/-! ## Decoders and writers -/

/-- A decoder reads what a writer writes.  The text of a written value is read wherever it stands,
and the decoder makes the value out of its outline again. -/
structure Decoder.Reads {α : Type} (decoder : Decoder α) (write : α → Json) : Prop where
  readsBack : ∀ value, (write value).ReadsBack
  decode : ∀ value, decoder (write value).outline = .ok value

namespace Decoder

lemma Reads.ofText {α : Type} {decoder : Decoder α} {write : α → Json} (h : decoder.Reads write)
    (value : α) : decoder.ofText (write value).compact = .ok value := by
  rw [ofText_compact decoder (h.readsBack value), h.decode]

lemma reads_string : string.Reads Json.string where
  readsBack := Json.readsBack_string
  decode _ := rfl

lemma below_nat {n bound : Nat} (h : n < bound) (wanted : Wanted) :
    below bound wanted (Json.nat n).outline = .ok n := by
  have hrange : 0 ≤ (n : Int) ∧ (n : Int) < bound := by omega
  exact if_pos hrange

lemma reads_line : line.Reads fun number => .nat number.toNat where
  readsBack := RawElement.readsBack_line
  decode number := by
    rw [line, below_nat number.toNat_lt, Except.map, UInt32.ofNat_toNat]

lemma reads_depth : depth.Reads fun number => .nat number.toNat where
  readsBack number := Json.readsBack_nat number.toNat_lt
  decode number := by
    rw [depth, below_nat number.toNat_lt, Except.map, UInt64.ofNat_toNat]

end Decoder

/-! ## Records -/

namespace Record

variable {δ α : Type} {record : Record δ α} {draft last : δ} {members : List (String × Json)}

/-- Written members set the slots of a draft one after another, none of them twice, to the values
that were written. -/
inductive Sets (record : Record δ α) : δ → List (String × Json) → δ → Prop where
  | nil (draft : δ) : record.Sets draft [] draft
  | cons {β : Type} {name : String} {get : δ → Option β} {set : δ → β → δ} {decoder : Decoder β}
      {write : β → Json} {draft last : δ} {members : List (String × Json)}
      (hreads : decoder.Reads write) (value : β)
      (hfield : record.fields.find? (fun field => field.name = name) =
        some (.slot name get set decoder))
      (hunset : get draft = none) (hrest : record.Sets (set draft value) members last) :
      record.Sets draft ((name, write value) :: members) last

lemma member_slot {β : Type} {name : String} {get : δ → Option β} {set : δ → β → δ}
    {decoder : Decoder β} {value : β} {outline : Outline}
    (hfield : record.fields.find? (fun field => field.name = name) =
      some (.slot name get set decoder))
    (hunset : get draft = none) (hvalue : decoder outline = .ok value) :
    record.member draft (some name, outline) = .ok (set draft value) := by
  simp [member, hfield, Field.slot, hunset, hvalue, Except.map]

lemma Sets.foldlM_member (h : record.Sets draft members last) :
    (Json.membersOutline members).foldlM record.member draft = .ok last := by
  induction h with
  | nil draft => rfl
  | cons hreads value hfield hunset _ ih =>
    rw [Json.membersOutline, List.foldlM_cons, member_slot hfield hunset (hreads.decode value)]
    exact ih

lemma Sets.readsBack_members (h : record.Sets draft members last) :
    ∀ member ∈ members, member.2.ReadsBack := by
  induction h with
  | nil draft => simp
  | cons hreads value _ _ _ ih => exact List.forall_mem_cons.2 ⟨hreads.readsBack value, ih⟩

/-- A record is read back if its members set the slots of a draft that is finished to the value they
were written from. -/
lemma reads {write : α → List (String × Json)}
    (h : ∀ value, ∃ draft, record.Sets record.blank (write value) draft ∧
      record.finish draft = .ok value) :
    Decoder.Reads record.decode fun value => .object (write value) where
  readsBack value := by
    obtain ⟨draft, hsets, -⟩ := h value
    exact Json.readsBack_object hsets.readsBack_members
  decode value := by
    obtain ⟨draft, hsets, hfinish⟩ := h value
    rw [Json.outline, decode, hsets.foldlM_member]
    simp [bind, Except.bind, hfinish, pure, Except.pure]

end Record

/-! ## The formats -/

lemma Priority.reads : Priority.decoder.Reads Priority.toJson where
  readsBack priority := Json.readsBack_string priority.name
  decode priority := by cases priority <;> rfl

lemma RuleKey.reads : RuleKey.decoder.Reads RuleKey.toJson :=
  Record.reads fun key => ⟨⟨some key.repository, some key.rule⟩,
    .cons Decoder.reads_string key.repository rfl rfl <|
    .cons Decoder.reads_string key.rule rfl rfl <| .nil _, rfl⟩

lemma RuleMetadata.reads : RuleMetadata.decoder.Reads RuleMetadata.toJson :=
  Record.reads fun metadata =>
    ⟨⟨some metadata.key, some metadata.name, some metadata.description, some metadata.priority⟩,
    .cons RuleKey.reads metadata.key rfl rfl <|
    .cons Decoder.reads_string metadata.name rfl rfl <|
    .cons Decoder.reads_string metadata.description rfl rfl <|
    .cons Priority.reads metadata.priority rfl rfl <| .nil _, rfl⟩

lemma Issue.reads : Issue.decoder.Reads Issue.toJson :=
  Record.reads fun issue => ⟨⟨some issue.rule, some issue.line, some issue.message⟩,
    .cons RuleKey.reads issue.rule rfl rfl <|
    .cons Decoder.reads_line issue.line rfl rfl <|
    .cons Decoder.reads_string issue.message rfl rfl <| .nil _, rfl⟩

/-! ## Configurations -/

/-- The code points of a text. -/
def codePoints (text : String) : List Nat :=
  text.toList.map Char.toNat

lemma codePoints_lt {a b : String} (h : a < b) : codePoints a < codePoints b :=
  List.map_lt (fun _ _ hchar => hchar) (String.lt_iff_toList_lt.1 h)

lemma NameSet.increasing_codePoints (names : NameSet) :
    (names.toList.map codePoints).Pairwise (· < ·) :=
  List.pairwise_map.2 (names.increasing.imp codePoints_lt)

lemma NameSet.ofList_toList (names : NameSet) : NameSet.ofList names.toList = names :=
  NameSet.ext_mem fun _ => NameSet.mem_ofList

lemma Json.itemsOutline_string (texts : List String) :
    itemsOutline (texts.map .string) = texts.map fun text => .scalar (some (.string text)) := by
  induction texts with
  | nil => rfl
  | cons text texts ih =>
    rw [List.map_cons, itemsOutline, ih]
    rfl

namespace Config

lemma reads_names : namesDecoder.Reads fun names => .array (names.toList.map .string) where
  readsBack names := Json.readsBack_array fun item hitem => by
    obtain ⟨name, -, rfl⟩ := List.mem_map.1 hitem
    exact Json.readsBack_string name
  decode names := by
    rw [Json.outline, Json.itemsOutline_string, ← listing, namesDecoder_listing,
      NameSet.ofList_toList]

lemma reads : decoder.Reads toJson :=
  Record.reads fun config => ⟨⟨some config.maxDepth, some config.disabledRules⟩,
    .cons Decoder.reads_depth config.maxDepth rfl rfl <|
    .cons reads_names config.disabledRules rfl rfl <| .nil _, rfl⟩

/-- A configuration is read from its text unless it cannot be used. -/
lemma ofText_toJson_compact (config : Config) :
    ofText config.toJson.compact =
      if config.maxDepth = 0 then .error (.invalidMaxDepth 0) else .ok config := by
  rw [ofText, reads.ofText]
  change config.validate = _
  unfold validate
  split
  · next h => rw [h]
  · rfl

/-- The text of a configuration tells its depth bound and its set of names, and nothing else. -/
lemma Built.toJson_compact_eq_iff {names others : List String} {config other : Config}
    (h : Built names config) (hother : Built others other) :
    config.toJson.compact = other.toJson.compact ↔
      config.maxDepth = other.maxDepth ∧ ∀ name, name ∈ names ↔ name ∈ others := by
  constructor
  · intro htext
    have hread : Except.ok config = decoder.ofText other.toJson.compact := by
      rw [← htext, reads.ofText]
    have hsame : config = other := Except.ok.inj (hread.trans (reads.ofText other))
    subst hsame
    exact ⟨rfl, fun name => by rw [← h.mem_iff, hother.mem_iff]⟩
  · rintro ⟨hdepth, hnames⟩
    rw [h.eq_of_names hother hdepth.symm hnames]

end Config

/-- **What is written is read back.**  The compact text of every key, every rule's metadata, every
issue and every configuration is read as that value.  Where a configuration has to be usable, it is
read unless its depth bound is zero, which is what is then complained of.

However a configuration was put together, from a document and by switching off rules one by one, its
rules are listed in strictly increasing order of their code points, and they are the ones that were
named.  So configurations are written alike if and only if they have the same depth bound and the
same set of names, in whatever order and however often these were given. -/
theorem written_formats_are_read_back :
    (∀ key : RuleKey, RuleKey.decoder.ofText key.toJson.compact = .ok key) ∧
    (∀ metadata : RuleMetadata,
      RuleMetadata.decoder.ofText metadata.toJson.compact = .ok metadata) ∧
    (∀ issue : Issue, Issue.decoder.ofText issue.toJson.compact = .ok issue) ∧
    (∀ config : Config,
      Config.decoder.ofText config.toJson.compact = .ok config ∧
      Config.ofText config.toJson.compact =
        if config.maxDepth = 0 then .error (.invalidMaxDepth 0) else .ok config) ∧
    ∀ (names : List String) (config : Config), Config.Built names config →
      (config.disabledRules.toList.map codePoints).Pairwise (· < ·) ∧
      (∀ name, name ∈ config.disabledRules.toList ↔ name ∈ names) ∧
      ∀ (others : List String) (other : Config), Config.Built others other →
        (config.toJson.compact = other.toJson.compact ↔
          config.maxDepth = other.maxDepth ∧ ∀ name, name ∈ names ↔ name ∈ others) := by
  refine ⟨RuleKey.reads.ofText, RuleMetadata.reads.ofText, Issue.reads.ofText,
    fun config => ⟨Config.reads.ofText config, config.ofText_toJson_compact⟩, ?_⟩
  intro names config hbuilt
  exact ⟨config.disabledRules.increasing_codePoints, hbuilt.mem_iff, fun others other hother =>
    hbuilt.toJson_compact_eq_iff hother⟩

/-- A document lists two names, one of them twice, and a third one is switched off after it.  The
same names, switched off in another order, give the same text.  The last two names stand in the order
of their code points, which is not that of their 16-bit code units. -/
theorem written_formats_are_read_back_relisted :
    ∃ read : Config,
      Config.ofText "[7, [\"𐀀\", \"b\", \"𐀀\"]]" = .ok read ∧
      (read.disable "｡").disabledRules.toList = ["b", "｡", "𐀀"] ∧
      (["b", "｡", "𐀀"].map codePoints).Pairwise (· < ·) ∧
      (read.disable "｡").toJson.compact =
        ((((Config.bounded 7).disable "𐀀").disable "｡").disable "b").toJson.compact ∧
      (read.disable "｡").toJson.compact ≠ read.toJson.compact := by
  have hdocument : Document.ofText "[7, [\"𐀀\", \"b\", \"𐀀\"]]" =
      ⟨.array [.scalar (some (.number (.integer 7))), Config.listing ["𐀀", "b", "𐀀"]] true,
        false⟩ := by cbv
  have hread : Config.ofText "[7, [\"𐀀\", \"b\", \"𐀀\"]]" = .ok ⟨7, .ofList ["𐀀", "b"]⟩ := by
    rw [Config.ofText, Decoder.ofText, hdocument]
    decide
  have hbuilt : Config.Built ["𐀀", "b", "𐀀"] ⟨7, .ofList ["𐀀", "b"]⟩ := by
    have h := Config.Built.read hread
    rwa [hdocument] at h
  have hlist : (Config.disable ⟨7, .ofList ["𐀀", "b"]⟩ "｡").disabledRules.toList =
      ["b", "｡", "𐀀"] := by decide
  obtain ⟨-, -, -, -, hconfigs⟩ := written_formats_are_read_back
  obtain ⟨hincreasing, -, htext⟩ := hconfigs _ _ (hbuilt.disable "｡")
  refine ⟨_, hread, hlist, hlist ▸ hincreasing, ?_, ?_⟩
  · refine (htext _ _ (.disable "b" (.disable "｡" (.disable "𐀀" (.bounded 7))))).2 ⟨rfl, ?_⟩
    intro name
    simp only [List.mem_append, List.mem_cons, List.not_mem_nil]
    tauto
  · intro hsame
    have hnames := ((htext _ _ hbuilt).1 hsame).2 "｡"
    exact absurd hnames (by decide)

end SyntaxLint
