import Mathlib
import SyntaxLint.RawTree
import SyntaxLint.Proofs.Json.Compact

/-!
# Raw trees survive being written

A raw element is written as JSON and read back without loss, however deep it is and whatever its
texts hold (`RawElement.ofText_compact_toJson`).  Three things come together: the JSON value of an
element stands for that element again, the compact text of that value is read as the value, and the
reader of raw trees knows no limit of nesting.

An object does not say whether it is a rule element or a token.  In what is written the two are still
told apart by their members: a token has no member `rule`, so it cannot be taken for a rule element,
and a rule element that has all its members is taken for one before tokens are considered.
-/

namespace SyntaxLint.RawElement

/-! ## JSON values of elements -/

lemma line?_nat (line : UInt32) : line? (.nat line.toNat) = some line := by
  have hline : line.toNat < UInt32.size := line.toNat_lt
  simp [line?, Json.nat, hline]

lemma line?_eq_some_iff {value : Json} {line : UInt32} :
    line? value = some line ↔ value = .nat line.toNat := by
  refine ⟨fun h => ?_, fun h => h ▸ line?_nat line⟩
  unfold line? at h
  split at h
  · next n =>
    split at h
    · next hrange =>
      obtain ⟨m, rfl⟩ := Int.eq_ofNat_of_zero_le hrange.1
      rw [Option.some.injEq, Int.toNat_natCast] at h
      have hm : m < UInt32.size := by exact_mod_cast hrange.2
      rw [← h, UInt32.toNat_ofNat_of_lt' hm, Json.nat]
    · exact absurd h (by simp)
  · exact absurd h (by simp)

lemma text?_eq_some_iff {value : Json} {text : String} :
    text? value = some text ↔ value = .string text := by
  unfold text? Json.string
  split <;> simp_all

lemma only?_eq_some_iff {α : Type} {entries : List (Option α)} {entry : α} :
    only? entries = some entry ↔ entries = [some entry] := by
  rcases entries with _ | ⟨first, _ | ⟨second, rest⟩⟩ <;> simp [only?]

/-- One text under a name is one member of that name, which is a string. -/
lemma textOf?_eq_some_iff {name text : String} {members : List (String × Json)} :
    textOf? name members = some text ↔ valuesOf name members = [.string text] := by
  rw [textOf?, only?_eq_some_iff, List.map_eq_singleton_iff]
  simp only [text?_eq_some_iff, exists_eq_right]

/-- One line is one member `line`, which is an integer in range. -/
lemma lineOf?_eq_some_iff {line : UInt32} {members : List (String × Json)} :
    lineOf? members = some line ↔ valuesOf "line" members = [.nat line.toNat] := by
  rw [lineOf?, only?_eq_some_iff, List.map_eq_singleton_iff]
  simp only [line?_eq_some_iff, exists_eq_right]

/-- A written token has no `rule`, so it is taken for a token. -/
lemma ofJson?_tokenJson (token : Token) : ofJson? (tokenJson token) = some (.token token) := by
  have hrule : textOf? "rule" [("token", .string token.text), ("line", .nat token.line.toNat)] =
      none := by
    simp [textOf?, valuesOf, only?]
  have htext : textOf? "token" [("token", .string token.text), ("line", .nat token.line.toNat)] =
      some token.text :=
    textOf?_eq_some_iff.2 (by simp [valuesOf])
  have hline : lineOf? [("token", .string token.text), ("line", .nat token.line.toNat)] =
      some token.line :=
    lineOf?_eq_some_iff.2 (by simp [valuesOf])
  rw [tokenJson, ofJson?, rule?, hrule, token?, htext, hline]
  rfl

/-- A written rule element is taken for one if its children can be. -/
lemma ofJson?_ruleJson (rule : String) (line : UInt32) {children : List Json}
    {elements : Forest String} (h : items? children = some elements) :
    ofJson? (ruleJson rule line children) = some (.node ⟨rule, line, elements⟩) := by
  have hrule : textOf? "rule"
      [("rule", .string rule), ("line", .nat line.toNat), ("children", .array children)] =
      some rule :=
    textOf?_eq_some_iff.2 (by simp [valuesOf])
  have hline : lineOf?
      [("rule", .string rule), ("line", .nat line.toNat), ("children", .array children)] =
      some line :=
    lineOf?_eq_some_iff.2 (by simp [valuesOf])
  have hchildren : childrenEntries
      [("rule", .string rule), ("line", .nat line.toNat), ("children", .array children)] =
      [some elements] := by
    simp [childrenEntries, forest?, h]
  rw [ruleJson, ofJson?, hchildren, rule?, hrule, hline]
  rfl

/-- The JSON values of a sequence of elements stand for that sequence. -/
lemma items?_forestJson (forest : Forest String) : items? (forestJson forest) = some forest := by
  induction forest with
  | nil => rw [forestJson, items?]
  | token t rest ih =>
    rw [forestJson, items?, ofJson?_tokenJson, ih]
    rfl
  | node rule line inner rest ihInner ihRest =>
    rw [forestJson, items?, ofJson?_ruleJson rule line ihInner, ihRest]
    rfl

/-- The JSON value of an element stands for that element. -/
lemma ofJson?_toJson (element : RawElement) : ofJson? element.toJson = some element := by
  cases element with
  | token token => exact ofJson?_tokenJson token
  | node tree => exact ofJson?_ruleJson tree.kind tree.line (items?_forestJson tree.elements)

/-! ## Texts of elements -/

lemma readsBack_line (line : UInt32) : (Json.nat line.toNat).ReadsBack :=
  Json.readsBack_nat (lt_trans line.toNat_lt (by decide))

lemma readsBack_tokenJson (token : Token) : (tokenJson token).ReadsBack := by
  refine Json.readsBack_object ?_
  simp [Json.readsBack_string, readsBack_line]

lemma readsBack_ruleJson (rule : String) (line : UInt32) {children : List Json}
    (h : ∀ child ∈ children, child.ReadsBack) : (ruleJson rule line children).ReadsBack := by
  refine Json.readsBack_object ?_
  simp [Json.readsBack_string, readsBack_line, Json.readsBack_array h]

lemma readsBack_forestJson (forest : Forest String) :
    ∀ item ∈ forestJson forest, item.ReadsBack := by
  induction forest with
  | nil => simp [forestJson]
  | token t rest ih =>
    rw [forestJson, List.forall_mem_cons]
    exact ⟨readsBack_tokenJson t, ih⟩
  | node rule line inner rest ihInner ihRest =>
    rw [forestJson, List.forall_mem_cons]
    exact ⟨readsBack_ruleJson rule line ihInner, ihRest⟩

lemma readsBack_toJson (element : RawElement) : element.toJson.ReadsBack := by
  cases element with
  | token token => exact readsBack_tokenJson token
  | node tree => exact readsBack_ruleJson tree.kind tree.line (readsBack_forestJson tree.elements)

/-- What is written of an element is read as that element, without a limit of nesting. -/
lemma ofText_compact_toJson (element : RawElement) :
    ofText none element.toJson.compact = .ok element := by
  rw [ofText, Decoder.ofText_compact _ (readsBack_toJson element), decoder,
    Json.toJson?_outline]
  simp [withinLimit, ofJson?_toJson]

/-- **Raw trees survive being written.**  Every element, of any depth and with any texts and lines, is
read back from its compact text.  So different elements have different texts, and an element that was
read from any text is the same after it is written and read once more. -/
theorem ofText_compact_round_trip :
    (∀ element : RawElement, ofText none element.toJson.compact = .ok element) ∧
      Function.Injective (fun element : RawElement => element.toJson.compact) ∧
      ∀ (text : String) (element : RawElement), ofText none text = .ok element →
        ofText none element.toJson.compact = .ok element := by
  refine ⟨ofText_compact_toJson, ?_, fun _ element _ => ofText_compact_toJson element⟩
  intro element other hsame
  have hread := ofText_compact_toJson element
  rw [show element.toJson.compact = other.toJson.compact from hsame,
    ofText_compact_toJson other] at hread
  exact (Except.ok.inj hread).symm

/-- A text with blanks and escapes, with a member that does not matter, without children and with the
greatest line. -/
theorem ofText_round_trip_loose_text :
    ofText none
        "\x7b \"line\" : 4294967295, \"note\": [null], \"rule\": \"\\u0061\\tπ\" \x7d" =
      .ok (.node ⟨"a\tπ", 4294967295, .nil⟩) ∧
    ofText none (toJson (.node ⟨"a\tπ", 4294967295, .nil⟩)).compact =
      .ok (.node ⟨"a\tπ", 4294967295, .nil⟩) := by
  have hread : ofText none
      "\x7b \"line\" : 4294967295, \"note\": [null], \"rule\": \"\\u0061\\tπ\" \x7d" =
      .ok (.node ⟨"a\tπ", 4294967295, .nil⟩) := by
    cbv
  exact ⟨hread, ofText_compact_round_trip.2.2 _ _ hread⟩

end SyntaxLint.RawElement
