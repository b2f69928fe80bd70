import Mathlib
import SyntaxLint.Json.Decoder
import SyntaxLint.Proofs.Json.Scan

/-!
# Compact texts are read back

The reader keeps the containers that are still open on a stack and never returns from one; it reads on
with one container less.  So what it makes of the compact text of a value is stated for any stack and
any text that may follow: the outline of the value is handed to the innermost open container, and
reading goes on after the value (`Json.ReadsBack`).

Strings and natural numbers of 64 bits read back, and so do arrays and objects of values that do
(`Json.readsBack_array`, `Json.readsBack_object`).  A whole text that reads back is a document without
a break and with nothing after it (`Json.ReadsBack.ofText_compact`).
-/

namespace SyntaxLint

/-! ## The outline of a value -/

namespace Json

mutual

/-- A value as the outline of a text that gives it in full. -/
def outline : Json → Outline
  | .scalar value => .scalar (some value)
  | .array items => .array (itemsOutline items) true
  | .object members => .object (membersOutline members) true

/-- The outlines of the items of an array. -/
def itemsOutline : List Json → List Outline
  | [] => []
  | item :: items => item.outline :: itemsOutline items

/-- The outlines of the members of an object. -/
def membersOutline : List (String × Json) → List (Option String × Outline)
  | [] => []
  | (name, value) :: members => (some name, value.outline) :: membersOutline members

end

mutual

/-- An outline that gives a value in full stands for that value. -/
lemma toJson?_outline : ∀ value : Json, value.outline.toJson? = some value
  | .scalar value => by rw [outline, Outline.toJson?]
  | .array items => by rw [outline, Outline.toJson?, itemsToJson?_outline, Option.map_some]
  | .object members => by rw [outline, Outline.toJson?, membersToJson?_outline, Option.map_some]

lemma itemsToJson?_outline : ∀ items : List Json,
    Outline.itemsToJson? (itemsOutline items) = some items
  | [] => by rw [itemsOutline, Outline.itemsToJson?]
  | item :: items => by
    rw [itemsOutline, Outline.itemsToJson?, toJson?_outline, itemsToJson?_outline]
    rfl

lemma membersToJson?_outline : ∀ members : List (String × Json),
    Outline.membersToJson? (membersOutline members) = some members
  | [] => by rw [membersOutline, Outline.membersToJson?]
  | (name, value) :: members => by
    rw [membersOutline, Outline.membersToJson?, toJson?_outline, membersToJson?_outline]
    rfl

end

/-- Wherever the compact text of a value stands, reading it hands the outline of the value to the
innermost open container and goes on after it. -/
def ReadsBack (value : Json) : Prop :=
  ∀ (frames : List Frame) (after : List Char), Delimited after →
    ∃ c rest, value.compactOnto after = c :: rest ∧ isJsonBlank c = false ∧ c ≠ ']' ∧
      Document.readValue frames c rest = Document.deliver frames value.outline after

end Json

/-! ## Steps of the reader -/

namespace Document

section Steps

variable {frames outer : List Frame} {items : List Outline}
  {members : List (Option String × Outline)} {rest : List Char}

lemma readAt_value (c : Char) : readAt frames .value c rest = readValue frames c rest := by
  rw [readAt]

lemma readAt_firstItem {c : Char} (h : c ≠ ']') :
    readAt (.array items :: outer) .firstItem c rest =
      readValue (.array items :: outer) c rest := by
  rw [readAt, if_neg h]

lemma deliver_cons (frame : Frame) (value : Outline) :
    deliver (frame :: outer) value rest = read (frame.put value :: outer) .separator rest := by
  rw [deliver]

lemma readValue_array :
    readValue frames '[' rest = read (.array [] :: frames) .firstItem rest := by
  rw [readValue, if_pos rfl]

lemma readValue_object :
    readValue frames '\x7b' rest = read (.object [] :: frames) .firstName rest := by
  rw [readValue, if_neg (by decide), if_pos rfl]

/-- A name in its quotes, with the colon after it, opens a member. -/
lemma readName_stringChars (name : String) :
    readName members outer (name.toList.flatMap Json.stringChar ++ '"' :: ':' :: rest) =
      read (.member members (some name) :: outer) .value rest := by
  rw [readName_of_string (Lexeme.string?_of_stringChars name (':' :: rest)),
    read_cons (by decide), readAt, if_pos rfl]

lemma stringChars_append (name : String) :
    Json.stringChars name ++ ':' :: rest =
      '"' :: (name.toList.flatMap Json.stringChar ++ '"' :: ':' :: rest) := by
  simp [Json.stringChars]

lemma read_name (name : String) :
    read (.object members :: outer) .name (Json.stringChars name ++ ':' :: rest) =
      read (.member members (some name) :: outer) .value rest := by
  rw [stringChars_append, read_cons (by decide), readAt, if_pos rfl, readName_stringChars]

lemma read_firstName (name : String) :
    read (.object members :: outer) .firstName (Json.stringChars name ++ ':' :: rest) =
      read (.member members (some name) :: outer) .value rest := by
  rw [stringChars_append, read_cons (by decide), readAt, if_neg (by decide), if_pos rfl,
    readName_stringChars]

end Steps

end Document

namespace Json

open Document

lemma ReadsBack.read_value {value : Json} (h : value.ReadsBack) (frames : List Frame)
    {after : List Char} (hafter : Delimited after) :
    read frames .value (value.compactOnto after) = deliver frames value.outline after := by
  obtain ⟨c, rest, htext, hblank, -, hread⟩ := h frames after hafter
  rw [htext, read_cons hblank, readAt_value, hread]

/-! ## Scalars -/

lemma readsBack_string (text : String) : (Json.string text).ReadsBack := by
  intro frames after _
  refine ⟨'"', _, rfl, by decide, by decide, ?_⟩
  exact readValue_of_scalar (by decide) (by decide) (Lexeme.scalar?_stringChars text after)

lemma readsBack_nat {n : Nat} (hn : n < UInt64.size) : (Json.nat n).ReadsBack := by
  intro frames after hafter
  have hscalar := Lexeme.scalar?_toDigits hn hafter
  have htext : (Json.nat n).compactOnto after = Nat.toDigits 10 n ++ after := by
    rw [Json.nat, compactOnto, scalarChars, numberChars, integerChars, if_neg (by omega),
      Int.natAbs_natCast]
  obtain ⟨d, ds, hdigits, hd⟩ := Lexeme.exists_cons_toDigits n
  rw [htext]
  rw [hdigits, List.cons_append] at hscalar ⊢
  have hne : ∀ c : Char, c.isDigit = false → d ≠ c := by
    rintro c hc rfl
    exact absurd hd (by simp [hc])
  refine ⟨d, ds ++ after, rfl, ?_, hne ']' (by decide),
    readValue_of_scalar (hne '[' (by decide)) (hne '\x7b' (by decide)) hscalar⟩
  simp [isJsonBlank, hne ' ' (by decide), hne '\t' (by decide), hne '\n' (by decide),
    hne '\r' (by decide)]

/-! ## Arrays -/

lemma delimited_itemsOnto (items : List Json) (after : List Char) :
    Delimited (itemsOnto items after) := by
  cases items with
  | nil => exact delimited_cons _ (by simp)
  | cons item items => exact delimited_cons _ (by simp)

/-- After the first item, the other items of an array are read one by one up to its bracket. -/
lemma read_itemsOnto {items : List Json} (hitems : ∀ item ∈ items, item.ReadsBack)
    (done : List Outline) (outer : List Frame) (after : List Char) :
    read (.array done :: outer) .separator (itemsOnto items after) =
      deliver outer (.array (done.reverse ++ itemsOutline items) true) after := by
  induction items generalizing done with
  | nil =>
    rw [itemsOnto, read_cons (by decide), readAt, if_neg (by decide), if_pos rfl, itemsOutline,
      List.append_nil]
  | cons item items ih =>
    have hitem := hitems item (by simp)
    have hrest := ih (fun other hother => hitems other (by simp [hother])) (item.outline :: done)
    rw [itemsOnto, read_cons (by decide), readAt, if_pos rfl,
      hitem.read_value _ (delimited_itemsOnto items after), deliver_cons, Frame.put, hrest,
      itemsOutline, List.reverse_cons, List.append_assoc]
    rfl

/-- An array of values that read back reads back. -/
lemma readsBack_array {items : List Json} (hitems : ∀ item ∈ items, item.ReadsBack) :
    (Json.array items).ReadsBack := by
  intro frames after _
  cases items with
  | nil =>
    refine ⟨'[', ']' :: after, by rw [compactOnto], by decide, by decide, ?_⟩
    rw [readValue_array, read_cons (by decide), readAt, if_pos rfl, outline, itemsOutline]
    rfl
  | cons item items =>
    refine ⟨'[', _, by rw [compactOnto], by decide, by decide, ?_⟩
    obtain ⟨c, rest, htext, hblank, hclose, hread⟩ :=
      hitems item (by simp) (.array [] :: frames) _ (delimited_itemsOnto items after)
    rw [readValue_array, htext, read_cons hblank, readAt_firstItem hclose, hread, deliver_cons,
      Frame.put, read_itemsOnto (fun other hother => hitems other (by simp [hother])), outline,
      itemsOutline]
    rfl

/-! ## Objects -/

lemma delimited_membersOnto (members : List (String × Json)) (after : List Char) :
    Delimited (membersOnto members after) := by
  cases members with
  | nil => exact delimited_cons _ (by simp)
  | cons member members => exact delimited_cons _ (by simp)

/-- After the first member, the other members of an object are read one by one up to its brace. -/
lemma read_membersOnto {members : List (String × Json)}
    (hmembers : ∀ member ∈ members, member.2.ReadsBack)
    (done : List (Option String × Outline)) (outer : List Frame) (after : List Char) :
    read (.object done :: outer) .separator (membersOnto members after) =
      deliver outer (.object (done.reverse ++ membersOutline members) true) after := by
  induction members generalizing done with
  | nil =>
    rw [membersOnto, read_cons (by decide), readAt, if_neg (by decide), if_pos rfl,
      membersOutline, List.append_nil]
  | cons member members ih =>
    obtain ⟨name, value⟩ := member
    have hvalue : value.ReadsBack := hmembers (name, value) (by simp)
    have hrest := ih (fun other hother => hmembers other (by simp [hother]))
      ((some name, value.outline) :: done)
    rw [membersOnto, List.cons_append, read_cons (by decide), readAt, if_pos rfl, read_name,
      hvalue.read_value _ (delimited_membersOnto members after), deliver_cons, Frame.put, hrest,
      membersOutline, List.reverse_cons, List.append_assoc]
    rfl

/-- An object of values that read back reads back. -/
lemma readsBack_object {members : List (String × Json)}
    (hmembers : ∀ member ∈ members, member.2.ReadsBack) : (Json.object members).ReadsBack := by
  intro frames after _
  cases members with
  | nil =>
    refine ⟨'\x7b', '\x7d' :: after, by rw [compactOnto], by decide, by decide, ?_⟩
    rw [readValue_object, read_cons (by decide), readAt, if_pos rfl, outline, membersOutline]
    rfl
  | cons member members =>
    obtain ⟨name, value⟩ := member
    have hvalue : value.ReadsBack := hmembers (name, value) (by simp)
    refine ⟨'\x7b', _, by rw [compactOnto, List.cons_append], by decide, by decide, ?_⟩
    rw [readValue_object, read_firstName,
      hvalue.read_value _ (delimited_membersOnto members after), deliver_cons, Frame.put,
      read_membersOnto (fun other hother => hmembers other (by simp [hother])), outline,
      membersOutline]
    rfl

/-! ## Whole texts -/

/-- The compact text of a value that reads back is a document of that value and nothing more. -/
lemma ReadsBack.ofText_compact {value : Json} (h : value.ReadsBack) :
    Document.ofText value.compact = ⟨value.outline, false⟩ := by
  rw [Document.ofText, compact, String.toList_ofList, h.read_value [] delimited_nil, deliver]
  rfl

end Json

/-- A decoder makes of the compact text of a value what it makes of the outline of the value. -/
lemma Decoder.ofText_compact {α : Type} (decoder : Decoder α) {value : Json}
    (h : value.ReadsBack) : decoder.ofText value.compact = decoder value.outline := by
  rw [Decoder.ofText, h.ofText_compact]
  cases decoder value.outline <;> rfl

end SyntaxLint
