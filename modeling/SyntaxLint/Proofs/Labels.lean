import Mathlib
import SyntaxLint.Proofs.Escape
import SyntaxLint.Tree.Node

/-!
# Labels of a rendering

Both renderings of a tree write a `Label` for each element, the escaped text of a token or the name
of a node, and put signs of their own around the elements of a node that has some.  A token and a
node without elements are nothing but a label.  So a forest is empty, or begins with a labelled
element, or begins with a branch, a node that has elements, and facts about renderings are proved
by induction along these three cases (`Forest.labelInduction`).

A reader finds the end of a label at the first character that no label has (`append_inj_of_stop`).
Which characters these are is known for names, which consist of small letters and hyphens
(`Kind.not_mem_name`).  For tokens it is a matter of their texts, because escaping brings in nothing
but backslashes and the letters of escapes (`Text.mem_or_of_mem_escapeChars`).
-/

namespace SyntaxLint

/-- What two lists begin with is the same, and so is what follows it, if in both it ends at the
first item without a certain property. -/
lemma append_inj_of_stop {α : Type} {p : α → Bool} {a b x y : List α} (ha : ∀ c ∈ a, p c = true)
    (hb : ∀ c ∈ b, p c = true) (hx : ∀ c ∈ x.head?, p c = false) (hy : ∀ c ∈ y.head?, p c = false)
    (h : a ++ x = b ++ y) : a = b ∧ x = y := by
  have hbegin : ∀ {l r : List α}, (∀ c ∈ l, p c = true) → (∀ c ∈ r.head?, p c = false) →
      (l ++ r).takeWhile p = l := by
    intro l r hl hr
    rw [List.takeWhile_append_of_pos hl]
    cases r with
    | nil => simp
    | cons c r => simp [hr c rfl]
  have hab : a = b := by rw [← hbegin ha hx, h, hbegin hb hy]
  subst hab
  exact ⟨rfl, List.append_cancel_left h⟩

namespace Kind

/-- Whether a character may be in a name: it is a small letter or a hyphen. -/
def isNameChar (c : Char) : Bool :=
  c.isLower || c = '-'

lemma name_chars (kind : Kind) :
    kind.name.toList ≠ [] ∧ kind.name.toList.all isNameChar = true := by
  cases kind <;> simp [name, isNameChar]

/-- No other character is in a name. -/
lemma not_mem_name (kind : Kind) {c : Char} (h : isNameChar c = false) : c ∉ kind.name.toList := by
  intro hmem
  have hchar := List.all_eq_true.1 kind.name_chars.2 c hmem
  rw [h] at hchar
  exact Bool.false_ne_true hchar

end Kind

namespace Text

/-- Escaping brings in backslashes and the letters of escapes only. -/
lemma mem_or_of_mem_escapeChars {c : Char} {text : List Char} (h : c ∈ escapeChars text) :
    c ∈ text ∨ c ∈ escapeLetters := by
  induction text with
  | nil => exact absurd h List.not_mem_nil
  | cons d ds ih =>
    cases hletter : escapeLetter? d with
    | some letter =>
      have hmem : letter ∈ escapeLetters := mem_escapeLetters_iff.2 ⟨d, hletter⟩
      rw [escapeChars_of_letter ds hletter, List.mem_cons, List.mem_cons] at h
      rcases h with rfl | rfl | h
      · exact .inr (by decide)
      · exact .inr hmem
      · exact (ih h).imp_left (List.mem_cons_of_mem d)
    | none =>
      rw [escapeChars_of_no_letter ds hletter, List.mem_cons] at h
      rcases h with rfl | h
      · exact .inl List.mem_cons_self
      · exact (ih h).imp_left (List.mem_cons_of_mem d)

/-- A text without backslashes is read as it stands. -/
lemma unescapeChars_of_not_mem {text : List Char} (h : '\\' ∉ text) :
    unescapeChars text = text := by
  induction text with
  | nil => rfl
  | cons c cs ih =>
    rw [List.mem_cons, not_or] at h
    rw [unescapeChars_of_ne cs (Ne.symm h.1), ih h.2]

/-- No text but a name itself is escaped to look like the name. -/
lemma eq_name_of_escapeChars_eq {text : List Char} {kind : Kind}
    (h : escapeChars text = kind.name.toList) : text = kind.name.toList := by
  have hslash : '\\' ∉ kind.name.toList := kind.not_mem_name (by decide)
  rw [← unescapeChars_escapeChars text, h, unescapeChars_of_not_mem hslash]

end Text

/-- What a rendering writes for an element, the elements of a node apart. -/
inductive Label where
  | name (kind : Kind)
  | word (text : String)

namespace Label

/-- How a label is written. -/
def chars : Label → List Char
  | name kind => kind.name.toList
  | word text => Text.escapeChars text.toList

/-- No label has a raw blank. -/
lemma no_blank (label : Label) : ∀ c ∈ label.chars, c ∉ Text.rawBlanks := by
  cases label with
  | name kind =>
    intro c hc hblank
    simp only [Text.rawBlanks, List.mem_cons, List.not_mem_nil, or_false] at hblank
    rcases hblank with rfl | rfl | rfl <;> exact kind.not_mem_name (by decide) hc
  | word text => exact (Text.wellEscaped_escapeChars text.toList).no_blank

/-- A label is the name of a kind, or a text with a certain property. -/
inductive IsNameOr (P : String → Prop) : Label → Prop where
  | name (kind : Kind) : IsNameOr P (name kind)
  | word {text : String} (h : P text) : IsNameOr P (word text)

end Label

/-- The forest with a certain tree as its only element. -/
def Tree.single {κ : Type} (tree : Tree κ) : Forest κ :=
  .node tree.kind tree.line tree.elements .nil

namespace Forest

/-- A forest that begins with an element that is nothing but a label: a token, or a node without
elements. -/
def labelled : Label → UInt32 → Forest Kind → Forest Kind
  | .name kind, line, rest => .node kind line .nil rest
  | .word text, line, rest => .token ⟨text, line⟩ rest

/-- A fact about all forests, from the three ways in which a rendering goes on. -/
@[elab_as_elim]
lemma labelInduction {motive : Forest Kind → Prop} (nil : motive .nil)
    (labelled : ∀ label line rest, motive rest → motive (labelled label line rest))
    (branch : ∀ kind line inner rest, inner ≠ .nil → motive inner → motive rest →
      motive (.node kind line inner rest))
    (forest : Forest Kind) : motive forest := by
  induction forest with
  | nil => exact nil
  | token t rest ih => exact labelled (.word t.text) t.line rest ih
  | node kind line inner rest ihInner ihRest =>
    by_cases hinner : inner = .nil
    · rw [hinner]
      exact labelled (.name kind) line rest ihRest
    · exact branch kind line inner rest hinner ihInner ihRest

/-- The texts of all tokens, at any depth, have a certain property. -/
def AllTexts (P : String → Prop) (forest : Forest Kind) : Prop :=
  ∀ t ∈ forest.tokens, P t.text

section AllTexts

variable {P : String → Prop} {line : UInt32} {rest : Forest Kind}

lemma AllTexts.of_labelled {label : Label} (h : (labelled label line rest).AllTexts P) :
    label.IsNameOr P ∧ rest.AllTexts P := by
  cases label with
  | name kind => exact ⟨.name kind, by simpa [AllTexts, labelled, tokens] using h⟩
  | word text =>
    have hboth : P text ∧ rest.AllTexts P := by simpa [AllTexts, labelled, tokens] using h
    exact ⟨.word hboth.1, hboth.2⟩

lemma allTexts_node {kind : Kind} {inner : Forest Kind} :
    (node kind line inner rest).AllTexts P ↔ inner.AllTexts P ∧ rest.AllTexts P := by
  simp [AllTexts, tokens, or_imp, forall_and]

lemma allTexts_single {node : Node} : node.single.AllTexts P ↔ node.elements.AllTexts P := by
  simp [AllTexts, Tree.single, tokens]

end AllTexts

end Forest

end SyntaxLint
