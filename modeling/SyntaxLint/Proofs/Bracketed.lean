import Mathlib
import SyntaxLint.Proofs.Labels
import SyntaxLint.Tree.Layout

/-!
# The bracketed form is unambiguous

The bracketed form of a tree forgets the lines.  It forgets nothing else, as long as every token can
be told from the signs around it and from the name of a node without elements (`Text.IsWord`).

The form is read from the left.  At each point one character tells what comes next: a closing
parenthesis ends the elements of a node, and of the elements only a branch begins with an opening
one.  Everything else is a label, which goes on to the next space or closing parenthesis.  So two
forests whose forms are the same, up to the parenthesis that ends them, begin with the same element
and agree on what follows it (`Forest.bracketedOnto_inj`).
-/

namespace SyntaxLint

section Unlined

variable {κ : Type}

/-- The forest with all lines forgotten. -/
def Forest.unlined : Forest κ → Forest κ
  | .nil => .nil
  | .token t rest => .token { t with line := 0 } rest.unlined
  | .node kind _ inner rest => .node kind 0 inner.unlined rest.unlined

/-- The tree with all lines forgotten: kinds, token texts, order and nesting are left. -/
def Tree.unlined (tree : Tree κ) : Tree κ :=
  ⟨tree.kind, 0, tree.elements.unlined⟩

lemma Forest.unlined_eq_nil {forest : Forest κ} : forest.unlined = .nil ↔ forest = .nil := by
  cases forest <;> simp [Forest.unlined]

end Unlined

/-- A text that stands out as a word of a bracketed form: it is not empty, has no space and no
parenthesis, and is not the name of a kind. -/
structure Text.IsWord (text : String) : Prop where
  ne_empty : text ≠ ""
  no_space : ' ' ∉ text.toList
  no_opening : '(' ∉ text.toList
  no_closing : ')' ∉ text.toList
  not_name : ∀ kind : Kind, text ≠ kind.name

instance (text : String) : Decidable (Text.IsWord text) :=
  decidable_of_iff (text ≠ "" ∧ ' ' ∉ text.toList ∧ '(' ∉ text.toList ∧ ')' ∉ text.toList ∧
      ∀ kind ∈ Kind.all, text ≠ kind.name)
    ⟨fun h => ⟨h.1, h.2.1, h.2.2.1, h.2.2.2.1, fun kind => h.2.2.2.2 kind kind.mem_all⟩,
      fun h => ⟨h.ne_empty, h.no_space, h.no_opening, h.no_closing, fun kind _ => h.not_name kind⟩⟩

/-! ## Labels -/

namespace Label

/-- A label that is read back: the name of a kind, or a word. -/
abbrev Readable : Label → Prop :=
  IsNameOr Text.IsWord

/-- Whether a character may be part of a readable label. -/
def mayHave (c : Char) : Bool :=
  c ≠ ' ' && c ≠ '(' && c ≠ ')'

lemma mayHave_of_mem {label : Label} (h : label.Readable) :
    ∀ c ∈ label.chars, mayHave c = true := by
  intro c hc
  suffices hsigns : c ≠ ' ' ∧ c ≠ '(' ∧ c ≠ ')' by simpa [mayHave, and_assoc] using hsigns
  cases h with
  | name kind =>
    refine ⟨?_, ?_, ?_⟩ <;> rintro rfl <;> exact kind.not_mem_name (by decide) hc
  | word hword =>
    -- None of the signs is brought in by escaping, so it was in the text already.
    have htext := Text.mem_or_of_mem_escapeChars hc
    refine ⟨?_, ?_, ?_⟩ <;> rintro rfl
    · exact hword.no_space (htext.resolve_right (by decide))
    · exact hword.no_opening (htext.resolve_right (by decide))
    · exact hword.no_closing (htext.resolve_right (by decide))

lemma chars_ne_nil {label : Label} (h : label.Readable) : label.chars ≠ [] := by
  cases h with
  | name kind => exact kind.name_chars.1
  | word hword =>
    intro hnil
    apply hword.ne_empty
    rw [← String.toList_inj]
    exact Text.escapeChars_injective hnil

/-- Different readable labels are written differently. -/
lemma eq_of_chars_eq {label other : Label} (h : label.Readable) (hother : other.Readable)
    (hchars : label.chars = other.chars) : label = other := by
  cases h with
  | name kind =>
    cases hother with
    | name kind' => rw [Kind.name_injective (String.toList_inj.1 hchars)]
    | word hword =>
      have htext := Text.eq_name_of_escapeChars_eq hchars.symm
      exact absurd (String.toList_inj.1 htext) (hword.not_name kind)
  | word hword =>
    cases hother with
    | name kind =>
      have htext := Text.eq_name_of_escapeChars_eq hchars
      exact absurd (String.toList_inj.1 htext) (hword.not_name kind)
    | word hword' => rw [String.toList_inj.1 (Text.escapeChars_injective hchars)]

/-- A label ends before this text. -/
def EndsBefore (rest : List Char) : Prop :=
  ∀ c ∈ rest.head?, mayHave c = false

/-- A readable label is told from what follows it. -/
lemma append_inj {label other : Label} {x y : List Char} (h : label.Readable)
    (hother : other.Readable) (hx : EndsBefore x) (hy : EndsBefore y)
    (happend : label.chars ++ x = other.chars ++ y) : label = other ∧ x = y := by
  obtain ⟨hchars, hrest⟩ :=
    append_inj_of_stop (mayHave_of_mem h) (mayHave_of_mem hother) hx hy happend
  exact ⟨eq_of_chars_eq h hother hchars, hrest⟩

/-- No readable label begins with a parenthesis. -/
lemma append_ne_opening {label : Label} (h : label.Readable) (x y : List Char) :
    label.chars ++ x ≠ '(' :: y := by
  obtain ⟨c, cs, hchars⟩ := List.exists_cons_of_ne_nil (chars_ne_nil h)
  intro happend
  rw [hchars, List.cons_append] at happend
  have hc : mayHave c = true := mayHave_of_mem h c (by simp [hchars])
  rw [List.head_eq_of_cons_eq happend] at hc
  exact absurd hc (by decide)

end Label

/-! ## Forests -/

namespace Forest

lemma bracketedOnto_labelled (label : Label) (line : UInt32) (rest : Forest Kind)
    (after : List Char) :
    (labelled label line rest).bracketedOnto after =
      ' ' :: (label.chars ++ rest.bracketedOnto after) := by
  cases label <;> rfl

lemma bracketedOnto_branch (kind : Kind) (line : UInt32) {inner : Forest Kind} (rest : Forest Kind)
    (after : List Char) (h : inner ≠ .nil) :
    (node kind line inner rest).bracketedOnto after =
      ' ' :: '(' :: ((Label.name kind).chars ++
        inner.bracketedOnto (')' :: rest.bracketedOnto after)) := by
  rw [bracketedOnto, if_neg (mt isEmpty_eq_true.1 h)]
  rfl

/-- What follows a forest is written after it. -/
lemma bracketedOnto_append (forest : Forest Kind) (x y : List Char) :
    forest.bracketedOnto (x ++ y) = forest.bracketedOnto x ++ y := by
  induction forest using labelInduction generalizing x with
  | nil => rfl
  | labelled label line rest ih =>
    rw [bracketedOnto_labelled, bracketedOnto_labelled, ih, List.cons_append, List.append_assoc]
  | branch kind line inner rest hinner ihInner ihRest =>
    have helements : inner.bracketedOnto (')' :: (rest.bracketedOnto x ++ y)) =
        inner.bracketedOnto (')' :: rest.bracketedOnto x) ++ y := ihInner (')' :: _)
    rw [bracketedOnto_branch _ _ _ _ hinner, bracketedOnto_branch _ _ _ _ hinner, ihRest, helements]
    simp

/-- After a label come the next element or the parenthesis that closes the node. -/
lemma endsBefore_bracketedOnto (forest : Forest Kind) (after : List Char) :
    Label.EndsBefore (forest.bracketedOnto (')' :: after)) := by
  cases forest <;> simp [Label.EndsBefore, bracketedOnto, Label.mayHave]

lemma unlined_labelled (label : Label) (line : UInt32) (rest : Forest Kind) :
    (labelled label line rest).unlined = labelled label 0 rest.unlined := by
  cases label <;> rfl

/-- A forest is told from its bracketed form, and so is the text after the parenthesis that ends
it. -/
lemma bracketedOnto_inj {forest other : Forest Kind} (hforest : forest.AllTexts Text.IsWord)
    (hother : other.AllTexts Text.IsWord) {x y : List Char}
    (h : forest.bracketedOnto (')' :: x) = other.bracketedOnto (')' :: y)) :
    forest.unlined = other.unlined ∧ x = y := by
  induction forest using labelInduction generalizing other x y with
  | nil =>
    cases other with
    | nil => exact ⟨rfl, List.tail_eq_of_cons_eq h⟩
    | token t rest => simp [bracketedOnto] at h
    | node kind line inner rest => simp [bracketedOnto] at h
  | labelled label line rest ih =>
    obtain ⟨hlabel, hrest⟩ := hforest.of_labelled
    rw [bracketedOnto_labelled] at h
    cases other using labelInduction with
    | nil => simp [bracketedOnto] at h
    | labelled label' line' rest' =>
      obtain ⟨hlabel', hrest'⟩ := hother.of_labelled
      rw [bracketedOnto_labelled, List.cons.injEq] at h
      obtain ⟨rfl, hnext⟩ := Label.append_inj hlabel hlabel' (endsBefore_bracketedOnto rest x)
        (endsBefore_bracketedOnto rest' y) h.2
      obtain ⟨hunlined, hafter⟩ := ih hrest hrest' hnext
      exact ⟨by rw [unlined_labelled, unlined_labelled, hunlined], hafter⟩
    | branch kind line' inner rest' hinner =>
      rw [bracketedOnto_branch _ _ _ _ hinner, List.cons.injEq] at h
      exact absurd h.2 (Label.append_ne_opening hlabel _ _)
  | branch kind line inner rest hinner ihInner ihRest =>
    obtain ⟨hwords, hrest⟩ := allTexts_node.1 hforest
    rw [bracketedOnto_branch _ _ _ _ hinner] at h
    cases other using labelInduction with
    | nil => simp [bracketedOnto] at h
    | labelled label line' rest' =>
      rw [bracketedOnto_labelled, List.cons.injEq] at h
      exact absurd h.2.symm (Label.append_ne_opening hother.of_labelled.1 _ _)
    | branch kind' line' inner' rest' hinner' =>
      obtain ⟨hwords', hrest'⟩ := allTexts_node.1 hother
      rw [bracketedOnto_branch _ _ _ _ hinner', List.cons.injEq, List.cons.injEq] at h
      obtain ⟨hname, helements⟩ := Label.append_inj (.name kind) (.name kind')
        (endsBefore_bracketedOnto inner _) (endsBefore_bracketedOnto inner' _) h.2.2
      obtain ⟨hunlined, hnext⟩ := ihInner hwords hwords' helements
      obtain ⟨hunlinedRest, hafter⟩ := ihRest hrest hrest' hnext
      rw [Label.name.injEq] at hname
      exact ⟨by rw [unlined, unlined, hname, hunlined, hunlinedRest], hafter⟩

/-- The lines are not part of the form. -/
lemma bracketedOnto_unlined (forest : Forest Kind) (after : List Char) :
    forest.unlined.bracketedOnto after = forest.bracketedOnto after := by
  induction forest using labelInduction generalizing after with
  | nil => rfl
  | labelled label line rest ih =>
    rw [unlined_labelled, bracketedOnto_labelled, bracketedOnto_labelled, ih]
  | branch kind line inner rest hinner ihInner ihRest =>
    rw [unlined, bracketedOnto_branch _ _ _ _ (mt unlined_eq_nil.1 hinner),
      bracketedOnto_branch _ _ _ _ hinner, ihInner, ihRest]

/-- A raw blank in what is written has been in the text that follows. -/
lemma no_blank_bracketedOnto (forest : Forest Kind) {after : List Char}
    (h : ∀ c ∈ after, c ∉ Text.rawBlanks) :
    ∀ c ∈ forest.bracketedOnto after, c ∉ Text.rawBlanks := by
  induction forest using labelInduction generalizing after with
  | nil => exact h
  | labelled label line rest ih =>
    rw [bracketedOnto_labelled, List.forall_mem_cons, List.forall_mem_append]
    exact ⟨by decide, label.no_blank, ih h⟩
  | branch kind line inner rest hinner ihInner ihRest =>
    rw [bracketedOnto_branch _ _ _ _ hinner, List.forall_mem_cons, List.forall_mem_cons,
      List.forall_mem_append]
    refine ⟨by decide, by decide, (Label.name kind).no_blank, ihInner ?_⟩
    rw [List.forall_mem_cons]
    exact ⟨by decide, ihRest h⟩

end Forest

/-! ## Trees -/

namespace Tree

/-- The form of a tree is that of the forest with this tree as its only element. -/
lemma bracketedOnto_single (node : Node) (after : List Char) :
    node.single.bracketedOnto after = ' ' :: (node.bracketed.toList ++ after) := by
  by_cases h : node.elements = .nil
  · simp [single, Forest.bracketedOnto, bracketed, isLeaf, h]
  · have helements : node.elements.bracketedOnto (')' :: after) =
        node.elements.bracketedOnto [')'] ++ after := node.elements.bracketedOnto_append [')'] after
    rw [single, Forest.bracketedOnto_branch _ _ _ _ h, Forest.bracketedOnto, helements]
    simp [bracketed, isLeaf, h, Label.chars]

/-- The forms of two trees are the same exactly if those of the forests that hold them are. -/
lemma bracketed_eq_iff {node other : Node} :
    node.bracketed = other.bracketed ↔
      node.single.bracketedOnto [')'] = other.single.bracketedOnto [')'] := by
  rw [bracketedOnto_single, bracketedOnto_single, List.cons.injEq, List.append_left_inj,
    String.toList_inj]
  exact (and_iff_right rfl).symm

/-- **A bracketed form shows a tree up to its lines, on one line.**  If the tokens of two trees are
words, the trees have the same form exactly if they have the same kinds, token texts, order and
nesting.  Whatever the tokens are, no newline, carriage return or tab is in the form. -/
theorem bracketed_tells_unlined_trees :
    (∀ node other : Node,
      (∀ t ∈ node.elements.tokens, Text.IsWord t.text) →
      (∀ t ∈ other.elements.tokens, Text.IsWord t.text) →
      (node.bracketed = other.bracketed ↔ node.unlined = other.unlined)) ∧
    ∀ node : Node, ∀ c ∈ node.bracketed.toList, c ≠ '\n' ∧ c ≠ '\r' ∧ c ≠ '\t' := by
  refine ⟨fun node other hnode hother => ⟨fun h => ?_, fun h => ?_⟩, fun node c hc => ?_⟩
  · obtain ⟨hunlined, -⟩ := Forest.bracketedOnto_inj (Forest.allTexts_single.2 hnode)
      (Forest.allTexts_single.2 hother) (bracketed_eq_iff.1 h)
    simpa [single, Forest.unlined, unlined] using hunlined
  · have hunlined : ∀ tree : Node, tree.unlined.bracketed = tree.bracketed := by
      intro tree
      rw [bracketed_eq_iff]
      exact tree.single.bracketedOnto_unlined [')']
    rw [← hunlined node, h, hunlined other]
  · have hform := node.single.no_blank_bracketedOnto (by simp : ∀ c ∈ [], c ∉ Text.rawBlanks)
    rw [bracketedOnto_single, List.append_nil, List.forall_mem_cons] at hform
    simpa [Text.rawBlanks] using hform.2 c hc

/-- A token after a node without elements is told from a token inside of the node, and a tab from a
backslash and the letter that is written for it. -/
theorem bracketed_tells_unlined_trees_with_tab :
    let after : Node := ⟨.expr, 1, .node .literal 2 .nil (.token ⟨"a\tb", 3⟩ .nil)⟩
    let moved : Node := ⟨.expr, 7, .node .literal 8 .nil (.token ⟨"a\tb", 9⟩ .nil)⟩
    let inside : Node := ⟨.expr, 1, .node .literal 2 (.token ⟨"a\tb", 3⟩ .nil) .nil⟩
    let spelled : Node := ⟨.expr, 1, .node .literal 2 .nil (.token ⟨"a\\tb", 3⟩ .nil)⟩
    (∀ node ∈ [after, moved, inside, spelled], ∀ t ∈ node.elements.tokens, Text.IsWord t.text) ∧
      after.bracketed = moved.bracketed ∧ after.bracketed ≠ inside.bracketed ∧
      after.bracketed ≠ spelled.bracketed := by
  intro after moved inside spelled
  have hwords : ∀ node ∈ [after, moved, inside, spelled], ∀ t ∈ node.elements.tokens,
      Text.IsWord t.text := by decide
  have htells : ∀ other ∈ [after, moved, inside, spelled],
      (after.bracketed = other.bracketed ↔ after.unlined = other.unlined) := fun other hother =>
    bracketed_tells_unlined_trees.1 after other (hwords after (by simp)) (hwords other hother)
  refine ⟨hwords, (htells moved (by simp)).2 (by decide), ?_, ?_⟩
  · exact mt (htells inside (by simp)).1 (by decide)
  · exact mt (htells spelled (by simp)).1 (by decide)

end Tree

end SyntaxLint
