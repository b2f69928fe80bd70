import Mathlib
import SyntaxLint.Proofs.Skeleton
import SyntaxLint.Tree.Layout

/-!
# The lines of a layout

The layout of a tree starts a line for every branch, and for nothing else, since escaping leaves no
newline in a token.  The line begins with the depth of the branch, as an indent and as a marker, and
with its kind (`OpensLine`).  So the lines are the branches of the tree in pre-order
(`Forest.linesOpen_layoutOnto`).

Tokens may look like anything else, even like the beginning of a line, and from the layout it cannot
be said where one of them ends.  But the lines tell the branches, and these tell the skeleton.
-/

namespace SyntaxLint

/-- How the line of a branch begins: the indent, the name and the opening marker. -/
def lineOpening (branch : Nat × Kind) : List Char :=
  List.replicate branch.1 ' ' ++ branch.2.name.toList ++ ['<', '['] ++ Nat.toDigits 10 branch.1
    ++ [']', '(']

/-- A line begins as that of a branch does, with a space after the opening marker. -/
def OpensLine (line : List Char) (branch : Nat × Kind) : Prop :=
  lineOpening branch ++ [' '] <+: line

/-- After its first line, a text has one line for each of some branches, in their order. -/
def LinesOpen (text : List Char) (branches : List (Nat × Kind)) : Prop :=
  List.Forall₂ OpensLine (text.splitOn '\n').tail branches

/-! ## Splitting a text into lines -/

section Split

variable {α : Type} [BEq α] {a : α}

/-- What comes before the first separator is part of the first piece. -/
lemma splitOn_append_of_not_mem [LawfulBEq α] {x : List α} (h : a ∉ x) (y : List α) :
    (x ++ y).splitOn a = (y.splitOn a).modifyHead (x ++ ·) := by
  induction x with
  | nil =>
    rw [List.nil_append]
    cases y.splitOn a <;> rfl
  | cons b x ih =>
    rw [List.mem_cons, not_or] at h
    rw [List.cons_append, List.splitOn_cons_eq_if_modifyHead, if_neg (by simpa using Ne.symm h.1),
      ih h.2, List.modifyHead_modifyHead]
    rfl

/-- There is one separator between two pieces. -/
lemma length_splitOn (x : List α) : (x.splitOn a).length = x.count a + 1 := by
  induction x with
  | nil => simp
  | cons b x ih =>
    rw [List.splitOn_cons_eq_if_modifyHead, List.count_cons]
    split
    · rw [List.length_cons, ih]
    · rw [List.length_modifyHead, ih, Nat.add_zero]

end Split

lemma not_mem_toDigits {c : Char} (h : c.isDigit = false) (n : Nat) : c ∉ Nat.toDigits 10 n := by
  intro hmem
  rw [Nat.isDigit_of_mem_toDigits (by decide) (by decide) hmem] at h
  exact Bool.noConfusion h

lemma newline_not_mem_lineOpening (branch : Nat × Kind) : '\n' ∉ lineOpening branch := by
  have hname := branch.2.not_mem_name (by decide : Kind.isNameChar '\n' = false)
  simp [lineOpening, not_mem_toDigits, hname, List.mem_replicate]

/-- A text without a newline in front leaves the lines after the first one as they are. -/
lemma linesOpen_append_iff {x y : List Char} {branches : List (Nat × Kind)} (hx : '\n' ∉ x) :
    LinesOpen (x ++ y) branches ↔ LinesOpen y branches := by
  rw [LinesOpen, splitOn_append_of_not_mem hx, List.tail_modifyHead, LinesOpen]

/-- A newline and the opening of a branch in front start one more line. -/
lemma LinesOpen.newline {text : List Char} {branches : List (Nat × Kind)}
    (h : LinesOpen (' ' :: text) branches) (branch : Nat × Kind) :
    LinesOpen ('\n' :: (lineOpening branch ++ ' ' :: text)) (branch :: branches) := by
  obtain ⟨first, others, hsplit⟩ :=
    List.exists_cons_of_ne_nil (List.splitOn_ne_nil '\n' text)
  have hspace : (' ' :: text).splitOn '\n' = (' ' :: first) :: others := by
    rw [List.splitOn_cons_eq_if_modifyHead, if_neg (by decide), hsplit]
    rfl
  rw [LinesOpen, hspace] at h
  rw [LinesOpen, List.splitOn_cons_eq_if_modifyHead, if_pos (by decide), List.tail_cons,
    splitOn_append_of_not_mem (newline_not_mem_lineOpening branch), hspace]
  exact .cons ⟨first, by simp⟩ h

/-! ## Lines and branches -/

namespace Forest

lemma layoutOnto_labelled (label : Label) (line : UInt32) (rest : Forest Kind) (depth : Nat)
    (after : List Char) :
    (labelled label line rest).layoutOnto depth after =
      ' ' :: (label.chars ++ rest.layoutOnto depth after) := by
  cases label <;> rfl

lemma layoutOnto_branch (kind : Kind) (line : UInt32) {inner : Forest Kind} (rest : Forest Kind)
    (depth : Nat) (after : List Char) (h : inner ≠ .nil) :
    (node kind line inner rest).layoutOnto depth after =
      ' ' :: '\n' :: (lineOpening (depth, kind) ++
        inner.layoutOnto (depth + 1) (layoutClosing depth ++ rest.layoutOnto depth after)) := by
  rw [layoutOnto, if_neg (mt isEmpty_eq_true.1 h)]
  rfl

/-- Every element is written after a space. -/
lemma exists_layoutOnto_eq_cons {forest : Forest Kind} (h : forest ≠ .nil) (depth : Nat)
    (after : List Char) : ∃ text, forest.layoutOnto depth after = ' ' :: text := by
  cases forest with
  | nil => exact absurd rfl h
  | token t rest => exact ⟨_, rfl⟩
  | node kind line inner rest => exact ⟨_, rfl⟩

/-- What follows a forest is written after it. -/
lemma layoutOnto_append (forest : Forest Kind) (depth : Nat) (x y : List Char) :
    forest.layoutOnto depth (x ++ y) = forest.layoutOnto depth x ++ y := by
  induction forest using labelInduction generalizing depth x with
  | nil => rfl
  | labelled label line rest ih =>
    rw [layoutOnto_labelled, layoutOnto_labelled, ih, List.cons_append, List.append_assoc]
  | branch kind line inner rest hinner ihInner ihRest =>
    rw [layoutOnto_branch _ _ _ _ _ hinner, layoutOnto_branch _ _ _ _ _ hinner, ihRest,
      ← List.append_assoc (layoutClosing depth), ihInner]
    simp

/-- **The lines of a layout are the branches.**  In front of a text whose lines are known, a forest
puts one line for each of its branches, in pre-order. -/
lemma linesOpen_layoutOnto (forest : Forest Kind) (depth : Nat) {after : List Char}
    {branches : List (Nat × Kind)} (h : LinesOpen after branches) :
    LinesOpen (forest.layoutOnto depth after) (forest.skeleton.outline depth ++ branches) := by
  induction forest using labelInduction generalizing depth after branches with
  | nil => exact h
  | labelled label line rest ih =>
    have hlabel : '\n' ∉ ' ' :: label.chars := by
      rw [List.mem_cons, not_or]
      exact ⟨by decide, fun hmem => label.no_blank _ hmem (by decide)⟩
    rw [layoutOnto_labelled, skeleton_labelled, ← List.cons_append]
    exact (linesOpen_append_iff hlabel).2 (ih depth h)
  | branch kind line inner rest hinner ihInner ihRest =>
    have hclosing : '\n' ∉ layoutClosing depth := by
      simp [layoutClosing, not_mem_toDigits]
    have hinside := ihInner (depth + 1) ((linesOpen_append_iff hclosing).2 (ihRest depth h))
    rw [layoutOnto_branch _ _ _ _ _ hinner, skeleton_branch _ _ _ hinner, Skeleton.outline,
      List.cons_append, List.append_assoc]
    obtain ⟨text, htext⟩ := exists_layoutOnto_eq_cons hinner (depth + 1)
      (layoutClosing depth ++ rest.layoutOnto depth after)
    rw [htext] at hinside ⊢
    exact (linesOpen_append_iff (by decide : '\n' ∉ [' '])).2 (hinside.newline (depth, kind))

end Forest

/-- A line opens for one branch only. -/
lemma OpensLine.unique {line : List Char} {branch other : Nat × Kind} (h : OpensLine line branch)
    (hother : OpensLine line other) : branch = other := by
  obtain ⟨depth, kind⟩ := branch
  obtain ⟨depth', kind'⟩ := other
  obtain ⟨x, hx⟩ := h
  obtain ⟨y, hy⟩ := hother
  have hline := hx.trans hy.symm
  simp only [lineOpening, List.append_assoc] at hline
  -- A name has no space and no angle bracket, so the indent and the name end where they seem to.
  have hname : ∀ (kind : Kind) (rest : List Char), ∀ c ∈ (kind.name.toList ++ rest).head?,
      (c == ' ') = false := by
    intro kind rest c hc
    rw [List.head?_append_of_ne_nil _ kind.name_chars.1] at hc
    rw [beq_eq_false_iff_ne]
    rintro rfl
    exact kind.not_mem_name (by decide) (List.mem_of_mem_head? hc)
  have hangle : ∀ kind : Kind, ∀ c ∈ kind.name.toList, (c != '<') = true := by
    intro kind c hc
    rw [bne_iff_ne]
    rintro rfl
    exact kind.not_mem_name (by decide) hc
  obtain ⟨hindent, hafter⟩ := append_inj_of_stop (by simp) (by simp) (hname kind _) (hname kind' _)
    hline
  obtain ⟨hkind, -⟩ := append_inj_of_stop (hangle kind) (hangle kind') (by simp) (by simp) hafter
  have hdepth := congrArg List.length hindent
  rw [List.length_replicate, List.length_replicate] at hdepth
  rw [hdepth, Kind.name_injective (String.toList_inj.1 hkind)]

namespace Tree

/-- The layout of a tree is that of the forest with this tree as its only element. -/
lemma layoutOnto_single (node : Node) (after : List Char) :
    node.single.layoutOnto 0 after = ' ' :: (node.layout.toList ++ after) := by
  by_cases h : node.elements = .nil
  · simp [single, Forest.layoutOnto, layout, isLeaf, h]
  · rw [single, Forest.layoutOnto_branch _ _ _ _ _ h, Forest.layoutOnto, Forest.layoutOnto_append]
    simp [layout, layoutOpening, lineOpening, isLeaf, h]

lemma linesOpen_layout (node : Node) : LinesOpen node.layout.toList node.branches := by
  have hnil : LinesOpen [] [] := by simp [LinesOpen]
  have hsingle := node.single.linesOpen_layoutOnto 0 hnil
  rw [layoutOnto_single, List.append_nil, List.append_nil] at hsingle
  rw [branches_eq_outline, ← linesOpen_append_iff (by decide : '\n' ∉ [' '])]
  exact hsingle

/-- **The layout shows the branches of a tree, whatever its tokens are.**  There is one newline for
each branch.  The lines after the first one are those of the branches in pre-order, each beginning
with the depth of its branch in spaces, with the name, and with the depth in a marker.  So trees
with the same layout have the same skeleton. -/
theorem layout_lines_tell_skeleton :
    (∀ node : Node,
      node.layout.toList.count '\n' = node.branches.length ∧
      List.Forall₂ OpensLine (node.layout.toList.splitOn '\n').tail node.branches) ∧
    ∀ node other : Node, node.layout = other.layout → node.skeleton = other.skeleton := by
  refine ⟨fun node => ⟨?_, node.linesOpen_layout⟩, fun node other h => ?_⟩
  · have hlines := node.linesOpen_layout.length_eq
    rw [List.length_tail, length_splitOn, Nat.add_sub_cancel] at hlines
    exact hlines
  · have hlines := other.linesOpen_layout
    rw [← h] at hlines
    have hunique : Relator.RightUnique OpensLine := fun _ _ _ => OpensLine.unique
    have hbranches : node.branches = other.branches :=
      hunique.forall₂ node.linesOpen_layout hlines
    rw [branches_eq_outline, branches_eq_outline] at hbranches
    exact Skeleton.outline_injective 0 hbranches

/-- Of two different trees with the same layout, one has a token that looks like a branch and the
other one that looks like a node without elements.  Neither is in the skeleton. -/
theorem layout_lines_tell_skeleton_past_imitations :
    let node : Node :=
      ⟨.expr, 1, .node .literal 1 .nil (.token ⟨"expr<[1]( 7 )[1]>", 1⟩
        (.node .varRef 2 (.token ⟨"\n expr<[1](", 2⟩ .nil) .nil))⟩
    let other : Node :=
      ⟨.expr, 1, .token ⟨"literal expr<[1](", 1⟩ (.token ⟨"7 )[1]>", 1⟩
        (.node .varRef 2 (.token ⟨"\n expr<[1](", 2⟩ .nil) .nil))⟩
    node ≠ other ∧ node.layout = other.layout ∧ node.skeleton = other.skeleton := by
  intro node other
  have hlayout : node.layout = other.layout := by decide
  exact ⟨by decide, hlayout, layout_lines_tell_skeleton.2 node other hlayout⟩

end Tree

end SyntaxLint
