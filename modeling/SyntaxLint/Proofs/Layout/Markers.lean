import Mathlib
import SyntaxLint.Proofs.Json.Scan
import SyntaxLint.Proofs.Layout.Lines

/-!
# The markers of a layout

A layout marks where a branch opens and where it closes, each time with its depth.  A reader who
looks for markers in the text, from left to right, finds just these, nested as the branches are, as
long as no token has the two characters in it that a marker begins with (`NoSign`).

Such a pair cannot come from anywhere else.  Escaping makes none, because what it brings in is no
part of a pair (`Text.pair_isInfix_of_escapeChars`).  None arises between two pieces of the layout
either: each label has a space after it, and so has each marker but the last.  So the text can be
cut into pieces that are read one by one (`markersIn_append`), and the markers found are those of
the skeleton (`Forest.markersIn_layoutOnto`).
-/

namespace SyntaxLint

/-- A marker of a layout: a branch of some depth opens or closes here. -/
inductive Marker where
  | opening (depth : Nat)
  | closing (depth : Nat)
  deriving DecidableEq

namespace Marker

/-- The number in a marker. -/
def depth : Marker → Nat
  | opening depth => depth
  | closing depth => depth

def isOpening : Marker → Bool
  | opening _ => true
  | closing _ => false

def isClosing : Marker → Bool
  | opening _ => false
  | closing _ => true

/-- The number that a text begins with, if there is one and these signs follow it. -/
def numberBefore? (signs text : List Char) : Option Nat :=
  match Lexeme.digits text with
  | (digits, rest) =>
    if digits ≠ [] ∧ signs <+: rest then some (Nat.ofDigitChars 10 digits 0) else none

/-- The marker that a text begins with, if there is one: `<[n](` opens and `)[n]>` closes. -/
def read? : List Char → Option Marker
  | '<' :: '[' :: text => (numberBefore? [']', '('] text).map opening
  | ')' :: '[' :: text => (numberBefore? [']', '>'] text).map closing
  | _ => none

/-- One step of a reader who knows the depths of the markers that are open, the innermost first.  An
opening marker has to have their number for its depth, and a closing one the depth of the marker
that it closes. -/
def follow : List Nat → Marker → Option (List Nat)
  | stack, opening n => if n = stack.length then some (n :: stack) else none
  | [], closing _ => none
  | top :: stack, closing n => if n = top then some stack else none

end Marker

/-- The markers in a text, from left to right. -/
def markersIn (text : List Char) : List Marker :=
  text.tails.filterMap Marker.read?

/-- The markers of a skeleton, as its branches open and close; those that are in no other one are at
the given depth. -/
def Skeleton.markers (depth : Nat) : Skeleton → List Marker
  | .nil => []
  | .branch _ inner rest =>
    .opening depth :: (inner.markers (depth + 1) ++ .closing depth :: rest.markers depth)

/-- A text has no two characters in it that a marker begins with. -/
def NoSign (text : List Char) : Prop :=
  ¬ ['<', '['] <:+: text ∧ ¬ [')', '['] <:+: text

/-! ## Reading a text piece by piece -/

lemma markersIn_cons (c : Char) (text : List Char) :
    markersIn (c :: text) = (Marker.read? (c :: text)).toList ++ markersIn text := by
  rw [markersIn, List.tails_cons, List.filterMap_cons]
  cases Marker.read? (c :: text) <;> rfl

lemma Marker.read?_eq_none {c : Char} {text : List Char}
    (h : c = '<' ∨ c = ')' → text.head? ≠ some '[') : read? (c :: text) = none := by
  unfold read?
  split
  · next heq =>
    obtain ⟨rfl, rfl⟩ := List.cons.inj heq
    exact absurd rfl (h (.inl rfl))
  · next heq =>
    obtain ⟨rfl, rfl⟩ := List.cons.inj heq
    exact absurd rfl (h (.inr rfl))
  · rfl

/-- No marker begins with any other character. -/
lemma markersIn_cons_of_ne {c : Char} (h : c ≠ '<' ∧ c ≠ ')') (text : List Char) :
    markersIn (c :: text) = markersIn text := by
  rw [markersIn_cons, Marker.read?_eq_none (by simp [h])]
  rfl

lemma NoSign.tail {c : Char} {text : List Char} (h : NoSign (c :: text)) : NoSign text :=
  ⟨fun hsign => h.1 (List.infix_cons hsign), fun hsign => h.2 (List.infix_cons hsign)⟩

lemma noSign_of_not_mem {text : List Char} (hopening : '<' ∉ text) (hclosing : ')' ∉ text) :
    NoSign text :=
  ⟨fun hsign => hopening (hsign.subset (by simp)), fun hsign => hclosing (hsign.subset (by simp))⟩

/-- No marker begins in a piece without the signs of one, if no bracket follows the piece. -/
lemma markersIn_append {x y : List Char} (hx : NoSign x) (hy : y.head? ≠ some '[') :
    markersIn (x ++ y) = markersIn y := by
  induction x with
  | nil => rfl
  | cons c x ih =>
    have hnone : Marker.read? (c :: (x ++ y)) = none := by
      apply Marker.read?_eq_none
      intro hc hbracket
      cases x with
      | nil => exact hy hbracket
      | cons d x =>
        obtain rfl : d = '[' := by simpa using hbracket
        have hpair : [c, '['] <:+: c :: '[' :: x := ⟨[], x, rfl⟩
        rcases hc with rfl | rfl
        · exact hx.1 hpair
        · exact hx.2 hpair
    rw [List.cons_append, markersIn_cons, hnone, ih hx.tail]
    rfl

lemma Marker.numberBefore?_toDigits (n : Nat) (sign : Char) (text : List Char) :
    numberBefore? [']', sign] (Nat.toDigits 10 n ++ ']' :: sign :: text) = some n := by
  have hdigits : Lexeme.digits (Nat.toDigits 10 n ++ ']' :: sign :: text) =
      (Nat.toDigits 10 n, ']' :: sign :: text) :=
    Lexeme.digits_append (fun c hc => Nat.isDigit_of_mem_toDigits (by decide) (by decide) hc)
      (delimited_cons _ (.inr (.inl rfl)))
  have hsigns : [']', sign] <+: ']' :: sign :: text := ⟨text, rfl⟩
  rw [numberBefore?, hdigits]
  simp only [ne_eq, Nat.toDigits_ne_nil, not_false_eq_true, hsigns, and_self, if_true,
    Nat.ofDigitChars_ten_toDigits]

/-- A marker is found after a piece without the signs of one, and what it consists of after its
first character begins no other marker. -/
lemma markersIn_append_marker {x : List Char} (hx : NoSign x) {c sign : Char} (hc : c ≠ '[')
    (hsign : sign ≠ '<' ∧ sign ≠ ')') (n : Nat) {text : List Char} (h : text.head? ≠ some '[')
    {marker : Marker}
    (hmarker : Marker.read? (c :: '[' :: (Nat.toDigits 10 n ++ ']' :: sign :: text)) =
      some marker) :
    markersIn (x ++ c :: '[' :: (Nat.toDigits 10 n ++ ']' :: sign :: text)) =
      marker :: markersIn text := by
  have hnumber : NoSign ('[' :: (Nat.toDigits 10 n ++ [']', sign])) := by
    apply noSign_of_not_mem
    · simp [not_mem_toDigits, hsign.1.symm]
    · simp [not_mem_toDigits, hsign.2.symm]
  calc markersIn (x ++ c :: '[' :: (Nat.toDigits 10 n ++ ']' :: sign :: text))
      = markersIn (c :: '[' :: (Nat.toDigits 10 n ++ ']' :: sign :: text)) :=
        markersIn_append hx (by simpa using hc)
    _ = marker :: markersIn ('[' :: (Nat.toDigits 10 n ++ [']', sign]) ++ text) := by
        rw [markersIn_cons, hmarker]
        simp
    _ = marker :: markersIn text := by rw [markersIn_append hnumber h]

/-- The beginning of a line holds the marker that opens the branch. -/
lemma markersIn_lineOpening (branch : Nat × Kind) {text : List Char}
    (h : text.head? ≠ some '[') :
    markersIn (lineOpening branch ++ text) = .opening branch.1 :: markersIn text := by
  have hindent : NoSign (List.replicate branch.1 ' ' ++ branch.2.name.toList) := by
    apply noSign_of_not_mem
    · simp [List.mem_replicate, branch.2.not_mem_name (by decide : Kind.isNameChar '<' = false)]
    · simp [List.mem_replicate, branch.2.not_mem_name (by decide : Kind.isNameChar ')' = false)]
  have hmarker : Marker.read? ('<' :: '[' :: (Nat.toDigits 10 branch.1 ++ ']' :: '(' :: text)) =
      some (.opening branch.1) := by
    rw [Marker.read?, Marker.numberBefore?_toDigits, Option.map_some]
  have hfound := markersIn_append_marker hindent (by decide) (by decide) branch.1 h hmarker
  simpa [lineOpening] using hfound

/-- What closes a branch holds its other marker. -/
lemma markersIn_layoutClosing (depth : Nat) {text : List Char} (h : text.head? ≠ some '[') :
    markersIn (layoutClosing depth ++ text) = .closing depth :: markersIn text := by
  have hspace : NoSign [' '] := noSign_of_not_mem (by decide) (by decide)
  have hmarker : Marker.read? (')' :: '[' :: (Nat.toDigits 10 depth ++ ']' :: '>' :: text)) =
      some (.closing depth) := by
    rw [Marker.read?, Marker.numberBefore?_toDigits, Option.map_some]
  have hfound := markersIn_append_marker hspace (by decide) (by decide) depth h hmarker
  simpa [layoutClosing] using hfound

/-! ## Labels -/

/-- Escaping makes no pair of characters that it does not bring in itself. -/
lemma Text.pair_isInfix_of_escapeChars {a b : Char} (ha : a ∉ escapeLetters)
    (hb : b ∉ escapeLetters) {text : List Char} (h : [a, b] <:+: escapeChars text) :
    [a, b] <:+: text := by
  induction text with
  | nil => exact h
  | cons c cs ih =>
    cases hletter : escapeLetter? c with
    | some letter =>
      have hmem : letter ∈ escapeLetters := mem_escapeLetters_iff.2 ⟨c, hletter⟩
      simp only [escapeChars_of_letter cs hletter, List.infix_cons_iff, List.cons_prefix_cons] at h
      rcases h with ⟨rfl, -⟩ | ⟨rfl, -⟩ | h
      · exact absurd (by decide) ha
      · exact absurd hmem ha
      · exact List.infix_cons (ih h)
    | none =>
      rw [escapeChars_of_no_letter cs hletter, List.infix_cons_iff, List.cons_prefix_cons] at h
      rcases h with ⟨rfl, hnext⟩ | h
      · -- The second character is the next one of the text, or else the backslash of an escape.
        cases cs with
        | nil => simp at hnext
        | cons d ds =>
          cases hnextLetter : escapeLetter? d with
          | some letter =>
            rw [escapeChars_of_letter ds hnextLetter, List.cons_prefix_cons] at hnext
            exact absurd (hnext.1 ▸ (by decide : '\\' ∈ escapeLetters)) hb
          | none =>
            rw [escapeChars_of_no_letter ds hnextLetter, List.cons_prefix_cons] at hnext
            exact ⟨[], ds, by simp [hnext.1]⟩
      · exact List.infix_cons (ih h)

/-- A label without the signs of a marker in its text has none as it is written. -/
lemma Label.noSign_chars {label : Label} (h : label.IsNameOr fun text => NoSign text.toList) :
    NoSign label.chars := by
  cases h with
  | name kind =>
    exact noSign_of_not_mem (kind.not_mem_name (by decide)) (kind.not_mem_name (by decide))
  | word hword =>
    refine ⟨fun hsign => hword.1 ?_, fun hsign => hword.2 ?_⟩
    · exact Text.pair_isInfix_of_escapeChars (by decide) (by decide) hsign
    · exact Text.pair_isInfix_of_escapeChars (by decide) (by decide) hsign

/-! ## The markers found -/

namespace Forest

lemma head?_layoutOnto_ne (forest : Forest Kind) (depth : Nat) {after : List Char}
    (h : after.head? ≠ some '[') : (forest.layoutOnto depth after).head? ≠ some '[' := by
  cases forest with
  | nil => exact h
  | token t rest => simp [layoutOnto]
  | node kind line inner rest => simp [layoutOnto]

/-- **The markers in a layout are those of the skeleton**, followed by those of the text after
it. -/
lemma markersIn_layoutOnto (forest : Forest Kind)
    (hforest : forest.AllTexts fun text => NoSign text.toList) (depth : Nat) {after : List Char}
    (h : after.head? ≠ some '[') :
    markersIn (forest.layoutOnto depth after) =
      forest.skeleton.markers depth ++ markersIn after := by
  induction forest using labelInduction generalizing depth after with
  | nil => rfl
  | labelled label line rest ih =>
    obtain ⟨hlabel, hrest⟩ := hforest.of_labelled
    rw [layoutOnto_labelled, skeleton_labelled, markersIn_cons_of_ne (by decide),
      markersIn_append (Label.noSign_chars hlabel) (rest.head?_layoutOnto_ne depth h),
      ih hrest depth h]
  | branch kind line inner rest hinner ihInner ihRest =>
    obtain ⟨hinside, hrest⟩ := allTexts_node.1 hforest
    have hnext := rest.head?_layoutOnto_ne depth h
    have hclosing : (layoutClosing depth ++ rest.layoutOnto depth after).head? ≠ some '[' := by
      simp [layoutClosing]
    rw [layoutOnto_branch _ _ _ _ _ hinner, markersIn_cons_of_ne (by decide),
      markersIn_cons_of_ne (by decide),
      markersIn_lineOpening _ (inner.head?_layoutOnto_ne _ hclosing), ihInner hinside _ hclosing,
      markersIn_layoutClosing _ hnext, ihRest hrest _ h, skeleton_branch _ _ _ hinner,
      Skeleton.markers]
    simp

end Forest

/-- The markers in the layout of a tree are those of its skeleton. -/
lemma Tree.markersIn_layout {node : Node}
    (h : node.elements.AllTexts fun text => NoSign text.toList) :
    markersIn node.layout.toList = node.skeleton.markers 0 := by
  have hsingle := node.single.markersIn_layoutOnto (Forest.allTexts_single.2 h) 0
    (by simp : [].head? ≠ some '[')
  rw [layoutOnto_single, List.append_nil, markersIn_cons_of_ne (by decide)] at hsingle
  exact hsingle.trans (List.append_nil _)

/-! ## The markers of a skeleton -/

namespace Skeleton

/-- Following the markers of a skeleton from markers that are open above it ends with the same ones
open. -/
lemma foldlM_follow_markers (skeleton : Skeleton) (stack : List Nat) :
    (skeleton.markers stack.length).foldlM Marker.follow stack = some stack := by
  induction skeleton generalizing stack with
  | nil => rfl
  | branch kind inner rest ihInner ihRest =>
    have hopening : Marker.follow stack (.opening stack.length) =
        some (stack.length :: stack) := by
      rw [Marker.follow, if_pos rfl]
    have hclosing : Marker.follow (stack.length :: stack) (.closing stack.length) =
        some stack := by
      rw [Marker.follow, if_pos rfl]
    rw [markers, List.foldlM_cons, hopening, Option.bind_eq_bind, Option.bind_some,
      List.foldlM_append, ← List.length_cons (a := stack.length), ihInner (stack.length :: stack),
      Option.bind_eq_bind, Option.bind_some, List.foldlM_cons, hclosing, Option.bind_eq_bind,
      Option.bind_some, ihRest]

/-- There is one opening marker for each branch, and one closing marker. -/
lemma countP_markers (skeleton : Skeleton) (depth : Nat) :
    (skeleton.markers depth).countP Marker.isOpening = (skeleton.outline depth).length ∧
      (skeleton.markers depth).countP Marker.isClosing = (skeleton.outline depth).length := by
  induction skeleton generalizing depth with
  | nil => exact ⟨rfl, rfl⟩
  | branch kind inner rest ihInner ihRest =>
    obtain ⟨hopening, hclosing⟩ := ihInner (depth + 1)
    obtain ⟨hopeningRest, hclosingRest⟩ := ihRest depth
    simp only [markers, outline, List.countP_cons, List.countP_append, List.length_cons,
      List.length_append, Marker.isOpening, Marker.isClosing, if_true, Bool.false_eq_true, if_false]
    omega

/-- The numbers in the markers are the depths of the branches. -/
lemma exists_marker_iff (skeleton : Skeleton) (depth n : Nat) :
    (∃ marker ∈ skeleton.markers depth, marker.depth = n) ↔
      ∃ kind, (n, kind) ∈ skeleton.outline depth := by
  induction skeleton generalizing depth with
  | nil => simp [markers, outline]
  | branch kind inner rest ihInner ihRest =>
    constructor
    · rintro ⟨marker, hmarker, rfl⟩
      simp only [markers, List.mem_cons, List.mem_append] at hmarker
      rcases hmarker with rfl | hinner | rfl | hrest
      · exact ⟨kind, by simp [outline, Marker.depth]⟩
      · obtain ⟨kind', hbranch⟩ := (ihInner (depth + 1)).1 ⟨marker, hinner, rfl⟩
        exact ⟨kind', by simp [outline, hbranch]⟩
      · exact ⟨kind, by simp [outline, Marker.depth]⟩
      · obtain ⟨kind', hbranch⟩ := (ihRest depth).1 ⟨marker, hrest, rfl⟩
        exact ⟨kind', by simp [outline, hbranch]⟩
    · rintro ⟨kind', hbranch⟩
      simp only [outline, List.mem_cons, List.mem_append, Prod.mk.injEq] at hbranch
      rcases hbranch with ⟨rfl, -⟩ | hinner | hrest
      · exact ⟨.opening n, by simp [markers], rfl⟩
      · obtain ⟨marker, hmarker, hdepth⟩ := (ihInner (depth + 1)).2 ⟨kind', hinner⟩
        exact ⟨marker, by simp [markers, hmarker], hdepth⟩
      · obtain ⟨marker, hmarker, hdepth⟩ := (ihRest depth).2 ⟨kind', hrest⟩
        exact ⟨marker, by simp [markers, hmarker], hdepth⟩

end Skeleton

namespace Tree

/-- Among the branches of a tree that has one there is a deepest one. -/
lemma exists_isGreatest_branch {node : Node} (h : node.isLeaf = false) :
    ∃ deepest, IsGreatest {depth | ∃ kind, (depth, kind) ∈ node.branches} deepest := by
  have helements : node.elements ≠ .nil := by
    intro hnil
    rw [isLeaf, hnil] at h
    exact Bool.noConfusion h
  have hroot : (0, node.kind) ∈ node.branches := by
    rw [branches_eq_outline, skeleton, single, Forest.skeleton_branch _ _ _ helements,
      Skeleton.outline]
    exact List.mem_cons_self
  obtain ⟨deepest, hmax⟩ := Option.isSome_iff_exists.1
    (List.isSome_max?_of_mem (List.mem_map_of_mem (f := Prod.fst) hroot))
  obtain ⟨hmem, hle⟩ := List.max?_eq_some_iff.1 hmax
  refine ⟨deepest, by simpa using hmem, ?_⟩
  rintro depth ⟨kind, hbranch⟩
  exact hle depth (List.mem_map_of_mem (f := Prod.fst) hbranch)

/-- **The markers of a layout balance.**  Let a tree have elements, and tokens without the two signs
that a marker begins with.  Whoever reads its layout from left to right finds that each opening
marker has the number of the markers that are open before it, that each closing marker has the
number of the one it closes, and that none is left open.  There are as many pairs as branches, and
the greatest number in them is the greatest depth of a branch. -/
theorem layout_markers_balance (node : Node) (helements : node.isLeaf = false)
    (htokens : ∀ t ∈ node.elements.tokens,
      ¬ ['<', '['] <:+: t.text.toList ∧ ¬ [')', '['] <:+: t.text.toList) :
    (markersIn node.layout.toList).foldlM Marker.follow [] = some [] ∧
    (markersIn node.layout.toList).countP Marker.isOpening = node.branches.length ∧
    (markersIn node.layout.toList).countP Marker.isClosing = node.branches.length ∧
    ∃ deepest,
      IsGreatest {n | ∃ marker ∈ markersIn node.layout.toList, marker.depth = n} deepest ∧
      IsGreatest {depth | ∃ kind, (depth, kind) ∈ node.branches} deepest := by
  obtain ⟨deepest, hdeepest⟩ := exists_isGreatest_branch helements
  obtain ⟨hopening, hclosing⟩ := node.skeleton.countP_markers 0
  have hnumbers : {n | ∃ marker ∈ node.skeleton.markers 0, marker.depth = n} =
      {depth | ∃ kind, (depth, kind) ∈ node.branches} := by
    rw [branches_eq_outline]
    exact Set.ext (node.skeleton.exists_marker_iff 0)
  rw [markersIn_layout htokens, hnumbers]
  refine ⟨node.skeleton.foldlM_follow_markers [], ?_, ?_, deepest, hdeepest, hdeepest⟩
  · rw [branches_eq_outline]
    exact hopening
  · rw [branches_eq_outline]
    exact hclosing

/-- Half of a sign may stand at the end of a token and the other half at the beginning of the next
one, and either half next to a marker. -/
theorem layout_markers_balance_past_halves :
    let node : Node :=
      ⟨.expr, 1, .token ⟨"<", 1⟩ (.token ⟨"[0](", 1⟩
        (.node .literal 2 (.token ⟨"[1]>", 2⟩ (.token ⟨")\n", 2⟩ .nil)) (.token ⟨")", 3⟩ .nil)))⟩
    (node.isLeaf = false ∧ ∀ t ∈ node.elements.tokens,
      ¬ ['<', '['] <:+: t.text.toList ∧ ¬ [')', '['] <:+: t.text.toList) ∧
    (markersIn node.layout.toList).foldlM Marker.follow [] = some [] ∧
    (markersIn node.layout.toList).countP Marker.isOpening = 2 ∧
    (markersIn node.layout.toList).countP Marker.isClosing = 2 := by
  intro node
  have helements : node.isLeaf = false := by decide
  have htokens : ∀ t ∈ node.elements.tokens,
      ¬ ['<', '['] <:+: t.text.toList ∧ ¬ [')', '['] <:+: t.text.toList := by decide
  obtain ⟨hfollow, hopening, hclosing, -⟩ := layout_markers_balance node helements htokens
  exact ⟨⟨helements, htokens⟩, hfollow, hopening, hclosing⟩

end Tree

end SyntaxLint
