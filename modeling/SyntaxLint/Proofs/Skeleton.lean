import Mathlib
import SyntaxLint.Proofs.Labels

/-!
# Skeletons

A branch is a node that has elements.  Everything above a branch is a branch too, so the branches of
a tree are a tree themselves, its `Skeleton`.  Tokens and nodes without elements are not in it.

`Tree.branches` lists the branches in pre-order, with their depths and kinds, and the list says all
about the skeleton (`Skeleton.outline_append_inj`).  What is inside of a branch are the entries
after it that are deeper than the branch, up to the first one that is not.  This is proved for the
outline of a skeleton with any list after it that does not begin as deep, because such a list
follows wherever the outlines of inner parts end.
-/

namespace SyntaxLint

/-- The branches of a forest, with their kinds, nesting and order. -/
inductive Skeleton where
  | nil
  | branch (kind : Kind) (inner rest : Skeleton)
  deriving DecidableEq

/-- What is left of a forest if only its branches are kept. -/
def Forest.skeleton : Forest Kind → Skeleton
  | .nil => .nil
  | .token _ rest => rest.skeleton
  | .node kind _ inner rest =>
    if inner.isEmpty then rest.skeleton else .branch kind inner.skeleton rest.skeleton

/-- What is left of a tree if only its branches are kept. -/
def Tree.skeleton (node : Node) : Skeleton :=
  node.single.skeleton

/-- The depth and the kind of an element, if it is a branch. -/
def branchOf? : Nat × Element Kind → Option (Nat × Kind)
  | (depth, .node node) => if node.isLeaf then none else some (depth, node.kind)
  | (_, .token _) => none

/-- The branches of a tree in pre-order, with their depths. -/
def Tree.branches (node : Node) : List (Nat × Kind) :=
  node.preorder.filterMap branchOf?

/-- The branches of a skeleton in pre-order, with their depths; those that are in no other one are
at the given depth. -/
def Skeleton.outline (depth : Nat) : Skeleton → List (Nat × Kind)
  | .nil => []
  | .branch kind inner rest => (depth, kind) :: (inner.outline (depth + 1) ++ rest.outline depth)

/-! ## Skeletons and branches -/

namespace Forest

lemma skeleton_labelled (label : Label) (line : UInt32) (rest : Forest Kind) :
    (labelled label line rest).skeleton = rest.skeleton := by
  cases label <;> rfl

lemma skeleton_branch (kind : Kind) (line : UInt32) {inner : Forest Kind} (rest : Forest Kind)
    (h : inner ≠ .nil) :
    (node kind line inner rest).skeleton = .branch kind inner.skeleton rest.skeleton := by
  rw [skeleton, if_neg (mt isEmpty_eq_true.1 h)]

lemma filterMap_branchOf?_preorder (forest : Forest Kind) (depth : Nat) :
    (forest.preorder depth).filterMap branchOf? = forest.skeleton.outline depth := by
  induction forest using labelInduction generalizing depth with
  | nil => rfl
  | labelled label line rest ih =>
    rw [skeleton_labelled, ← ih depth]
    cases label <;> rfl
  | branch kind line inner rest hinner ihInner ihRest =>
    have hbranch : branchOf? (depth, .node ⟨kind, line, inner⟩) = some (depth, kind) := by
      simp [branchOf?, Tree.isLeaf, hinner]
    rw [skeleton_branch _ _ _ hinner, preorder, Skeleton.outline, List.cons_append,
      List.filterMap_cons_some hbranch, List.filterMap_append, ihInner, ihRest]

end Forest

/-- The branches of a tree are those of its skeleton. -/
lemma Tree.branches_eq_outline (node : Node) : node.branches = node.skeleton.outline 0 := by
  rw [skeleton, ← Forest.filterMap_branchOf?_preorder, single, Forest.preorder, Forest.preorder,
    List.append_nil]
  rfl

/-! ## The skeleton of an outline -/

namespace Skeleton

/-- A list of entries does not begin as deep as this. -/
def BeginsAbove (depth : Nat) (entries : List (Nat × Kind)) : Prop :=
  ∀ entry ∈ entries.head?, entry.1 < depth

lemma beginsAbove_nil (depth : Nat) : BeginsAbove depth [] := by
  simp [BeginsAbove]

lemma not_beginsAbove_cons (depth : Nat) (kind : Kind) (rest : List (Nat × Kind)) :
    ¬ BeginsAbove depth ((depth, kind) :: rest) := by
  simp [BeginsAbove]

/-- An outline begins at its own depth, which is above that of what is inside. -/
lemma BeginsAbove.outline_append {depth : Nat} {after : List (Nat × Kind)}
    (h : BeginsAbove depth after) (skeleton : Skeleton) :
    BeginsAbove (depth + 1) (skeleton.outline depth ++ after) := by
  cases skeleton with
  | nil =>
    intro entry hentry
    exact Nat.lt_succ_of_lt (h entry hentry)
  | branch kind inner rest => simp [BeginsAbove, outline]

/-- A skeleton is told from its outline, and so is the list after it if this does not begin as
deep. -/
lemma outline_append_inj {skeleton other : Skeleton} {depth : Nat} {x y : List (Nat × Kind)}
    (hx : BeginsAbove depth x) (hy : BeginsAbove depth y)
    (h : skeleton.outline depth ++ x = other.outline depth ++ y) : skeleton = other ∧ x = y := by
  induction skeleton generalizing other depth x y with
  | nil =>
    cases other with
    | nil => exact ⟨rfl, h⟩
    | branch kind inner rest =>
      obtain rfl : x = _ := h
      exact absurd hx (not_beginsAbove_cons _ _ _)
  | branch kind inner rest ihInner ihRest =>
    cases other with
    | nil =>
      obtain rfl : _ = y := h
      exact absurd hy (not_beginsAbove_cons _ _ _)
    | branch kind' inner' rest' =>
      simp only [outline, List.cons_append, List.append_assoc, List.cons.injEq, Prod.mk.injEq,
        true_and] at h
      obtain ⟨rfl, hbelow⟩ := h
      obtain ⟨rfl, hrest⟩ := ihInner (hx.outline_append rest) (hy.outline_append rest') hbelow
      obtain ⟨rfl, hafter⟩ := ihRest hx hy hrest
      exact ⟨rfl, hafter⟩

/-- **An outline tells its skeleton.** -/
lemma outline_injective (depth : Nat) : Function.Injective (outline depth) := by
  intro skeleton other h
  have happend : skeleton.outline depth ++ [] = other.outline depth ++ [] := by rw [h]
  exact (outline_append_inj (beginsAbove_nil depth) (beginsAbove_nil depth) happend).1

end Skeleton

end SyntaxLint
