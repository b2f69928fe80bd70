import Mathlib
import SyntaxLint.Proofs.Preorder

/-!
# A subtree within the pre-order of its tree

The pre-order of a tree falls into three parts at any of its nodes: what comes before the node (its
ancestors among it), what is in the subtree of the node, and what follows the subtree.  In terms of
paths, the first part is smaller than the path of the node, the second starts with it, and the third
is greater and does not start with it (`Tree.placesWithin_eq_append`).

The middle part is the pre-order of the subtree taken on its own, with every path prolonged at its
front and with the ancestors of the node put in front of those inside the subtree (`Place.graft`).
As in the rest of the theory of places, no tree is taken apart for this: lists of places with
increasing paths are equal if they have the same members (`eq_of_increasing_paths`), and members are
known by following paths.
-/

namespace SyntaxLint

open scoped List

/-! ## Paths -/

/-- What comes after a path and does not start with it comes after all that starts with it. -/
lemma append_lt_of_lt {path other : Path} (hlt : path < other) (hstarts : ¬ path <+: other)
    (more : Path) : path ++ more < other := by
  induction path generalizing other with
  | nil => exact absurd List.nil_prefix hstarts
  | cons i path ih =>
    cases other with
    | nil => exact absurd hlt (List.not_lt_nil _)
    | cons j other =>
      rw [List.cons_append, List.cons_lt_cons_iff]
      rcases List.cons_lt_cons_iff.1 hlt with hij | ⟨rfl, hrest⟩
      · exact .inl hij
      · refine .inr ⟨rfl, ih hrest fun h => hstarts ?_⟩
        exact (List.prefix_cons_inj i).2 h

/-- A path comes no later than one that starts with it. -/
lemma path_le_append (path more : Path) : path ≤ path ++ more := by
  rw [← not_lt]
  induction path with
  | nil => exact List.not_lt_nil _
  | cons i path ih =>
    rw [List.cons_append, List.cons_lt_cons_iff]
    rintro (hlt | ⟨-, hlt⟩)
    · exact lt_irrefl i hlt
    · exact ih hlt

/-- Two lists of places, or of what is known of places, whose paths increase are equal if they have
the same members. -/
lemma eq_of_increasing_paths {α : Type} (path : α → Path) {items others : List α}
    (hitems : items.Pairwise fun a b => path a < path b)
    (hothers : others.Pairwise fun a b => path a < path b)
    (hmem : ∀ item, item ∈ items ↔ item ∈ others) : items = others := by
  have : Std.Antisymm fun a b : α => path a < path b :=
    ⟨fun a b hab hba => absurd hba (lt_asymm hab)⟩
  have : Std.Irrefl fun a b : α => path a < path b := ⟨fun a => lt_irrefl (path a)⟩
  exact hitems.eq_of_mem_iff hothers hmem

/-- A list with increasing paths splits at any path: into what comes before that path, what starts
with it, and what comes after it and does not start with it. -/
lemma eq_append_of_increasing_paths {α : Type} (path : α → Path) {items : List α}
    (hsorted : items.Pairwise fun a b => path a < path b) (here : Path) :
    items =
      items.filter (fun item => path item < here) ++ items.filter (fun item => here <+: path item) ++
        items.filter fun item => here < path item ∧ ¬ here <+: path item := by
  refine eq_of_increasing_paths path hsorted ?_ fun item => ?_
  · rw [List.pairwise_append, List.pairwise_append]
    refine ⟨⟨hsorted.filter _, hsorted.filter _, ?_⟩, hsorted.filter _, ?_⟩
    · intro a ha b hb
      have hbefore : path a < here := by simpa using (List.mem_filter.1 ha).2
      obtain ⟨more, hmore⟩ : here <+: path b := by simpa using (List.mem_filter.1 hb).2
      rw [← hmore]
      exact lt_of_lt_of_le hbefore (path_le_append here more)
    · intro a ha b hb
      obtain ⟨hlt, hstarts⟩ : here < path b ∧ ¬ here <+: path b := by
        simpa using (List.mem_filter.1 hb).2
      rcases List.mem_append.1 ha with ha | ha
      · have hbefore : path a < here := by simpa using (List.mem_filter.1 ha).2
        exact lt_trans hbefore hlt
      · obtain ⟨more, hmore⟩ : here <+: path a := by simpa using (List.mem_filter.1 ha).2
        rw [← hmore]
        exact append_lt_of_lt hlt hstarts more
  · simp only [List.mem_append, List.mem_filter, decide_eq_true_eq]
    constructor
    · intro hitem
      rcases lt_or_ge (path item) here with hlt | hge
      · exact .inl (.inl ⟨hitem, hlt⟩)
      · by_cases hstarts : here <+: path item
        · exact .inl (.inr ⟨hitem, hstarts⟩)
        · have hne : here ≠ path item := fun h => hstarts (h ▸ List.prefix_refl _)
          exact .inr ⟨hitem, lt_of_le_of_ne hge hne, hstarts⟩
    · rintro ((⟨hitem, -⟩ | ⟨hitem, -⟩) | ⟨hitem, -⟩) <;> exact hitem

/-! ## Following a path in two parts -/

/-- Going on from the end of a path is following the longer path. -/
lemma Tree.visitBelow?_path_append (path more : Path) (ancestors : List Node) (node : Node) :
    node.visitBelow? ancestors (path ++ more) =
      (node.visitBelow? ancestors path).bind fun visit =>
        visit.node.visitBelow? visit.ancestors more := by
  induction path generalizing ancestors node with
  | nil => simp [Tree.visitBelow?]
  | cons i path ih =>
    rw [List.cons_append, Tree.visitBelow?, Tree.visitBelow?]
    split
    · exact ih _ _
    · rfl

/-- From the root of a tree, the places of the subtree at the end of a path are seen at longer paths
and below more ancestors. -/
lemma Tree.visitAt?_append {root : Node} {path : Path} {visit : Visit}
    (h : root.visitAt? path = some visit) (more : Path) :
    root.visitAt? (path ++ more) =
      (visit.node.visitAt? more).map (Visit.under visit.ancestors) := by
  have hbelow := Tree.visitBelow?_append more visit.ancestors [] visit.node
  rw [List.append_nil] at hbelow
  rw [Tree.visitAt?, Tree.visitBelow?_path_append, ← Tree.visitAt?, h, Option.bind_some, hbelow,
    Tree.visitAt?]

/-! ## The places of a subtree -/

/-- The place of a subtree as a place of the whole tree, where a path leads to the subtree and the
given ancestors are around it. -/
def Place.graft (path : Path) (ancestors : List Node) (place : Place) : Place :=
  ⟨path ++ place.path, place.visit.under ancestors⟩

lemma Place.depth_graft (path : Path) (ancestors : List Node) (place : Place) :
    (place.graft path ancestors).visit.depth = ancestors.length + place.visit.depth := by
  simp [Place.graft, Visit.under, Visit.depth]

namespace Tree

/-- The places before a node: its ancestors and what is before these or before the node among their
elements. -/
def placesBefore (root : Node) (bound : Nat) (path : Path) : List Place :=
  (root.placesWithin bound).filter fun place => place.path < path

/-- The places of the subtree of a node. -/
def placesInside (root : Node) (bound : Nat) (path : Path) : List Place :=
  (root.placesWithin bound).filter fun place => path <+: place.path

/-- The places after the subtree of a node. -/
def placesAfter (root : Node) (bound : Nat) (path : Path) : List Place :=
  (root.placesWithin bound).filter fun place => path < place.path ∧ ¬ path <+: place.path

/-- The places after a node: what is in its subtree, then what is after the subtree. -/
def placesPast (root : Node) (bound : Nat) (path : Path) : List Place :=
  (root.placesWithin bound).filter fun place => path < place.path

lemma pairwise_placesWithin (root : Node) (bound : Nat) :
    (root.placesWithin bound).Pairwise fun a b => a.path < b.path :=
  (pairwise_places root).filter _

/-- **The pre-order splits at a node** into what comes before it, its subtree, and what follows. -/
lemma placesWithin_eq_append (root : Node) (bound : Nat) (path : Path) :
    root.placesWithin bound =
      root.placesBefore bound path ++ root.placesInside bound path ++
        root.placesAfter bound path :=
  eq_append_of_increasing_paths Place.path (root.pairwise_placesWithin bound) path

/-- The places of the subtree at the end of a path are those that the subtree has on its own. -/
lemma placesInside_eq_map_graft {root : Node} {path : Path} {visit : Visit} {bound : Nat}
    (hvisit : root.visitAt? path = some visit) (hbound : path.length ≤ bound) :
    root.placesInside bound path =
      (visit.node.placesWithin (bound - path.length)).map (Place.graft path visit.ancestors) := by
  have hdepth : visit.ancestors.length = path.length := by
    have := Tree.depth_of_visitBelow? hvisit
    simpa [Visit.depth] using this
  refine eq_of_increasing_paths Place.path ((root.pairwise_placesWithin bound).filter _) ?_
    fun place => ?_
  · rw [List.pairwise_map]
    refine (visit.node.pairwise_placesWithin _).imp fun hlt => ?_
    exact List.append_left_lt hlt
  · simp only [placesInside, placesWithin, List.mem_filter, List.mem_map, decide_eq_true_eq]
    constructor
    · rintro ⟨⟨hplace, hwithin⟩, more, hmore⟩
      have hat := mem_places.1 hplace
      rw [← hmore, visitAt?_append hvisit, Option.map_eq_some_iff] at hat
      obtain ⟨inner, hinner, hunder⟩ := hat
      have hgraft : Place.graft path visit.ancestors ⟨more, inner⟩ = place := by
        rw [Place.graft, hmore, hunder]
      refine ⟨⟨more, inner⟩, ⟨mem_places.2 hinner, ?_⟩, hgraft⟩
      rw [← hgraft, Place.depth_graft] at hwithin
      omega
    · rintro ⟨sub, ⟨hsub, hwithin⟩, rfl⟩
      refine ⟨⟨mem_places.2 ?_, ?_⟩, List.prefix_append path sub.path⟩
      · rw [Place.graft, visitAt?_append hvisit, mem_places.1 hsub]
        rfl
      · rw [Place.depth_graft]
        omega

/-- The pre-order at a node: what comes before it, the node, and what comes after it, its subtree
first. -/
lemma placesWithin_eq_cons {root : Node} {path : Path} {visit : Visit} {bound : Nat}
    (hvisit : root.visitAt? path = some visit) (hbound : path.length ≤ bound) :
    root.placesWithin bound =
      root.placesBefore bound path ++ ⟨path, visit⟩ :: root.placesPast bound path := by
  have hsorted := root.pairwise_placesWithin bound
  have hbefore : ∀ place ∈ root.placesBefore bound path, place.path < path :=
    fun place hplace => by simpa using (List.mem_filter.1 hplace).2
  have hpast : ∀ place ∈ root.placesPast bound path, path < place.path :=
    fun place hplace => by simpa using (List.mem_filter.1 hplace).2
  have hwithin : (⟨path, visit⟩ : Place) ∈ root.placesWithin bound :=
    ((root.isPreorder_placesWithin bound).mem_iff _).2 ⟨hvisit, hbound⟩
  refine eq_of_increasing_paths Place.path hsorted ?_ fun place => ?_
  · rw [List.pairwise_append, List.pairwise_cons]
    refine ⟨hsorted.filter _, ⟨hpast, hsorted.filter _⟩, fun a ha b hb => ?_⟩
    rcases List.mem_cons.1 hb with rfl | hb
    · exact hbefore a ha
    · exact lt_trans (hbefore a ha) (hpast b hb)
  · rw [List.mem_append, List.mem_cons, placesBefore, placesPast, List.mem_filter, List.mem_filter,
      decide_eq_true_eq, decide_eq_true_eq]
    constructor
    · intro hplace
      rcases lt_trichotomy place.path path with hlt | heq | hgt
      · exact .inl ⟨hplace, hlt⟩
      · have hat := (((root.isPreorder_placesWithin bound).mem_iff place).1 hplace).1
        rw [heq, hvisit, Option.some.injEq] at hat
        rcases place with ⟨_, _⟩
        exact .inr (.inl (by rw [Place.mk.injEq]; exact ⟨heq, hat.symm⟩))
      · exact .inr (.inr ⟨hplace, hgt⟩)
    · rintro (⟨hplace, -⟩ | rfl | ⟨hplace, -⟩)
      · exact hplace
      · exact hwithin
      · exact hplace

end Tree

end SyntaxLint
