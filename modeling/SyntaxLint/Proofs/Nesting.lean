import Mathlib
import SyntaxLint.Proofs.DepthBound
import SyntaxLint.Proofs.Fallible
import SyntaxLint.Proofs.RawTree

/-!
# What a limit of nesting means for trees

A reader of JSON may refuse texts whose containers are nested too deeply.  For a text this is said
by its containers: with a limit of `127`, no array or object may be the `128`th one inside another
(`Json.Nests`).  For a tree it has to be said by its levels.  A rule element is written as two
nested containers, the object and the array of its children, which is written even if it is empty; a
token is one more object.  So a tree with at most `n` levels of rules is written with at most
`2 * n + 1` nested containers, and one with more levels with more of them, whether or not there are
tokens at its bottom (`RawElement.itemsDepth_forestJson_le_iff`).  The limit is odd, so it allows
just the trees with at most `63` levels.
-/

namespace SyntaxLint

/-! ## Nested containers -/

namespace Json

/-- A value holds a container with `n` other containers around it, which makes it the `n + 1`st of
containers inside one another. -/
inductive Nests : Json → Nat → Prop where
  | array (items : List Json) : Nests (.array items) 0
  | object (members : List (String × Json)) : Nests (.object members) 0
  | item {items : List Json} {item : Json} {n : Nat} :
      item ∈ items → Nests item n → Nests (.array items) (n + 1)
  | member {members : List (String × Json)} {name : String} {value : Json} {n : Nat} :
      (name, value) ∈ members → Nests value n → Nests (.object members) (n + 1)

lemma lt_itemsDepth_iff (items : List Json) (n : Nat) :
    n < itemsDepth items ↔ ∃ item ∈ items, n < item.depth := by
  induction items with
  | nil => simp [itemsDepth]
  | cons item items ih => rw [itemsDepth, lt_max_iff, ih, List.exists_mem_cons_iff]

lemma lt_membersDepth_iff (members : List (String × Json)) (n : Nat) :
    n < membersDepth members ↔ ∃ member ∈ members, n < member.2.depth := by
  induction members with
  | nil => simp [membersDepth]
  | cons member members ih => rw [membersDepth, lt_max_iff, ih, List.exists_mem_cons_iff]

/-- The depth of a value counts the containers inside one another. -/
lemma nests_iff (value : Json) (n : Nat) : value.Nests n ↔ n < value.depth := by
  constructor
  · intro h
    induction h with
    | array items => rw [depth]; exact Nat.succ_pos _
    | object members => rw [depth]; exact Nat.succ_pos _
    | item hitem _ ih =>
      rw [depth, Nat.add_lt_add_iff_right, lt_itemsDepth_iff]
      exact ⟨_, hitem, ih⟩
    | member hmember _ ih =>
      rw [depth, Nat.add_lt_add_iff_right, lt_membersDepth_iff]
      exact ⟨_, hmember, ih⟩
  · intro h
    induction n generalizing value with
    | zero =>
      cases value with
      | scalar value => exact absurd h (by rw [depth]; exact lt_irrefl 0)
      | array items => exact .array items
      | object members => exact .object members
    | succ n ih =>
      cases value with
      | scalar value => exact absurd h (by rw [depth]; exact Nat.not_lt_zero _)
      | array items =>
        rw [depth, Nat.add_lt_add_iff_right, lt_itemsDepth_iff] at h
        obtain ⟨item, hitem, hdeep⟩ := h
        exact .item hitem (ih item hdeep)
      | object members =>
        rw [depth, Nat.add_lt_add_iff_right, lt_membersDepth_iff] at h
        obtain ⟨⟨name, value⟩, hmember, hdeep⟩ := h
        exact .member hmember (ih value hdeep)

end Json

/-! ## Levels of rules -/

/-- An element and every element below it with their depths, in pre-order, the element itself at
depth zero. -/
def Element.preorder {κ : Type} (element : Element κ) : List (Nat × Element κ) :=
  (Forest.cons element .nil).preorder 0

/-- How many nodes there are at most on a way down from an element, a node itself included. -/
def Element.levels {κ : Type} (element : Element κ) : Nat :=
  (Forest.cons element .nil).height

/-- The nodes of a forest are as deep as its height allows. -/
lemma Forest.height_le_iff_preorder {κ : Type} (forest : Forest κ) (start n : Nat) :
    forest.height ≤ n ↔
      ∀ depth tree, (depth, Element.node tree) ∈ forest.preorder start → depth < start + n := by
  induction forest generalizing start n with
  | nil => simp [height, preorder]
  | token t rest ih => simp [height, preorder, ih start n]
  | node kind line inner rest ihInner ihRest =>
    cases n with
    | zero =>
      -- Neither holds, since the node itself is in the forest.
      refine iff_of_false (by simp [height]) fun hnone => ?_
      have hself := hnone start ⟨kind, line, inner⟩ (by simp [preorder])
      exact lt_irrefl start hself
    | succ n =>
      rw [height, max_le_iff, Nat.add_le_add_iff_right, ihInner (start + 1), ihRest start]
      constructor
      · rintro ⟨hinner, hrest⟩ depth tree hmem
        rw [preorder, List.cons_append, List.mem_cons, List.mem_append] at hmem
        rcases hmem with hself | hmem | hmem
        · have hdepth : depth = start := (Prod.mk.inj hself).1
          omega
        · have := hinner depth tree hmem
          omega
        · exact hrest depth tree hmem
      · intro h
        refine ⟨fun depth tree hmem => ?_, fun depth tree hmem => ?_⟩
        · have := h depth tree (by simp [preorder, hmem])
          omega
        · exact h depth tree (by simp [preorder, hmem])

/-- An element has at most `n + 1` levels exactly if its nodes are at depth at most `n`. -/
lemma Element.levels_le_iff {κ : Type} (element : Element κ) (n : Nat) :
    element.levels ≤ n + 1 ↔
      ∀ depth tree, (depth, Element.node tree) ∈ element.preorder → depth ≤ n := by
  rw [levels, Forest.height_le_iff_preorder _ 0, Nat.zero_add]
  simp only [Nat.lt_succ_iff, preorder]

namespace RawElement

/-- **Two containers a level, and one for a token.**  What is written of a sequence of elements has
at most `2 * n + 1` containers inside one another exactly if there are at most `n` levels of rules.
-/
lemma itemsDepth_forestJson_le_iff (forest : Forest String) (n : Nat) :
    Json.itemsDepth (forestJson forest) ≤ 2 * n + 1 ↔ forest.height ≤ n := by
  induction forest generalizing n with
  | nil => simp [forestJson, Json.itemsDepth, Forest.height]
  | token t rest ih =>
    have htoken : (tokenJson t).depth = 1 := rfl
    rw [forestJson, Json.itemsDepth, htoken, max_le_iff, ih, Forest.height]
    exact and_iff_right (Nat.le_add_left 1 _)
  | node rule line inner rest ihInner ihRest =>
    have hrule : (ruleJson rule line (forestJson inner)).depth =
        Json.itemsDepth (forestJson inner) + 2 := by
      simp [ruleJson, Json.depth, Json.membersDepth, Json.string, Json.nat]
    rw [forestJson, Json.itemsDepth, hrule, max_le_iff, ihRest, Forest.height, max_le_iff]
    refine and_congr_left fun _ => ?_
    cases n with
    | zero => omega
    | succ n =>
      have := ihInner n
      omega

/-! ## The two readers -/

/-- What is nested within the limit is what has no container with that many others around it. -/
lemma withinLimit_iff (limit : Nat) (value : Json) :
    withinLimit (some limit) value.depth = true ↔ ¬ value.Nests limit := by
  rw [Json.nests_iff, not_lt, withinLimit, Option.all_some, decide_eq_true_iff]

/-- What is read from an outline: a value that is nested within the limit and stands for an element.
-/
lemma decoder_eq_ok_iff (limit : Option Nat) (outline : Outline) (element : RawElement) :
    decoder limit outline = .ok element ↔
      ∃ value, outline.toJson? = some value ∧ withinLimit limit value.depth = true ∧
        ofJson? value = some element := by
  rw [decoder]
  cases outline.toJson? with
  | none => simp
  | some value =>
    by_cases hlimit : withinLimit limit value.depth = true
    · cases hvalue : ofJson? value <;> simp [hlimit, hvalue]
    · simp [hlimit]

lemma ofText_eq_ok_iff (limit : Option Nat) (text : String) (element : RawElement) :
    ofText limit text = .ok element ↔
      (Document.ofText text).trailing = false ∧
        decoder limit (Document.ofText text).root = .ok element := by
  rw [ofText, Decoder.ofText]
  constructor
  · intro h
    obtain ⟨value, hvalue, hrest⟩ := exists_of_bind_eq_ok h
    split at hrest
    · exact absurd hrest throw_ne_ok
    · next htrailing => exact ⟨by simpa using htrailing, hvalue.trans hrest⟩
  · rintro ⟨htrailing, hvalue⟩
    rw [hvalue, htrailing]
    rfl

/-- A limit only takes away: of what is read without a limit, the texts are refused in which some
container has too many others around it. -/
lemma ofText_limited_iff (limit : Nat) (text : String) (element : RawElement) :
    ofText (some limit) text = .ok element ↔
      ofText none text = .ok element ∧
        ∀ value, (Document.ofText text).root.toJson? = some value → ¬ value.Nests limit := by
  rw [ofText_eq_ok_iff, ofText_eq_ok_iff, decoder_eq_ok_iff, decoder_eq_ok_iff]
  constructor
  · rintro ⟨htrailing, value, hvalue, hlimit, helement⟩
    refine ⟨⟨htrailing, value, hvalue, rfl, helement⟩, fun other hother => ?_⟩
    rw [hvalue, Option.some.injEq] at hother
    exact hother ▸ (withinLimit_iff limit value).1 hlimit
  · rintro ⟨⟨htrailing, value, hvalue, -, helement⟩, hnests⟩
    have hlimit := (withinLimit_iff limit value).2 (hnests value hvalue)
    exact ⟨htrailing, value, hvalue, hlimit, helement⟩

/-- What is written of an element is read back within the limit, and else is taken for no JSON. -/
lemma ofText_compact_limited (limit : Nat) (element : RawElement) :
    ofText (some limit) element.toJson.compact =
      if element.toJson.depth ≤ limit then .ok element else .error .malformed := by
  rw [ofText, Decoder.ofText_compact _ (readsBack_toJson element), decoder, Json.toJson?_outline]
  simp [withinLimit, ofJson?_toJson]

/-- The written form of an element is within the limit exactly if it has at most `63` levels. -/
lemma depth_toJson_le_nestingLimit_iff (element : RawElement) :
    element.toJson.depth ≤ nestingLimit ↔ element.levels ≤ 63 := by
  have hlimit : nestingLimit = 2 * 63 + 1 := rfl
  have hdepth : element.toJson.depth =
      Json.itemsDepth (forestJson (Forest.cons element .nil)) := by
    cases element <;> simp [toJson, Forest.cons, forestJson, Json.itemsDepth]
  rw [hdepth, hlimit, itemsDepth_forestJson_le_iff, Element.levels]

/-- **The limited reader agrees with the other one up to an exact depth.**  A text is read under the
limit exactly if it is read without it, as the same element, and none of its containers is the
`128`th of containers inside one another.  What is written of an element is always read back without
the limit.  Under it, it is read back exactly if all rules of the element are at depth at most `62`,
that is, if there are at most `63` levels of them, and is refused otherwise. -/
theorem limited_reader_agrees_up_to_depth :
    (∀ (text : String) (element : RawElement),
      ofText (some nestingLimit) text = .ok element ↔
        ofText none text = .ok element ∧
          ∀ value, (Document.ofText text).root.toJson? = some value → ¬ value.Nests 127) ∧
    ∀ element : RawElement,
      ofText none element.toJson.compact = .ok element ∧
      (ofText (some nestingLimit) element.toJson.compact = .ok element ↔
        ∀ depth tree, (depth, Element.node tree) ∈ element.preorder → depth ≤ 62) ∧
      (element.levels ≤ 63 ↔
        ∀ depth tree, (depth, Element.node tree) ∈ element.preorder → depth ≤ 62) ∧
      (63 < element.levels →
        ofText (some nestingLimit) element.toJson.compact = .error .malformed) := by
  refine ⟨ofText_limited_iff nestingLimit, fun element => ?_⟩
  have hlevels := element.levels_le_iff 62
  have hdepth := element.depth_toJson_le_nestingLimit_iff
  refine ⟨ofText_compact_toJson element, ?_, hlevels, fun hdeep => ?_⟩
  · rw [ofText_compact_limited, ← hlevels, ← hdepth]
    split_ifs with h <;> simp [h]
  · rw [ofText_compact_limited, if_neg (by rw [hdepth]; omega)]

/-- With `63` levels of rules even a token at the bottom is allowed; with `64` the empty list of
children at the bottom is too much. -/
theorem limited_reader_agrees_at_bottom_of_levels :
    let inRule : RawElement → RawElement := fun element => .node ⟨"expr", 1, .cons element .nil⟩
    let allowed := inRule^[63] (.token ⟨"x", 1⟩)
    let refused := inRule^[63] (.node ⟨"expr", 1, .nil⟩)
    (allowed.levels ≤ 63 ∧ ofText (some nestingLimit) allowed.toJson.compact = .ok allowed) ∧
      (63 < refused.levels ∧
        ofText (some nestingLimit) refused.toJson.compact = .error .malformed ∧
        ofText none refused.toJson.compact = .ok refused) := by
  intro inRule allowed refused
  have hallowed : allowed.levels ≤ 63 := by decide +kernel
  have hrefused : 63 < refused.levels := by decide +kernel
  obtain ⟨-, hread, hlevels, -⟩ := limited_reader_agrees_up_to_depth.2 allowed
  obtain ⟨hunlimited, -, -, hdeep⟩ := limited_reader_agrees_up_to_depth.2 refused
  exact ⟨⟨hallowed, hread.2 (hlevels.1 hallowed)⟩, hrefused, hdeep hrefused, hunlimited⟩

end RawElement

end SyntaxLint
