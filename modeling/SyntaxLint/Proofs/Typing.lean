import Mathlib
import SyntaxLint.RawTree
import SyntaxLint.Proofs.Fallible

/-!
# Typing changes nothing but names

Typing a raw tree puts a kind in the place of every rule name.  If every rule name is the name of a
kind, the result is the tree itself in other words: forgetting the kinds again (`Tree.untyped`)
gives back the raw tree, element by element and line by line.  If not, the first rule in pre-order
with an unknown name is blamed (`Untypable`).

A rule is judged before its elements, its elements before what follows it, and nothing that was
typed before is looked at again.  So the error of a typing is the first that is met along the
pre-order, whatever the typed parts are (`Forest.errorOf_typed`).  That a typing without an error is
exact is one more induction (`Forest.untyped_of_typed`), and that every typed tree comes from its
own raw tree is another (`Forest.typed_untyped`): for this the names of the kinds have to be
different.
-/

namespace SyntaxLint

/-! ## Rules and what is wrong with them -/

/-- A text is the name of a kind. -/
def IsKindName (text : String) : Prop :=
  ∃ kind : Kind, kind.name = text

/-- The name and the line of a rule element. -/
def RawElement.heading? : RawElement → Option (String × UInt32)
  | .node tree => some (tree.kind, tree.line)
  | .token _ => none

/-- The rules among listed elements, each as its name and its line. -/
def rulesAmong (listed : List (Nat × RawElement)) : List (String × UInt32) :=
  listed.filterMap fun item => RawElement.heading? item.2

/-- The rules of a raw tree in pre-order, each as its name and its line. -/
def Tree.rules (tree : Tree String) : List (String × UInt32) :=
  rulesAmong tree.preorder

/-- Why an element has no typed tree: it is a token, or it holds rules with unknown names, of which
the first in pre-order counts. -/
inductive Untypable : RawElement → LoadError → Prop where
  | token (token : Token) : Untypable (.token token) (.tokenRoot token.line)
  | rule {tree : Tree String} {before after : List (String × UInt32)} {rule : String}
      {line : UInt32} :
      tree.rules = before ++ (rule, line) :: after →
      (∀ known ∈ before, IsKindName known.1) → ¬ IsKindName rule →
      Untypable (.node tree) (.unknownRule rule line)

/-- The element with rule names in place of kinds. -/
def Element.untyped : Element Kind → RawElement
  | .node tree => tree.untyped
  | .token t => .token t

lemma ofName?_eq_none_iff {text : String} : Kind.ofName? text = none ↔ ¬ IsKindName text := by
  constructor
  · rintro hnone ⟨kind, rfl⟩
    rw [Kind.ofName?_name] at hnone
    exact absurd hnone (by simp)
  · intro hunknown
    rw [Option.eq_none_iff_forall_ne_some]
    exact fun kind hkind => hunknown ⟨kind, Kind.name_of_ofName? hkind⟩

/-- The complaint about a rule whose name is unknown. -/
def complaint? (rule : String × UInt32) : Option LoadError :=
  match Kind.ofName? rule.1 with
  | some _ => none
  | none => some (.unknownRule rule.1 rule.2)

lemma complaint?_eq_none_iff {rule : String × UInt32} :
    complaint? rule = none ↔ IsKindName rule.1 := by
  rw [complaint?]
  cases h : Kind.ofName? rule.1 with
  | none => simp [ofName?_eq_none_iff.1 h]
  | some kind => simp [IsKindName, ← Kind.name_of_ofName? h]

lemma complaint?_eq_some_iff {rule : String × UInt32} {error : LoadError} :
    complaint? rule = some error ↔ ¬ IsKindName rule.1 ∧ error = .unknownRule rule.1 rule.2 := by
  rw [complaint?, ← ofName?_eq_none_iff]
  cases h : Kind.ofName? rule.1 with
  | none => simp [eq_comm]
  | some kind => simp

/-! ## Errors come in pre-order -/

lemma errorOf_kindOfRule (rule : String) (line : UInt32) :
    errorOf (kindOfRule rule line) = complaint? (rule, line) := by
  rw [kindOfRule, complaint?]
  cases Kind.ofName? rule <;> rfl

lemma rulesAmong_append (listed others : List (Nat × RawElement)) :
    rulesAmong (listed ++ others) = rulesAmong listed ++ rulesAmong others :=
  List.filterMap_append

lemma rulesAmong_node (depth : Nat) (tree : Tree String) (listed : List (Nat × RawElement)) :
    rulesAmong ((depth, .node tree) :: listed) = (tree.kind, tree.line) :: rulesAmong listed :=
  rfl

/-- Typing a forest fails with the first complaint in pre-order. -/
lemma Forest.errorOf_typed (forest : Forest String) (depth : Nat) :
    errorOf forest.typed = (rulesAmong (forest.preorder depth)).findSome? complaint? := by
  induction forest generalizing depth with
  | nil => rfl
  | token t rest ih =>
    rw [Forest.typed, errorOf_bind_pure, ih depth]
    rfl
  | node rule line inner rest ihInner ihRest =>
    rw [Forest.typed,
      errorOf_bind fun _ => errorOf_bind fun _ => errorOf_bind_pure rest.typed _,
      errorOf_kindOfRule, ihInner (depth + 1), ihRest depth, Forest.preorder, List.cons_append,
      rulesAmong_node, rulesAmong_append, List.findSome?_cons, List.findSome?_append]
    cases complaint? (rule, line) <;> rfl

/-- Typing a tree fails with the first complaint in pre-order. -/
lemma RawElement.errorOf_typed_node (tree : Tree String) :
    errorOf (RawElement.typed (.node tree)) = tree.rules.findSome? complaint? := by
  rw [RawElement.typed, errorOf_bind fun _ => errorOf_bind_pure tree.elements.typed _,
    errorOf_kindOfRule, tree.elements.errorOf_typed 1,
    Tree.rules, Tree.preorder, rulesAmong_node, List.findSome?_cons]
  cases complaint? (tree.kind, tree.line) <;> rfl

/-! ## Typing without an error is exact -/

lemma kindOfRule_name (kind : Kind) (line : UInt32) : kindOfRule kind.name line = .ok kind := by
  rw [kindOfRule, Kind.ofName?_name]

lemma name_of_kindOfRule {rule : String} {line : UInt32} {kind : Kind}
    (h : kindOfRule rule line = .ok kind) : kind.name = rule := by
  rw [kindOfRule] at h
  split at h
  · next found hfound =>
    rw [← Except.ok.inj h]
    exact Kind.name_of_ofName? hfound
  · exact absurd h (by simp)

/-- A typed forest is the raw forest again once its kinds are forgotten. -/
lemma Forest.untyped_of_typed {forest : Forest String} {result : Forest Kind}
    (h : forest.typed = .ok result) : result.untyped = forest := by
  induction forest generalizing result with
  | nil =>
    rw [← Except.ok.inj h]
    rfl
  | token t rest ih =>
    obtain ⟨typedRest, hrest, hresult⟩ := exists_of_bind_eq_ok h
    rw [← Except.ok.inj hresult, Forest.untyped, ih hrest]
  | node rule line inner rest ihInner ihRest =>
    obtain ⟨kind, hkind, h⟩ := exists_of_bind_eq_ok h
    obtain ⟨typedInner, hinner, h⟩ := exists_of_bind_eq_ok h
    obtain ⟨typedRest, hrest, hresult⟩ := exists_of_bind_eq_ok h
    rw [← Except.ok.inj hresult, Forest.untyped, name_of_kindOfRule hkind, ihInner hinner,
      ihRest hrest]

/-- A forest whose kinds were forgotten gets them back. -/
lemma Forest.typed_untyped (forest : Forest Kind) : forest.untyped.typed = .ok forest := by
  induction forest with
  | nil => rfl
  | token t rest ih =>
    rw [Forest.untyped, Forest.typed, ih]
    rfl
  | node kind line inner rest ihInner ihRest =>
    rw [Forest.untyped, Forest.typed, kindOfRule_name, ihInner, ihRest]
    rfl

lemma RawElement.untyped_of_typed {element : RawElement} {node : Node}
    (h : element.typed = .ok node) : node.untyped = element := by
  cases element with
  | token token => exact absurd h (by simp [RawElement.typed])
  | node tree =>
    obtain ⟨kind, hkind, h⟩ := exists_of_bind_eq_ok h
    obtain ⟨elements, helements, hnode⟩ := exists_of_bind_eq_ok h
    rw [← Except.ok.inj hnode, Tree.untyped, name_of_kindOfRule hkind,
      Forest.untyped_of_typed helements]

lemma Tree.typed_untyped (node : Node) : RawElement.typed node.untyped = .ok node := by
  rw [Tree.untyped, RawElement.typed, kindOfRule_name, Forest.typed_untyped]
  rfl

/-- Forgetting the kinds of a forest forgets them on each of its elements, at the same depth and in
the same order. -/
lemma Forest.preorder_untyped (forest : Forest Kind) (depth : Nat) :
    forest.untyped.preorder depth =
      (forest.preorder depth).map (Prod.map id Element.untyped) := by
  induction forest generalizing depth with
  | nil => rfl
  | token t rest ih =>
    rw [Forest.untyped, Forest.preorder, Forest.preorder, ih, List.map_cons]
    rfl
  | node kind line inner rest ihInner ihRest =>
    rw [Forest.untyped, Forest.preorder, Forest.preorder, ihInner, ihRest, List.map_append,
      List.map_cons]
    rfl

namespace RawElement

/-! ## Both cases together -/

lemma typed_eq_ok_iff {element : RawElement} {node : Node} :
    element.typed = .ok node ↔ node.untyped = element :=
  ⟨untyped_of_typed, fun h => h ▸ Tree.typed_untyped node⟩

lemma typed_eq_error_iff {element : RawElement} {error : LoadError} :
    element.typed = .error error ↔ Untypable element error := by
  cases element with
  | token token =>
    constructor
    · intro h
      rw [← Except.error.inj h]
      exact .token token
    · rintro ⟨⟩
      rfl
  | node tree =>
    rw [← errorOf_eq_some_iff, errorOf_typed_node, List.findSome?_eq_some_iff]
    simp only [complaint?_eq_none_iff, complaint?_eq_some_iff]
    constructor
    · rintro ⟨before, ⟨rule, line⟩, after, hsplit, ⟨hunknown, rfl⟩, hbefore⟩
      exact .rule hsplit hbefore hunknown
    · rintro (_ | ⟨hsplit, hbefore, hunknown⟩)
      exact ⟨_, _, _, hsplit, ⟨hunknown, rfl⟩, hbefore⟩

lemma exists_typed_iff {tree : Tree String} :
    (∃ node, RawElement.typed (.node tree) = .ok node) ↔
      ∀ rule ∈ tree.rules, IsKindName rule.1 := by
  rw [← errorOf_eq_none_iff, errorOf_typed_node, List.findSome?_eq_none_iff]
  simp only [complaint?_eq_none_iff]

/-- **Typing is exact.**  A token is refused with its line.  A raw tree all of whose rules carry
names of kinds is typed, and any other is refused with the name and the line of the first rule in
pre-order that does not.  The typed tree is the only one that becomes the raw tree when its kinds
are forgotten, and every typed tree is typed again from its own raw tree.  What is listed of the two
in pre-order agrees: the same elements at the same depths, with the same lines. -/
theorem typed_exact_or_first_unknown (element : RawElement) :
    (∀ token, element = .token token → element.typed = .error (.tokenRoot token.line)) ∧
      (∀ tree, element = .node tree →
        ((∃ node, element.typed = .ok node) ↔ ∀ rule ∈ tree.rules, IsKindName rule.1)) ∧
      (∀ error, element.typed = .error error ↔ Untypable element error) ∧
      (∀ node : Node, element.typed = .ok node ↔ node.untyped = element) ∧
      ∀ node : Node, element.typed = .ok node →
        ∃ tree, element = .node tree ∧
          tree.preorder = node.preorder.map (Prod.map id Element.untyped) := by
  refine ⟨?_, ?_, fun _ => typed_eq_error_iff, fun _ => typed_eq_ok_iff, ?_⟩
  · rintro token rfl
    rfl
  · rintro tree rfl
    exact exists_typed_iff
  · intro node hnode
    obtain rfl := typed_eq_ok_iff.1 hnode
    refine ⟨_, rfl, ?_⟩
    rw [Tree.preorder, Tree.preorder, Forest.preorder_untyped, List.map_cons]
    rfl

/-- Of three unknown rules the first in pre-order is blamed; the one below it and the one beside its
parent are not reached. -/
theorem typed_blames_first_unknown :
    let element : RawElement :=
      .node ⟨"prolog", 1,
        .token ⟨"(", 1⟩
          (.node "expr" 2 (.node "Expr" 3 (.node "literals" 4 .nil .nil) .nil)
            (.node "decl" 5 .nil .nil))⟩
    element.typed = .error (.unknownRule "Expr" 3) ∧
      Untypable element (.unknownRule "Expr" 3) := by
  intro element
  have htyped : element.typed = .error (.unknownRule "Expr" 3) := by decide
  exact ⟨htyped, ((typed_exact_or_first_unknown element).2.2.1 _).1 htyped⟩

end RawElement

end SyntaxLint
