import Mathlib
import SyntaxLint.Proofs.Siblings

/-!
# What is reported on built modules

The builders of `Phrase` and the rules on declared types have to agree on where a type is declared:
a construct that is built with a type is left alone, and one that is built without is reported under
the name it was given.  This module says what is reported on a whole module that is put together by
the builders from any list of declarations.

What has a place for a type is built in one way (`Annotated`): among its direct children is one type
declaration if it is given a type, and else none.  All other parts of a phrase are of kinds that
nothing is said of (`Silent`).
-/

namespace SyntaxLint

namespace StrongTyping

/-! ## What is due on a declaration -/

/-- The issue that is due where no type is given. -/
def dueWithout (itemType : Option String) (issue : Issue) : List Issue :=
  if itemType = none then [issue] else []

/-- The issue on a for or let binding. -/
def bindingDue (clause : String) (line : UInt32) (var : String) (itemType : Option String) :
    List Issue :=
  dueWithout itemType
    ⟨libraryKey "StrongTypingInFLWOR", line, bindingText clause (some var)⟩

/-- The issue on a parameter of a declared function. -/
def paramDue (line : UInt32) (function : String) (param : String × Option String) : List Issue :=
  dueWithout param.2
    ⟨libraryKey "StrongTypingInFunctionDeclaration", line,
      "Declare a type for " ++ paramWords (some param.1) ++ " of " ++ functionWords (some function)
        ++ "."⟩

/-- The issues on the bindings of a FLWOR expression, which are on the lines after its own. -/
def flworDue (line : UInt32) (forType letType : Option String) : List Issue :=
  bindingDue "for" (line + 1) "item" forType ++ bindingDue "let" (line + 2) "count" letType

/-- A declaration as it is given to the builders. -/
inductive Declaration where
  | moduleVariable (line : UInt32) (name : String) (itemType : Option String) (literal : String)
  | function (line : UInt32) (name : String) (params : List (String × Option String))
      (returnType : Option String)
  | inlineFunction (line : UInt32) (params : List (String × Option String))

namespace Declaration

/-- The node that is built for a declaration. -/
def node : Declaration → Node
  | .moduleVariable line name itemType literal => Phrase.varDecl line name itemType literal
  | .function line name params returnType => Phrase.functionDecl line name params returnType
  | .inlineFunction line params => Phrase.inlineFunction line params

/-- The issues that are due on a declaration: on a function, first for its result and then for its
parameters in order. -/
def due : Declaration → List Issue
  | .moduleVariable line name itemType _ =>
    dueWithout itemType
      ⟨libraryKey "StrongTypingInModuleVariable", line,
        "Declare a type for " ++ variableWords (some name) ++ "."⟩
  | .function line name params returnType =>
    dueWithout returnType
        ⟨libraryKey "StrongTypingInFunctionDeclaration", line,
          "Declare a return type for " ++ functionWords (some name) ++ "."⟩ ++
      params.flatMap (paramDue line name)
  | .inlineFunction _ _ => []

end Declaration

/-! ## Parts that nothing is said of -/

section Parts

open Phrase

lemma silent_word {kind : Kind} (hkind : kind.declarationKind? = none) (line : UInt32)
    (text : String) : Silent [word kind line text] :=
  .node_of_kind hkind .nil

lemma silent_typeDeclaration (line : UInt32) (itemType : String) :
    Silent [typeDeclaration line itemType] :=
  .node_of_kind rfl (.node_of_kind rfl (silent_word rfl line itemType))

lemma silent_varName (line : UInt32) (name : String) : Silent [varName line name] :=
  .node_of_kind rfl (silent_word rfl line name)

lemma silent_varRef (line : UInt32) (name : String) : Silent [varRef line name] :=
  .node_of_kind rfl (silent_varName line name)

lemma silent_emptyBody (line : UInt32) : Silent [emptyBody line] :=
  .node_of_kind rfl (.node_of_kind rfl .nil)

lemma text_word (kind : Kind) (line : UInt32) (text : String) : (word kind line text).text = text :=
  String.append_empty

lemma text_varName (line : UInt32) (name : String) : (varName line name).text = name := by
  have htext : (varName line name).text = (word .eqName line name).text ++ "" := rfl
  rw [htext, text_word, String.append_empty]

end Parts

/-! ## Constructs with a place for a type -/

/-- A construct that can declare a type does so among its direct children exactly if it is given
one. -/
structure Annotated (node : Node) (line : UInt32) (itemType : Option String)
    (before after : List Node) : Prop where
  kind : node.kind.declarationKind? = some .typeDeclaration
  children : node.children =
    before ++ (itemType.map (Phrase.typeDeclaration line)).toList ++ after
  others : ∀ child ∈ before ++ after, child.kind ≠ .typeDeclaration

namespace Annotated

variable {node name : Node} {line : UInt32} {itemType : Option String} {before after : List Node}
  {ancestors : List Node} {issue : Issue} {below : List Issue}

lemma declaration?_eq (h : Annotated node line itemType before after) :
    node.declaration? = itemType.map (Phrase.typeDeclaration line) := by
  have hothers := List.forall_mem_append.1 h.others
  rw [Tree.declaration?, h.kind, Option.bind_some, Tree.child?, h.children]
  cases itemType with
  | none =>
    rw [Option.map_none, Option.toList_none, List.append_nil, List.find?_eq_none]
    simpa using h.others
  | some type =>
    rw [Option.map_some, Option.toList_some, List.find?_eq_some_iff_append]
    exact ⟨rfl, before, after, by simp, by simpa using hothers.1⟩

lemma untyped_iff (h : Annotated node line itemType before after) :
    Untyped node ↔ itemType = none := by
  rw [← not_iff_not, ← declaration?_isSome_iff h.kind, h.declaration?_eq, Option.isSome_map,
    Option.isSome_iff_ne_none]

/-- The type that is declared is the one that was given. -/
lemma typeText?_eq (h : Annotated node line itemType before after) :
    node.typeText? = itemType := by
  rw [Tree.typeText?, h.declaration?_eq]
  cases itemType with
  | none => rfl
  | some type => exact congrArg some (text_word .itemType line type)

/-- What comes first among the children gives the name. -/
lemma named (h : Annotated node line itemType (name :: before) after) :
    Named node name.kind (some name.text) :=
  @Named.text node name.kind [] _ name h.children rfl (by simp)

/-- Of the type itself nothing is said, so what is raised on the children is what is raised before
it. -/
lemma raises_children (h : Annotated node line itemType before after)
    (hbefore : Raises ancestors before below) (hafter : Silent after) :
    Raises ancestors node.children below := by
  have htype : Silent (itemType.map (Phrase.typeDeclaration line)).toList := by
    cases itemType with
    | none => exact .nil
    | some type => exact silent_typeDeclaration line type
  have hall := (hbefore.append (htype ancestors)).append (hafter ancestors)
  rwa [List.append_nil, List.append_nil, ← h.children] at hall

/-- What is raised on a construct: the issue that is due on it, if it is given no type, and what is
raised on its parts. -/
lemma raises (h : Annotated node line itemType before after)
    (hdue : Untyped node → Violation ⟨node, ancestors⟩ issue)
    (hbefore : Raises (ancestors ++ [node]) before below) (hafter : Silent after) :
    Raises ancestors [node] (dueWithout itemType issue ++ below) := by
  have hbelow := h.raises_children hbefore hafter
  by_cases huntyped : Untyped node
  · rw [dueWithout, if_pos (h.untyped_iff.1 huntyped)]
    exact .node_of_children (issuesAt_of_violation (hdue huntyped))
      (failuresAt_eq_nil_of_violation (hdue huntyped)) hbelow
  · have hquiet : issuesAt ⟨node, ancestors⟩ = [] ∧ failuresAt ⟨node, ancestors⟩ = [] :=
      quiet fun hdeclares => huntyped hdeclares.2
    rw [dueWithout, if_neg (h.untyped_iff.not.1 huntyped)]
    exact .node_of_children hquiet.1 hquiet.2 hbelow

end Annotated

/-! ## The constructs -/

section Constructs

open Phrase

variable {ancestors : List Node}

lemma annotated_forBinding (line : UInt32) (var : String) (itemType : Option String)
    (source : String) :
    Annotated (forBinding line var itemType source) line itemType [varName line var]
      [varRef line source] where
  kind := rfl
  children := by cases itemType <;> rfl
  others := by simp [varName, varRef, construct]

lemma annotated_letBinding (line : UInt32) (var : String) (itemType : Option String)
    (literal : String) :
    Annotated (letBinding line var itemType literal) line itemType [varName line var]
      [word .literal line literal] where
  kind := rfl
  children := by cases itemType <;> rfl
  others := by simp [varName, word, construct]

lemma annotated_varDecl (line : UInt32) (name : String) (itemType : Option String)
    (literal : String) :
    Annotated (varDecl line name itemType literal) line itemType [varName line name]
      [word .literal line literal] where
  kind := rfl
  children := by cases itemType <;> rfl
  others := by simp [varName, word, construct]

lemma annotated_param (line : UInt32) (name : String) (itemType : Option String) :
    Annotated (param line name itemType) line itemType [word .eqName line name] [] where
  kind := rfl
  children := by cases itemType <;> rfl
  others := by simp [word, construct]

lemma annotated_functionDecl (line : UInt32) (name : String)
    (params : List (String × Option String)) (returnType : Option String) :
    Annotated (functionDecl line name params returnType) line returnType
      [word .eqName line name, paramList line [.token ⟨",", line⟩] params] [emptyBody line] where
  kind := rfl
  children := by cases returnType <;> rfl
  others := by simp [word, paramList, emptyBody, construct]

/-- What is raised on a construct that begins with the name of a variable. -/
lemma Annotated.raises_of_varName {node : Node} {line : UInt32} {name : String}
    {itemType : Option String} {after : List Node} {issue : Issue}
    (h : Annotated node line itemType [varName line name] after)
    (hdue : Untyped node → Named node .varName (some name) → Violation ⟨node, ancestors⟩ issue)
    (hafter : Silent after) : Raises ancestors [node] (dueWithout itemType issue) := by
  have hname : Named node .varName (some name) := by
    have hfirst := h.named
    rwa [text_varName] at hfirst
  have hraises := h.raises (fun huntyped => hdue huntyped hname) (silent_varName line name _) hafter
  rwa [List.append_nil] at hraises

lemma raises_forBinding (line : UInt32) (var : String) (itemType : Option String)
    (source : String) :
    Raises ancestors [forBinding line var itemType source]
      (bindingDue "for" line var itemType) :=
  (annotated_forBinding line var itemType source).raises_of_varName
    (fun huntyped hname => .forBinding rfl huntyped hname)
    (silent_varRef line source)

lemma raises_letBinding (line : UInt32) (var : String) (itemType : Option String)
    (literal : String) :
    Raises ancestors [letBinding line var itemType literal]
      (bindingDue "let" line var itemType) :=
  (annotated_letBinding line var itemType literal).raises_of_varName
    (fun huntyped hname => .letBinding rfl huntyped hname)
    (silent_word rfl line literal)

lemma raises_varDecl (line : UInt32) (name : String) (itemType : Option String)
    (literal : String) :
    Raises ancestors [varDecl line name itemType literal]
      (dueWithout itemType
        ⟨libraryKey "StrongTypingInModuleVariable", line,
          "Declare a type for " ++ variableWords (some name) ++ "."⟩) :=
  (annotated_varDecl line name itemType literal).raises_of_varName
    (fun huntyped hname => .moduleVariable rfl huntyped hname)
    (silent_word rfl line literal)

/-! ## Functions -/

lemma children_paramList (line : UInt32) {separator : List (Element Kind)}
    (h : (Forest.ofList separator).children = []) (params : List (String × Option String)) :
    (paramList line separator params).children =
      params.map fun given => param line given.1 given.2 := by
  have hlist := Forest.children_ofList_intercalate h
    (params.map fun given => param line given.1 given.2)
  rw [List.map_map] at hlist
  have htoken : ∀ text, (Forest.ofList [.token ⟨text, line⟩] : Forest Kind).children = [] :=
    fun _ => rfl
  rw [paramList, construct, Tree.children, Forest.ofList_append, Forest.ofList_append,
    Forest.children_append, Forest.children_append, htoken, htoken, List.nil_append,
    List.append_nil]
  exact hlist

/-- Nothing is said of a parameter whose function is not a declared one. -/
lemma quiet_of_ownedBy {visit : Visit} {owner : Node} (hkind : visit.node.kind = .param)
    (howned : OwnedBy visit owner) (howner : owner.kind ≠ .functionDecl) :
    issuesAt visit = [] ∧ failuresAt visit = [] := by
  constructor
  · refine (issuesAt_eq_nil_or visit).resolve_right ?_
    rintro ⟨issue, hissue⟩
    cases hissue with
    | forBinding hother => exact absurd (hkind.symm.trans hother) (by decide)
    | letBinding hother => exact absurd (hkind.symm.trans hother) (by decide)
    | result hother => exact absurd (hkind.symm.trans hother) (by decide)
    | moduleVariable hother => exact absurd (hkind.symm.trans hother) (by decide)
    | @param _ _ other _ _ hother hdeclared _ _ =>
      -- There is only one innermost function.
      have hsame : some owner = some other :=
        (nearest?_eq_some_iff.2 howned).symm.trans (nearest?_eq_some_iff.2 hother)
      exact howner (Option.some.inj hsame ▸ hdeclared)
  · refine (failuresAt_eq_nil_or visit).resolve_right ?_
    rintro ⟨failure, -, -, hnone⟩
    obtain ⟨outer, inner, hancestors, hfunction, -⟩ := howned
    exact hnone owner (by rw [hancestors]; simp) hfunction

/-- A parameter belongs to the function whose list of parameters it is in. -/
lemma ownedBy_of_list (node : Node) (ancestors : List Node) {function list : Node}
    (hfunction : IsFunction function.kind) (hlist : list.kind = .paramList) :
    OwnedBy ⟨node, ancestors ++ [function] ++ [list]⟩ function :=
  ⟨ancestors, [list], by simp, hfunction, by simp [hlist, IsFunction]⟩

lemma raises_param (line : UInt32) {name : String} {function list : Node}
    (hfunction : function.kind = .functionDecl) (hname : Named function .eqName (some name))
    (hlist : list.kind = .paramList) (given : String × Option String) :
    Raises (ancestors ++ [function] ++ [list]) [param line given.1 given.2]
      (paramDue line name given) := by
  have h := annotated_param line given.1 given.2
  have howned := ownedBy_of_list (param line given.1 given.2) ancestors (.inl hfunction) hlist
  have hparam := h.named
  rw [text_word] at hparam
  have hraises := h.raises
    (fun huntyped => .param rfl huntyped howned hfunction hparam hname)
    (silent_word rfl line given.1 _) .nil
  rwa [List.append_nil] at hraises

/-- The parameters of an inline function are left alone, with and without types. -/
lemma raises_param_of_inline (line : UInt32) {function list : Node}
    (hfunction : function.kind = .inlineFunctionExpr) (hlist : list.kind = .paramList)
    (given : String × Option String) :
    Raises (ancestors ++ [function] ++ [list]) [param line given.1 given.2] [] := by
  have howned := ownedBy_of_list (param line given.1 given.2) ancestors (.inr hfunction) hlist
  have hquiet := quiet_of_ownedBy rfl howned (by rw [hfunction]; decide)
  exact .node_of_children hquiet.1 hquiet.2
    ((annotated_param line given.1 given.2).raises_children (silent_word rfl line given.1 _) .nil)

lemma raises_functionDecl (line : UInt32) (name : String) (params : List (String × Option String))
    (returnType : Option String) :
    Raises ancestors [functionDecl line name params returnType]
      (dueWithout returnType
          ⟨libraryKey "StrongTypingInFunctionDeclaration", line,
            "Declare a return type for " ++ functionWords (some name) ++ "."⟩ ++
        params.flatMap (paramDue line name)) := by
  have h := annotated_functionDecl line name params returnType
  have hname := h.named
  rw [text_word] at hname
  refine h.raises (fun huntyped => .result rfl huntyped hname) ?_ (silent_emptyBody line)
  have hlist : Raises (ancestors ++ [functionDecl line name params returnType])
      [paramList line [.token ⟨",", line⟩] params] (params.flatMap (paramDue line name)) := by
    refine .node_of_kind rfl ?_
    rw [children_paramList line rfl]
    exact .map fun given _ => raises_param line rfl hname rfl given
  exact (silent_word rfl line name _).append hlist

lemma silent_inlineFunction (line : UInt32) (params : List (String × Option String)) :
    Silent [inlineFunction line params] := by
  intro ancestors
  have hparams : Raises (ancestors ++ [inlineFunction line params] ++ [paramList line [] params])
      (params.map fun given => param line given.1 given.2) (params.flatMap fun _ => []) :=
    .map fun given _ => raises_param_of_inline line rfl rfl given
  have hlist :
      Raises (ancestors ++ [inlineFunction line params]) [paramList line [] params] [] := by
    refine .node_of_kind rfl ?_
    rw [children_paramList line rfl]
    rwa [List.flatMap_eq_nil_iff.2 fun _ _ => rfl] at hparams
  exact .node_of_kind rfl (hlist.append (silent_emptyBody line _))

/-! ## Modules -/

lemma raises_flwor (line : UInt32) (forType letType : Option String) :
    Raises ancestors [Phrase.flwor line forType letType] (flworDue line forType letType) := by
  rw [flworDue, ← List.append_nil (bindingDue "let" _ _ _)]
  -- A clause each, and nothing is said of the clauses themselves.
  refine .node_of_kind rfl
    (.cons (.node_of_kind rfl ?_) (.cons (.node_of_kind rfl ?_) (.node_of_kind rfl ?_)))
  · exact raises_forBinding (line + 1) "item" forType "items"
  · exact raises_letBinding (line + 2) "count" letType "1"
  · exact silent_varRef (line + 3) "item" _

lemma raises_mainModule {declarations : List Node} {body : Node} {issues more : List Issue}
    (hdeclarations : ∀ ancestors, Raises ancestors declarations issues)
    (hbody : ∀ ancestors, Raises ancestors [body] more) :
    Raises [] [mainModule declarations body] (issues ++ more) := by
  have hprolog : ∀ ancestors line,
      Raises ancestors [construct .prolog line (declarations.map .node)] issues := by
    intro ancestors line
    refine .node_of_kind rfl ?_
    rw [construct, Tree.children, Forest.children_ofList_map_node]
    exact hdeclarations _
  refine .node_of_kind rfl (.node_of_kind rfl (.cons (hprolog _ _) (.node_of_kind rfl ?_)))
  exact hbody _

end Constructs

/-! ## Heights -/

section Heights

open Phrase

@[simp] lemma height_word (kind : Kind) (line : UInt32) (text : String) :
    (word kind line text).height = 0 := rfl

@[simp] lemma height_varName (line : UInt32) (name : String) : (varName line name).height = 1 := rfl

@[simp] lemma height_typeDeclaration (line : UInt32) (itemType : String) :
    (typeDeclaration line itemType).height = 2 := rfl

@[simp] lemma height_emptyBody (line : UInt32) : (emptyBody line).height = 1 := rfl

/-- A type does not make a construct higher if its other parts are as high. -/
lemma Annotated.height_le {node : Node} {line : UInt32} {itemType : Option String}
    {before after : List Node} {n : Nat} (h : Annotated node line itemType before after)
    (hn : 2 < n) (hothers : ∀ child ∈ before ++ after, child.height < n) : node.height ≤ n := by
  refine Tree.height_le_of_children fun child hchild => ?_
  rw [h.children, List.append_assoc, List.mem_append, List.mem_append, Option.mem_toList,
    Option.map_eq_some_iff] at hchild
  rcases hchild with hbefore | ⟨type, -, rfl⟩ | hafter
  · exact hothers child (List.mem_append_left _ hbefore)
  · rw [height_typeDeclaration]
    exact hn
  · exact hothers child (List.mem_append_right _ hafter)

lemma height_varDecl_le (line : UInt32) (name : String) (itemType : Option String)
    (literal : String) : (varDecl line name itemType literal).height ≤ 3 :=
  (annotated_varDecl line name itemType literal).height_le (by decide) (by simp)

lemma height_paramList_le (line : UInt32) (separator : List (Element Kind))
    (h : (Forest.ofList separator).children = []) (params : List (String × Option String)) :
    (paramList line separator params).height ≤ 4 := by
  refine Tree.height_le_of_children fun child hchild => ?_
  rw [children_paramList line h, List.mem_map] at hchild
  obtain ⟨given, -, rfl⟩ := hchild
  have hparam := (annotated_param line given.1 given.2).height_le (by decide : 2 < 3) (by simp)
  exact Nat.lt_succ_of_le hparam

lemma height_functionDecl_le (line : UInt32) (name : String)
    (params : List (String × Option String)) (returnType : Option String) :
    (functionDecl line name params returnType).height ≤ 5 := by
  have hlist := height_paramList_le line [.token ⟨",", line⟩] rfl params
  refine (annotated_functionDecl line name params returnType).height_le (by decide) ?_
  simpa using Nat.lt_succ_of_le hlist

lemma height_inlineFunction_le (line : UInt32) (params : List (String × Option String)) :
    (inlineFunction line params).height ≤ 5 := by
  have hlist := height_paramList_le line [] rfl params
  have hchildren : (inlineFunction line params).children =
      [paramList line [] params, emptyBody line] := rfl
  refine Tree.height_le_of_children ?_
  rw [hchildren]
  simpa using Nat.lt_succ_of_le hlist

lemma height_flwor (line : UInt32) (forType letType : Option String) :
    (Phrase.flwor line forType letType).height = 5 := by
  cases forType <;> cases letType <;> rfl

/-- Around its declarations and its body, a module has three more levels. -/
lemma height_mainModule_le {declarations : List Node} {body : Node} {n : Nat}
    (hdeclarations : ∀ declaration ∈ declarations, declaration.height ≤ n)
    (hbody : body.height ≤ n) : (mainModule declarations body).height ≤ n + 3 := by
  have hprolog : ∀ line, (construct .prolog line (declarations.map .node)).height ≤ n + 1 := by
    refine fun line => Tree.height_le_of_children fun child hchild => ?_
    rw [construct, Tree.children, Forest.children_ofList_map_node] at hchild
    exact Nat.lt_succ_of_le (hdeclarations child hchild)
  have hlevels : (mainModule declarations body).height =
      max (max ((construct .prolog ((declarations.head?.map Tree.line).getD 1)
        (declarations.map .node)).height + 1) (max (max (body.height + 1) 0 + 1) 0) + 1) 0 := rfl
  have hline := hprolog ((declarations.head?.map Tree.line).getD 1)
  rw [hlevels]
  omega

end Heights

/-! ## Reports on built modules -/

namespace Declaration

lemma raises (declaration : Declaration) (ancestors : List Node) :
    Raises ancestors [declaration.node] declaration.due := by
  cases declaration with
  | moduleVariable line name itemType literal => exact raises_varDecl line name itemType literal
  | function line name params returnType => exact raises_functionDecl line name params returnType
  | inlineFunction line params => exact silent_inlineFunction line params ancestors

lemma height_le (declaration : Declaration) : declaration.node.height ≤ 5 := by
  cases declaration with
  | moduleVariable line name itemType literal =>
    exact (height_varDecl_le line name itemType literal).trans (by decide)
  | function line name params returnType => exact height_functionDecl_le line name params returnType
  | inlineFunction line params => exact height_inlineFunction_le line params

end Declaration

section Module

variable (declarations : List Declaration) (line : UInt32) (forType letType : Option String)

lemma raises_module :
    Raises []
      [Phrase.mainModule (declarations.map Declaration.node) (Phrase.flwor line forType letType)]
      (declarations.flatMap Declaration.due ++ flworDue line forType letType) :=
  raises_mainModule (fun ancestors => .map fun declaration _ => declaration.raises ancestors)
    fun _ => raises_flwor line forType letType

lemma height_module_le :
    (Phrase.mainModule (declarations.map Declaration.node)
      (Phrase.flwor line forType letType)).height ≤ 8 :=
  height_mainModule_le (List.forall_mem_map.2 fun declaration _ => declaration.height_le)
    (height_flwor line forType letType).le

end Module

/-- Lines below one that is not too great are counted without a carry. -/
lemma toNat_add_of_le {line : UInt32} (hline : line ≤ 4294967292) {step : UInt32}
    (hstep : step ≤ 3) : (line + step).toNat = line.toNat + step.toNat := by
  have hlast : line.toNat ≤ 4294967292 := UInt32.le_iff_toNat_le.1 hline
  have hsmall : step.toNat ≤ 3 := UInt32.le_iff_toNat_le.1 hstep
  rw [UInt32.toNat_add, Nat.mod_eq_of_lt]
  omega

/-- **Builders and rules agree on what is typed.**  Build a module from any declarations of module
variables, functions and inline functions, and a FLWOR expression whose lines are in range.  By
default nothing fails in its analysis, nothing is left out, and the issues are, in order: for each
declaration those that are due on it, and then those on the for and the let binding of the body, one
and two lines below its own.  The type that can be read from a construct is the one it was built
with, if any. -/
theorem built_module_report_exact (uri : String) (declarations : List Declaration)
    (line : UInt32) (forType letType : Option String) (hline : line ≤ 4294967292) :
    let report := (Analyzer.builtin .default).analyze
      ⟨uri, Phrase.mainModule (declarations.map Declaration.node)
        (Phrase.flwor line forType letType)⟩
    report.failures = [] ∧ report.truncated = false ∧
      report.issues = declarations.flatMap Declaration.due ++ flworDue line forType letType ∧
      ((line + 1).toNat = line.toNat + 1 ∧ (line + 2).toNat = line.toNat + 2) ∧
      ∀ (row : UInt32) (name text : String) (itemType : Option String)
          (params : List (String × Option String)),
        (Phrase.varDecl row name itemType text).typeText? = itemType ∧
        (Phrase.forBinding row name itemType text).typeText? = itemType ∧
        (Phrase.letBinding row name itemType text).typeText? = itemType ∧
        (Phrase.param row name itemType).typeText? = itemType ∧
        (Phrase.functionDecl row name params itemType).typeText? = itemType := by
  intro report
  have hreport : report = _ :=
    analyze_of_raises uri (by decide)
      ((height_module_le declarations line forType letType).trans (by decide))
      (raises_module declarations line forType letType)
  rw [hreport]
  refine ⟨rfl, rfl, rfl, ⟨toNat_add_of_le hline (by decide), toNat_add_of_le hline (by decide)⟩,
    fun row name text itemType params => ⟨?_, ?_, ?_, ?_, ?_⟩⟩
  · exact (annotated_varDecl row name itemType text).typeText?_eq
  · exact (annotated_forBinding row name itemType text).typeText?_eq
  · exact (annotated_letBinding row name itemType text).typeText?_eq
  · exact (annotated_param row name itemType).typeText?_eq
  · exact (annotated_functionDecl row name params itemType).typeText?_eq

/-- A typed variable, an inline function and a function whose second parameter alone is typed, with a
body on the last line that is allowed. -/
theorem built_module_report_exact_on_last_line :
    let declarations : List Declaration :=
      [.moduleVariable 2 "limit" (some "xs:integer") "9", .inlineFunction 3 [("f", none)],
        .function 4 "local:sum" [("a", none), ("b", some "xs:integer"), ("c", none)] none]
    let report := (Analyzer.builtin .default).analyze
      ⟨"sum.xq", Phrase.mainModule (declarations.map Declaration.node)
        (Phrase.flwor 4294967292 none (some "xs:integer"))⟩
    report.failures = [] ∧ report.truncated = false ∧
      report.issues.map (fun issue => (issue.line, issue.message)) =
        [(4, "Declare a return type for function local:sum."),
          (4, "Declare a type for parameter $a of function local:sum."),
          (4, "Declare a type for parameter $c of function local:sum."),
          (4294967293, "Declare a type for the for binding $item.")] := by
  intro declarations report
  obtain ⟨hfailures, htruncated, hissues, -, -⟩ :=
    built_module_report_exact "sum.xq" declarations 4294967292 none (some "xs:integer") (by decide)
  refine ⟨hfailures, htruncated, ?_⟩
  rw [hissues]
  decide

end StrongTyping

end SyntaxLint
