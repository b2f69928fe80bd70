import Mathlib
import SyntaxLint.Proofs.Walk

/-!
# What the rules on declared types report

The three rules that come with the library ask for declared types.  This module says in terms of the
tree alone which nodes they find fault with, and what they say of them: `Violation` relates a visit to
the issue that is due there, `Stray` to the failure.  An analysis with these rules reports exactly
that, one issue for each node at fault and in pre-order: what is due on a visit is raised there
(`issuesAt_of_violation`, `failuresAt_of_stray`), and nothing else is (`issuesAt_eq_nil_or`,
`failuresAt_eq_nil_or`).

A node is at fault because of what it lacks among its direct children (`Untyped`).  A type
declaration further down does not count, and one just below the depth bound does: the bound limits
which nodes are visited, not what is seen from them.  Whether an untyped parameter is at fault is
decided by the innermost function around it (`OwnedBy`).
-/

namespace SyntaxLint.StrongTyping

/-! ## What is at fault -/

/-- A node has no type declaration among its direct children. -/
def Untyped (node : Node) : Prop :=
  ∀ child ∈ node.children, child.kind ≠ .typeDeclaration

/-- The kinds of construct that parameters belong to. -/
def IsFunction (kind : Kind) : Prop :=
  kind = .functionDecl ∨ kind = .inlineFunctionExpr

/-- The innermost function around a node: below it, no ancestor is a function. -/
def OwnedBy (visit : Visit) (owner : Node) : Prop :=
  ∃ outer inner, visit.ancestors = outer ++ owner :: inner ∧ IsFunction owner.kind ∧
    ∀ ancestor ∈ inner, ¬ IsFunction ancestor.kind

/-- The name of a node: the text of its first direct child of a kind, if there is one. -/
inductive Named (node : Node) (kind : Kind) : Option String → Prop where
  | text {before after : List Node} {child : Node} :
      node.children = before ++ child :: after → child.kind = kind →
      (∀ sibling ∈ before, sibling.kind ≠ kind) → Named node kind (some child.text)
  | nameless : (∀ child ∈ node.children, child.kind ≠ kind) → Named node kind none

/-- The key of a rule of the library. -/
def libraryKey (rule : String) : RuleKey :=
  ⟨"xquery", rule⟩

/-- The message for an untyped binding, with its name if it has one. -/
def bindingText (clause : String) (name : Option String) : String :=
  "Declare a type for the " ++ clause ++ " binding" ++ name.elim "" (" $" ++ ·) ++ "."

/-- How a parameter is called. -/
def paramWords (name : Option String) : String :=
  name.elim "a parameter" ("parameter $" ++ ·)

/-- How a function is called. -/
def functionWords (name : Option String) : String :=
  name.elim "the function" ("function " ++ ·)

/-- How a module variable is called. -/
def variableWords (name : Option String) : String :=
  name.elim "the module variable" ("module variable $" ++ ·)

/-- The issue that is due on a visit. -/
inductive Violation (visit : Visit) : Issue → Prop where
  | forBinding {name : Option String} :
      visit.node.kind = .forBinding → Untyped visit.node → Named visit.node .varName name →
      Violation visit
        ⟨libraryKey "StrongTypingInFLWOR", visit.node.line, bindingText "for" name⟩
  | letBinding {name : Option String} :
      visit.node.kind = .letBinding → Untyped visit.node → Named visit.node .varName name →
      Violation visit
        ⟨libraryKey "StrongTypingInFLWOR", visit.node.line, bindingText "let" name⟩
  | result {name : Option String} :
      visit.node.kind = .functionDecl → Untyped visit.node → Named visit.node .eqName name →
      Violation visit
        ⟨libraryKey "StrongTypingInFunctionDeclaration", visit.node.line,
          "Declare a return type for " ++ functionWords name ++ "."⟩
  | param {name ownerName : Option String} {owner : Node} :
      visit.node.kind = .param → Untyped visit.node → OwnedBy visit owner →
      owner.kind = .functionDecl → Named visit.node .eqName name → Named owner .eqName ownerName →
      Violation visit
        ⟨libraryKey "StrongTypingInFunctionDeclaration", visit.node.line,
          "Declare a type for " ++ paramWords name ++ " of " ++ functionWords ownerName ++ "."⟩
  | moduleVariable {name : Option String} :
      visit.node.kind = .varDecl → Untyped visit.node → Named visit.node .varName name →
      Violation visit
        ⟨libraryKey "StrongTypingInModuleVariable", visit.node.line,
          "Declare a type for " ++ variableWords name ++ "."⟩

/-- The failure that is due on a visit: an untyped parameter that no function is around. -/
inductive Stray (visit : Visit) : Failure → Prop where
  | param : visit.node.kind = .param → Untyped visit.node →
      (∀ ancestor ∈ visit.ancestors, ¬ IsFunction ancestor.kind) →
      Stray visit
        ⟨libraryKey "StrongTypingInFunctionDeclaration", visit.node.line,
          .malformedNode "param" visit.node.line "parameter outside any function"⟩

/-! ## What the checks look at -/

lemma declaration?_isSome_iff {node : Node}
    (hkind : node.kind.declarationKind? = some .typeDeclaration) :
    node.declaration?.isSome = true ↔ ¬ Untyped node := by
  rw [Tree.declaration?, hkind, Option.bind_some, Tree.child?, List.find?_isSome]
  simp [Untyped]

lemma exists_named (node : Node) (kind : Kind) : ∃ name, Named node kind name := by
  cases h : node.children.find? fun child => child.kind = kind with
  | none =>
    refine ⟨none, .nameless fun child hchild => ?_⟩
    simpa using List.find?_eq_none.1 h child hchild
  | some child =>
    obtain ⟨hkind, before, after, hsplit, hbefore⟩ := List.find?_eq_some_iff_append.1 h
    refine ⟨some child.text, .text hsplit (by simpa using hkind) fun sibling hsibling => ?_⟩
    simpa using hbefore sibling hsibling

/-- The words for a node are chosen by its name. -/
lemma nameOr_of_named {node : Node} {kind : Kind} {name : Option String}
    (h : Named node kind name) (named : String → String) (nameless : String) :
    nameOr node kind named nameless = name.elim nameless named := by
  cases h with
  | @text before after child hsplit hkind hbefore =>
    have hchild : node.child? kind = some child := by
      rw [Tree.child?, List.find?_eq_some_iff_append]
      exact ⟨by simpa using hkind, before, after, hsplit, by simpa using hbefore⟩
    rw [nameOr, hchild]
    rfl
  | nameless hnone =>
    have hchild : node.child? kind = none := by
      rw [Tree.child?, List.find?_eq_none]
      simpa using hnone
    rw [nameOr, hchild]
    rfl

lemma contains_function_iff (kind : Kind) :
    [Kind.functionDecl, .inlineFunctionExpr].contains kind = true ↔ IsFunction kind := by
  simp [IsFunction]

/-- The nearest function above a visit is the innermost one around it. -/
lemma nearest?_eq_some_iff {visit : Visit} {owner : Node} :
    visit.nearest? [.functionDecl, .inlineFunctionExpr] = some owner ↔ OwnedBy visit owner := by
  rw [Visit.nearest?, List.find?_eq_some_iff_append, contains_function_iff]
  constructor
  · rintro ⟨hfunction, inner, outer, hsplit, hinner⟩
    refine ⟨outer.reverse, inner.reverse, ?_, hfunction, fun ancestor hancestor => ?_⟩
    · rw [← List.reverse_reverse visit.ancestors, hsplit]
      simp
    · have := hinner ancestor (List.mem_reverse.1 hancestor)
      rwa [Bool.not_eq_true', ← Bool.not_eq_true, contains_function_iff] at this
  · rintro ⟨outer, inner, hsplit, hfunction, hinner⟩
    refine ⟨hfunction, inner.reverse, outer.reverse, by simp [hsplit], fun ancestor hancestor => ?_⟩
    rw [Bool.not_eq_true', ← Bool.not_eq_true, contains_function_iff]
    exact hinner ancestor (List.mem_reverse.1 hancestor)

lemma nearest?_eq_none_iff {visit : Visit} :
    visit.nearest? [.functionDecl, .inlineFunctionExpr] = none ↔
      ∀ ancestor ∈ visit.ancestors, ¬ IsFunction ancestor.kind := by
  rw [Visit.nearest?, List.find?_eq_none]
  simp only [List.mem_reverse, contains_function_iff]

lemma bindingMessage_of_named (clause : String) {node : Node} {name : Option String}
    (h : Named node .varName name) : bindingMessage clause node = bindingText clause name := by
  unfold bindingMessage bindingText
  rw [nameOr_of_named h]

lemma functionLabel_of_named {node : Node} {name : Option String} (h : Named node .eqName name) :
    functionLabel node = functionWords name := by
  rw [functionLabel, nameOr_of_named h, functionWords]

lemma paramLabel_of_named {node : Node} {name : Option String} (h : Named node .eqName name) :
    paramLabel node = paramWords name := by
  rw [paramLabel, nameOr_of_named h, paramWords]

lemma variableLabel_of_named {node : Node} {name : Option String} (h : Named node .varName name) :
    variableLabel node = variableWords name := by
  rw [variableLabel, nameOr_of_named h, variableWords]

/-! ## One check on one visit -/

section Inspection

variable {visit : Visit} {name : Option String}

lemma declaration?_of_untyped {kind : Kind} (hkind : visit.node.kind = kind)
    (hdeclares : kind.declarationKind? = some .typeDeclaration) (huntyped : Untyped visit.node) :
    visit.node.declaration?.isSome = false := by
  subst hkind
  rw [← Bool.not_eq_true, declaration?_isSome_iff hdeclares]
  exact not_not_intro huntyped

lemma declaration?_of_typed {kind : Kind} (hkind : visit.node.kind = kind)
    (hdeclares : kind.declarationKind? = some .typeDeclaration) (htyped : ¬ Untyped visit.node) :
    visit.node.declaration?.isSome = true := by
  subst hkind
  exact (declaration?_isSome_iff hdeclares).2 htyped

lemma inspectBinding_eq_nothing
    (h : visit.node.kind ≠ .forBinding ∧ visit.node.kind ≠ .letBinding ∨ ¬ Untyped visit.node) :
    inspectBinding visit = .nothing := by
  unfold inspectBinding
  split
  · next hkind => exact if_pos (declaration?_of_typed hkind rfl (by simpa [hkind] using h))
  · next hkind => exact if_pos (declaration?_of_typed hkind rfl (by simpa [hkind] using h))
  · rfl

lemma inspectBinding_eq_found {clause : String}
    (hclause : visit.node.kind = .forBinding ∧ clause = "for" ∨
      visit.node.kind = .letBinding ∧ clause = "let")
    (huntyped : Untyped visit.node) (hname : Named visit.node .varName name) :
    inspectBinding visit = .found visit.node.line (bindingText clause name) := by
  have hask : inspectBinding visit = inspectBinding.ask visit clause := by
    rcases hclause with ⟨hkind, rfl⟩ | ⟨hkind, rfl⟩ <;> simp only [inspectBinding, hkind]
  have hdeclares : visit.node.kind.declarationKind? = some .typeDeclaration := by
    rcases hclause with ⟨hkind, -⟩ | ⟨hkind, -⟩ <;> rw [hkind] <;> rfl
  rw [hask, inspectBinding.ask, declaration?_of_untyped rfl hdeclares huntyped,
    if_neg (by simp), bindingMessage_of_named clause hname]

lemma inspect_functionDeclaration_eq_nothing
    (h : visit.node.kind ≠ .param ∧ visit.node.kind ≠ .functionDecl ∨ ¬ Untyped visit.node) :
    functionDeclaration.inspect visit = .nothing := by
  simp only [functionDeclaration]
  split
  · next hkind => exact if_pos (declaration?_of_typed hkind rfl (by simpa [hkind] using h))
  · next hkind => exact if_pos (declaration?_of_typed hkind rfl (by simpa [hkind] using h))
  · rfl

lemma inspect_functionDeclaration_eq_found (hkind : visit.node.kind = .functionDecl)
    (huntyped : Untyped visit.node) (hname : Named visit.node .eqName name) :
    functionDeclaration.inspect visit =
      .found visit.node.line ("Declare a return type for " ++ functionWords name ++ ".") := by
  have hresult : functionDeclaration.inspect visit = inspectResult visit.node := by
    simp only [functionDeclaration, hkind]
  rw [hresult, inspectResult, declaration?_of_untyped hkind rfl huntyped,
    if_neg (by simp), functionLabel_of_named hname]

lemma inspect_functionDeclaration_of_param (hkind : visit.node.kind = .param) :
    functionDeclaration.inspect visit = inspectParam visit := by
  simp only [functionDeclaration, hkind]

lemma inspectParam_eq_failed (hkind : visit.node.kind = .param) (huntyped : Untyped visit.node)
    (hnearest : visit.nearest? [.functionDecl, .inlineFunctionExpr] = none) :
    inspectParam visit =
      .failed (.malformedNode "param" visit.node.line "parameter outside any function") := by
  have hdeclaration := declaration?_of_untyped hkind rfl huntyped
  have hname : Kind.param.name = "param" := rfl
  simp only [inspectParam, hdeclaration, hnearest, hkind, hname, Bool.false_eq_true, if_false]

/-- What becomes of an untyped parameter inside a function depends on the kind of function. -/
lemma inspectParam_of_owner {owner : Node} (hkind : visit.node.kind = .param)
    (huntyped : Untyped visit.node) (hname : Named visit.node .eqName name)
    (hnearest : visit.nearest? [.functionDecl, .inlineFunctionExpr] = some owner) :
    inspectParam visit =
      if owner.kind = .functionDecl then
        .found visit.node.line
          ("Declare a type for " ++ paramWords name ++ " of " ++ functionLabel owner ++ ".")
      else .nothing := by
  have hdeclaration := declaration?_of_untyped hkind rfl huntyped
  simp only [inspectParam, hdeclaration, hnearest, paramLabel_of_named hname, Bool.false_eq_true,
    if_false]

lemma inspectVariable_eq_nothing (h : visit.node.kind ≠ .varDecl ∨ ¬ Untyped visit.node) :
    inspectVariable visit = .nothing := by
  by_cases hkind : visit.node.kind = .varDecl
  · exact if_pos (.inr (declaration?_of_typed hkind rfl (by simpa [hkind] using h)))
  · exact if_pos (.inl hkind)

lemma inspectVariable_eq_found (hkind : visit.node.kind = .varDecl)
    (huntyped : Untyped visit.node) (hname : Named visit.node .varName name) :
    inspectVariable visit =
      .found visit.node.line ("Declare a type for " ++ variableWords name ++ ".") := by
  rw [inspectVariable, declaration?_of_untyped hkind rfl huntyped,
    if_neg (by simp [hkind]), variableLabel_of_named hname]

end Inspection

/-! ## The three checks on one visit -/

lemma entries_builtin :
    Registry.builtin.entries =
      [.of "xquery" flwor, .of "xquery" functionDeclaration, .of "xquery" moduleVariable] := by
  have hflwor : flwor.definition.rule = "StrongTypingInFLWOR" := rfl
  have hfunction :
      functionDeclaration.definition.rule = "StrongTypingInFunctionDeclaration" := rfl
  have hvariable : moduleVariable.definition.rule = "StrongTypingInModuleVariable" := rfl
  simp [Registry.builtin, Registry.register, Registry.empty, Registry.place, Entry.of,
    Registry.builtinRepository, hflwor, hfunction, hvariable]

/-- The issues of the three checks on a visit. -/
def issuesAt (visit : Visit) : List Issue :=
  Registry.builtin.entries.flatMap (Entry.issuesOn visit)

/-- The failures of the three checks on a visit. -/
def failuresAt (visit : Visit) : List Failure :=
  Registry.builtin.entries.filterMap (Entry.failureOn? visit)

lemma issuesAt_eq (visit : Visit) :
    issuesAt visit =
      (inspectBinding visit).findings.map (Finding.under · (libraryKey "StrongTypingInFLWOR")) ++
      ((functionDeclaration.inspect visit).findings.map
          (Finding.under · (libraryKey "StrongTypingInFunctionDeclaration")) ++
        (inspectVariable visit).findings.map
          (Finding.under · (libraryKey "StrongTypingInModuleVariable"))) := by
  rw [issuesAt, entries_builtin]
  simp only [List.flatMap_cons, List.flatMap_nil, List.append_nil]
  rfl

lemma failure_inspectBinding (visit : Visit) : (inspectBinding visit).failure = none := by
  unfold inspectBinding inspectBinding.ask
  split <;> (try split) <;> rfl

lemma failure_inspectVariable (visit : Visit) : (inspectVariable visit).failure = none := by
  unfold inspectVariable
  split <;> rfl

/-- Only the check of function declarations can fail. -/
lemma failuresAt_eq (visit : Visit) :
    failuresAt visit =
      ((functionDeclaration.inspect visit).failure.map fun error =>
        (⟨libraryKey "StrongTypingInFunctionDeclaration", visit.node.line, error⟩ :
          Failure)).toList := by
  have hbinding : Entry.failureOn? visit (.of "xquery" flwor) = none := by
    rw [Entry.failureOn?, Option.map_eq_none_iff]
    exact failure_inspectBinding visit
  have hvariable : Entry.failureOn? visit (.of "xquery" moduleVariable) = none := by
    rw [Entry.failureOn?, Option.map_eq_none_iff]
    exact failure_inspectVariable visit
  have hfunction : Entry.failureOn? visit (.of "xquery" functionDeclaration) =
      (functionDeclaration.inspect visit).failure.map fun error =>
        ⟨libraryKey "StrongTypingInFunctionDeclaration", visit.node.line, error⟩ := rfl
  rw [failuresAt, entries_builtin, List.filterMap_cons_none hbinding, ← hfunction]
  cases h : Entry.failureOn? visit (.of "xquery" functionDeclaration) with
  | none => rw [List.filterMap_cons_none h, List.filterMap_cons_none hvariable]; rfl
  | some failure => rw [List.filterMap_cons_some h, List.filterMap_cons_none hvariable]; rfl

/-! ## Completeness -/

section Exactness

variable {visit : Visit}

/-- Where an issue is due, it is the one that is raised. -/
lemma issuesAt_of_violation {issue : Issue} (h : Violation visit issue) :
    issuesAt visit = [issue] := by
  rw [issuesAt_eq]
  cases h with
  | forBinding hkind huntyped hname =>
    rw [inspectBinding_eq_found (.inl ⟨hkind, rfl⟩) huntyped hname,
      inspect_functionDeclaration_eq_nothing (.inl (by simp [hkind])),
      inspectVariable_eq_nothing (.inl (by simp [hkind]))]
    rfl
  | letBinding hkind huntyped hname =>
    rw [inspectBinding_eq_found (.inr ⟨hkind, rfl⟩) huntyped hname,
      inspect_functionDeclaration_eq_nothing (.inl (by simp [hkind])),
      inspectVariable_eq_nothing (.inl (by simp [hkind]))]
    rfl
  | result hkind huntyped hname =>
    rw [inspectBinding_eq_nothing (.inl (by simp [hkind])),
      inspect_functionDeclaration_eq_found hkind huntyped hname,
      inspectVariable_eq_nothing (.inl (by simp [hkind]))]
    rfl
  | param hkind huntyped howned howner hname hownerName =>
    rw [inspectBinding_eq_nothing (.inl (by simp [hkind])),
      inspect_functionDeclaration_of_param hkind,
      inspectParam_of_owner hkind huntyped hname (nearest?_eq_some_iff.2 howned), if_pos howner,
      inspectVariable_eq_nothing (.inl (by simp [hkind])), functionLabel_of_named hownerName]
    rfl
  | moduleVariable hkind huntyped hname =>
    rw [inspectBinding_eq_nothing (.inl (by simp [hkind])),
      inspect_functionDeclaration_eq_nothing (.inl (by simp [hkind])),
      inspectVariable_eq_found hkind huntyped hname]
    rfl

/-- Where a failure is due, it is the one that is reported. -/
lemma failuresAt_of_stray {failure : Failure} (h : Stray visit failure) :
    failuresAt visit = [failure] := by
  obtain ⟨hkind, huntyped, hancestors⟩ := h
  rw [failuresAt_eq, inspect_functionDeclaration_of_param hkind,
    inspectParam_eq_failed hkind huntyped (nearest?_eq_none_iff.2 hancestors)]
  rfl

/-! ## Soundness -/

/-- Nothing is raised where no issue is due. -/
lemma issuesAt_eq_nil_or (visit : Visit) :
    issuesAt visit = [] ∨ ∃ issue, Violation visit issue := by
  by_cases huntyped : Untyped visit.node
  · obtain ⟨varName, hvarName⟩ := exists_named visit.node .varName
    obtain ⟨eqName, heqName⟩ := exists_named visit.node .eqName
    by_cases hfor : visit.node.kind = .forBinding
    · exact .inr ⟨_, .forBinding hfor huntyped hvarName⟩
    by_cases hlet : visit.node.kind = .letBinding
    · exact .inr ⟨_, .letBinding hlet huntyped hvarName⟩
    by_cases hfunction : visit.node.kind = .functionDecl
    · exact .inr ⟨_, .result hfunction huntyped heqName⟩
    by_cases hvariable : visit.node.kind = .varDecl
    · exact .inr ⟨_, .moduleVariable hvariable huntyped hvarName⟩
    have hnothing : (functionDeclaration.inspect visit).findings = [] ∨
        ∃ issue, Violation visit issue := by
      by_cases hparam : visit.node.kind = .param
      · -- The function around the parameter decides.
        rw [inspect_functionDeclaration_of_param hparam]
        cases hnearest : visit.nearest? [.functionDecl, .inlineFunctionExpr] with
        | none =>
          rw [inspectParam_eq_failed hparam huntyped hnearest]
          exact .inl rfl
        | some owner =>
          by_cases howner : owner.kind = .functionDecl
          · obtain ⟨ownerName, hownerName⟩ := exists_named owner .eqName
            exact .inr ⟨_, .param hparam huntyped (nearest?_eq_some_iff.1 hnearest) howner heqName
              hownerName⟩
          · rw [inspectParam_of_owner hparam huntyped heqName hnearest, if_neg howner]
            exact .inl rfl
      · rw [inspect_functionDeclaration_eq_nothing (.inl ⟨hparam, hfunction⟩)]
        exact .inl rfl
    refine hnothing.imp_left fun hfindings => ?_
    rw [issuesAt_eq, inspectBinding_eq_nothing (.inl ⟨hfor, hlet⟩), hfindings,
      inspectVariable_eq_nothing (.inl hvariable)]
    rfl
  · refine .inl ?_
    rw [issuesAt_eq, inspectBinding_eq_nothing (.inr huntyped),
      inspect_functionDeclaration_eq_nothing (.inr huntyped),
      inspectVariable_eq_nothing (.inr huntyped)]
    rfl

/-- Nothing fails where no failure is due. -/
lemma failuresAt_eq_nil_or (visit : Visit) :
    failuresAt visit = [] ∨ ∃ failure, Stray visit failure := by
  rw [failuresAt_eq]
  by_cases huntyped : Untyped visit.node
  · by_cases hparam : visit.node.kind = .param
    · obtain ⟨name, hname⟩ := exists_named visit.node .eqName
      rw [inspect_functionDeclaration_of_param hparam]
      cases hnearest : visit.nearest? [.functionDecl, .inlineFunctionExpr] with
      | none => exact .inr ⟨_, .param hparam huntyped (nearest?_eq_none_iff.1 hnearest)⟩
      | some owner =>
        refine .inl ?_
        rw [inspectParam_of_owner hparam huntyped hname hnearest]
        split <;> rfl
    · by_cases hfunction : visit.node.kind = .functionDecl
      · obtain ⟨name, hname⟩ := exists_named visit.node .eqName
        rw [inspect_functionDeclaration_eq_found hfunction huntyped hname]
        exact .inl rfl
      · rw [inspect_functionDeclaration_eq_nothing (.inl ⟨hparam, hfunction⟩)]
        exact .inl rfl
  · rw [inspect_functionDeclaration_eq_nothing (.inr huntyped)]
    exact .inl rfl

end Exactness

/-! ## Whole reports -/

instance (visit : Visit) : Decidable (∃ issue, Violation visit issue) :=
  decidable_of_iff (issuesAt visit ≠ []) <| by
    constructor
    · exact (issuesAt_eq_nil_or visit).resolve_left
    · rintro ⟨issue, hissue⟩
      simp [issuesAt_of_violation hissue]

instance (visit : Visit) : Decidable (∃ failure, Stray visit failure) :=
  decidable_of_iff (failuresAt visit ≠ []) <| by
    constructor
    · exact (failuresAt_eq_nil_or visit).resolve_left
    · rintro ⟨failure, hfailure⟩
      simp [failuresAt_of_stray hfailure]

/-- If `f` gives just what is due, then over a list it gives one result for each member with
something due, in order. -/
lemma forall₂_filter_flatMap {α β : Type} {Due : α → β → Prop}
    [DecidablePred fun a => ∃ b, Due a b] {f : α → List β}
    (hdue : ∀ a b, Due a b → f a = [b]) (hnil : ∀ a, f a = [] ∨ ∃ b, Due a b) (members : List α) :
    List.Forall₂ Due (members.filter fun a => ∃ b, Due a b) (members.flatMap f) := by
  induction members with
  | nil => exact .nil
  | cons a members ih =>
    rw [List.flatMap_cons]
    by_cases h : ∃ b, Due a b
    · obtain ⟨b, hb⟩ := h
      rw [List.filter_cons_of_pos (by simpa using ⟨b, hb⟩), hdue a b hb]
      exact .cons hb ih
    · rw [List.filter_cons_of_neg (by simpa using h), (hnil a).resolve_right h]
      exact ih

lemma entries_builtin_of_isEnabled {config : Config}
    (henabled : ∀ key ∈ Registry.builtin.keys, config.isEnabled key = true) :
    (Analyzer.builtin config).registry.entries = Registry.builtin.entries :=
  List.filter_eq_self.2 fun _ hentry => henabled _ (List.mem_map_of_mem hentry)

/-- **The rules on declared types report exactly what is at fault.**  With all of them switched on,
the issues of a report are in one-to-one correspondence, in pre-order, with the nodes within the
depth bound on which an issue is due, and each is the issue that is due there; the failures likewise.
On no visit is more than one issue due. -/
theorem builtin_report_exact (config : Config) (unit : Source)
    (henabled : ∀ key ∈ Registry.builtin.keys, config.isEnabled key = true) :
    let bound := config.maxDepth.toNat
    let within := unit.root.placesWithin bound
    let report := (Analyzer.builtin config).analyze unit
    unit.root.IsPreorder bound within ∧
      List.Forall₂ (fun (place : Place) issue => Violation place.visit issue)
        (within.filter fun place => ∃ issue, Violation place.visit issue) report.issues ∧
      List.Forall₂ (fun (place : Place) failure => Stray place.visit failure)
        (within.filter fun place => ∃ failure, Stray place.visit failure) report.failures ∧
      ∀ visit issue other, Violation visit issue → Violation visit other → issue = other := by
  intro bound within report
  have hissues : report.issues = within.flatMap fun place => issuesAt place.visit := by
    have h := (Analyzer.builtin config).issues_analyze unit
    rwa [entries_builtin_of_isEnabled henabled] at h
  have hfailures : report.failures = within.flatMap fun place => failuresAt place.visit := by
    have h := (Analyzer.builtin config).failures_analyze unit
    rwa [entries_builtin_of_isEnabled henabled] at h
  refine ⟨unit.root.isPreorder_placesWithin bound, ?_, ?_, ?_⟩
  · rw [hissues]
    refine forall₂_filter_flatMap ?_ (fun place => issuesAt_eq_nil_or place.visit) within
    exact fun place issue hissue => issuesAt_of_violation hissue
  · rw [hfailures]
    refine forall₂_filter_flatMap ?_ (fun place => failuresAt_eq_nil_or place.visit) within
    exact fun place failure hfailure => failuresAt_of_stray hfailure
  · intro visit issue other hissue hother
    have hsame := (issuesAt_of_violation hissue).symm.trans (issuesAt_of_violation hother)
    exact (List.cons.inj hsame).1

/-- In a declared function, the parameter of an inline function is left alone and the declared one
is not, although both are untyped, and the message has the names of the declared ones; a parameter
beside the function makes the check fail.  The type declaration of the binding lies just below the
depth bound and still counts. -/
theorem builtin_report_exact_nested_functions :
    let named (name : String) (line : UInt32) (rest : Forest Kind) : Forest Kind :=
      .node .eqName line (.token ⟨name, line⟩ .nil) rest
    let root : Node :=
      ⟨.prolog, 1,
        .node .functionDecl 2
          (named "local:f" 2
            (.node .param 3 (named "a" 3 .nil)
              (.node .typeDeclaration 4 .nil
                (.node .inlineFunctionExpr 5
                  (.node .param 6 (named "b" 6 .nil)
                    (.node .letBinding 7 (.node .typeDeclaration 8 .nil .nil) .nil))
                  .nil))))
          (.node .param 9 (named "c" 9 .nil) .nil)⟩
    let config := Config.bounded 3
    let report := (Analyzer.builtin config).analyze ⟨"nested.xq", root⟩
    (∀ key ∈ Registry.builtin.keys, config.isEnabled key = true) ∧
      (report.issues =
          [⟨libraryKey "StrongTypingInFunctionDeclaration", 3,
            "Declare a type for parameter $a of function local:f."⟩] ∧
        report.failures.map (fun failure => (failure.line, failure.error.message)) =
          [(9, "malformed param at line 9: parameter outside any function")]) ∧
      List.Forall₂ (fun (place : Place) issue => Violation place.visit issue)
        ((root.placesWithin 3).filter fun place => ∃ issue, Violation place.visit issue)
        report.issues := by
  intro named root config report
  have henabled : ∀ key ∈ Registry.builtin.keys, config.isEnabled key = true := by decide
  exact ⟨henabled, by decide, (builtin_report_exact config ⟨"nested.xq", root⟩ henabled).2.1⟩

end SyntaxLint.StrongTyping
