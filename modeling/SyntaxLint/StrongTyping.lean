import SyntaxLint.Check

/-!
# Rules on declared types

Three rules ask for a declared type: on the bindings of FLWOR expressions, on the parameters and the
result of declared functions, and on module variables.  Inline functions are free to leave the types
of their parameters open.  A parameter that is not inside any function makes its check fail.
-/

namespace SyntaxLint.StrongTyping

/-- A construct's name in a message: the text of its first child of a kind, put into words, or
other words if it has no such child. -/
def nameOr (node : Node) (kind : Kind) (named : String → String) (nameless : String) : String :=
  match node.child? kind with
  | some child => named child.text
  | none => nameless

/-! ## FLWOR bindings -/

/-- The message for a binding of a clause without a type. -/
def bindingMessage (clause : String) (binding : Node) : String :=
  "Declare a type for the " ++ clause ++ " binding"
    ++ nameOr binding .varName (" $" ++ ·) "" ++ "."

/-- A for or let binding declares a type. -/
def inspectBinding (visit : Visit) : Outcome :=
  match visit.node.kind with
  | .forBinding => ask "for"
  | .letBinding => ask "let"
  | _ => .nothing
where
  /-- Ask for the type unless it is there. -/
  ask (clause : String) : Outcome :=
    if visit.node.declaration?.isSome then .nothing
    else .found visit.node.line (bindingMessage clause visit.node)

/-- The rule on FLWOR bindings. -/
def flwor : Check where
  definition :=
    { rule := "StrongTypingInFLWOR"
      name := "Use Strong Typing FLWOR Expressions"
      description :=
        "Declare types for FLWOR 'let' and 'for' clauses to increase readability and catch "
          ++ "potential bugs. Also try to scope the types as narrowly as possible (i.e. use "
          ++ "'element()' instead of 'item()' when the value is an element) and include quantifiers "
          ++ "on each type."
      priority := .minor }
  inspect := inspectBinding

/-! ## Function declarations -/

/-- How a message names a function. -/
def functionLabel (function : Node) : String :=
  nameOr function .eqName ("function " ++ ·) "the function"

/-- How a message names a parameter. -/
def paramLabel (param : Node) : String :=
  nameOr param .eqName ("parameter $" ++ ·) "a parameter"

/-- A parameter of a declared function declares a type. -/
def inspectParam (visit : Visit) : Outcome :=
  let param := visit.node
  if param.declaration?.isSome then .nothing
  else
    match visit.nearest? [.functionDecl, .inlineFunctionExpr] with
    | none =>
      .failed (.malformedNode param.kind.name param.line "parameter outside any function")
    | some owner =>
      if owner.kind = .functionDecl then
        .found param.line
          ("Declare a type for " ++ paramLabel param ++ " of " ++ functionLabel owner ++ ".")
      else .nothing

/-- A declared function declares the type of its result. -/
def inspectResult (function : Node) : Outcome :=
  if function.declaration?.isSome then .nothing
  else
    .found function.line ("Declare a return type for " ++ functionLabel function ++ ".")

/-- The rule on function declarations. -/
def functionDeclaration : Check where
  definition :=
    { rule := "StrongTypingInFunctionDeclaration"
      name := "Use Strong Typing in Function Declarations"
      description :=
        "Declare types for function parameters and return types to increase readability and "
          ++ "catch potential bugs. Also try to scope the types as narrowly as possible (i.e. use "
          ++ "'element()' instead of 'item()' when the return value is an element) and include "
          ++ "quantifiers on each type."
      priority := .minor }
  inspect visit :=
    match visit.node.kind with
    | .param => inspectParam visit
    | .functionDecl => inspectResult visit.node
    | _ => .nothing

/-! ## Module variables -/

/-- How a message names a module variable. -/
def variableLabel (declaration : Node) : String :=
  nameOr declaration .varName ("module variable $" ++ ·) "the module variable"

/-- A module variable declares a type. -/
def inspectVariable (visit : Visit) : Outcome :=
  if visit.node.kind ≠ .varDecl ∨ visit.node.declaration?.isSome then .nothing
  else .found visit.node.line ("Declare a type for " ++ variableLabel visit.node ++ ".")

/-- The rule on module variables. -/
def moduleVariable : Check where
  definition :=
    { rule := "StrongTypingInModuleVariable"
      name := "Use Strong Typing when Declaring Module Variables"
      description :=
        "Declare types for declared variables to increase readability and catch potential bugs. "
          ++ "Also try to scope the types as narrowly as possible (i.e. use 'element()' instead of "
          ++ "'item()' when the value is an element) and include quantifiers on each type."
      priority := .minor }
  inspect := inspectVariable

end SyntaxLint.StrongTyping
