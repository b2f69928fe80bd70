import SyntaxLint.Tree.Node

/-!
# Phrases of XQuery

Builders of the syntax trees of common constructs, with all their tokens, from the parts that vary:
names, literals, item types and the line the construct stands on.  A type that is not given is not
declared.
-/

namespace SyntaxLint.Phrase

/-- A node with its elements. -/
def construct (kind : Kind) (line : UInt32) (elements : List (Element Kind)) : Node :=
  ⟨kind, line, .ofList elements⟩

/-- A node that holds one token, on its own line. -/
def word (kind : Kind) (line : UInt32) (text : String) : Node :=
  construct kind line [.token ⟨text, line⟩]

/-- `as` and an item type. -/
def typeDeclaration (line : UInt32) (itemType : String) : Node :=
  construct .typeDeclaration line
    [.token ⟨"as", line⟩,
     .node (construct .sequenceType line [.node (word .itemType line itemType)])]

/-- `as`, an item type and how many items there may be. -/
def quantifiedTypeDeclaration (line : UInt32) (itemType indicator : String) : Node :=
  construct .typeDeclaration line
    [.token ⟨"as", line⟩,
     .node (construct .sequenceType line
      [.node (word .itemType line itemType), .node (word .occurrenceIndicator line indicator)])]

/-- The declaration of a type that may be left out. -/
def optionalType (line : UInt32) (itemType : Option String) : List (Element Kind) :=
  (itemType.map fun type => .node (typeDeclaration line type)).toList

/-- The name of a variable. -/
def varName (line : UInt32) (name : String) : Node :=
  construct .varName line [.node (word .eqName line name)]

/-- `$` and the name of a variable. -/
def varRef (line : UInt32) (name : String) : Node :=
  construct .varRef line [.token ⟨"$", line⟩, .node (varName line name)]

/-- A variable, perhaps its type, `in` and the variable it ranges over. -/
def forBinding (line : UInt32) (var : String) (itemType : Option String) (source : String) : Node :=
  construct .forBinding line
    ([.token ⟨"$", line⟩, .node (varName line var)] ++ optionalType line itemType
      ++ [.token ⟨"in", line⟩, .node (varRef line source)])

/-- A variable, perhaps its type, `:=` and a literal. -/
def letBinding (line : UInt32) (var : String) (itemType : Option String) (literal : String) : Node :=
  construct .letBinding line
    ([.token ⟨"$", line⟩, .node (varName line var)] ++ optionalType line itemType
      ++ [.token ⟨":=", line⟩, .node (word .literal line literal)])

/-- A FLWOR expression: a for clause on the line after `line`, a let clause on the one after that,
and a return clause on the third.  Line numbers are words of 32 bits. -/
def flwor (line : UInt32) (forType letType : Option String) : Node :=
  construct .flworExpr line
    [.node (construct .forClause (line + 1)
      [.token ⟨"for", line + 1⟩, .node (forBinding (line + 1) "item" forType "items")]),
     .node (construct .letClause (line + 2)
      [.token ⟨"let", line + 2⟩, .node (letBinding (line + 2) "count" letType "1")]),
     .node (construct .returnClause (line + 3)
      [.token ⟨"return", line + 3⟩, .node (varRef (line + 3) "item")])]

/-- The declaration of a module variable. -/
def varDecl (line : UInt32) (name : String) (itemType : Option String) (literal : String) : Node :=
  construct .varDecl line
    ([.token ⟨"declare", line⟩, .token ⟨"variable", line⟩, .token ⟨"$", line⟩,
      .node (varName line name)] ++ optionalType line itemType
      ++ [.token ⟨":=", line⟩, .node (word .literal line literal), .token ⟨";", line⟩])

/-- A parameter of a function. -/
def param (line : UInt32) (name : String) (itemType : Option String) : Node :=
  construct .param line
    ([.token ⟨"$", line⟩, .node (word .eqName line name)] ++ optionalType line itemType)

/-- A function body that does nothing. -/
def emptyBody (line : UInt32) : Node :=
  construct .functionBody line
    [.token ⟨"\x7b", line⟩,
     .node (construct .parenthesizedExpr line [.token ⟨"(", line⟩, .token ⟨")", line⟩]),
     .token ⟨"\x7d", line⟩]

/-- Parameters in parentheses, with `separator` between any two of them. -/
def paramList (line : UInt32) (separator : List (Element Kind))
    (params : List (String × Option String)) : Node :=
  construct .paramList line
    ([.token ⟨"(", line⟩]
      ++ separator.intercalate (params.map fun (name, type) => [.node (param line name type)])
      ++ [.token ⟨")", line⟩])

/-- The declaration of a function, its parameters divided by commas. -/
def functionDecl (line : UInt32) (name : String) (params : List (String × Option String))
    (returnType : Option String) : Node :=
  construct .functionDecl line
    ([.token ⟨"declare", line⟩, .token ⟨"function", line⟩, .node (word .eqName line name),
      .node (paramList line [.token ⟨",", line⟩] params)]
      ++ optionalType line returnType ++ [.node (emptyBody line), .token ⟨";", line⟩])

/-- An inline function, its parameters written one after another. -/
def inlineFunction (line : UInt32) (params : List (String × Option String)) : Node :=
  construct .inlineFunctionExpr line
    [.token ⟨"function", line⟩, .node (paramList line [] params), .node (emptyBody line)]

/-- A main module: declarations, then a body.  The prolog starts on the line of the first
declaration, on the first line if there is none. -/
def mainModule (declarations : List Node) (body : Node) : Node :=
  construct .module 1
    [.node (construct .mainModule 1
      [.node (construct .prolog ((declarations.head?.map Tree.line).getD 1)
        (declarations.map .node)),
       .node (construct .expr body.line [.node body])])]

/-- A module without declarations whose for binding, on line 3, has no type. -/
def sampleModule : Node :=
  mainModule [] (flwor 2 none (some "xs:integer"))

end SyntaxLint.Phrase
