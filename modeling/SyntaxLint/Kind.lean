import SyntaxLint.Text.Words

/-!
# The kinds of XQuery construct

A syntax tree of an XQuery module labels each of its nodes with the grammar construct the node was
read as.  `Kind` is the closed vocabulary of those constructs, in a fixed order, each with one
hyphenated name (`Kind.name`).  Names are read exactly (`Kind.ofName?`).

A few constructs may declare a type, and each of these has one kind of direct child that holds the
declaration (`Kind.declarationKind?`).
-/

namespace SyntaxLint

/-- A grammar construct of XQuery. -/
inductive Kind where
  | module | versionDecl | mainModule | libraryModule | moduleDecl | prolog | namespaceDecl
  | moduleImport | varDecl | functionDecl | eqName | paramList | param | typeDeclaration
  | sequenceType | itemType | occurrenceIndicator | functionBody | expr | flworExpr | forClause
  | forBinding | positionalVar | letClause | letBinding | whereClause | orderByClause | orderSpec
  | returnClause | typeswitchExpr | caseClause | defaultClause | ifExpr | orExpr | andExpr
  | comparisonExpr | arithmeticExpr | pathExpr | stepExpr | predicate | functionCall
  | argumentList | inlineFunctionExpr | varRef | varName | elementConstructor | literal
  | parenthesizedExpr | contextItemExpr
  deriving DecidableEq

namespace Kind

/-- Every kind, in the order of the vocabulary. -/
def all : List Kind :=
  [.module, .versionDecl, .mainModule, .libraryModule, .moduleDecl, .prolog, .namespaceDecl,
   .moduleImport, .varDecl, .functionDecl, .eqName, .paramList, .param, .typeDeclaration,
   .sequenceType, .itemType, .occurrenceIndicator, .functionBody, .expr, .flworExpr, .forClause,
   .forBinding, .positionalVar, .letClause, .letBinding, .whereClause, .orderByClause,
   .orderSpec, .returnClause, .typeswitchExpr, .caseClause, .defaultClause, .ifExpr, .orExpr,
   .andExpr, .comparisonExpr, .arithmeticExpr, .pathExpr, .stepExpr, .predicate, .functionCall,
   .argumentList, .inlineFunctionExpr, .varRef, .varName, .elementConstructor, .literal,
   .parenthesizedExpr, .contextItemExpr]

/-- The name a kind goes by in syntax trees and messages. -/
def name : Kind → String
  | .module => "module"
  | .versionDecl => "version-decl"
  | .mainModule => "main-module"
  | .libraryModule => "library-module"
  | .moduleDecl => "module-decl"
  | .prolog => "prolog"
  | .namespaceDecl => "namespace-decl"
  | .moduleImport => "module-import"
  | .varDecl => "var-decl"
  | .functionDecl => "function-decl"
  | .eqName => "eq-name"
  | .paramList => "param-list"
  | .param => "param"
  | .typeDeclaration => "type-declaration"
  | .sequenceType => "sequence-type"
  | .itemType => "item-type"
  | .occurrenceIndicator => "occurrence-indicator"
  | .functionBody => "function-body"
  | .expr => "expr"
  | .flworExpr => "flwor-expr"
  | .forClause => "for-clause"
  | .forBinding => "for-binding"
  | .positionalVar => "positional-var"
  | .letClause => "let-clause"
  | .letBinding => "let-binding"
  | .whereClause => "where-clause"
  | .orderByClause => "order-by-clause"
  | .orderSpec => "order-spec"
  | .returnClause => "return-clause"
  | .typeswitchExpr => "typeswitch-expr"
  | .caseClause => "case-clause"
  | .defaultClause => "default-clause"
  | .ifExpr => "if-expr"
  | .orExpr => "or-expr"
  | .andExpr => "and-expr"
  | .comparisonExpr => "comparison-expr"
  | .arithmeticExpr => "arithmetic-expr"
  | .pathExpr => "path-expr"
  | .stepExpr => "step-expr"
  | .predicate => "predicate"
  | .functionCall => "function-call"
  | .argumentList => "argument-list"
  | .inlineFunctionExpr => "inline-function-expr"
  | .varRef => "var-ref"
  | .varName => "var-name"
  | .elementConstructor => "element-constructor"
  | .literal => "literal"
  | .parenthesizedExpr => "parenthesized-expr"
  | .contextItemExpr => "context-item-expr"

/-- The kind of a name, which has to be spelled exactly. -/
def ofName? (text : String) : Option Kind :=
  all.find? fun kind => kind.name = text

/-- What is said of a text that names no kind. -/
def unknownNameMessage : String := "Matching variant not found"

/-- The place of a kind in the vocabulary. -/
def index (kind : Kind) : Nat :=
  all.idxOf kind

/-- The camel-case spelling of a kind's name. -/
def camelName (kind : Kind) : String :=
  Text.camelCase kind.name

instance : Ord Kind := ⟨fun a b => compare a.index b.index⟩

/-- The kind of direct child in which a construct of this kind declares its type, for the kinds
that can declare one. -/
def declarationKind? : Kind → Option Kind
  | .forBinding | .letBinding | .varDecl | .param | .functionDecl => some .typeDeclaration
  | .caseClause => some .sequenceType
  | _ => none

/-- Whether a construct of this kind can declare a type. -/
def declaresType (kind : Kind) : Bool :=
  kind.declarationKind?.isSome

theorem mem_all (kind : Kind) : kind ∈ all := by
  cases kind <;> decide

/-- Every kind is found again by its own name. -/
@[simp] theorem ofName?_name (kind : Kind) : ofName? kind.name = some kind := by
  cases kind <;> decide

/-- A text names a kind only if it is the kind's name. -/
theorem name_of_ofName? {text : String} {kind : Kind} (h : ofName? text = some kind) :
    kind.name = text := by
  simpa using List.find?_some h

/-- Different kinds have different names. -/
theorem name_injective {a b : Kind} (h : a.name = b.name) : a = b := by
  have := ofName?_name a
  rw [h, ofName?_name] at this
  exact (Option.some.inj this).symm

end Kind

end SyntaxLint
