import ModLint.Program.Symbol

/-!
# Syntax nodes

A node has a position, the text in front of it and a kind with its own fields. Its children are
given by their ids; the link to its parent is not part of a dump and is computed from the child
lists.
-/

namespace ModLint

/-- A modifier of a declaration, such as `public` or `static`. -/
structure Modifier where
  /-- The keyword. -/
  text : String
  /-- Where it stands. -/
  span : Span
  /-- The text directly before it. -/
  leadingTrivia : String := ""
  /-- The text directly behind it. -/
  trailingTrivia : String := ""
deriving DecidableEq

/-- Whether a modifier is the given keyword. -/
def Modifier.is (modifier : Modifier) (keyword : String) : Bool :=
  modifier.text == keyword

/-- Whether a modifier says who may use the declaration (`is_accessibility`). -/
def Modifier.isAccessibility (modifier : Modifier) : Bool :=
  ["public", "private", "protected", "internal"].contains modifier.text

/-- The two ways to write an anonymous function. -/
inductive FunctionSyntax where
  /-- `x => ...`. -/
  | lambda
  /-- `delegate (x) ...`. -/
  | anonymousMethod
deriving DecidableEq

/-- The assignment operators that are told apart. -/
inductive AssignmentOperator where
  /-- `=`. -/
  | assign
  /-- `+=`. -/
  | addAssign
  /-- `-=`. -/
  | subtractAssign
  /-- Any other. -/
  | other
deriving DecidableEq

/-- An operator as it is written; one that is not told apart shows a question mark. -/
def AssignmentOperator.display : AssignmentOperator → String
  | .assign => "="
  | .addAssign => "+="
  | .subtractAssign => "-="
  | .other => "?="

/-- The kinds of nodes. -/
inductive NodeKind where
  /-- A whole file. -/
  | compilationUnit (members : List NodeId)
  /-- A namespace. -/
  | namespaceDeclaration (name : String) (members : List NodeId)
  /-- A type. -/
  | typeDeclaration (name : String) (symbol : Option TypeId) (attributes members : List NodeId)
  /-- An attribute. -/
  | attributeNode (name : String) (arguments : List NodeId)
  /-- A method; `modifiersStart` is where a first modifier would go. -/
  | method (name : String) (modifiers : List Modifier) (modifiersStart : Option Nat)
      (symbol : Option MethodId) (parameters : List NodeId) (body : Option NodeId)
  /-- A constructor. -/
  | constructor (modifiers : List Modifier) (symbol : Option MethodId) (parameters : List NodeId)
      (body : Option NodeId)
  /-- A function inside a method. -/
  | localFunction (name : String) (modifiers : List Modifier) (symbol : Option MethodId)
      (parameters : List NodeId) (body : Option NodeId)
  /-- A property. -/
  | property (name : String) (symbol : Option PropertyId) (accessors : List NodeId)
  /-- A field. -/
  | field (name : String) (initializer : Option NodeId)
  /-- A parameter. -/
  | parameter (name : String)
  /-- A block of statements. -/
  | block (statements : List NodeId)
  /-- An expression used as a statement. -/
  | expressionStatement (expression : NodeId)
  /-- A local variable. -/
  | localDeclaration (name : String) (initializer : Option NodeId)
  /-- A return statement. -/
  | returnStatement (expression : Option NodeId)
  /-- A statement that yields an element. -/
  | yieldReturn (expression : NodeId)
  /-- A statement that ends a sequence. -/
  | yieldBreak
  /-- Any other statement. -/
  | statement (keyword : String) (children : List NodeId)
  /-- A call; the target is absent if binding failed. -/
  | invocation (callee : NodeId) (arguments : List NodeId) (target : Option MethodId)
      (typeArguments : List TypeId)
  /-- The creation of an object. -/
  | objectCreation (typeName : String) (arguments : List NodeId) (created : Option TypeId)
  /-- A lambda or an anonymous method. -/
  | anonymousFunction (form : FunctionSyntax) (modifiers : List Modifier)
      (parameters : List NodeId) (body : NodeId) (symbol : Option MethodId)
  /-- A simple name. -/
  | identifier (name : String) (symbol : Option SymbolRef)
  /-- A member of an expression. -/
  | memberAccess (expression : NodeId) (name : String) (symbol : Option SymbolRef)
  /-- An assignment. -/
  | assignment (operator : AssignmentOperator) (left right : NodeId)
  /-- An awaited expression. -/
  | await (expression : NodeId)
  /-- An expression in parentheses. -/
  | parenthesized (expression : NodeId)
  /-- A literal. -/
  | literal (text : String)
  /-- Any other expression. -/
  | expression (text : String) (children : List NodeId)
deriving DecidableEq

namespace NodeKind

/-- The children, in the order of the source. -/
def children : NodeKind → List NodeId
  | .compilationUnit members => members
  | .namespaceDeclaration _ members => members
  | .typeDeclaration _ _ attributes members => attributes ++ members
  | .attributeNode _ arguments => arguments
  | .method _ _ _ _ parameters body => parameters ++ body.toList
  | .constructor _ _ parameters body => parameters ++ body.toList
  | .localFunction _ _ _ parameters body => parameters ++ body.toList
  | .property _ _ accessors => accessors
  | .field _ initializer => initializer.toList
  | .parameter _ => []
  | .block statements => statements
  | .expressionStatement operand => [operand]
  | .localDeclaration _ initializer => initializer.toList
  | .returnStatement operand => operand.toList
  | .yieldReturn operand => [operand]
  | .yieldBreak => []
  | .statement _ children => children
  | .invocation callee arguments _ _ => callee :: arguments
  | .objectCreation _ arguments _ => arguments
  | .anonymousFunction _ _ parameters body _ => parameters ++ [body]
  | .identifier _ _ => []
  | .memberAccess operand _ _ => [operand]
  | .assignment _ left right => [left, right]
  | .await operand => [operand]
  | .parenthesized operand => [operand]
  | .literal _ => []
  | .expression _ children => children

/-- The name of a kind, in dumps and messages. -/
def name : NodeKind → String
  | .compilationUnit .. => "compilation_unit"
  | .namespaceDeclaration .. => "namespace"
  | .typeDeclaration .. => "type_declaration"
  | .attributeNode .. => "attribute"
  | .method .. => "method"
  | .constructor .. => "constructor"
  | .localFunction .. => "local_function"
  | .property .. => "property"
  | .field .. => "field"
  | .parameter .. => "parameter"
  | .block .. => "block"
  | .expressionStatement .. => "expression_statement"
  | .localDeclaration .. => "local_declaration"
  | .returnStatement .. => "return"
  | .yieldReturn .. => "yield_return"
  | .yieldBreak => "yield_break"
  | .statement .. => "statement"
  | .invocation .. => "invocation"
  | .objectCreation .. => "object_creation"
  | .anonymousFunction .. => "anonymous_function"
  | .identifier .. => "identifier"
  | .memberAccess .. => "member_access"
  | .assignment .. => "assignment"
  | .await .. => "await"
  | .parenthesized .. => "parenthesized"
  | .literal .. => "literal"
  | .expression .. => "expression"

/-- Whether a node is a function of its own (`is_function_boundary`): what lies inside runs when
that function runs. -/
def isFunction : NodeKind → Bool
  | .method .. | .constructor .. | .localFunction .. | .anonymousFunction .. => true
  | _ => false

/-- The body of a function. -/
def body? : NodeKind → Option NodeId
  | .method _ _ _ _ _ body => body
  | .constructor _ _ _ body => body
  | .localFunction _ _ _ _ body => body
  | .anonymousFunction _ _ _ body _ => some body
  | _ => none

/-- The modifiers of a function. -/
def modifiers? : NodeKind → Option (List Modifier)
  | .method _ modifiers .. => some modifiers
  | .constructor modifiers .. => some modifiers
  | .localFunction _ modifiers .. => some modifiers
  | .anonymousFunction _ modifiers .. => some modifiers
  | _ => none

/-- What a name is bound to (`referenced_symbol`). -/
def symbol? : NodeKind → Option SymbolRef
  | .identifier _ symbol => symbol
  | .memberAccess _ _ symbol => symbol
  | _ => none

/-- The method that a node declares (`declared_method`). -/
def declaredMethod? : NodeKind → Option MethodId
  | .method _ _ _ symbol _ _ => symbol
  | .constructor _ symbol _ _ => symbol
  | .localFunction _ _ symbol _ _ => symbol
  | .anonymousFunction _ _ _ _ symbol => symbol
  | _ => none

end NodeKind

/-- A syntax node. -/
structure SyntaxNode where
  /-- The file it stands in. -/
  file : FileId
  /-- Where it stands. -/
  span : Span
  /-- Blanks and comments in front of its first token. -/
  leadingTrivia : String := ""
  /-- Its parent, once the links have been computed. -/
  parent : Option NodeId := none
  /-- Its kind. -/
  kind : NodeKind
deriving DecidableEq

end ModLint
