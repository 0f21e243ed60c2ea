import ModLint.Json.Basic
import ModLint.Program.Basic

/-!
# Writing programs

The JSON form of a program. Members appear in a fixed order; the text of a file and the trivia
around tokens are left out when there is none, and links to parents are never written.
-/

namespace ModLint

/-- An id as a number. -/
def ItemId.toJson {arena : Arena} (id : ItemId arena) : Json :=
  .nat id.index

/-- Ids as an array of numbers. -/
def ItemId.arrayJson {arena : Arena} (ids : List (ItemId arena)) : Json :=
  Json.ofList ItemId.toJson ids

/-- An id or `null`. -/
def ItemId.optionJson {arena : Arena} (id? : Option (ItemId arena)) : Json :=
  Json.ofOption ItemId.toJson id?

/-- A span as an object. -/
def Span.toJson (span : Span) : Json :=
  .obj
    [("start_byte", .nat span.startByte), ("end_byte", .nat span.endByte),
      ("start_line", .nat span.startLine), ("start_col", .nat span.startColumn),
      ("end_line", .nat span.endLine), ("end_col", .nat span.endColumn)]

/-- A location as an object. -/
def Location.toJson (location : Location) : Json :=
  .obj [("file", .str location.file), ("span", location.span.toJson)]

/-- A file as an object. -/
def SourceFile.toJson (file : SourceFile) : Json :=
  .obj (("path", .str file.path) :: file.text.toList.map fun text => ("text", .str text))

/-- A namespace as an object. -/
def Namespace.toJson (space : Namespace) : Json :=
  .obj [("name", .str space.name), ("parent", ItemId.optionJson space.parent)]

/-- The word for a kind of type. -/
def TypeKind.word : TypeKind → String
  | .classType => "class"
  | .structType => "struct"
  | .interfaceType => "interface"
  | .enumType => "enum"
  | .delegateType => "delegate"

mutual

/-- An argument as an object of its kind and its value. -/
def AttributeArgument.toJson : AttributeArgument → Json
  | .string s => .obj [("kind", .str "string"), ("value", .str s)]
  | .type id => .obj [("kind", .str "type"), ("value", id.toJson)]
  | .array items =>
    .obj [("kind", .str "array"), ("value", .arr (AttributeArgument.toJsonItems items))]
  | .bool b => .obj [("kind", .str "bool"), ("value", .bool b)]
  | .other s => .obj [("kind", .str "other"), ("value", .str s)]

/-- The items of an array argument. -/
def AttributeArgument.toJsonItems : List AttributeArgument → List Json
  | [] => []
  | item :: items => AttributeArgument.toJson item :: AttributeArgument.toJsonItems items

end

/-- An attribute as an object. -/
def AttributeData.toJson (data : AttributeData) : Json :=
  .obj
    [("class", data.attributeClass.toJson),
      ("arguments", .arr (AttributeArgument.toJsonItems data.arguments)),
      ("syntax", ItemId.optionJson data.site)]

/-- A type as an object. -/
def TypeSymbol.toJson (symbol : TypeSymbol) : Json :=
  .obj
    [("name", .str symbol.name), ("namespace", ItemId.optionJson symbol.nameSpace),
      ("containing_type", ItemId.optionJson symbol.containingType),
      ("base", ItemId.optionJson symbol.base), ("kind", .str symbol.kind.word),
      ("assembly", .str symbol.assembly),
      ("attributes", Json.ofList AttributeData.toJson symbol.attributes),
      ("members", ItemId.arrayJson symbol.members),
      ("declaration", ItemId.optionJson symbol.declaration)]

/-- The word for a kind of method. -/
def MethodKind.word : MethodKind → String
  | .ordinary => "ordinary"
  | .constructor => "constructor"
  | .anonymousFunction => "anonymous_function"
  | .localFunction => "local_function"
  | .accessor => "accessor"
  | .other => "other"

/-- A parameter as an object. -/
def ParameterSymbol.toJson (parameter : ParameterSymbol) : Json :=
  .obj [("name", .str parameter.name), ("ty", ItemId.optionJson parameter.type)]

/-- A method as an object. -/
def MethodSymbol.toJson (symbol : MethodSymbol) : Json :=
  .obj
    [("name", .str symbol.name), ("kind", .str symbol.kind.word),
      ("containing_type", ItemId.optionJson symbol.containingType),
      ("is_static", .bool symbol.isStatic), ("is_implicitly_declared", .bool symbol.isImplicit),
      ("parameters", Json.ofList ParameterSymbol.toJson symbol.parameters),
      ("return_type", ItemId.optionJson symbol.returnType),
      ("declaration", ItemId.optionJson symbol.declaration)]

/-- A property as an object. -/
def PropertySymbol.toJson (symbol : PropertySymbol) : Json :=
  .obj
    [("name", .str symbol.name), ("containing_type", symbol.containingType.toJson),
      ("is_static", .bool symbol.isStatic)]

/-- An event as an object. -/
def EventSymbol.toJson (symbol : EventSymbol) : Json :=
  .obj [("name", .str symbol.name), ("containing_type", symbol.containingType.toJson)]

/-- What a name is bound to, as an object of the kind and the id. -/
def SymbolRef.toJson : SymbolRef → Json
  | .type id => .obj [("kind", .str "type"), ("id", id.toJson)]
  | .method id => .obj [("kind", .str "method"), ("id", id.toJson)]
  | .property id => .obj [("kind", .str "property"), ("id", id.toJson)]
  | .event id => .obj [("kind", .str "event"), ("id", id.toJson)]

/-- A member that is left out when its text is empty. -/
def Json.triviaMember (name text : String) : List (String × Json) :=
  if text == "" then [] else [(name, .str text)]

/-- A modifier as an object. -/
def Modifier.toJson (modifier : Modifier) : Json :=
  .obj
    ([("text", .str modifier.text), ("span", modifier.span.toJson)]
      ++ Json.triviaMember "leading_trivia" modifier.leadingTrivia
      ++ Json.triviaMember "trailing_trivia" modifier.trailingTrivia)

/-- The word for a way to write an anonymous function. -/
def FunctionSyntax.word : FunctionSyntax → String
  | .lambda => "lambda"
  | .anonymousMethod => "anonymous_method"

/-- The word for an assignment operator. -/
def AssignmentOperator.word : AssignmentOperator → String
  | .assign => "assign"
  | .addAssign => "add_assign"
  | .subtractAssign => "subtract_assign"
  | .other => "other"

/-- The members for the fields of a kind of node. -/
def NodeKind.members : NodeKind → List (String × Json)
  | .compilationUnit members => [("members", ItemId.arrayJson members)]
  | .namespaceDeclaration name members =>
    [("name", .str name), ("members", ItemId.arrayJson members)]
  | .typeDeclaration name symbol attributes members =>
    [("name", .str name), ("symbol", ItemId.optionJson symbol),
      ("attributes", ItemId.arrayJson attributes), ("members", ItemId.arrayJson members)]
  | .attributeNode name arguments =>
    [("name", .str name), ("arguments", ItemId.arrayJson arguments)]
  | .method name modifiers modifiersStart symbol parameters body =>
    [("name", .str name), ("modifiers", Json.ofList Modifier.toJson modifiers),
      ("modifiers_start", Json.ofOption Json.nat modifiersStart),
      ("symbol", ItemId.optionJson symbol), ("parameters", ItemId.arrayJson parameters),
      ("body", ItemId.optionJson body)]
  | .constructor modifiers symbol parameters body =>
    [("modifiers", Json.ofList Modifier.toJson modifiers), ("symbol", ItemId.optionJson symbol),
      ("parameters", ItemId.arrayJson parameters), ("body", ItemId.optionJson body)]
  | .localFunction name modifiers symbol parameters body =>
    [("name", .str name), ("modifiers", Json.ofList Modifier.toJson modifiers),
      ("symbol", ItemId.optionJson symbol), ("parameters", ItemId.arrayJson parameters),
      ("body", ItemId.optionJson body)]
  | .property name symbol accessors =>
    [("name", .str name), ("symbol", ItemId.optionJson symbol),
      ("accessors", ItemId.arrayJson accessors)]
  | .field name initializer =>
    [("name", .str name), ("initializer", ItemId.optionJson initializer)]
  | .parameter name => [("name", .str name)]
  | .block statements => [("statements", ItemId.arrayJson statements)]
  | .expressionStatement operand => [("expression", operand.toJson)]
  | .localDeclaration name initializer =>
    [("name", .str name), ("initializer", ItemId.optionJson initializer)]
  | .returnStatement operand => [("expression", ItemId.optionJson operand)]
  | .yieldReturn operand => [("expression", operand.toJson)]
  | .yieldBreak => []
  | .statement keyword children =>
    [("keyword", .str keyword), ("children", ItemId.arrayJson children)]
  | .invocation callee arguments target typeArguments =>
    [("callee", callee.toJson), ("arguments", ItemId.arrayJson arguments),
      ("target", ItemId.optionJson target), ("type_arguments", ItemId.arrayJson typeArguments)]
  | .objectCreation typeName arguments created =>
    [("type_name", .str typeName), ("arguments", ItemId.arrayJson arguments),
      ("created", ItemId.optionJson created)]
  | .anonymousFunction form modifiers parameters body symbol =>
    [("syntax", .str form.word), ("modifiers", Json.ofList Modifier.toJson modifiers),
      ("parameters", ItemId.arrayJson parameters), ("body", body.toJson),
      ("symbol", ItemId.optionJson symbol)]
  | .identifier name symbol =>
    [("name", .str name), ("symbol", Json.ofOption SymbolRef.toJson symbol)]
  | .memberAccess operand name symbol =>
    [("expression", operand.toJson), ("name", .str name),
      ("symbol", Json.ofOption SymbolRef.toJson symbol)]
  | .assignment operator left right =>
    [("operator", .str operator.word), ("left", left.toJson), ("right", right.toJson)]
  | .await operand => [("expression", operand.toJson)]
  | .parenthesized operand => [("expression", operand.toJson)]
  | .literal text => [("text", .str text)]
  | .expression text children =>
    [("text", .str text), ("children", ItemId.arrayJson children)]

/-- A node as one object: its position, its kind and the fields of its kind. -/
def SyntaxNode.toJson (node : SyntaxNode) : Json :=
  .obj
    ([("file", node.file.toJson), ("span", node.span.toJson)]
      ++ Json.triviaMember "leading_trivia" node.leadingTrivia
      ++ ("kind", .str node.kind.name) :: node.kind.members)

/-- A program as an object. -/
def Program.toJson (p : Program) : Json :=
  .obj
    [("assembly", .str p.assembly), ("files", Json.ofList SourceFile.toJson p.files.toList),
      ("namespaces", Json.ofList Namespace.toJson p.namespaces.toList),
      ("types", Json.ofList TypeSymbol.toJson p.types.toList),
      ("methods", Json.ofList MethodSymbol.toJson p.methods.toList),
      ("properties", Json.ofList PropertySymbol.toJson p.properties.toList),
      ("events", Json.ofList EventSymbol.toJson p.events.toList),
      ("nodes", Json.ofList SyntaxNode.toJson p.nodes.toList)]

/-- The dump of a program (`to_json`). -/
def Program.dump (p : Program) : String :=
  p.toJson.pretty

end ModLint
