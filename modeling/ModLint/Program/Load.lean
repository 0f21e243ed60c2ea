import ModLint.Datum.Decode
import ModLint.Json.Reader
import ModLint.Program.Dump
import ModLint.Program.Link
import ModLint.Yaml.Reader

/-!
# Reading programs

A dump is a JSON or YAML text. Reading it takes three steps: the text gives a datum, the datum a
program, and the program is checked and linked.
-/

namespace ModLint

/-- An id. -/
def ItemId.decode {arena : Arena} : Decoder (ItemId arena) :=
  fun rules datum => (Decoder.natBelow ItemId.bound rules datum).map ItemId.mk

/-- A span. -/
def Span.decode : Decoder Span := fun rules datum => do
  let fields ← Record.read
    ["start_byte", "end_byte", "start_line", "start_col", "end_line", "end_col"] rules datum
  return {
    startByte := ← fields.required "start_byte" Decoder.nat
    endByte := ← fields.required "end_byte" Decoder.nat
    startLine := ← fields.required "start_line" Decoder.nat
    startColumn := ← fields.required "start_col" Decoder.nat
    endLine := ← fields.getD "end_line" Decoder.nat 0
    endColumn := ← fields.getD "end_col" Decoder.nat 0 }

/-- A location. -/
def Location.decode : Decoder Location := fun rules datum => do
  let fields ← Record.read ["file", "span"] rules datum
  return {
    file := ← fields.required "file" Decoder.string
    span := ← fields.required "span" Span.decode }

/-- A source file. -/
def SourceFile.decode : Decoder SourceFile := fun rules datum => do
  let fields ← Record.read ["path", "text"] rules datum
  return {
    path := ← fields.required "path" Decoder.string
    text := ← fields.optional "text" Decoder.string }

/-- A namespace. -/
def Namespace.decode : Decoder Namespace := fun rules datum => do
  let fields ← Record.read ["name", "parent"] rules datum
  return {
    name := ← fields.required "name" Decoder.string
    parent := ← fields.optional "parent" ItemId.decode }

/-- A kind of type. -/
def TypeKind.decode : Decoder TypeKind :=
  Decoder.oneOf
    ([.classType, .structType, .interfaceType, .enumType, .delegateType].map
      fun kind => (TypeKind.word kind, kind))

/-- The kinds of attribute arguments. -/
inductive AttributeArgument.Tag where
  /-- A string. -/
  | string
  /-- A type. -/
  | type
  /-- An array. -/
  | array
  /-- A truth value. -/
  | bool
  /-- Anything else. -/
  | other

/-- An attribute argument; arrays of arguments may be nested `depth` deep. -/
def AttributeArgument.decodeTo : Nat → Decoder AttributeArgument
  | 0 => fun _ _ => none
  | depth + 1 =>
    Decoder.tagged "kind" "value"
      [("string", AttributeArgument.Tag.string), ("type", .type), ("array", .array),
        ("bool", .bool), ("other", .other)]
      fun tag rules datum =>
        match tag with
        | .string => (Decoder.string rules datum).map .string
        | .type => (ItemId.decode rules datum).map .type
        | .array => (Decoder.list (decodeTo depth) rules datum).map .array
        | .bool => (Decoder.bool rules datum).map .bool
        | .other => (Decoder.string rules datum).map .other

/-- An attribute argument. Every level of an array takes up room, which bounds their depth. -/
def AttributeArgument.decode : Decoder AttributeArgument := fun rules datum =>
  AttributeArgument.decodeTo (rules.room + 1) rules datum

/-- An attribute. -/
def AttributeData.decode : Decoder AttributeData := fun rules datum => do
  let fields ← Record.read ["class", "arguments", "syntax"] rules datum
  return {
    attributeClass := ← fields.required "class" ItemId.decode
    arguments := ← fields.getD "arguments" (Decoder.list AttributeArgument.decode) []
    site := ← fields.optional "syntax" ItemId.decode }

/-- A type. -/
def TypeSymbol.decode : Decoder TypeSymbol := fun rules datum => do
  let fields ← Record.read
    ["name", "namespace", "containing_type", "base", "kind", "assembly", "attributes", "members",
      "declaration"] rules datum
  return {
    name := ← fields.required "name" Decoder.string
    nameSpace := ← fields.optional "namespace" ItemId.decode
    containingType := ← fields.optional "containing_type" ItemId.decode
    base := ← fields.optional "base" ItemId.decode
    kind := ← fields.getD "kind" TypeKind.decode .classType
    assembly := ← fields.required "assembly" Decoder.string
    attributes := ← fields.getD "attributes" (Decoder.list AttributeData.decode) []
    members := ← fields.getD "members" (Decoder.list ItemId.decode) []
    declaration := ← fields.optional "declaration" ItemId.decode }

/-- A kind of method. -/
def MethodKind.decode : Decoder MethodKind :=
  Decoder.oneOf
    ([.ordinary, .constructor, .anonymousFunction, .localFunction, .accessor, .other].map
      fun kind => (MethodKind.word kind, kind))

/-- A parameter. -/
def ParameterSymbol.decode : Decoder ParameterSymbol := fun rules datum => do
  let fields ← Record.read ["name", "ty"] rules datum
  return {
    name := ← fields.required "name" Decoder.string
    type := ← fields.optional "ty" ItemId.decode }

/-- A method. -/
def MethodSymbol.decode : Decoder MethodSymbol := fun rules datum => do
  let fields ← Record.read
    ["name", "kind", "containing_type", "is_static", "is_implicitly_declared", "parameters",
      "return_type", "declaration"] rules datum
  return {
    name := ← fields.required "name" Decoder.string
    kind := ← fields.getD "kind" MethodKind.decode .ordinary
    containingType := ← fields.optional "containing_type" ItemId.decode
    isStatic := ← fields.getD "is_static" Decoder.bool false
    isImplicit := ← fields.getD "is_implicitly_declared" Decoder.bool false
    parameters := ← fields.getD "parameters" (Decoder.list ParameterSymbol.decode) []
    returnType := ← fields.optional "return_type" ItemId.decode
    declaration := ← fields.optional "declaration" ItemId.decode }

/-- A property. -/
def PropertySymbol.decode : Decoder PropertySymbol := fun rules datum => do
  let fields ← Record.read ["name", "containing_type", "is_static"] rules datum
  return {
    name := ← fields.required "name" Decoder.string
    containingType := ← fields.required "containing_type" ItemId.decode
    isStatic := ← fields.getD "is_static" Decoder.bool false }

/-- An event. -/
def EventSymbol.decode : Decoder EventSymbol := fun rules datum => do
  let fields ← Record.read ["name", "containing_type"] rules datum
  return {
    name := ← fields.required "name" Decoder.string
    containingType := ← fields.required "containing_type" ItemId.decode }

/-- What a name is bound to. -/
def SymbolRef.decode : Decoder SymbolRef :=
  Decoder.tagged "kind" "id"
    [("type", Arena.type), ("method", .method), ("property", .property), ("event", .event)]
    fun arena rules datum =>
      match arena with
      | .method => (ItemId.decode rules datum).map .method
      | .property => (ItemId.decode rules datum).map .property
      | .event => (ItemId.decode rules datum).map .event
      | _ => (ItemId.decode rules datum).map .type

/-- A modifier. -/
def Modifier.decode : Decoder Modifier := fun rules datum => do
  let fields ← Record.read ["text", "span", "leading_trivia", "trailing_trivia"] rules datum
  return {
    text := ← fields.required "text" Decoder.string
    span := ← fields.required "span" Span.decode
    leadingTrivia := ← fields.getD "leading_trivia" Decoder.string ""
    trailingTrivia := ← fields.getD "trailing_trivia" Decoder.string "" }

/-- A way to write an anonymous function. -/
def FunctionSyntax.decode : Decoder FunctionSyntax :=
  Decoder.oneOf ([.lambda, .anonymousMethod].map fun form => (FunctionSyntax.word form, form))

/-- An assignment operator. -/
def AssignmentOperator.decode : Decoder AssignmentOperator :=
  Decoder.oneOf
    ([.assign, .addAssign, .subtractAssign, .other].map
      fun operator => (AssignmentOperator.word operator, operator))

namespace NodeKind

/-- A list of nodes or other items; empty if the field is missing. -/
def decodeIds {arena : Arena} (fields : Record) (name : String) : Option (List (ItemId arena)) :=
  fields.getD name (Decoder.list ItemId.decode) []

/-- An item that may be missing. -/
def decodeId? {arena : Arena} (fields : Record) (name : String) : Option (Option (ItemId arena)) :=
  fields.optional name ItemId.decode

/-- An item that must be there. -/
def decodeId {arena : Arena} (fields : Record) (name : String) : Option (ItemId arena) :=
  fields.required name ItemId.decode

/-- A text that must be there. -/
def decodeText (fields : Record) (name : String) : Option String :=
  fields.required name Decoder.string

/-- A list of modifiers; empty if the field is missing. -/
def decodeModifiers (fields : Record) : Option (List Modifier) :=
  fields.getD "modifiers" (Decoder.list Modifier.decode) []

/-- The kinds of nodes: the name of each, the names of its fields and how they are read. -/
def schemas : List (String × List String × (Record → Option NodeKind)) :=
  [("compilation_unit", ["members"], fun f =>
      return .compilationUnit (← decodeIds f "members")),
    ("namespace", ["name", "members"], fun f =>
      return .namespaceDeclaration (← decodeText f "name") (← decodeIds f "members")),
    ("type_declaration", ["name", "symbol", "attributes", "members"], fun f =>
      return .typeDeclaration (← decodeText f "name") (← decodeId? f "symbol")
        (← decodeIds f "attributes") (← decodeIds f "members")),
    ("attribute", ["name", "arguments"], fun f =>
      return .attributeNode (← decodeText f "name") (← decodeIds f "arguments")),
    ("method", ["name", "modifiers", "modifiers_start", "symbol", "parameters", "body"], fun f =>
      return .method (← decodeText f "name") (← decodeModifiers f)
        (← f.optional "modifiers_start" Decoder.nat) (← decodeId? f "symbol")
        (← decodeIds f "parameters") (← decodeId? f "body")),
    ("constructor", ["modifiers", "symbol", "parameters", "body"], fun f =>
      return .constructor (← decodeModifiers f) (← decodeId? f "symbol")
        (← decodeIds f "parameters") (← decodeId? f "body")),
    ("local_function", ["name", "modifiers", "symbol", "parameters", "body"], fun f =>
      return .localFunction (← decodeText f "name") (← decodeModifiers f) (← decodeId? f "symbol")
        (← decodeIds f "parameters") (← decodeId? f "body")),
    ("property", ["name", "symbol", "accessors"], fun f =>
      return .property (← decodeText f "name") (← decodeId? f "symbol")
        (← decodeIds f "accessors")),
    ("field", ["name", "initializer"], fun f =>
      return .field (← decodeText f "name") (← decodeId? f "initializer")),
    ("parameter", ["name"], fun f => return .parameter (← decodeText f "name")),
    ("block", ["statements"], fun f => return .block (← decodeIds f "statements")),
    ("expression_statement", ["expression"], fun f =>
      return .expressionStatement (← decodeId f "expression")),
    ("local_declaration", ["name", "initializer"], fun f =>
      return .localDeclaration (← decodeText f "name") (← decodeId? f "initializer")),
    ("return", ["expression"], fun f =>
      return .returnStatement (← decodeId? f "expression")),
    ("yield_return", ["expression"], fun f => return .yieldReturn (← decodeId f "expression")),
    ("yield_break", [], fun _ => some .yieldBreak),
    ("statement", ["keyword", "children"], fun f =>
      return .statement (← decodeText f "keyword") (← decodeIds f "children")),
    ("invocation", ["callee", "arguments", "target", "type_arguments"], fun f =>
      return .invocation (← decodeId f "callee") (← decodeIds f "arguments")
        (← decodeId? f "target") (← decodeIds f "type_arguments")),
    ("object_creation", ["type_name", "arguments", "created"], fun f =>
      return .objectCreation (← decodeText f "type_name") (← decodeIds f "arguments")
        (← decodeId? f "created")),
    ("anonymous_function", ["syntax", "modifiers", "parameters", "body", "symbol"], fun f =>
      return .anonymousFunction (← f.required "syntax" FunctionSyntax.decode)
        (← decodeModifiers f) (← decodeIds f "parameters") (← decodeId f "body")
        (← decodeId? f "symbol")),
    ("identifier", ["name", "symbol"], fun f =>
      return .identifier (← decodeText f "name") (← f.optional "symbol" SymbolRef.decode)),
    ("member_access", ["expression", "name", "symbol"], fun f =>
      return .memberAccess (← decodeId f "expression") (← decodeText f "name")
        (← f.optional "symbol" SymbolRef.decode)),
    ("assignment", ["operator", "left", "right"], fun f =>
      return .assignment (← f.required "operator" AssignmentOperator.decode)
        (← decodeId f "left") (← decodeId f "right")),
    ("await", ["expression"], fun f => return .await (← decodeId f "expression")),
    ("parenthesized", ["expression"], fun f => return .parenthesized (← decodeId f "expression")),
    ("literal", ["text"], fun f => return .literal (← decodeText f "text")),
    ("expression", ["text", "children"], fun f =>
      return .expression (← f.getD "text" Decoder.string "") (← decodeIds f "children"))]

/-- The kind that a settled datum names, by its name or by its position among the kinds. -/
def schema? : Datum → Option (List String × (Record → Option NodeKind))
  | .text name => schemas.lookup name
  | .number (.natural i) => schemas[i]?.map Prod.snd
  | _ => none

/-- Reads a kind and its fields from the settled entries of a node. -/
def decode (rules : Rules) (entries : List (Datum × Datum)) : Option NodeKind := do
  let fields ← Record.known ["kind"] entries
  let (names, read) ← schema? (← fields.lookup "kind")
  let entries ← Record.known names entries
  read { rules := { rules with positional := true }, entries }

end NodeKind

/-- A node. Its position is read in place; its kind decides over all other fields, which are
therefore settled first. -/
def SyntaxNode.decode : Decoder SyntaxNode := fun rules datum => do
  let .fields entries := datum | none
  let own := ["file", "span", "leading_trivia"]
  let rules ← rules.enter
  let fields : Record := { rules, entries := ← Record.known own entries }
  let others := entries.filter fun (key, _) => !(key.text?.any own.contains)
  let others ← others.mapM fun (key, value) => do
    return (Datum.text (← key.text?), ← value.settle rules.room)
  return {
    file := ← fields.required "file" ItemId.decode
    span := ← fields.required "span" Span.decode
    leadingTrivia := ← fields.getD "leading_trivia" Decoder.string ""
    kind := ← NodeKind.decode rules others }

/-- A program as it is written, unchecked and without links to parents. -/
def Program.decode : Decoder Program := fun rules datum => do
  let fields ← Record.read
    ["assembly", "files", "namespaces", "types", "methods", "properties", "events", "nodes"]
    rules datum
  return {
    assembly := ← fields.required "assembly" Decoder.string
    files := ← fields.getD "files" (Decoder.array SourceFile.decode) #[]
    namespaces := ← fields.getD "namespaces" (Decoder.array Namespace.decode) #[]
    types := ← fields.getD "types" (Decoder.array TypeSymbol.decode) #[]
    methods := ← fields.getD "methods" (Decoder.array MethodSymbol.decode) #[]
    properties := ← fields.getD "properties" (Decoder.array PropertySymbol.decode) #[]
    events := ← fields.getD "events" (Decoder.array EventSymbol.decode) #[]
    nodes := ← fields.getD "nodes" (Decoder.array SyntaxNode.decode) #[] }

/-- The formats of dumps. -/
inductive DumpFormat where
  /-- JSON. -/
  | json
  /-- YAML. -/
  | yaml
deriving DecidableEq

/-- Why a dump cannot be loaded. -/
inductive LoadError where
  /-- The text is no dump of its format. -/
  | unreadable (format : DumpFormat)
  /-- The program it describes is not well formed. -/
  | invalid (error : ProgramError)
  /-- The program it describes cannot be linked. -/
  | broken (fault : Fault)
deriving DecidableEq

/-- The text of an error. -/
def LoadError.message : LoadError → String
  | .unreadable .json => "invalid JSON model: the text is no dump"
  | .unreadable .yaml => "invalid YAML model: the text is no dump"
  | .invalid error => error.message
  | .broken fault => fault.message

namespace Program

/-- A program that has been checked and linked (`into_linked`). -/
def finish (p : Program) : Except LoadError Program :=
  match p.check, p.link with
  | .error error, _ => .error (.invalid error)
  | .ok (), .ok linked => .ok linked
  | .ok (), .error (.invalid error) => .error (.invalid error)
  | .ok (), .error (.fault fault) => .error (.broken fault)

/-- Loads a program from a datum that was read from JSON. -/
def ofDatum (datum : Datum) : Except LoadError Program :=
  match Program.decode Rules.json datum with
  | some p => p.finish
  | none => .error (.unreadable .json)

/-- Loads a JSON dump (`from_json_str`). -/
def ofJson (text : String) : Except LoadError Program :=
  match Datum.ofJson? text with
  | some datum => ofDatum datum
  | none => .error (.unreadable .json)

/-- Loads a YAML dump (`from_yaml_str`). -/
def ofYaml (text : String) : Except LoadError Program :=
  match (Datum.ofYaml? text).bind (Program.decode Rules.yaml) with
  | some p => p.finish
  | none => .error (.unreadable .yaml)

/-- Loads a dump of a format (`load`). -/
def ofText : DumpFormat → String → Except LoadError Program
  | .json => ofJson
  | .yaml => ofYaml

end Program

end ModLint
