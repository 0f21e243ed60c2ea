import ModLint.Program.Link
import ModLint.Program.Name
import ModLint.Text.Blank

/-!
# Building programs

A builder makes a program step by step. Every node gets a place of its own: one line per node, and
ranges of bytes that follow each other. Namespaces and types of other assemblies are made once and
found again later.

A step fails if it is given an id that the program does not have.
-/

namespace ModLint

/-- The signature of a method to be declared. -/
structure MethodSpec where
  /-- Its name. -/
  name : String := ""
  /-- Its modifiers. -/
  modifiers : List String := []
  /-- Its parameters. -/
  parameters : List ParameterSymbol := []
  /-- What it returns; none for nothing. -/
  returnType : Option TypeId := none
deriving DecidableEq

/-- Whether a method to be declared needs no instance. -/
def MethodSpec.isStatic (spec : MethodSpec) : Bool :=
  spec.modifiers.contains "static"

/-- A program in the making. -/
structure Builder where
  /-- The program so far. -/
  program : Program
  /-- The file that new nodes go to. -/
  file : Option FileId := none
  /-- For each file the node that stands for all of it. -/
  units : Array NodeId := #[]
  /-- The next free byte of the file. -/
  offset : Nat := 0
  /-- The next free line of the file. -/
  line : Nat := 1

/-- A builder for an assembly. -/
def Builder.new (assembly : String) : Builder :=
  { program := { assembly } }

/-- A step that builds. -/
abbrev Build := StateT Builder (Except Fault)

namespace Build

/-- The value of a look-up in the program so far. -/
def look {α : Type} (question : Program → Lookup α) : Build α := do
  question (← get).program

/-- Changes the program. -/
def change (f : Program → Program) : Build Unit :=
  modify fun builder => { builder with program := f builder.program }

/-- Changes a type. -/
def changeType (id : TypeId) (f : TypeSymbol → TypeSymbol) : Build Unit := do
  let _ ← look fun p => p.type id
  change fun p => { p with types := p.types.modify id.index f }

/-- Changes a method. -/
def changeMethod (id : MethodId) (f : MethodSymbol → MethodSymbol) : Build Unit := do
  let _ ← look fun p => p.method id
  change fun p => { p with methods := p.methods.modify id.index f }

/-- Changes the kind of a node. -/
def changeKind (id : NodeId) (f : NodeKind → NodeKind) : Build Unit := do
  let _ ← look fun p => p.node id
  change fun p =>
    { p with nodes := p.nodes.modify id.index fun node => { node with kind := f node.kind } }

/-! ## Files and nodes -/

/-- The next free line, taken by a text of the given width (`next_span`). -/
def nextSpan (width : Nat) : Build Span := do
  let builder ← get
  set { builder with offset := builder.offset + width + 1, line := builder.line + 1 }
  return {
    startByte := builder.offset, endByte := builder.offset + width, startLine := builder.line
    startColumn := 1, endLine := builder.line, endColumn := 1 + width }

/-- Adds a node to a file. -/
def allocIn (file : FileId) (kind : NodeKind) : Build NodeId := do
  let span ← nextSpan kind.name.length
  let index := (← get).program.nodes.size
  change fun p => { p with nodes := p.nodes.push { file, span, kind } }
  return ⟨index⟩

/-- Starts a source file; further nodes go to it. -/
def file (path : String) : Build FileId := do
  let id : FileId := ⟨(← get).program.files.size⟩
  change fun p => { p with files := p.files.push { path } }
  modify fun builder => { builder with file := some id, offset := 0, line := 1 }
  let unit ← allocIn id (.compilationUnit [])
  modify fun builder => { builder with units := builder.units.push unit }
  return id

/-- The file that new nodes go to (`current_file`); one is started if there is none. -/
def currentFile : Build FileId := do
  match (← get).file with
  | some id => return id
  | none => file "Source.cs"

/-- Adds a node to the current file. -/
def alloc (kind : NodeKind) : Build NodeId := do
  allocIn (← currentFile) kind

/-! ## Namespaces and types -/

/-- Finds or makes the namespace with a name inside another one. -/
def nameSpaceIn (parent : Option NamespaceId) (name : String) : Build NamespaceId := do
  let spaces := (← get).program.namespaces
  match spaces.findIdx? fun space => space.name == name && space.parent == parent with
  | some index => return ⟨index⟩
  | none =>
    change fun p => { p with namespaces := p.namespaces.push { name, parent } }
    return ⟨spaces.size⟩

/-- Finds or makes namespaces inside each other. -/
def nameSpaces : Option NamespaceId → List String → Build (Option NamespaceId)
  | parent, [] => return parent
  | parent, name :: names => do
    let space ← nameSpaceIn parent name
    nameSpaces (some space) names

/-- Finds or makes the namespace with a dotted path (`namespace`); none for the global one. Empty
segments do not count. -/
def nameSpace (dotted : String) : Build (Option NamespaceId) :=
  let segments := (Text.splitAtEach '.' dotted.toList).filter fun segment => !segment.isEmpty
  nameSpaces none (segments.map String.ofList)

/-- Adds a type with a full name (`push_type`). -/
def pushType (fullName assembly : String) (base : Option TypeId) : Build TypeId := do
  let (path, name) := (Text.splitLast? '.' fullName.toList).getD ([], fullName.toList)
  let space ← nameSpace (String.ofList path)
  let index := (← get).program.types.size
  change fun p =>
    { p with
      types := p.types.push { name := String.ofList name, nameSpace := space, base, assembly } }
  return ⟨index⟩

/-- Finds the type with a full name, or adds one of another assembly (`external_type`). -/
def externalType (fullName assembly : String) (base : Option TypeId) : Build TypeId := do
  match ← look fun p => p.findType fullName with
  | some id => return id
  | none => pushType fullName assembly base

/-- A node with a further member. -/
def withMember (member : NodeId) : NodeKind → NodeKind
  | .compilationUnit members => .compilationUnit (members ++ [member])
  | .typeDeclaration name symbol attributes members =>
    .typeDeclaration name symbol attributes (members ++ [member])
  | kind => kind

/-- A declaration of a type with a further attribute. -/
def withAttribute (node : NodeId) : NodeKind → NodeKind
  | .typeDeclaration name symbol attributes members =>
    .typeDeclaration name symbol (attributes ++ [node]) members
  | kind => kind

/-- Declares a class in the current file (`class`). -/
def classType (fullName : String) (base : Option TypeId) : Build TypeId := do
  let id ← pushType fullName (← get).program.assembly base
  let name := (← look fun p => p.type id).name
  let declaration ← alloc (.typeDeclaration name (some id) [] [])
  changeType id fun symbol => { symbol with declaration := some declaration }
  let file ← currentFile
  let some unit := (← get).units[file.index]? | throw (.missing file.reference)
  changeKind unit (withMember declaration)
  return id

/-- The name of an attribute without the usual ending of its class. -/
def attributeName (className : String) : String :=
  let name := className.toList
  let ending := "Attribute".toList
  if ending.isSuffixOf name then String.ofList (name.take (name.length - ending.length))
  else className

/-- Applies an attribute to a type (`attribute`). -/
def attributeOn (target attributeClass : TypeId) (arguments : List AttributeArgument) :
    Build NodeId := do
  let name := (← look fun p => p.type attributeClass).name
  let site ← alloc (.attributeNode (attributeName name) [])
  if let some declaration := (← look fun p => p.type target).declaration then
    changeKind declaration (withAttribute site)
  changeType target fun symbol =>
    { symbol with
      attributes := symbol.attributes ++ [{ attributeClass, arguments, site := some site }] }
  return site

/-! ## Members -/

/-- Adds a method (`push_method`). Methods and constructors become members of their type. -/
def pushMethod (owner : Option TypeId) (kind : MethodKind) (spec : MethodSpec)
    (isImplicit : Bool) : Build MethodId := do
  let id : MethodId := ⟨(← get).program.methods.size⟩
  change fun p =>
    { p with
      methods := p.methods.push
        { name := spec.name, kind, containingType := owner, isStatic := spec.isStatic, isImplicit
          parameters := spec.parameters, returnType := spec.returnType } }
  if let some type := owner then
    if kind = .ordinary ∨ kind = .constructor then
      changeType type fun symbol => { symbol with members := symbol.members ++ [id] }
  return id

/-- Modifiers, each on a line of its own (`tokens`). -/
def modifiersOf (words : List String) : Build (List Modifier) :=
  words.mapM fun word => do
    let span ← nextSpan word.utf8ByteSize
    return { text := word, span, trailingTrivia := " " }

/-- Nodes for the parameters of a method (`parameter_nodes`). -/
def parameterNodes (spec : MethodSpec) : Build (List NodeId) :=
  spec.parameters.mapM fun parameter => alloc (.parameter parameter.name)

/-- Puts a member into the declaration of a type, if it has one (`add_member`). -/
def addMember (owner : TypeId) (member : NodeId) : Build Unit := do
  if let some declaration := (← look fun p => p.type owner).declaration then
    changeKind declaration (withMember member)

/-- Ties a method to its declaration. -/
def declare (id : MethodId) (declaration : NodeId) : Build Unit :=
  changeMethod id fun method => { method with declaration := some declaration }

/-- Adds a method without source (`external_method`). -/
def externalMethod (owner : TypeId) (spec : MethodSpec) : Build MethodId :=
  pushMethod (some owner) .ordinary spec false

/-- Finds the first member of a type with a name, or adds one without source (`method_named`). -/
def methodNamed (owner : TypeId) (name : String) : Build MethodId := do
  let found? ← look fun p => do
    (← p.type owner).members.findM? fun member => return (← p.method member).name == name
  match found? with
  | some id => return id
  | none => externalMethod owner { name }

/-- Declares a method. -/
def method (owner : TypeId) (spec : MethodSpec) (body : Option NodeId) : Build MethodId := do
  let id ← pushMethod (some owner) .ordinary spec false
  let start := (← get).offset
  let modifiers ← modifiersOf spec.modifiers
  let parameters ← parameterNodes spec
  let declaration ←
    alloc (.method spec.name modifiers (some start) (some id) parameters body)
  declare id declaration
  addMember owner declaration
  return id

/-- Declares a constructor. -/
def constructor (owner : TypeId) (spec : MethodSpec) (body : Option NodeId) : Build MethodId := do
  let spec := { spec with name := ".ctor" }
  let id ← pushMethod (some owner) .constructor spec false
  let modifiers ← modifiersOf spec.modifiers
  let parameters ← parameterNodes spec
  let declaration ← alloc (.constructor modifiers (some id) parameters body)
  declare id declaration
  addMember owner declaration
  return id

/-- Adds the constructor that the compiler makes. -/
def implicitConstructor (owner : TypeId) : Build MethodId :=
  pushMethod (some owner) .constructor { name := ".ctor", modifiers := ["public"] } true

/-- Declares a function inside a method. -/
def localFunction (owner : Option TypeId) (spec : MethodSpec) (body : NodeId) :
    Build NodeId := do
  let id ← pushMethod owner .localFunction spec false
  let modifiers ← modifiersOf spec.modifiers
  let parameters ← parameterNodes spec
  let declaration ← alloc (.localFunction spec.name modifiers (some id) parameters (some body))
  declare id declaration
  return declaration

/-- Makes an anonymous function. -/
def anonymousFunction (form : FunctionSyntax) (spec : MethodSpec) (body : NodeId) :
    Build NodeId := do
  let id ← pushMethod none .anonymousFunction spec false
  let modifiers ← modifiersOf spec.modifiers
  let parameters ← parameterNodes spec
  let declaration ← alloc (.anonymousFunction form modifiers parameters body (some id))
  declare id declaration
  return declaration

/-- Adds a property. -/
def property (owner : TypeId) (name : String) : Build PropertyId := do
  let index := (← get).program.properties.size
  change fun p => { p with properties := p.properties.push { name, containingType := owner } }
  return ⟨index⟩

/-- Adds an event. -/
def event (owner : TypeId) (name : String) : Build EventId := do
  let index := (← get).program.events.size
  change fun p => { p with events := p.events.push { name, containingType := owner } }
  return ⟨index⟩

/-! ## Expressions -/

/-- A name that is not bound. -/
def ident (name : String) : Build NodeId :=
  alloc (.identifier name none)

/-- A name that is bound to a symbol. -/
def reference (name : String) (symbol : SymbolRef) : Build NodeId :=
  alloc (.identifier name (some symbol))

/-- A member of an expression. -/
def member (expression : NodeId) (name : String) (symbol : Option SymbolRef) : Build NodeId :=
  alloc (.memberAccess expression name symbol)

/-- A call whose target is not known. -/
def invoke (callee : NodeId) (arguments : List NodeId) : Build NodeId :=
  alloc (.invocation callee arguments none [])

/-- A call of a method. -/
def call (callee : NodeId) (target : MethodId) (typeArguments : List TypeId)
    (arguments : List NodeId) : Build NodeId :=
  alloc (.invocation callee arguments (some target) typeArguments)

/-- The creation of an object. -/
def newObject (type : TypeId) (arguments : List NodeId) : Build NodeId := do
  let name := (← look fun p => p.type type).name
  alloc (.objectCreation name arguments (some type))

/-- A literal. -/
def literal (text : String) : Build NodeId :=
  alloc (.literal text)

/-- An assignment. -/
def assign (operator : AssignmentOperator) (left right : NodeId) : Build NodeId :=
  alloc (.assignment operator left right)

/-- An awaited expression. -/
def awaited (expression : NodeId) : Build NodeId :=
  alloc (.await expression)

/-- An expression in parentheses. -/
def paren (expression : NodeId) : Build NodeId :=
  alloc (.parenthesized expression)

/-! ## Statements -/

/-- A block of statements. -/
def block (statements : List NodeId) : Build NodeId :=
  alloc (.block statements)

/-- An expression as a statement. -/
def expressionStatement (expression : NodeId) : Build NodeId :=
  alloc (.expressionStatement expression)

/-- A local variable. -/
def localVariable (name : String) (initializer : Option NodeId) : Build NodeId :=
  alloc (.localDeclaration name initializer)

/-- A return statement. -/
def returnStatement (expression : Option NodeId) : Build NodeId :=
  alloc (.returnStatement expression)

/-- A statement that yields an element. -/
def yieldReturn (expression : NodeId) : Build NodeId :=
  alloc (.yieldReturn expression)

/-- A statement that ends a sequence. -/
def yieldBreak : Build NodeId :=
  alloc .yieldBreak

/-- Any other statement. -/
def statement (keyword : String) (children : List NodeId) : Build NodeId :=
  alloc (.statement keyword children)

end Build

/-- The program that was built, with its links. -/
def Builder.finish (builder : Builder) : Program :=
  builder.program.relink.1

end ModLint
