import ModLint.Program.Node

/-!
# Programs

A program is a whole compilation: its files, symbols and syntax. Nothing here assumes that its ids
point into their arenas, so every look-up may fail.
-/

namespace ModLint

/-- A compilation. -/
structure Program where
  /-- The name of the assembly that is compiled. -/
  assembly : String
  /-- The source files. -/
  files : Array SourceFile := #[]
  /-- The namespaces. -/
  namespaces : Array Namespace := #[]
  /-- The types, declared here or referred to. -/
  types : Array TypeSymbol := #[]
  /-- The methods. -/
  methods : Array MethodSymbol := #[]
  /-- The properties. -/
  properties : Array PropertySymbol := #[]
  /-- The events. -/
  events : Array EventSymbol := #[]
  /-- The syntax nodes of all files. -/
  nodes : Array SyntaxNode := #[]
deriving DecidableEq

namespace Program

/-- How many items an arena holds. -/
def size (p : Program) : Arena → Nat
  | .file => p.files.size
  | .nameSpace => p.namespaces.size
  | .type => p.types.size
  | .method => p.methods.size
  | .property => p.properties.size
  | .event => p.events.size
  | .node => p.nodes.size

/-- The item of an arena at a position. -/
def fetch {α : Type} (items : Array α) {arena : Arena} (id : ItemId arena) : Lookup α :=
  match items[id.index]? with
  | some item => .ok item
  | none => .error (.missing id.reference)

/-- A file by its id. -/
def file (p : Program) (id : FileId) : Lookup SourceFile :=
  fetch p.files id

/-- A namespace by its id. -/
def nameSpace (p : Program) (id : NamespaceId) : Lookup Namespace :=
  fetch p.namespaces id

/-- A type by its id. -/
def type (p : Program) (id : TypeId) : Lookup TypeSymbol :=
  fetch p.types id

/-- A method by its id. -/
def method (p : Program) (id : MethodId) : Lookup MethodSymbol :=
  fetch p.methods id

/-- A property by its id. -/
def property (p : Program) (id : PropertyId) : Lookup PropertySymbol :=
  fetch p.properties id

/-- An event by its id. -/
def event (p : Program) (id : EventId) : Lookup EventSymbol :=
  fetch p.events id

/-- A node by its id. -/
def node (p : Program) (id : NodeId) : Lookup SyntaxNode :=
  fetch p.nodes id

/-- All types, in order. -/
def typeIds (p : Program) : List TypeId :=
  (List.range p.types.size).map ItemId.mk

/-- All nodes, in order. -/
def nodeIds (p : Program) : List NodeId :=
  (List.range p.nodes.size).map ItemId.mk

/-- The children of a node. -/
def children (p : Program) (id : NodeId) : Lookup (List NodeId) := do
  return (← p.node id).kind.children

/-- The first file with a path (`file_by_path`). -/
def fileByPath? (p : Program) (path : String) : Option FileId :=
  (p.files.findIdx? fun file => file.path == path).map ItemId.mk

/-- Where a node stands. -/
def location (p : Program) (id : NodeId) : Lookup Location := do
  let node ← p.node id
  return { file := (← p.file node.file).path, span := node.span }

/-- The text of a file (`source_text`): the embedded one, else the one that `disk` finds at its
path. -/
def sourceText (p : Program) (disk : String → Option String) (id : FileId) :
    Lookup (Option String) := do
  let file ← p.file id
  return file.text <|> disk file.path

end Program

end ModLint
