/-!
# Items of a program and their ids

A program keeps its parts in seven arrays, its *arenas*, and its parts refer to each other by
position. An id carries the arena it points into in its type, so that ids of different arenas
cannot be confused.
-/

namespace ModLint

/-- The arenas of a program. -/
inductive Arena where
  /-- Source files. -/
  | file
  /-- Namespaces other than the global one. -/
  | nameSpace
  /-- Named types. -/
  | type
  /-- Methods, constructors, local and anonymous functions. -/
  | method
  /-- Properties. -/
  | property
  /-- Events. -/
  | event
  /-- Syntax nodes. -/
  | node
deriving DecidableEq

/-- The word for an item of an arena in messages. -/
def Arena.word : Arena → String
  | .file => "file"
  | .nameSpace => "namespace"
  | .type => "type"
  | .method => "method"
  | .property => "property"
  | .event => "event"
  | .node => "node"

/-- The name of the ids of an arena. -/
def Arena.idName : Arena → String
  | .file => "FileId"
  | .nameSpace => "NamespaceId"
  | .type => "TypeId"
  | .method => "MethodId"
  | .property => "PropertyId"
  | .event => "EventId"
  | .node => "NodeId"

/-- A position in an arena. -/
structure ItemId (arena : Arena) where
  /-- The position, counted from zero. -/
  index : Nat
deriving DecidableEq

/-- A source file. -/
abbrev FileId := ItemId .file

/-- A namespace. -/
abbrev NamespaceId := ItemId .nameSpace

/-- A named type. -/
abbrev TypeId := ItemId .type

/-- A method, constructor, local or anonymous function. -/
abbrev MethodId := ItemId .method

/-- A property. -/
abbrev PropertyId := ItemId .property

/-- An event. -/
abbrev EventId := ItemId .event

/-- A syntax node. -/
abbrev NodeId := ItemId .node

/-- An id as text, with the name of its arena's ids. -/
def ItemId.display {arena : Arena} (id : ItemId arena) : String :=
  arena.idName ++ "#" ++ toString id.index

/-- Ids are numbers of 32 bits. -/
def ItemId.bound : Nat :=
  Nat.pow 2 32

/-- An id of any arena. -/
structure Reference where
  /-- The arena it points into. -/
  arena : Arena
  /-- The position there. -/
  index : Nat
deriving DecidableEq

/-- An id without its type. -/
def ItemId.reference {arena : Arena} (id : ItemId arena) : Reference :=
  ⟨arena, id.index⟩

/-- Why a question about a program has no answer. -/
inductive Fault where
  /-- An id points past the end of its arena. -/
  | missing (reference : Reference)
  /-- A walk along the nodes does not end. -/
  | endless
  /-- A sum does not fit a machine word. -/
  | overflow
  /-- A text is cut where it has no position. -/
  | cut (position : Nat)
deriving DecidableEq

/-- The text of a fault. -/
def Fault.message : Fault → String
  | .missing _ => "the program refers to parts that it does not have"
  | .endless => "the nodes of the program do not form a forest"
  | .overflow => "a position of the program is too large"
  | .cut _ => "a position of the program is not in its source"

/-- The answer to a question about a program. -/
abbrev Lookup (α : Type) := Except Fault α

end ModLint
