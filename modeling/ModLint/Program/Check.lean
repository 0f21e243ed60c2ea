import ModLint.Program.Basic

/-!
# Checking references

A program refers to its items by position. `Program.check` looks for the first reference that
points past the end of its arena, and then for a type that is its own base type or its own
containing type.
-/

namespace ModLint

mutual

/-- The types that an argument mentions, the last one first. -/
def AttributeArgument.types : AttributeArgument → List TypeId
  | .type id => [id]
  | .array items => AttributeArgument.typesOfItems items
  | _ => []

/-- The types that a list of arguments mentions, the last one first. -/
def AttributeArgument.typesOfItems : List AttributeArgument → List TypeId
  | [] => []
  | item :: items => AttributeArgument.typesOfItems items ++ AttributeArgument.types item

end

/-- The references of an optional id. -/
def ItemId.references {arena : Arena} (id? : Option (ItemId arena)) : List Reference :=
  id?.toList.map ItemId.reference

/-- The references of an attribute. -/
def AttributeData.references (data : AttributeData) : List Reference :=
  data.attributeClass.reference :: ItemId.references data.site
    ++ (AttributeArgument.typesOfItems data.arguments).map ItemId.reference

/-- The references of a type. -/
def TypeSymbol.references (symbol : TypeSymbol) : List Reference :=
  ItemId.references symbol.nameSpace ++ ItemId.references symbol.containingType
    ++ ItemId.references symbol.base ++ symbol.attributes.flatMap AttributeData.references
    ++ symbol.members.map ItemId.reference ++ ItemId.references symbol.declaration

/-- The references of a method. -/
def MethodSymbol.references (symbol : MethodSymbol) : List Reference :=
  ItemId.references symbol.containingType ++ ItemId.references symbol.returnType
    ++ symbol.parameters.flatMap (fun parameter => ItemId.references parameter.type)
    ++ ItemId.references symbol.declaration

/-- The symbols that a node refers to, beside the method it declares and what a name is bound
to. -/
def NodeKind.extraReferences : NodeKind → List Reference
  | .typeDeclaration _ symbol _ _ => ItemId.references symbol
  | .property _ symbol _ => ItemId.references symbol
  | .invocation _ _ target typeArguments =>
    ItemId.references target ++ typeArguments.map ItemId.reference
  | .objectCreation _ _ created => ItemId.references created
  | _ => []

/-- The references of a node. -/
def SyntaxNode.references (node : SyntaxNode) : List Reference :=
  node.file.reference :: node.kind.children.map ItemId.reference
    ++ ItemId.references node.kind.declaredMethod?
    ++ node.kind.symbol?.toList.map SymbolRef.reference ++ node.kind.extraReferences

/-- A part of a program that holds references. -/
inductive Owner where
  /-- A namespace. -/
  | nameSpace (index : Nat)
  /-- A type with its name. -/
  | type (index : Nat) (name : String)
  /-- A method with its name. -/
  | method (index : Nat) (name : String)
  /-- A property with its name. -/
  | property (index : Nat) (name : String)
  /-- An event with its name. -/
  | event (index : Nat) (name : String)
  /-- A node with the name of its kind. -/
  | node (index : Nat) (kind : String)
deriving DecidableEq

/-- An owner as messages name it. -/
def Owner.display : Owner → String
  | .nameSpace i => "namespace " ++ toString i
  | .type i name => "type " ++ toString i ++ " (" ++ name ++ ")"
  | .method i name => "method " ++ toString i ++ " (" ++ name ++ ")"
  | .property i name => "property " ++ toString i ++ " (" ++ name ++ ")"
  | .event i name => "event " ++ toString i ++ " (" ++ name ++ ")"
  | .node i kind => "node " ++ toString i ++ " (" ++ kind ++ ")"

/-- The two ways in which a type refers to another one that must not lead back to it. -/
inductive TypeLink where
  /-- The type around it. -/
  | containing
  /-- Its base class. -/
  | base
deriving DecidableEq

/-- The words for a link. -/
def TypeLink.display : TypeLink → String
  | .containing => "containing type"
  | .base => "base type"

/-- The type that a link leads to. -/
def TypeLink.follow : TypeLink → TypeSymbol → Option TypeId
  | .containing, symbol => symbol.containingType
  | .base, symbol => symbol.base

/-- What is wrong with a program. -/
inductive ProgramError where
  /-- A reference points past the end of its arena. -/
  | dangling (owner : Owner) (reference : Reference)
  /-- A node is listed as a child twice. -/
  | sharedChild (child first second : Nat)
  /-- A node is its own ancestor. -/
  | cycle (index : Nat)
  /-- A link leads from a type back to it. -/
  | typeCycle (index : Nat) (name : String) (link : TypeLink)
deriving DecidableEq

/-- The text of an error. -/
def ProgramError.message : ProgramError → String
  | .dangling owner reference =>
    owner.display ++ " refers to missing " ++ reference.arena.word ++ " "
      ++ toString reference.index
  | .sharedChild child first second =>
    "node " ++ toString child ++ " is listed as a child of both " ++ toString first ++ " and "
      ++ toString second
  | .cycle index => "node " ++ toString index ++ " is its own ancestor"
  | .typeCycle index name link =>
    "type " ++ toString index ++ " (" ++ name ++ ") is its own " ++ link.display

namespace Program

/-- Whether a reference points into its arena. -/
def resolves (p : Program) (reference : Reference) : Bool :=
  reference.index < p.size reference.arena

/-- Every part of a program with its references, in the order in which they are checked. -/
def owners (p : Program) : List (Owner × List Reference) :=
  (p.namespaces.toList.mapIdx fun i space => (.nameSpace i, ItemId.references space.parent))
    ++ (p.types.toList.mapIdx fun i symbol => (.type i symbol.name, symbol.references))
    ++ (p.methods.toList.mapIdx fun i symbol => (.method i symbol.name, symbol.references))
    ++ (p.properties.toList.mapIdx fun i symbol =>
      (.property i symbol.name, [symbol.containingType.reference]))
    ++ (p.events.toList.mapIdx fun i symbol =>
      (.event i symbol.name, [symbol.containingType.reference]))
    ++ (p.nodes.toList.mapIdx fun i node => (.node i node.kind.name, node.references))

/-- The first reference that does not point into its arena. -/
def dangling? (p : Program) : Option ProgramError :=
  p.owners.findSome? fun (owner, references) =>
    (references.find? fun reference => !p.resolves reference).map (.dangling owner)

/-- Whether following a link from `current` comes to the type at `start`, or does not end within
`steps` steps. -/
def linkReturns (p : Program) (link : TypeLink) (start : Nat) : Nat → Option TypeId → Bool
  | _, none => false
  | 0, some _ => true
  | steps + 1, some id =>
    id.index == start
      || match p.types[id.index]? with
        | some symbol => linkReturns p link start steps (link.follow symbol)
        | none => false

/-- The first type that a link leads back to (`validate_type_chains`). -/
def typeCycle? (p : Program) : Option ProgramError :=
  (p.types.toList.zipIdx).findSome? fun (symbol, i) =>
    [TypeLink.containing, TypeLink.base].findSome? fun link =>
      if p.linkReturns link i p.types.size (link.follow symbol) then
        some (.typeCycle i symbol.name link)
      else none

/-- Checks that every reference points into its arena and that no type is its own base type or its
own containing type (`validate`). -/
def check (p : Program) : Except ProgramError Unit :=
  match p.dangling? <|> p.typeCycle? with
  | some error => .error error
  | none => .ok ()

end Program

end ModLint
