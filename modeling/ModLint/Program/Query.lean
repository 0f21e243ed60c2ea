import ModLint.Config.Names
import ModLint.Program.Name
import ModLint.Program.Walk

/-!
# Questions about symbols and syntax

What the checks ask about a program: base classes, outermost namespaces, attributes, the methods
that names are bound to. Chains of base classes, containing types and namespaces are followed for a
bounded number of steps.
-/

namespace ModLint.Program

/-- Whether a type or one of its base classes has a full name, in at most `bound` further steps. -/
def extendsWithin (p : Program) (name : String) : Nat → TypeId → Lookup Bool
  | 0, id => return (← p.fullTypeName id) == name
  | bound + 1, id => do
    if (← p.fullTypeName id) == name then return true
    match (← p.type id).base with
    | some base => extendsWithin p name bound base
    | none => return false

/-- Whether a type or one of its base classes has a full name (`extends`). -/
def extendsType (p : Program) (id : TypeId) (name : String) : Lookup Bool :=
  extendsWithin p name p.types.size id

/-- The type that declares a symbol (`owning_type`); a type declares itself. -/
def owningType (p : Program) : SymbolRef → Lookup (Option TypeId)
  | .type id => return some id
  | .method id => return (← p.method id).containingType
  | .property id => return some (← p.property id).containingType
  | .event id => return some (← p.event id).containingType

/-- The outermost type around a type, if it is reached in at most `bound` steps. -/
def outermostType (p : Program) : Nat → TypeId → Lookup (Option TypeId)
  | 0, id => return if (← p.type id).containingType.isNone then some id else none
  | bound + 1, id => do
    match (← p.type id).containingType with
    | none => return some id
    | some outer => outermostType p bound outer

/-- The outermost namespace around a namespace, if it is reached in at most `bound` steps. -/
def outermostNamespace (p : Program) : Nat → NamespaceId → Lookup (Option NamespaceId)
  | 0, id => return if (← p.nameSpace id).parent.isNone then some id else none
  | bound + 1, id => do
    match (← p.nameSpace id).parent with
    | none => return some id
    | some outer => outermostNamespace p bound outer

/-- The outermost namespace that a symbol is declared in (`bottommost_namespace`); none in the
global one. -/
def bottommostNamespace (p : Program) (symbol : SymbolRef) : Lookup (Option NamespaceId) := do
  let some owner ← p.owningType symbol | return none
  let some outer ← p.outermostType p.types.size owner | return none
  let some space := (← p.type outer).nameSpace | return none
  p.outermostNamespace p.namespaces.size space

/-- The first attribute of a type whose class has a full name (`find_attribute`). -/
def findAttribute (p : Program) (id : TypeId) (className : String) :
    Lookup (Option AttributeData) := do
  (← p.type id).attributes.findM? fun data =>
    return (← p.fullTypeName data.attributeClass) == className

/-- Whether a type is marked as tracked, as itself or as another type (`is_tracked`). -/
def isTracked (p : Program) (names : FrameworkNames) (id : TypeId) : Lookup Bool := do
  if (← p.findAttribute id names.trackedAttribute).isSome then return true
  return (← p.findAttribute id names.trackedAsAttribute).isSome

/-- Whether a symbol is declared by the compilation itself (`is_source_local`). -/
def isSourceLocal (p : Program) (symbol : SymbolRef) : Lookup Bool := do
  match ← p.owningType symbol with
  | none => return false
  | some owner => return (← p.type owner).assembly == p.assembly

/-- The method that an identifier is bound to and its declaration, if both exist
(`resolve_identifier_to_declaration`). -/
def resolveIdentifier (p : Program) (id : NodeId) : Lookup (Option (MethodId × NodeId)) := do
  match (← p.node id).kind with
  | .identifier _ (some (.method method)) =>
    return (← p.method method).declaration.map fun declaration => (method, declaration)
  | _ => return none

/-- Whether a return type makes a method produce a sequence (`is_sequence_type`). -/
def isSequenceType (p : Program) (names : FrameworkNames) : Option TypeId → Lookup Bool
  | none => return false
  | some id => return names.sequenceTypes.contains (← p.fullTypeName id)

/-- Whether a node calls something that is written exactly like `name` (`is_invocation_of`). -/
def isInvocationOf (p : Program) (id : NodeId) (name : String) : Lookup Bool := do
  match (← p.node id).kind with
  | .invocation callee .. => return (← p.expressionText callee) == some name
  | _ => return false

/-- The simple name of a type (`type_name`). -/
def typeName (p : Program) (id : TypeId) : Lookup String :=
  return (← p.type id).name

end ModLint.Program
