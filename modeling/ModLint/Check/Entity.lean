import ModLint.Check.Event
import ModLint.EntityId
import ModLint.Program.Query

/-!
# Custom entities

A custom entity is a class with an attribute that lists the ids under which maps place it. It must
be an entity, have an id, and be made by a constructor or by generator methods that the mod loader
can call. An entity has no scene while its constructor runs, so constructors must not read it.
-/

namespace ModLint.Check.Entity

/-- The lists of parameter types that the mod loader can supply (`accepted_shapes`). -/
def shapes (names : FrameworkNames) (generator : Bool) : List (List String) :=
  [[], [names.vector2], [names.entityData, names.vector2],
    [names.entityData, names.vector2, names.entityId]]
    ++ if generator then [[names.level, names.levelData, names.vector2, names.entityData]] else []

/-- Whether a parameter has a type with a full name. -/
def hasTypeNamed (p : Program) (parameter : ParameterSymbol) (name : String) : Lookup Bool := do
  match parameter.type with
  | none => return false
  | some type => return (← p.fullTypeName type) == name

/-- Whether the parameters of a method are those of a shape. A method without parameters must be
written in the source. -/
def hasShape (p : Program) (method : MethodSymbol) (shape : List String) : Lookup Bool :=
  if shape.isEmpty then return method.parameters.isEmpty && !method.isImplicit
  else if shape.length = method.parameters.length then
    (shape.zip method.parameters).allM fun (name, parameter) => hasTypeNamed p parameter name
  else return false

/-- Whether the mod loader can call a method (`has_accepted_shape`). -/
def isCallable (p : Program) (names : FrameworkNames) (method : MethodSymbol) (generator : Bool) :
    Lookup Bool :=
  (shapes names generator).anyM (hasShape p method)

/-- The texts of the ids of an attribute (`raw_ids`): the items of an array in first place, else all
strings. -/
def idTexts : List AttributeArgument → List String
  | .array items :: _ => items.filterMap AttributeArgument.text?
  | arguments => arguments.filterMap fun
    | .string text => some text
    | _ => none

/-- Whether a method returns an entity. -/
def returnsEntity (p : Program) (names : FrameworkNames) (method : MethodSymbol) : Lookup Bool :=
  match method.returnType with
  | none => return false
  | some type => p.extendsType type names.entity

/-- What is found about the generator method with a name (`check_generator`). -/
def generatorFindings (p : Program) (names : FrameworkNames) (symbol : TypeSymbol)
    (declaration : NodeId) (name : String) : Lookup (List Finding) := do
  let found? ← symbol.members.findM? fun member => return (← p.method member).name == name
  match found? with
  | none => return [⟨.customEntityGeneratorMethodMissing, declaration, [name, symbol.name]⟩]
  | some member =>
    let method ← p.method member
    let node := method.declaration.getD declaration
    let entity ← returnsEntity p names method
    let callable ← isCallable p names method true
    return (if method.isStatic && entity then []
        else [⟨.customEntityGeneratorInvalid, node, [name]⟩])
      ++ if callable then [] else [⟨.customEntityGeneratorInvalidParams, node, [name]⟩]

/-- Whether a member is a constructor that the mod loader can call. -/
def isUsableConstructor (p : Program) (names : FrameworkNames) (member : MethodId) :
    Lookup Bool := do
  let method ← p.method member
  if method.kind = .constructor then isCallable p names method false else return false

/-- Whether the mod loader can make an entity: every id names a generator, or there is a usable
constructor. -/
def isConstructible (p : Program) (names : FrameworkNames) (symbol : TypeSymbol)
    (ids : List EntityId) : Lookup Bool :=
  if ids.all fun id => id.generator?.isSome then return true
  else symbol.members.anyM (isUsableConstructor p names)

/-- What is found about the ids of an entity. -/
def idFindings (p : Program) (names : FrameworkNames) (symbol : TypeSymbol) (declaration : NodeId)
    (data : AttributeData) : Lookup (List Finding) := do
  let ids := (idTexts data.arguments).map EntityId.parse
  let noIds : List Finding :=
    if ids.isEmpty then [⟨.customEntityNoIDs, data.site.getD declaration, [symbol.name]⟩] else []
  let generators ← (ids.filterMap EntityId.generator?).mapM
    (generatorFindings p names symbol declaration)
  let constructible ← isConstructible p names symbol ids
  return noIds ++ generators.flatten
    ++ if constructible then [] else [⟨.customEntityWithNoValidCtor, declaration, [symbol.name]⟩]

/-- What is found about a declared type (`check_declaration`). -/
def typeFindings (p : Program) (names : FrameworkNames) (id : TypeId) :
    Lookup (List Finding) := do
  let some data ← p.findAttribute id names.customEntityAttribute | return []
  let symbol ← p.type id
  let some declaration := symbol.declaration | return []
  if ← p.extendsType id names.entity then idFindings p names symbol declaration data
  else return [⟨.customEntityNotExtendingEntity, declaration, [symbol.name]⟩]

/-- The innermost function around a node. -/
def enclosingFunction (p : Program) (id : NodeId) : Lookup (Option NodeKind) := do
  let kinds ← (← p.ancestors id).mapM fun ancestor => return (← p.node ancestor).kind
  return kinds.find? NodeKind.isFunction

/-- Whether a property is the scene of an entity. -/
def isScene (p : Program) (names : FrameworkNames) (property : PropertySymbol) :
    Lookup Bool := do
  if property.name == names.sceneProperty then
    return (← p.fullTypeName property.containingType) == names.entity
  else return false

/-- What is found about the use of a property (`check_scene_read`). -/
def propertyFindings (p : Program) (names : FrameworkNames) (id : NodeId) :
    Lookup (List Finding) := do
  let some (.property property) := (← p.node id).kind.symbol? | return []
  if ← isScene p names (← p.property property) then
    match ← enclosingFunction p id with
    | some (.constructor ..) => return [⟨.usingSceneInWrongPlace, id, []⟩]
    | _ => return []
  else return []

/-- What is found at an event. -/
def inspect (p : Program) (names : FrameworkNames) (event : Event) : Lookup (List Finding) :=
  match event with
  | .namedType id => typeFindings p names id
  | .propertyReference id => propertyFindings p names id
  | _ => return []

/-- The conditions that may be found. -/
def conditions : List DiagnosticId :=
  [.customEntityWithNoValidCtor, .customEntityNotExtendingEntity,
    .customEntityGeneratorMethodMissing, .customEntityGeneratorInvalidParams,
    .customEntityGeneratorInvalid, .customEntityNoIDs, .usingSceneInWrongPlace]

/-- The kinds of events that are looked at. -/
def eventKinds : List EventKind :=
  [.namedType, .propertyReference]

end ModLint.Check.Entity
