import ModLint.Build.Builder
import ModLint.Config.Names

/-!
# Framework types in built programs

The types of the game, its mod loader and its patching library that the checks look for, as types of
other assemblies. Their names are those of a configuration.
-/

namespace ModLint

/-- The framework types of a built program. -/
structure FrameworkStubs where
  /-- The root of all types. -/
  object : TypeId
  /-- The type of strings. -/
  string : TypeId
  /-- The type of integers. -/
  int : TypeId
  /-- The instruction cursor. -/
  ilCursor : TypeId
  /-- The context of an instruction hook. -/
  ilContext : TypeId
  /-- The hook that replaces a method. -/
  hook : TypeId
  /-- The base class of entities. -/
  entity : TypeId
  /-- The property of an entity that holds its scene. -/
  scene : PropertyId
  /-- The attribute that registers an entity. -/
  customEntityAttribute : TypeId
  /-- The attribute that makes a type tracked. -/
  trackedAttribute : TypeId
  /-- The attribute that makes a type tracked as another one. -/
  trackedAsAttribute : TypeId
  /-- The tracker. -/
  tracker : TypeId
  /-- The list of entities. -/
  entityList : TypeId
  /-- The type of positions. -/
  vector2 : TypeId
  /-- The type of the data of an entity in a map. -/
  entityData : TypeId
  /-- The type of the id of an entity in a map. -/
  entityId : TypeId
  /-- The type of levels. -/
  level : TypeId
  /-- The type of the data of a level. -/
  levelData : TypeId
  /-- The types of sequences, in the order of the configuration. -/
  sequenceTypes : List TypeId
deriving DecidableEq

namespace FrameworkStubs

/-- The assembly of the game and its mod loader. -/
def gameAssembly : String := "Celeste"

/-- The assembly of the patching library. -/
def patchAssembly : String := "MonoMod.RuntimeDetour"

/-- The assembly of the base library. -/
def systemAssembly : String := "System.Runtime"

/-- The assembly of generated hook events. -/
def hookAssembly : String := "MMHOOK_Celeste"

/-- Adds the framework types. -/
def types (names : FrameworkNames) : Build FrameworkStubs := do
  let object ← Build.externalType "System.Object" systemAssembly none
  let string ← Build.externalType "System.String" systemAssembly (some object)
  let int ← Build.externalType "System.Int32" systemAssembly (some object)
  let attributeBase ← Build.externalType "System.Attribute" systemAssembly (some object)
  let ilCursor ← Build.externalType names.ilCursor patchAssembly (some object)
  let ilContext ← Build.externalType names.ilContext patchAssembly (some object)
  let hook ← Build.externalType names.hook patchAssembly (some object)
  let entity ← Build.externalType names.entity gameAssembly (some object)
  let scene ← Build.property entity names.sceneProperty
  let customEntityAttribute ←
    Build.externalType names.customEntityAttribute gameAssembly (some attributeBase)
  let trackedAttribute ←
    Build.externalType names.trackedAttribute gameAssembly (some attributeBase)
  let trackedAsAttribute ←
    Build.externalType names.trackedAsAttribute gameAssembly (some attributeBase)
  let tracker ← Build.externalType names.tracker gameAssembly (some object)
  let entityList ← Build.externalType names.entityList gameAssembly (some object)
  let vector2 ← Build.externalType names.vector2 gameAssembly (some object)
  let entityData ← Build.externalType names.entityData gameAssembly (some object)
  let entityId ← Build.externalType names.entityId gameAssembly (some object)
  let level ← Build.externalType names.level gameAssembly (some object)
  let levelData ← Build.externalType names.levelData gameAssembly (some object)
  let sequenceTypes ← names.sequenceTypes.mapM fun name =>
    Build.externalType name systemAssembly none
  return {
    object, string, int, ilCursor, ilContext, hook, entity, scene, customEntityAttribute
    trackedAttribute, trackedAsAttribute, tracker, entityList, vector2, entityData, entityId
    level, levelData, sequenceTypes }

/-- The methods of the cursor that the checks know. -/
def cursorMethods (names : FrameworkNames) : List String :=
  names.cursor.remove ++ names.cursor.navigation ++ [names.cursor.emitDelegate]

/-- The methods of the tracker. -/
def trackerMethods (names : FrameworkNames) : List String :=
  ["GetEntities", "GetEntity", "CountEntities", "GetComponents"] ++ names.trackerChecks

/-- Adds the framework types and their methods (`install`). -/
def install (names : FrameworkNames) : Build FrameworkStubs := do
  let stubs ← types names
  for name in cursorMethods names do discard (Build.methodNamed stubs.ilCursor name)
  for name in trackerMethods names do discard (Build.methodNamed stubs.tracker name)
  for name in names.entityListScans do discard (Build.methodNamed stubs.entityList name)
  return stubs

/-- A method of the cursor. -/
def cursorMethod (stubs : FrameworkStubs) (name : String) : Build MethodId :=
  Build.methodNamed stubs.ilCursor name

/-- A method of the tracker. -/
def trackerMethod (stubs : FrameworkStubs) (name : String) : Build MethodId :=
  Build.methodNamed stubs.tracker name

/-- A method of the list of entities. -/
def entityListMethod (stubs : FrameworkStubs) (name : String) : Build MethodId :=
  Build.methodNamed stubs.entityList name

/-- The first type of sequences. -/
def enumerator? (stubs : FrameworkStubs) : Option TypeId :=
  stubs.sequenceTypes.head?

/-- A generated hook event of the type with a full name. -/
def hookEvent (stubs : FrameworkStubs) (owner name : String) : Build EventId := do
  let type ← Build.externalType owner hookAssembly (some stubs.object)
  Build.event type name

/-- The type of the parameter that holds the replaced method. -/
def origDelegate (stubs : FrameworkStubs) (fullName : String) : Build TypeId :=
  Build.externalType fullName hookAssembly (some stubs.object)

end FrameworkStubs

end ModLint
