import ModLint.Datum.Decode
import ModLint.Json.Basic

/-!
# Names of the framework

The full names of the types and members of the game, its mod loader and its patching library that
the checks look for. All of them can be configured; the defaults are those of the real framework.
-/

namespace ModLint

/-- The methods of the instruction cursor that the checks know. -/
structure CursorMethods where
  /-- The method that emits a call of a delegate. -/
  emitDelegate : String := "EmitDelegate"
  /-- The methods that remove instructions. -/
  remove : List String := ["Remove", "RemoveRange"]
  /-- The methods that move the cursor to a match. -/
  navigation : List String := ["GotoNext", "TryGotoNext", "GotoPrev", "TryGotoPrev"]
  /-- The number of arguments from which on a move is reported. -/
  chainedPredicateThreshold : Nat := 5
deriving DecidableEq

/-- The names of framework types and members. -/
structure FrameworkNames where
  /-- The instruction cursor. -/
  ilCursor : String := "MonoMod.Cil.ILCursor"
  /-- The context of an instruction hook. -/
  ilContext : String := "MonoMod.Cil.ILContext"
  /-- The hook that replaces a method. -/
  hook : String := "MonoMod.RuntimeDetour.Hook"
  /-- The outermost namespaces of generated hook events. -/
  hookNamespaces : List String := ["On", "IL"]
  /-- The methods of the instruction cursor. -/
  cursor : CursorMethods := {}
  /-- The base class of entities. -/
  entity : String := "Monocle.Entity"
  /-- The property of an entity that holds its scene. -/
  sceneProperty : String := "Scene"
  /-- The attribute that registers an entity. -/
  customEntityAttribute : String := "Celeste.Mod.Entities.CustomEntityAttribute"
  /-- The attribute that makes a type tracked. -/
  trackedAttribute : String := "Monocle.TrackedAttribute"
  /-- The attribute that makes a type tracked as another one. -/
  trackedAsAttribute : String := "Monocle.TrackedAsAttribute"
  /-- The tracker. -/
  tracker : String := "Monocle.Tracker"
  /-- The methods of the tracker that only ask whether a type is tracked. -/
  trackerChecks : List String := ["IsEntityTracked", "IsComponentTracked"]
  /-- The list of entities. -/
  entityList : String := "Monocle.EntityList"
  /-- The methods of the list that look at all entities. -/
  entityListScans : List String := ["FindAll", "FindFirst"]
  /-- The type of positions. -/
  vector2 : String := "Microsoft.Xna.Framework.Vector2"
  /-- The type of the data of an entity in a map. -/
  entityData : String := "Celeste.EntityData"
  /-- The type of the id of an entity in a map. -/
  entityId : String := "Celeste.EntityID"
  /-- The type of levels. -/
  level : String := "Celeste.Level"
  /-- The type of the data of a level. -/
  levelData : String := "Celeste.LevelData"
  /-- The return types of methods that make a sequence. -/
  sequenceTypes : List String :=
    ["System.Collections.IEnumerator", "System.Collections.IEnumerable",
      "System.Collections.Generic.IEnumerator", "System.Collections.Generic.IEnumerable"]
deriving DecidableEq

namespace FrameworkNames

/-- All type names with the keys they are configured by. -/
def typeNames (names : FrameworkNames) : List (String × String) :=
  [("il_cursor", names.ilCursor), ("il_context", names.ilContext), ("hook", names.hook),
    ("entity", names.entity), ("custom_entity_attribute", names.customEntityAttribute),
    ("tracked_attribute", names.trackedAttribute),
    ("tracked_as_attribute", names.trackedAsAttribute), ("tracker", names.tracker),
    ("entity_list", names.entityList), ("vector2", names.vector2),
    ("entity_data", names.entityData), ("entity_id", names.entityId), ("level", names.level),
    ("level_data", names.levelData)]
    ++ names.sequenceTypes.map (Prod.mk "sequence_types")

/-- All names of members and namespaces with the keys they are configured by. -/
def memberNames (names : FrameworkNames) : List (String × String) :=
  [("scene_property", names.sceneProperty), ("cursor.emit_delegate", names.cursor.emitDelegate)]
    ++ names.hookNamespaces.map (Prod.mk "hook_namespaces")
    ++ names.cursor.remove.map (Prod.mk "cursor.remove")
    ++ names.cursor.navigation.map (Prod.mk "cursor.navigation")
    ++ names.trackerChecks.map (Prod.mk "tracker_checks")
    ++ names.entityListScans.map (Prod.mk "entity_list_scans")

end FrameworkNames

/-- Cursor methods as an object. -/
def CursorMethods.toJson (methods : CursorMethods) : Json :=
  .obj
    [("emit_delegate", .str methods.emitDelegate), ("remove", Json.ofList .str methods.remove),
      ("navigation", Json.ofList .str methods.navigation),
      ("chained_predicate_threshold", .nat methods.chainedPredicateThreshold)]

/-- Cursor methods from a record; missing fields take their defaults. -/
def CursorMethods.decode : Decoder CursorMethods :=
  fun rules datum => do
    let usual : CursorMethods := {}
    let fields ← Record.read
      ["emit_delegate", "remove", "navigation", "chained_predicate_threshold"] rules datum
    return {
      emitDelegate := ← fields.getD "emit_delegate" Decoder.string usual.emitDelegate
      remove := ← fields.getD "remove" Decoder.string.list usual.remove
      navigation := ← fields.getD "navigation" Decoder.string.list usual.navigation
      chainedPredicateThreshold :=
        ← fields.getD "chained_predicate_threshold" Decoder.nat usual.chainedPredicateThreshold }

/-- Framework names as an object. -/
def FrameworkNames.toJson (names : FrameworkNames) : Json :=
  .obj
    [("il_cursor", .str names.ilCursor), ("il_context", .str names.ilContext),
      ("hook", .str names.hook), ("hook_namespaces", Json.ofList .str names.hookNamespaces),
      ("cursor", names.cursor.toJson), ("entity", .str names.entity),
      ("scene_property", .str names.sceneProperty),
      ("custom_entity_attribute", .str names.customEntityAttribute),
      ("tracked_attribute", .str names.trackedAttribute),
      ("tracked_as_attribute", .str names.trackedAsAttribute), ("tracker", .str names.tracker),
      ("tracker_checks", Json.ofList .str names.trackerChecks),
      ("entity_list", .str names.entityList),
      ("entity_list_scans", Json.ofList .str names.entityListScans),
      ("vector2", .str names.vector2), ("entity_data", .str names.entityData),
      ("entity_id", .str names.entityId), ("level", .str names.level),
      ("level_data", .str names.levelData),
      ("sequence_types", Json.ofList .str names.sequenceTypes)]

/-- Framework names from a record; missing fields take their defaults. -/
def FrameworkNames.decode : Decoder FrameworkNames :=
  fun rules datum => do
    let usual : FrameworkNames := {}
    let fields ← Record.read
      ["il_cursor", "il_context", "hook", "hook_namespaces", "cursor", "entity", "scene_property",
        "custom_entity_attribute", "tracked_attribute", "tracked_as_attribute", "tracker",
        "tracker_checks", "entity_list", "entity_list_scans", "vector2", "entity_data",
        "entity_id", "level", "level_data", "sequence_types"] rules datum
    let name (key : String) (default : String) : Option String :=
      fields.getD key Decoder.string default
    let names (key : String) (default : List String) : Option (List String) :=
      fields.getD key Decoder.string.list default
    return {
      ilCursor := ← name "il_cursor" usual.ilCursor
      ilContext := ← name "il_context" usual.ilContext
      hook := ← name "hook" usual.hook
      hookNamespaces := ← names "hook_namespaces" usual.hookNamespaces
      cursor := ← fields.getD "cursor" CursorMethods.decode usual.cursor
      entity := ← name "entity" usual.entity
      sceneProperty := ← name "scene_property" usual.sceneProperty
      customEntityAttribute := ← name "custom_entity_attribute" usual.customEntityAttribute
      trackedAttribute := ← name "tracked_attribute" usual.trackedAttribute
      trackedAsAttribute := ← name "tracked_as_attribute" usual.trackedAsAttribute
      tracker := ← name "tracker" usual.tracker
      trackerChecks := ← names "tracker_checks" usual.trackerChecks
      entityList := ← name "entity_list" usual.entityList
      entityListScans := ← names "entity_list_scans" usual.entityListScans
      vector2 := ← name "vector2" usual.vector2
      entityData := ← name "entity_data" usual.entityData
      entityId := ← name "entity_id" usual.entityId
      level := ← name "level" usual.level
      levelData := ← name "level_data" usual.levelData
      sequenceTypes := ← names "sequence_types" usual.sequenceTypes }

end ModLint
