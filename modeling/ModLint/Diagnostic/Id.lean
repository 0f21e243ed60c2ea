import ModLint.Datum.Decode
import ModLint.Json.Basic
import ModLint.Text.Blank

/-!
# The conditions that can be reported

Every condition has a short code, a name, a title, a message with places for arguments, and a
description. The codes never change; `DiagnosticId.all` lists the conditions in their order.
-/

namespace ModLint

/-- A condition that can be reported. -/
inductive DiagnosticId where
  /-- A lambda is emitted into a method. -/
  | dontUseLambdas
  /-- An instance method is emitted into a method. -/
  | dontEmitInstanceMethods
  /-- A hook never calls the hooked method. -/
  | callOrigInHooks
  /-- A hook is not static. -/
  | hooksShouldBeStatic
  /-- A cursor removes instructions. -/
  | dontUseCursorRemove
  /-- A cursor is moved with a long chain of predicates. -/
  | dontChainPredicatesInCursorGoto
  /-- A custom entity has no constructor that can be called. -/
  | customEntityWithNoValidCtor
  /-- A custom entity is no entity. -/
  | customEntityNotExtendingEntity
  /-- The generator method of a custom entity does not exist. -/
  | customEntityGeneratorMethodMissing
  /-- The generator method of a custom entity has wrong parameters. -/
  | customEntityGeneratorInvalidParams
  /-- The generator method of a custom entity is not static or returns no entity. -/
  | customEntityGeneratorInvalid
  /-- A custom entity is not registered under any id. -/
  | customEntityNoIDs
  /-- A constructor reads the scene. -/
  | usingSceneInWrongPlace
  /-- A hook yields the hooked sequence as one element. -/
  | dontYieldReturnOrig
  /-- The list of entities is scanned. -/
  | dontUseFindAll
  /-- The tracker is asked for a type that is not tracked. -/
  | trackerUsedOnUntrackedType
  /-- A type is tracked as one that it does not extend. -/
  | invalidTrackedAs
deriving DecidableEq

namespace DiagnosticId

/-- All conditions, in the order of their codes. -/
def all : List DiagnosticId :=
  [.dontUseLambdas, .dontEmitInstanceMethods, .callOrigInHooks, .hooksShouldBeStatic,
    .dontUseCursorRemove, .dontChainPredicatesInCursorGoto, .customEntityWithNoValidCtor,
    .customEntityNotExtendingEntity, .customEntityGeneratorMethodMissing,
    .customEntityGeneratorInvalidParams, .customEntityGeneratorInvalid, .customEntityNoIDs,
    .usingSceneInWrongPlace, .dontYieldReturnOrig, .dontUseFindAll, .trackerUsedOnUntrackedType,
    .invalidTrackedAs]

/-- The short code. -/
def code : DiagnosticId → String
  | .dontUseLambdas => "CL0001"
  | .dontEmitInstanceMethods => "CL0002"
  | .callOrigInHooks => "CL0003"
  | .hooksShouldBeStatic => "CL0004"
  | .dontUseCursorRemove => "CL0005"
  | .dontChainPredicatesInCursorGoto => "CL0006"
  | .customEntityWithNoValidCtor => "CL0007"
  | .customEntityNotExtendingEntity => "CL0008"
  | .customEntityGeneratorMethodMissing => "CL0009"
  | .customEntityGeneratorInvalidParams => "CL0010"
  | .customEntityGeneratorInvalid => "CL0011"
  | .customEntityNoIDs => "CL0012"
  | .usingSceneInWrongPlace => "CL0013"
  | .dontYieldReturnOrig => "CL0014"
  | .dontUseFindAll => "CL0015"
  | .trackerUsedOnUntrackedType => "CL0016"
  | .invalidTrackedAs => "CL0017"

/-- The name. -/
def name : DiagnosticId → String
  | .dontUseLambdas => "DontUseLambdas"
  | .dontEmitInstanceMethods => "DontEmitInstanceMethods"
  | .callOrigInHooks => "CallOrigInHooks"
  | .hooksShouldBeStatic => "HooksShouldBeStatic"
  | .dontUseCursorRemove => "DontUseCursorRemove"
  | .dontChainPredicatesInCursorGoto => "DontChainPredicatesInCursorGoto"
  | .customEntityWithNoValidCtor => "CustomEntityWithNoValidCtor"
  | .customEntityNotExtendingEntity => "CustomEntityNotExtendingEntity"
  | .customEntityGeneratorMethodMissing => "CustomEntityGeneratorMethodMissing"
  | .customEntityGeneratorInvalidParams => "CustomEntityGeneratorInvalidParams"
  | .customEntityGeneratorInvalid => "CustomEntityGeneratorInvalid"
  | .customEntityNoIDs => "CustomEntityNoIDs"
  | .usingSceneInWrongPlace => "UsingSceneInWrongPlace"
  | .dontYieldReturnOrig => "DontYieldReturnOrig"
  | .dontUseFindAll => "DontUseFindAll"
  | .trackerUsedOnUntrackedType => "TrackerUsedOnUntrackedType"
  | .invalidTrackedAs => "InvalidTrackedAs"

/-- The position in the list of all conditions. -/
def index (id : DiagnosticId) : Nat :=
  all.idxOf id

/-- The condition with a code or name; blanks around it do not count. -/
def parse? (text : String) : Option DiagnosticId :=
  let key := Text.trimmed text
  all.find? fun id => id.code == key || id.name == key

/-- The title. -/
def title : DiagnosticId → String
  | .dontUseLambdas => "Don't emit lambdas"
  | .dontEmitInstanceMethods => "Don't emit instance methods"
  | .callOrigInHooks => "Call orig in hooks"
  | .hooksShouldBeStatic => "Hooks should be static"
  | .dontUseCursorRemove => "Don't remove instructions"
  | .dontChainPredicatesInCursorGoto => "Don't chain predicates in cursor navigation"
  | .customEntityWithNoValidCtor => "Custom entity has no valid constructor"
  | .customEntityNotExtendingEntity => "Custom entity does not extend Entity"
  | .customEntityGeneratorMethodMissing => "Custom entity generator method missing"
  | .customEntityGeneratorInvalidParams => "Custom entity generator has invalid parameters"
  | .customEntityGeneratorInvalid => "Custom entity generator is invalid"
  | .customEntityNoIDs => "Custom entity has no ids"
  | .usingSceneInWrongPlace => "Scene used in constructor"
  | .dontYieldReturnOrig => "Don't yield return orig"
  | .dontUseFindAll => "Don't scan the entity list"
  | .trackerUsedOnUntrackedType => "Tracker used on untracked type"
  | .invalidTrackedAs => "Invalid TrackedAs target"

/-- The message. A number in braces is the place for an argument. -/
def messageTemplate : DiagnosticId → String
  | .dontUseLambdas => "Lambda passed to \x7b0\x7d; pass a static method instead"
  | .dontEmitInstanceMethods =>
    "Instance method '\x7b0\x7d' passed to \x7b1\x7d; emitted methods must be static"
  | .callOrigInHooks =>
    "Hook never calls '\x7b0\x7d' (\x7b1\x7d); other mods hooking the same method will break"
  | .hooksShouldBeStatic => "Hook '\x7b0\x7d' should be static"
  | .dontUseCursorRemove =>
    "\x7b0\x7d removes IL instructions; prefer replacing or skipping them"
  | .dontChainPredicatesInCursorGoto =>
    "\x7b0\x7d is called with \x7b1\x7d arguments; split the predicates into separate calls"
  | .customEntityWithNoValidCtor =>
    "Custom entity '\x7b0\x7d' has no constructor Everest can call"
  | .customEntityNotExtendingEntity =>
    "'\x7b0\x7d' is marked with [CustomEntity] but does not extend Entity"
  | .customEntityGeneratorMethodMissing =>
    "Generator method '\x7b0\x7d' not found on '\x7b1\x7d'"
  | .customEntityGeneratorInvalidParams =>
    "Generator method '\x7b0\x7d' has parameters Everest cannot supply"
  | .customEntityGeneratorInvalid =>
    "Generator method '\x7b0\x7d' must be static and return an Entity"
  | .customEntityNoIDs => "[CustomEntity] on '\x7b0\x7d' declares no ids"
  | .usingSceneInWrongPlace =>
    "Scene is always null inside a constructor; use Added or Awake instead"
  | .dontYieldReturnOrig =>
    "'yield return \x7b0\x7d(...)' yields the original coroutine as a single element"
  | .dontUseFindAll =>
    "EntityList.\x7b0\x7d<\x7b1\x7d> scans every entity; use Tracker.GetEntities<\x7b1\x7d> instead"
  | .trackerUsedOnUntrackedType =>
    "'\x7b0\x7d' is not tracked; Tracker.\x7b1\x7d will always be empty"
  | .invalidTrackedAs => "'\x7b0\x7d' is tracked as '\x7b1\x7d' but does not extend it"

/-- What is wrong and what to do about it. -/
def description : DiagnosticId → String
  | .dontUseLambdas =>
    "Delegates emitted into IL are stored for the lifetime of the game. A lambda can capture state, which then outlives the hook and is silently pinned. Emit a static method instead."
  | .dontEmitInstanceMethods =>
    "The injected call site has no implicit receiver, so an instance method cannot be emitted safely. Make the method static."
  | .callOrigInHooks =>
    "On. hooks and detours receive the original method as their first parameter. Not calling it skips the original implementation and every other hook registered after this one."
  | .hooksShouldBeStatic =>
    "Instance hook targets capture the instance they were created from, which keeps it alive and makes the hook unsafe to re-apply across detour lifetimes."
  | .dontUseCursorRemove =>
    "Removing instructions breaks other IL hooks that match against them. Replace the instruction with a no-op or branch past it instead."
  | .dontChainPredicatesInCursorGoto =>
    "Long predicate chains are hard to reason about and break on engine updates. Match a short, distinctive sequence and move relative to it."
  | .customEntityWithNoValidCtor =>
    "Everest instantiates custom entities through one of: (), (Vector2), (EntityData, Vector2) or (EntityData, Vector2, EntityID). Add one of them, or use a generator method for every id."
  | .customEntityNotExtendingEntity =>
    "Only types deriving from Entity (or Trigger) can be registered as custom entities."
  | .customEntityGeneratorMethodMissing =>
    "An id of the form \"Name = Method\" names a static generator method on the entity type. No member with that name exists."
  | .customEntityGeneratorInvalidParams =>
    "Generator methods must take one of: (), (Vector2), (EntityData, Vector2), (EntityData, Vector2, EntityID) or (Level, LevelData, Vector2, EntityData)."
  | .customEntityGeneratorInvalid =>
    "Generator methods are invoked without an instance and their result is added to the level, so they must be static and return a type deriving from Entity."
  | .customEntityNoIDs =>
    "A custom entity must be registered under at least one id, otherwise no map can place it."
  | .usingSceneInWrongPlace =>
    "An entity is not attached to a scene until it is added. Reading Scene in a constructor always yields null."
  | .dontYieldReturnOrig =>
    "Yielding the original enumerator hands it to the coroutine runner as one nested element, which changes timing compared to iterating it. Iterate the original and yield its elements."
  | .dontUseFindAll =>
    "A linear scan over all entities is slower than the tracker index. Tracked types, and types declared in this mod that can be marked [Tracked], should be queried through the Tracker."
  | .trackerUsedOnUntrackedType =>
    "The tracker only indexes types marked [Tracked] or [TrackedAs]. Querying it for any other type returns nothing."
  | .invalidTrackedAs =>
    "[TrackedAs(typeof(T))] files instances under T's bucket. A type that does not derive from T will break consumers casting the bucket's elements to T."

/-- The place for the argument with a number. -/
def placeholder (number : Nat) : List Char :=
  '\x7b' :: (toString number).toList ++ ['\x7d']

/-- Puts arguments into their places one after the other, the first one with the given number.
Places without an argument stay. -/
def fill : Nat → List String → List Char → List Char
  | _, [], text => text
  | number, arg :: args, text =>
    fill (number + 1) args (Text.replaceAll (placeholder number) arg.toList text)

/-- The message with its arguments. -/
def format (id : DiagnosticId) (args : List String) : String :=
  String.ofList (fill 0 args id.messageTemplate.toList)

/-- A condition as its code. -/
def toJson (id : DiagnosticId) : Json :=
  .str id.code

/-- A condition by its code or name. -/
def decode : Decoder DiagnosticId :=
  fun _ datum => datum.text?.bind parse?

end DiagnosticId

end ModLint
