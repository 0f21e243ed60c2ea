import ModLint.Command.Input

/-!
# The command that writes a configuration file
-/

namespace ModLint.Command

variable {m : Type → Type} [Monad m]

/-- The configuration file that is written: the defaults, with comments. -/
def configTemplate : String :=
  String.join (List.map (fun line => line ++ "\n") [
    "# celestecheck configuration",
    "#",
    "# Every section is optional. Delete what you do not need.",
    "",
    "version: \"1\"",
    "",
    "# Fully-qualified names of the framework types and members the rules match.",
    "# The defaults follow Everest, Monocle and MonoMod.",
    "framework:",
    "  il_cursor: MonoMod.Cil.ILCursor",
    "  il_context: MonoMod.Cil.ILContext",
    "  hook: MonoMod.RuntimeDetour.Hook",
    "  hook_namespaces: [On, IL]",
    "  cursor:",
    "    emit_delegate: EmitDelegate",
    "    remove: [Remove, RemoveRange]",
    "    navigation: [GotoNext, TryGotoNext, GotoPrev, TryGotoPrev]",
    "    # navigation calls with this many arguments or more are flagged (CL0006)",
    "    chained_predicate_threshold: 5",
    "  entity: Monocle.Entity",
    "  scene_property: Scene",
    "  custom_entity_attribute: Celeste.Mod.Entities.CustomEntityAttribute",
    "  tracked_attribute: Monocle.TrackedAttribute",
    "  tracked_as_attribute: Monocle.TrackedAsAttribute",
    "  tracker: Monocle.Tracker",
    "  tracker_checks: [IsEntityTracked, IsComponentTracked]",
    "  entity_list: Monocle.EntityList",
    "  entity_list_scans: [FindAll, FindFirst]",
    "",
    "# Per-diagnostic overrides, keyed by code or name.",
    "# For example:",
    "#   CL0015: \x7b enabled: false \x7d",
    "#   HooksShouldBeStatic: \x7b severity: error \x7d",
    "rules: \x7b\x7d",
    "",
    "# Glob patterns over source paths. Matching diagnostics are dropped.",
    "excluded_paths:",
    "  - \"**/Generated/**\"",
    "",
    "# Lowest severity that fails a lint run: error, warning or info.",
    "fail_on: warning"])

/-- Makes a directory if there is none. -/
def makeOrFind (fs : FileSystem m) (path : String) : m (Except FileError Unit) := do
  match ← fs.makeDirectory path with
  | .ok () => return .ok ()
  | .error error =>
    match ← fs.kind path with
    | .ok .directory => return .ok ()
    | _ => return .error error

/-- Makes a directory and all directories that lead to it, of which there are at most `fuel`. -/
def makeDirectories (fs : FileSystem m) : Nat → String → m (Except FileError Unit)
  | 0, _ => return .error (.other "failed to create whole tree")
  | fuel + 1, path => do
    if path.isEmpty then return .ok ()
    match ← makeOrFind fs path with
    | .ok () => return .ok ()
    | .error .notFound =>
      match Path.parent? path with
      | none => return .error (.other "failed to create whole tree")
      | some directory =>
        match ← makeDirectories fs fuel directory with
        | .error error => return .error error
        | .ok () => makeOrFind fs path
    | .error error => return .error error

/-- The directory that must be there before a file is written, unless it is the current one. -/
def directoryFor? (path : String) : Option String := do
  let directory ← Path.parent? path
  if directory.isEmpty || Path.components directory == [.current] then none else return directory

/-- What is printed about a new configuration file. -/
def initText (path : String) : String :=
  "Created " ++ path ++ "\n\nNext steps:\n  1. Edit " ++ path
    ++ " to match your mod's framework versions\n"
    ++ "  2. Run: celestecheck lint <model-dir> --config " ++ path ++ "\n"

/-- Writes a configuration file at a path where there is nothing yet (`run_init`). -/
def runInit (fs : FileSystem m) (path : String) : Action m Outcome := do
  if (← fs.kind path).isOk then Action.refuse (.outputExists path)
  if let some directory := directoryFor? path then
    if let .error error ← liftM (makeDirectories fs (directory.length + 1) directory) then
      Action.refuse (.noDirectory error)
  match ← fs.write path configTemplate with
  | .error error => Action.refuse (.outputUnwritable error)
  | .ok () => return { output := initText path }

end ModLint.Command
