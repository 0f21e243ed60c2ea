import ModLint.Config.Basic
import ModLint.Diagnostic.Id
import ModLint.Text.Letters
import ModLint.Text.Quoted

/-!
# Valid configurations

A configuration is checked part by part, and the first fault is reported: the keys of the rules,
the type names, the member names, the threshold of the cursor moves, the patterns of paths.
-/

namespace ModLint

/-- A fault of a configuration. -/
inductive ConfigError where
  /-- A key of the rules is no code and no name. -/
  | unknownRule (key : String)
  /-- A type name is not made of identifiers and dots. -/
  | badTypeName (key name : String)
  /-- A member name is no identifier. -/
  | badMemberName (key name : String)
  /-- Every move of a cursor would be reported. -/
  | noThreshold
  /-- A pattern of paths cannot be read. -/
  | badPattern (pattern : String) (error : Glob.PatternError)
deriving DecidableEq

/-- The text of a fault. -/
def ConfigError.message : ConfigError → String
  | .unknownRule key =>
    "unknown rule " ++ Text.quoted key
      ++ " in rules (expected a code like CL0004 or a name like HooksShouldBeStatic)"
  | .badTypeName key name =>
    "invalid framework." ++ key ++ " " ++ Text.quoted name ++ ", must be a dotted type name"
  | .badMemberName key name =>
    "invalid framework." ++ key ++ " " ++ Text.quoted name ++ ", must be a simple identifier"
  | .noThreshold => "framework.cursor.chained_predicate_threshold must be at least 1"
  | .badPattern pattern error =>
    "invalid excluded_paths pattern " ++ Text.quoted pattern ++ ": " ++ error.message pattern

/-- Whether a name is made of identifiers with dots between them (`is_identifier`). -/
def isDottedName (name : String) : Bool :=
  (Text.splitAtEach '.' name.toList).all Text.isIdentifier

namespace Config

/-- All faults, in the order in which they are looked for. -/
def faults (config : Config) : List ConfigError :=
  (config.rules.filterMap fun (key, _) =>
      if (DiagnosticId.parse? key).isNone then some (.unknownRule key) else none)
    ++ (config.framework.typeNames.filterMap fun (key, name) =>
      if isDottedName name then none else some (.badTypeName key name))
    ++ (config.framework.memberNames.filterMap fun (key, name) =>
      if Text.isIdentifier name.toList then none else some (.badMemberName key name))
    ++ (if config.framework.cursor.chainedPredicateThreshold = 0 then [.noThreshold] else [])
    ++ config.excludedPaths.filterMap fun pattern =>
      match Glob.parse pattern with
      | .ok _ => none
      | .error error => some (.badPattern pattern error)

/-- Checks a configuration; reports its first fault. -/
def validate (config : Config) : Except ConfigError Unit :=
  match config.faults with
  | [] => .ok ()
  | fault :: _ => .error fault

end Config

end ModLint
