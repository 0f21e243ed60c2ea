import ModLint.Config.Names
import ModLint.Glob
import ModLint.Severity
import ModLint.Yaml.Reader

/-!
# Configurations

A configuration names the framework, adjusts single conditions and excludes paths. Every part of it
may be left out.
-/

namespace ModLint

/-- What a configuration says about one condition. -/
structure RuleOverride where
  /-- Whether it is reported. -/
  enabled : Option Bool := none
  /-- How bad it is. -/
  severity : Option Severity := none
deriving DecidableEq

/-- A configuration. -/
structure Config where
  /-- The version of the format. -/
  version : String := ""
  /-- The names of the framework. -/
  framework : FrameworkNames := {}
  /-- What it says about conditions, by code or name, in the order of the keys. -/
  rules : List (String × RuleOverride) := []
  /-- Patterns for the paths whose diagnostics are dropped. -/
  excludedPaths : List String := []
  /-- The lowest severity that makes a run fail. -/
  failOn : Option Severity := none
deriving DecidableEq

namespace Config

/-- The lowest severity that makes a run fail (`fail_on`); a warning if nothing else is said. -/
def threshold (config : Config) : Severity :=
  config.failOn.getD .warning

/-- Whether the diagnostics of a path are dropped, if `isMatch` says which paths a pattern matches.
-/
def isPathExcludedBy (isMatch : String → String → Bool) (config : Config) (path : String) : Bool :=
  config.excludedPaths.any fun pattern => isMatch pattern path

/-- Whether the diagnostics of a path are dropped (`is_path_excluded`). -/
def isPathExcluded (config : Config) (path : String) : Bool :=
  config.isPathExcludedBy Glob.isMatch path

end Config

/-- Puts an entry into a list that is ordered by its keys, in place of one with the same key. -/
def insertByKey {α : Type} (key : String) (value : α) :
    List (String × α) → List (String × α)
  | [] => [(key, value)]
  | (other, kept) :: rest =>
    if key < other then (key, value) :: (other, kept) :: rest
    else if key = other then (key, value) :: rest
    else (other, kept) :: insertByKey key value rest

/-- Orders entries by their keys; of several entries with one key the last is kept. -/
def orderedByKey {α : Type} (entries : List (String × α)) : List (String × α) :=
  entries.foldl (fun ordered (key, value) => insertByKey key value ordered) []

/-- An override as an object. -/
def RuleOverride.toJson (rule : RuleOverride) : Json :=
  .obj
    [("enabled", Json.ofOption .bool rule.enabled),
      ("severity", Json.ofOption Severity.toJson rule.severity)]

/-- An override from a record. -/
def RuleOverride.decode : Decoder RuleOverride :=
  fun rules datum => do
    let fields ← Record.read ["enabled", "severity"] rules datum
    return {
      enabled := ← fields.optional "enabled" Decoder.bool
      severity := ← fields.optional "severity" Severity.decode }

/-- Overrides by key, from a mapping. -/
def RuleOverride.decodeMap : Decoder (List (String × RuleOverride)) :=
  fun rules datum => (RuleOverride.decode.mapping rules datum).map orderedByKey

namespace Config

/-- A configuration as an object. -/
def toJson (config : Config) : Json :=
  .obj
    [("version", .str config.version), ("framework", config.framework.toJson),
      ("rules", .obj (config.rules.map fun (key, rule) => (key, rule.toJson))),
      ("excluded_paths", Json.ofList .str config.excludedPaths),
      ("fail_on", Json.ofOption Severity.toJson config.failOn)]

/-- A configuration from a record. -/
def decode : Decoder Config :=
  fun rules datum => do
    let fields ← Record.read
      ["version", "framework", "rules", "excluded_paths", "fail_on"] rules datum
    return {
      version := ← fields.getD "version" Decoder.string ""
      framework := ← fields.getD "framework" FrameworkNames.decode {}
      rules := ← fields.getD "rules" RuleOverride.decodeMap []
      excludedPaths := ← fields.getD "excluded_paths" Decoder.string.list []
      failOn := ← fields.optional "fail_on" Severity.decode }

/-- Reads a configuration from the text of a YAML document. -/
def ofYaml? (text : String) : Option Config := do
  decode Rules.yaml (← Datum.ofYaml? text)

end Config

end ModLint
