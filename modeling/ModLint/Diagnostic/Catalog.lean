import ModLint.Config.Basic
import ModLint.Diagnostic.Id
import ModLint.Text.Quoted

/-!
# The catalog

The catalog says for every condition whether it is reported and how bad it is. A configuration
adjusts it one key after the other, so that a later key wins over an earlier one for the same
condition.
-/

namespace ModLint

/-- What the catalog says about a condition. -/
structure RuleSetting where
  /-- How bad it is. -/
  severity : Severity := .warning
  /-- Whether it is reported. -/
  enabled : Bool := true
deriving DecidableEq

/-- A setting with those parts replaced that an override gives. -/
def RuleSetting.override (setting : RuleSetting) (rule : RuleOverride) : RuleSetting :=
  { severity := rule.severity.getD setting.severity
    enabled := rule.enabled.getD setting.enabled }

/-- The settings of all conditions. -/
structure Catalog where
  /-- The setting of a condition. -/
  setting : DiagnosticId → RuleSetting

/-- An override for a condition that does not exist. -/
structure UnknownRule where
  /-- The key of the override. -/
  key : String
deriving DecidableEq

/-- The text for an override without a condition. -/
def UnknownRule.message (error : UnknownRule) : String :=
  "unknown rule " ++ Text.quoted error.key

namespace Catalog

/-- The catalog without a configuration: everything is reported as a warning. -/
def builtin : Catalog :=
  { setting := fun _ => {} }

/-- The catalog with one condition adjusted. -/
def adjust (catalog : Catalog) (id : DiagnosticId) (rule : RuleOverride) : Catalog :=
  { setting := fun other =>
      if other = id then (catalog.setting id).override rule else catalog.setting other }

/-- The catalog with overrides applied in their order. -/
def withOverrides (catalog : Catalog) :
    List (String × RuleOverride) → Except UnknownRule Catalog
  | [] => .ok catalog
  | (key, rule) :: rest =>
    match DiagnosticId.parse? key with
    | none => .error ⟨key⟩
    | some id => (catalog.adjust id rule).withOverrides rest

/-- The catalog of a configuration. -/
def ofConfig (config : Config) : Except UnknownRule Catalog :=
  builtin.withOverrides config.rules

/-- The entry of a condition as an object. -/
def descriptorJson (catalog : Catalog) (id : DiagnosticId) : Json :=
  .obj
    [("id", id.toJson), ("title", .str id.title),
      ("message_template", .str id.messageTemplate), ("description", .str id.description),
      ("category", .str "Usage"), ("severity", (catalog.setting id).severity.toJson),
      ("enabled", .bool (catalog.setting id).enabled)]

/-- All entries, in the order of the codes. -/
def toJson (catalog : Catalog) : Json :=
  Json.ofList catalog.descriptorJson DiagnosticId.all

end Catalog

end ModLint
