import Mathlib.Data.List.Forall2
import ModLint.Proofs.Overrides
import ModLint.Report.Sarif

/-!
# Rules of a log and the results that refer to them

A result of a log refers to its rule by a number, which is the position of its condition among all
conditions. The rules are listed in the order of the codes, whatever overrides led to the catalog:
overriding a row of the table of settings in place keeps every condition where it is, and this is
what adjusting the catalog amounts to. So every number leads to the rule with the code that stands
beside it.
-/

namespace ModLint

/-! ## Positions of conditions -/

namespace DiagnosticId

theorem getElem?_all_ctorIdx (id : DiagnosticId) : all[id.ctorIdx]? = some id := by
  cases id <;> rfl

theorem index_eq_ctorIdx (id : DiagnosticId) : id.index = id.ctorIdx := by
  cases id <;> decide

end DiagnosticId

/-! ## The table of settings -/

namespace Catalog

/-- The conditions with their settings, in the order of the codes. -/
def rows (catalog : Catalog) : List (DiagnosticId × RuleSetting) :=
  DiagnosticId.all.map fun id => (id, catalog.setting id)

/-- A table with one setting overridden in place. -/
def overrideRow (rows : List (DiagnosticId × RuleSetting)) (id : DiagnosticId)
    (rule : RuleOverride) : List (DiagnosticId × RuleSetting) :=
  rows.modify id.ctorIdx fun row => (row.1, row.2.override rule)

theorem rows_adjust (catalog : Catalog) (id : DiagnosticId) (rule : RuleOverride) :
    (catalog.adjust id rule).rows = overrideRow catalog.rows id rule := by
  cases id <;> rfl

/-- A table with overrides applied in place, in their order. -/
def overrideRows (rows : List (DiagnosticId × RuleSetting)) :
    List (String × RuleOverride) → Except UnknownRule (List (DiagnosticId × RuleSetting))
  | [] => .ok rows
  | (key, rule) :: rest =>
    match DiagnosticId.parse? key with
    | none => .error ⟨key⟩
    | some id => overrideRows (overrideRow rows id rule) rest

theorem overrideRows_rows {catalog next : Catalog} {rules : List (String × RuleOverride)}
    (h : catalog.withOverrides rules = .ok next) :
    overrideRows catalog.rows rules = .ok next.rows := by
  induction rules generalizing catalog with
  | nil =>
    cases h
    rfl
  | cons entry rules ih =>
    obtain ⟨key, rule⟩ := entry
    rw [withOverrides] at h
    rw [overrideRows]
    cases hkey : DiagnosticId.parse? key with
    | none =>
      rw [hkey] at h
      cases h
    | some id =>
      rw [hkey] at h
      rw [← ih h, rows_adjust]

theorem overrideRows_append {rows mid : List (DiagnosticId × RuleSetting)}
    {rules : List (String × RuleOverride)} (h : overrideRows rows rules = .ok mid)
    (more : List (String × RuleOverride)) :
    overrideRows rows (rules ++ more) = overrideRows mid more := by
  induction rules generalizing rows with
  | nil =>
    cases h
    rfl
  | cons entry rules ih =>
    obtain ⟨key, rule⟩ := entry
    rw [overrideRows] at h
    rw [List.cons_append, overrideRows]
    cases hkey : DiagnosticId.parse? key with
    | none =>
      rw [hkey] at h
      cases h
    | some id =>
      rw [hkey] at h
      exact ih h

/-- The catalogs that calls with overrides lead to from the built-in one, with the overrides of all
calls in their order. -/
inductive Reached : List (String × RuleOverride) → Catalog → Prop where
  | builtin : Reached [] builtin
  | call {rules more : List (String × RuleOverride)} {catalog next : Catalog}
    (hreached : Reached rules catalog) (hcall : catalog.withOverrides more = .ok next) :
    Reached (rules ++ more) next

section Reached

variable {rules : List (String × RuleOverride)} {catalog : Catalog}

theorem Reached.overrideRows_eq (h : Reached rules catalog) :
    overrideRows Catalog.builtin.rows rules = .ok catalog.rows := by
  induction h with
  | builtin => rfl
  | call _ hcall ih => rw [overrideRows_append ih, overrideRows_rows hcall]

/-- All calls together act on a condition by the overrides whose keys denote it. -/
theorem Reached.setting_eq (h : Reached rules catalog) (id : DiagnosticId) :
    catalog.setting id = (overridesFor rules id).foldl RuleSetting.override {} := by
  induction h with
  | builtin => rfl
  | call _ hcall ih =>
    rw [setting_withOverrides hcall, ih, ← List.foldl_append]
    simp [overridesFor]

theorem Reached.severity_eq (h : Reached rules catalog) (id : DiagnosticId) :
    (catalog.setting id).severity =
      ((overridesFor rules id).filterMap RuleOverride.severity).getLast?.getD .warning := by
  rw [h.setting_eq, RuleSetting.severity_foldl]

theorem Reached.enabled_eq (h : Reached rules catalog) (id : DiagnosticId) :
    (catalog.setting id).enabled =
      ((overridesFor rules id).filterMap RuleOverride.enabled).getLast?.getD true := by
  rw [h.setting_eq, RuleSetting.enabled_foldl]

end Reached

end Catalog

/-! ## Logs -/

namespace Sarif

theorem Log.getElem?_rules (catalog : Catalog) (result : AnalysisResult) (id : DiagnosticId) :
    (Log.ofResult catalog result).rules[id.ctorIdx]? = some (Rule.ofId catalog id) := by
  rw [Log.ofResult, List.getElem?_map, DiagnosticId.getElem?_all_ctorIdx]
  rfl

/-- What a result of a log says about a diagnostic. -/
structure Describes (log : Log) (diagnostic : Diagnostic) (entry : Result) : Prop where
  ruleId : entry.ruleId = diagnostic.id.code
  ruleIndex : ∃ rule, log.rules[entry.ruleIndex]? = some rule ∧ rule.id = entry.ruleId
  level : entry.level = Sarif.level diagnostic.severity
  startLine : 1 ≤ entry.startLine ∧ (1 ≤ diagnostic.line → entry.startLine = diagnostic.line)
  startColumn : 1 ≤ entry.startColumn ∧
    (1 ≤ diagnostic.location.column → entry.startColumn = diagnostic.location.column)

theorem describes_ofDiagnostic (catalog : Catalog) (result : AnalysisResult)
    (diagnostic : Diagnostic) :
    Describes (Log.ofResult catalog result) diagnostic (Result.ofDiagnostic diagnostic) := by
  have hrule : (Log.ofResult catalog result).rules[diagnostic.id.index]? =
      some (Rule.ofId catalog diagnostic.id) := by
    rw [DiagnosticId.index_eq_ctorIdx]
    exact Log.getElem?_rules catalog result diagnostic.id
  have hat_least_one : ∀ n, 1 ≤ max n 1 ∧ (1 ≤ n → max n 1 = n) := by
    intro n
    omega
  exact ⟨rfl, ⟨_, hrule, rfl⟩, rfl, hat_least_one _, hat_least_one _⟩

/-- The rules of a log stand in the order of the codes, with the settings that overriding the table
in place leads to: for every condition the last override that sets a part of the setting wins. Every
diagnostic has one result, which refers to the rule of its condition. -/
theorem results_refer_to_their_rules {rules : List (String × RuleOverride)} {catalog : Catalog}
    (h : Catalog.Reached rules catalog) (result : AnalysisResult) :
    (Log.ofResult catalog result).rules.map Rule.id =
      ["CL0001", "CL0002", "CL0003", "CL0004", "CL0005", "CL0006", "CL0007", "CL0008", "CL0009",
        "CL0010", "CL0011", "CL0012", "CL0013", "CL0014", "CL0015", "CL0016", "CL0017"] ∧
    (∃ rows, Catalog.overrideRows Catalog.builtin.rows rules = .ok rows ∧
      (Log.ofResult catalog result).rules.map (fun rule => (rule.id, rule.level, rule.enabled)) =
        rows.map fun row => (row.1.code, level row.2.severity, row.2.enabled)) ∧
    (∀ id : DiagnosticId, ∃ rule,
      (Log.ofResult catalog result).rules[id.ctorIdx]? = some rule ∧ rule.id = id.code ∧
      rule.level = level (((overridesFor rules id).filterMap
        RuleOverride.severity).getLast?.getD .warning) ∧
      rule.enabled = ((overridesFor rules id).filterMap RuleOverride.enabled).getLast?.getD true) ∧
    List.Forall₂ (Describes (Log.ofResult catalog result)) result.diagnostics
      (Log.ofResult catalog result).results := by
  refine ⟨rfl, ⟨catalog.rows, h.overrideRows_eq, rfl⟩, fun id => ?_, ?_⟩
  · refine ⟨Rule.ofId catalog id, Log.getElem?_rules catalog result id, rfl, ?_, ?_⟩
    · rw [← h.severity_eq]
      rfl
    · rw [← h.enabled_eq]
      rfl
  · change List.Forall₂ _ result.diagnostics (result.diagnostics.map Result.ofDiagnostic)
    rw [List.forall₂_map_right_iff, List.forall₂_same]
    intro diagnostic _
    exact describes_ofDiagnostic catalog result diagnostic

/-- A diagnostic without a line and a column. -/
def unplaced : Diagnostic :=
  { id := .hooksShouldBeStatic, severity := .warning
    location :=
      ⟨"Mod\\Hooks.cs", { startByte := 0, endByte := 0, startLine := 0, startColumn := 0 }⟩
    message := "Hook 'OnUpdate' should be static" }

theorem unplaced_refers_to_its_rule :
    ∃ catalog, Catalog.Reached [("CL0004", { severity := some .error }),
        (" HooksShouldBeStatic ", { severity := some .info, enabled := some false })] catalog ∧
      (Log.ofResult catalog { diagnostics := [unplaced] }).results =
        [{ ruleId := "CL0004", ruleIndex := 3, level := "warning"
           message := "Hook 'OnUpdate' should be static", uri := "Mod/Hooks.cs", startLine := 1
           startColumn := 1 }] ∧
      List.Forall₂ (Describes (Log.ofResult catalog { diagnostics := [unplaced] })) [unplaced]
        (Log.ofResult catalog { diagnostics := [unplaced] }).results ∧
      ∃ rule, (Log.ofResult catalog { diagnostics := [unplaced] }).rules[3]? = some rule ∧
        rule.id = "CL0004" ∧ rule.level = "note" ∧ rule.enabled = false := by
  have hcode : DiagnosticId.parse? "CL0004" = some .hooksShouldBeStatic := by decide +kernel
  have hname : DiagnosticId.parse? " HooksShouldBeStatic " = some .hooksShouldBeStatic := by
    decide +kernel
  have hfirst : Catalog.builtin.withOverrides [("CL0004", { severity := some .error })] =
      .ok (Catalog.builtin.adjust .hooksShouldBeStatic { severity := some .error }) := by
    simp only [Catalog.withOverrides, hcode]
  have hsecond : (Catalog.builtin.adjust .hooksShouldBeStatic
      { severity := some .error }).withOverrides
        [(" HooksShouldBeStatic ", { severity := some .info, enabled := some false })] =
      .ok ((Catalog.builtin.adjust .hooksShouldBeStatic { severity := some .error }).adjust
        .hooksShouldBeStatic { severity := some .info, enabled := some false }) := by
    simp only [Catalog.withOverrides, hname]
  have hreached := (Catalog.Reached.builtin.call hfirst).call hsecond
  obtain ⟨-, -, hrules, hdescribes⟩ :=
    results_refer_to_their_rules hreached { diagnostics := [unplaced] }
  obtain ⟨rule, hrule, hid, hlevel, henabled⟩ := hrules .hooksShouldBeStatic
  refine ⟨_, hreached, by decide +kernel, hdescribes, rule, hrule, hid, ?_, ?_⟩
  · rw [hlevel]
    decide +kernel
  · rw [henabled]
    decide +kernel

end Sarif

end ModLint
