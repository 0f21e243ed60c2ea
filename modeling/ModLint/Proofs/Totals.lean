import Mathlib.Algebra.Order.BigOperators.Group.List
import Mathlib.Algebra.Order.Ring.Nat
import ModLint.Command.Run
import ModLint.Proofs.Canonical
import ModLint.Proofs.Running

/-!
# Results of several dumps

The results of several dumps are put together one after the other and sorted at the end. All that
a report counts adds up over the dumps, so its numbers and its verdict are those of the single
results, in whatever order the dumps come.
-/

namespace ModLint

/-! ## The order of a list of diagnostics -/

namespace Diagnostic

/-- The order of diagnostics: by file, start, code and message, in this order. -/
theorem le_iff {a b : Diagnostic} : le a b = true ↔
    a.file < b.file ∨ a.file = b.file ∧
      (a.location.span.startByte < b.location.span.startByte ∨
        a.location.span.startByte = b.location.span.startByte ∧
          (a.id.code < b.id.code ∨ a.id.code = b.id.code ∧
            (a.message < b.message ∨ a.message = b.message))) := by
  have hstring : ∀ s t : String, compare s t = .lt ↔ s < t := fun s t => compareOfLessAndEq_eq_lt
  simp only [le, order, Ordering.isLE_then_iff_or]
  simp only [Ordering.isLE_iff_eq_lt_or_eq_eq, Std.LawfulEqCmp.compare_eq_iff_eq,
    Std.compare_eq_lt, hstring]

end Diagnostic

/-! ## The order of severities -/

/-- The order of severities: an error is worse than a warning, and a warning worse than a remark. -/
inductive Severity.AsBadAs : Severity → Severity → Prop where
  | refl (severity : Severity) : AsBadAs severity severity
  | error_warning : AsBadAs .error .warning
  | error_info : AsBadAs .error .info
  | warning_info : AsBadAs .warning .info

theorem Severity.atLeast_iff {severity threshold : Severity} :
    severity.atLeast threshold = true ↔ severity.AsBadAs threshold := by
  constructor
  · intro h
    cases severity with
    | error =>
      cases threshold with
      | error => exact .refl _
      | warning => exact .error_warning
      | info => exact .error_info
    | warning =>
      cases threshold with
      | error => exact absurd h (by decide)
      | warning => exact .refl _
      | info => exact .warning_info
    | info =>
      cases threshold with
      | error => exact absurd h (by decide)
      | warning => exact absurd h (by decide)
      | info => exact .refl _
  · intro h
    cases h with
    | refl => cases severity <;> rfl
    | error_warning => rfl
    | error_info => rfl
    | warning_info => rfl

namespace AnalysisResult

/-! ## Results put together -/

/-- The results of several dumps as one. -/
def mergeAll (results : List AnalysisResult) : AnalysisResult :=
  results.foldl merge {}

theorem diagnostics_mergeAll (results : List AnalysisResult) :
    (mergeAll results).diagnostics = results.flatMap diagnostics := by
  have hfold : ∀ start : AnalysisResult,
      (results.foldl merge start).diagnostics =
        start.diagnostics ++ results.flatMap diagnostics := by
    induction results with
    | nil => intro start; simp
    | cons result results ih =>
      intro start
      rw [List.foldl_cons, ih, merge, List.flatMap_cons, List.append_assoc]
  exact hfold {}

/-- What adds up for two results adds up for all. -/
theorem mergeAll_eq_sum (measure : AnalysisResult → Nat) (hzero : measure {} = 0)
    (hmerge : ∀ a b, measure (a.merge b) = measure a + measure b) (results : List AnalysisResult) :
    measure (mergeAll results) = (results.map measure).sum := by
  have hfold : ∀ start,
      measure (results.foldl merge start) = measure start + (results.map measure).sum := by
    induction results with
    | nil => intro start; simp
    | cons result results ih =>
      intro start
      rw [List.foldl_cons, ih, hmerge, List.map_cons, List.sum_cons, Nat.add_assoc]
  rw [mergeAll, hfold, hzero, Nat.zero_add]

/-- Two results that reports cannot tell apart but by diagnostics of one place. -/
structure LooksLike (a b : AnalysisResult) : Prop where
  counts : ∀ severity, a.count severity = b.count severity
  excluded : a.excluded = b.excluded
  suppressed : a.suppressed.length = b.suppressed.length
  models : a.models = b.models
  verdict : ∀ threshold, a.passed threshold = b.passed threshold
  places : a.diagnostics.map Diagnostic.place = b.diagnostics.map Diagnostic.place

theorem count_merge (severity : Severity) (a b : AnalysisResult) :
    (a.merge b).count severity = a.count severity + b.count severity :=
  List.countP_append

theorem passed_iff_forall {result : AnalysisResult} {threshold : Severity} :
    result.passed threshold = true ↔
      ∀ diagnostic ∈ result.diagnostics, ¬ diagnostic.severity.AsBadAs threshold := by
  simp only [passed, Bool.not_eq_true', List.any_eq_false, Severity.atLeast_iff]

/-- A result passes if and only if nothing is counted that is as bad as the threshold. -/
theorem passed_iff_count {result : AnalysisResult} {threshold : Severity} :
    result.passed threshold = true ↔
      ∀ severity : Severity, severity.AsBadAs threshold → result.count severity = 0 := by
  simp only [passed_iff_forall, count, List.countP_eq_zero, decide_eq_true_eq]
  constructor
  · rintro h severity hsevere diagnostic hmem rfl
    exact h diagnostic hmem hsevere
  · intro h diagnostic hmem hsevere
    exact h _ hsevere diagnostic hmem rfl

/-- Every diagnostic counts for one severity. -/
theorem sum_count (result : AnalysisResult) :
    (Severity.all.map result.count).sum = result.diagnostics.length := by
  unfold count Severity.all
  induction result.diagnostics with
  | nil => rfl
  | cons diagnostic diagnostics ih =>
    cases hseverity : diagnostic.severity <;> simp [hseverity] at ih ⊢ <;> omega

end AnalysisResult

/-! ## Reports -/

/-- The document that the keys of nested objects lead to. -/
def Json.at? : List String → Json → Option Json
  | [], document => some document
  | key :: keys, .obj members => (members.lookup key).bind (at? keys)
  | _ :: _, _ => none

/-- What a report says agrees: its counts add up to the number of its diagnostics, it says that the
run passed if and only if it counts nothing as bad as its threshold, and so does the exit code. -/
def Json.ReportAgrees (report : Json) (code : Nat) : Prop :=
  ∃ (threshold : Severity) (counts : Severity → Nat) (diagnostics : List Json) (passed : Bool),
    report.at? ["fail_on"] = some threshold.toJson ∧
    (∀ severity : Severity, report.at? ["counts", severity.word] = some (.nat (counts severity))) ∧
    report.at? ["diagnostics"] = some (.arr diagnostics) ∧
    report.at? ["passed"] = some (.bool passed) ∧
    (Severity.all.map counts).sum = diagnostics.length ∧
    (passed = true ↔ ∀ severity : Severity, severity.AsBadAs threshold → counts severity = 0) ∧
    code = if passed then 0 else 1

theorem Summary.reportAgrees (context : ReportContext) (result : AnalysisResult) :
    (Summary.ofResult context result).toJson.ReportAgrees
      (if result.passed context.failOn then 0 else 1) := by
  obtain ⟨path, config, failOn⟩ := context
  refine ⟨failOn, result.count, result.diagnostics.map Summary.diagnosticJson,
    result.passed failOn, ?_, fun severity => ?_, ?_, ?_, ?_, AnalysisResult.passed_iff_count, rfl⟩
  · cases config <;> rfl
  · cases config <;> cases severity <;> rfl
  · cases config <;> rfl
  · cases config <;> rfl
  · rw [AnalysisResult.sum_count, List.length_map]

namespace Command

/-- Dumps are analysed one after the other, and their results are put together. -/
theorem lintModels_eq {m : Type → Type} [Monad m] [LawfulMonad m] (fs : FileSystem m)
    (analyzer : Analyzer) (start : AnalysisResult) (paths : List String) :
    lintModels fs analyzer start paths = do
      return (← paths.mapM (lintModel fs analyzer)).foldl AnalysisResult.merge start := by
  induction paths generalizing start with
  | nil => simp [lintModels]
  | cons path paths ih => simp [lintModels, ih]

/-- The severity that makes a run fail: the one that the command line names, or else the one of the
configuration. -/
inductive FailsOn (config : Config) : Option String → Severity → Prop where
  | named {text : String} {severity : Severity} (h : Severity.parse? text = some severity) :
    FailsOn config (some text) severity
  | configured : FailsOn config none config.threshold

theorem failsOn_of_thresholdOf {σ : Type} (config : Config) {text : Option String}
    {given : Option Severity} {s s' : σ}
    (h : (thresholdOf text : Action (StateM σ) (Option Severity)).runIn s = (.ok given, s')) :
    FailsOn config text (given.getD config.threshold) ∧ s' = s := by
  cases text with
  | none =>
    cases h
    exact ⟨.configured, rfl⟩
  | some text =>
    simp only [thresholdOf] at h
    cases hparse : Severity.parse? text with
    | none =>
      rw [hparse] at h
      cases h
    | some severity =>
      rw [hparse] at h
      cases h
      exact ⟨.named hparse, rfl⟩

/-- How a run that starts in the state `s` ends in the state `s'`. It reads the configuration and
looks for the dumps at the path that it was given. Without dumps it reports nothing. Otherwise it
analyses each of them under the configuration, one after the other, and reports on their results
as one; the exit code is the verdict for the threshold. -/
inductive LintEnd {σ : Type} (fs : FileSystem (StateM σ)) (color : Bool) (arguments : LintArguments)
    (s s' : σ) : Outcome → Prop where
  | noModels {config : Config} {found : Option String} {s₁ : σ}
    (hconfig : (loadConfig fs arguments.config).runIn s = (.ok (config, found), s₁))
    (hmodels : (modelsAt fs arguments.path).runIn s₁ = (.ok [], s')) :
    LintEnd fs color arguments s s' { notice := some .noModels }
  | report {format : ReportFormat} {config : Config} {found : Option String} {failOn : Severity}
    {analyzer : Analyzer} {paths : List String} {results : List AnalysisResult} {s₁ s₂ : σ}
    (hformat : ReportFormat.parse? arguments.format = some format)
    (hconfig : (loadConfig fs arguments.config).runIn s = (.ok (config, found), s₁))
    (hfails : FailsOn config arguments.failOn failOn)
    (hmodels : (modelsAt fs arguments.path).runIn s₁ = (.ok paths, s₂)) (hsome : paths ≠ [])
    (hanalyzer : Analyzer.ofConfig config = .ok analyzer)
    (hresults : (paths.mapM (lintModel fs analyzer)).runIn s₂ = (.ok results, s')) :
    LintEnd fs color arguments s s' {
      output := reportText color arguments.showSuppressed format analyzer.catalog
        { path := arguments.path, config := found, failOn } (combined (.mergeAll results))
      result := .ok (if (combined (.mergeAll results)).passed failOn then 0 else 1) }

section Run

variable {σ : Type} {fs : FileSystem (StateM σ)} {color : Bool} {arguments : LintArguments}
  {s s' : σ} {outcome : Outcome}

theorem runLint_ends (h : (runLint fs color arguments).runIn s = (.ok outcome, s')) :
    LintEnd fs color arguments s s' outcome := by
  unfold runLint at h
  cases hformat : ReportFormat.parse? arguments.format with
  | none =>
    rw [hformat] at h
    cases h
  | some format =>
    rw [hformat] at h
    obtain ⟨given, s₀, hgiven, h⟩ := Action.runIn_bind_eq_ok.mp h
    obtain ⟨⟨config, found⟩, s₁, hconfig, h⟩ := Action.runIn_bind_eq_ok.mp h
    obtain ⟨paths, s₂, hmodels, h⟩ := Action.runIn_bind_eq_ok.mp h
    obtain ⟨hfails, hstate⟩ := failsOn_of_thresholdOf config hgiven
    rw [hstate] at hconfig
    dsimp only at h
    split at h
    · rename_i hempty
      cases h
      rw [List.isEmpty_iff.mp hempty] at hmodels
      exact .noModels hconfig hmodels
    · rename_i hsome
      obtain ⟨analyzer, s₃, hanalyzer, h⟩ := Action.runIn_bind_eq_ok.mp h
      obtain ⟨hanalyzer, hstate⟩ := ofConfig_of_analyzerOf hanalyzer
      rw [hstate, lintModels_eq, bind_assoc] at h
      obtain ⟨results, s₄, hresults, h⟩ := Action.runIn_bind_eq_ok.mp h
      rw [pure_bind] at h
      cases h
      exact .report hformat hconfig hfails hmodels (hsome ∘ List.isEmpty_iff.mpr) hanalyzer hresults

/-- A JSON report agrees with itself and with the exit code of the run. -/
theorem LintEnd.reportAgrees (h : LintEnd fs color arguments s s' outcome)
    (hjson : arguments.format = "json") (hnotice : outcome.notice = none) :
    ∃ (report : Json) (code : Nat), outcome.output = report.pretty ++ "\n" ∧
      outcome.result = .ok code ∧ report.ReportAgrees code := by
  cases h with
  | noModels => cases hnotice
  | @report format _ found failOn _ _ results _ _ hformat =>
    rw [hjson] at hformat
    cases hformat
    exact ⟨_, _, rfl, rfl, Summary.reportAgrees
      { path := arguments.path, config := found, failOn } (combined (.mergeAll results))⟩

end Run

/-! ## Several dumps -/

section Combined

open AnalysisResult

variable (results : List AnalysisResult)

theorem diagnostics_combined : (combined (mergeAll results)).diagnostics.Perm
    (results.flatMap AnalysisResult.diagnostics) := by
  rw [← diagnostics_mergeAll]
  exact Diagnostic.sorted_perm _

theorem count_combined (severity : Severity) : (combined (mergeAll results)).count severity =
    (results.map fun result => result.count severity).sum := by
  rw [← mergeAll_eq_sum (fun result => result.count severity) rfl (count_merge severity)]
  exact (Diagnostic.sorted_perm _).countP_eq _

theorem excluded_combined : (combined (mergeAll results)).excluded =
    (results.map fun result => result.excluded).sum :=
  mergeAll_eq_sum (fun result => result.excluded) rfl (fun _ _ => rfl) results

theorem length_suppressed_combined : (combined (mergeAll results)).suppressed.length =
    (results.map fun result => result.suppressed.length).sum :=
  mergeAll_eq_sum (fun result => result.suppressed.length) rfl (fun _ _ => List.length_append)
    results

theorem models_combined : (combined (mergeAll results)).models =
    (results.map fun result => result.models).sum :=
  mergeAll_eq_sum (fun result => result.models) rfl (fun _ _ => rfl) results

/-- Several dumps pass together if and only if each of them passes. -/
theorem passed_combined (threshold : Severity) :
    (combined (mergeAll results)).passed threshold = true ↔
      ∀ result ∈ results, result.passed threshold = true := by
  simp only [passed_iff_forall, (diagnostics_combined results).mem_iff, List.mem_flatMap]
  constructor
  · intro h result hresult diagnostic hdiagnostic
    exact h diagnostic ⟨result, hresult, hdiagnostic⟩
  · rintro h diagnostic ⟨result, hresult, hdiagnostic⟩
    exact h result hresult diagnostic hdiagnostic

/-- The order of the dumps does not show in a report, except among diagnostics of one place. -/
theorem combined_looksLike {results results' : List AnalysisResult} (h : results.Perm results') :
    (combined (mergeAll results)).LooksLike (combined (mergeAll results')) where
  counts severity := by rw [count_combined, count_combined, (h.map _).sum_eq]
  excluded := by rw [excluded_combined, excluded_combined, (h.map _).sum_eq]
  suppressed := by rw [length_suppressed_combined, length_suppressed_combined, (h.map _).sum_eq]
  models := by rw [models_combined, models_combined, (h.map _).sum_eq]
  verdict threshold := by
    rw [Bool.eq_iff_iff, passed_combined, passed_combined]
    simp only [h.mem_iff]
  places := by
    refine Diagnostic.map_place_sorted ?_
    rw [diagnostics_mergeAll, diagnostics_mergeAll]
    exact h.flatMap_right _

end Combined

/-- The results of several dumps as one: its diagnostics are those of all dumps, in their order; its
numbers are the sums of theirs; it passes if and only if all pass, and a result passes if and only
if it has no diagnostic as bad as the threshold. A report agrees with itself and with the exit code.
The order of the dumps changes no number, no verdict and no place. A run of the command reports on
the dumps at its path as one. -/
theorem linting_is_compositional (results : List AnalysisResult) (threshold : Severity) :
    let total := combined (.mergeAll results)
    (total.diagnostics.Pairwise fun a b => a.file < b.file ∨ a.file = b.file ∧
      (a.location.span.startByte < b.location.span.startByte ∨
        a.location.span.startByte = b.location.span.startByte ∧
          (a.id.code < b.id.code ∨ a.id.code = b.id.code ∧
            (a.message < b.message ∨ a.message = b.message)))) ∧
    total.diagnostics.Perm (results.flatMap AnalysisResult.diagnostics) ∧
    (∀ severity, total.count severity = (results.map fun result => result.count severity).sum) ∧
    total.excluded = (results.map fun result => result.excluded).sum ∧
    total.suppressed.length = (results.map fun result => result.suppressed.length).sum ∧
    total.models = (results.map fun result => result.models).sum ∧
    (total.passed threshold = true ↔ ∀ result ∈ results, result.passed threshold = true) ∧
    (∀ result : AnalysisResult, result.passed threshold = true ↔
      ∀ diagnostic ∈ result.diagnostics, ¬ diagnostic.severity.AsBadAs threshold) ∧
    (∀ context : ReportContext, context.failOn = threshold →
      (Summary.ofResult context total).toJson.ReportAgrees
        (if total.passed threshold then 0 else 1)) ∧
    (∀ results', results.Perm results' → total.LooksLike (combined (.mergeAll results'))) ∧
    ∀ (σ : Type) (fs : FileSystem (StateM σ)) (color : Bool) (arguments : LintArguments) (s s' : σ)
      (outcome : Outcome), (runLint fs color arguments).runIn s = (.ok outcome, s') →
        LintEnd fs color arguments s s' outcome ∧
        (arguments.format = "json" → outcome.notice = none →
          ∃ (report : Json) (code : Nat), outcome.output = report.pretty ++ "\n" ∧
            outcome.result = .ok code ∧ report.ReportAgrees code) := by
  intro total
  refine ⟨?_, diagnostics_combined results, count_combined results, excluded_combined results,
    length_suppressed_combined results, models_combined results, passed_combined results threshold,
    fun _ => AnalysisResult.passed_iff_forall, ?_, fun _ => combined_looksLike, ?_⟩
  · exact (Diagnostic.sorted_pairwise _).imp fun hle => Diagnostic.le_iff.mp hle
  · rintro context rfl
    exact Summary.reportAgrees context total
  · intro σ fs color arguments s s' outcome h
    have hends := runLint_ends h
    exact ⟨hends, hends.reportAgrees⟩

/-- A diagnostic of a severity that starts at a byte of a file. -/
def foundAt (file : String) (start : Nat) (severity : Severity) : Diagnostic :=
  { id := .hooksShouldBeStatic, severity
    location := { file, span := { startByte := start, endByte := start, startLine := 1,
                                  startColumn := 1 } }
    message := "" }

/-- Three dumps: one with an error and a remark, one with a warning, one with a remark. -/
def mixedResults : List AnalysisResult :=
  [{ diagnostics := [foundAt "B.cs" 40 .error, foundAt "B.cs" 9 .info], models := 1 },
    { diagnostics := [foundAt "A.cs" 3 .warning], excluded := 2, models := 1 },
    { diagnostics := [foundAt "A.cs" 3 .info], models := 1 }]

/-- The error fails the run at every threshold. Without its dump the warning does, but for errors
the run passes; the remarks alone pass both. -/
theorem mixedResults_fail_by_the_worst :
    let total := combined (.mergeAll mixedResults)
    let milder := combined (.mergeAll (mixedResults.drop 1))
    let mildest := combined (.mergeAll (mixedResults.drop 2))
    (Severity.all.map total.count = [1, 1, 2] ∧ total.excluded = 2 ∧ total.models = 3) ∧
    (total.passed .error = false ∧ total.passed .warning = false ∧ total.passed .info = false) ∧
    (milder.passed .error = true ∧ milder.passed .warning = false ∧ milder.passed .info = false) ∧
    (mildest.passed .error = true ∧ mildest.passed .warning = true ∧
      mildest.passed .info = false) := by
  intro total milder mildest
  have verdict : ∀ (results : List AnalysisResult) (threshold : Severity),
      (combined (.mergeAll results)).passed threshold =
        results.all fun result => result.passed threshold := by
    intro results threshold
    obtain ⟨-, -, -, -, -, -, hpassed, -⟩ := linting_is_compositional results threshold
    rw [Bool.eq_iff_iff, hpassed, List.all_eq_true]
  obtain ⟨-, -, hcount, hexcluded, -, hmodels, -⟩ := linting_is_compositional mixedResults .warning
  refine ⟨⟨?_, hexcluded, hmodels⟩, ?_, ?_, ?_⟩
  · rw [funext hcount]
    rfl
  all_goals
    simp only [total, milder, mildest, verdict]
    decide

end Command

end ModLint
