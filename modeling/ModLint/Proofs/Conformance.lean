import ModLint.Proofs.Independence

/-!
# Diagnostics conform to the catalog

Keys of a configuration denote conditions by code or by name, so two keys may speak about one
condition. Which of them counts is decided for each part of a setting by itself: it is the last key,
in the order of the keys, that sets this part. Every diagnostic of an analysis carries the setting
that results for its condition, the message that its arguments make, and the place of a node; it was
found by a checker that names its condition and looks at some event of the program.
-/

namespace ModLint

/-! ## Keys -/

/-- A key is the code or the name of a condition, up to blanks around it. -/
def DiagnosticId.Denotes (key : String) (id : DiagnosticId) : Prop :=
  Text.trimmed key = id.code ∨ Text.trimmed key = id.name

/-- A text that is a code or a name belongs to one condition only. -/
theorem DiagnosticId.parse?_eq_some_iff_denotes {key : String} {id : DiagnosticId} :
    parse? key = some id ↔ Denotes key id := by
  have hall : ∀ word : String, word = id.code ∨ word = id.name →
      all.find? (fun other => other.code == word || other.name == word) = some id := by
    rintro word (rfl | rfl) <;> cases id <;> decide +kernel
  constructor
  · intro hparse
    have hkey := List.find?_some hparse
    simp only [Bool.or_eq_true, beq_iff_eq] at hkey
    exact hkey.imp Eq.symm Eq.symm
  · exact hall (Text.trimmed key)

/-- The keys of a list of entries are in their order, so no key occurs twice. -/
def KeysOrdered {α : Type} (entries : List (String × α)) : Prop :=
  entries.Pairwise fun a b => a.1 < b.1

theorem KeysOrdered.insertByKey {α : Type} {entries : List (String × α)} (h : KeysOrdered entries)
    (key : String) (value : α) : KeysOrdered (insertByKey key value entries) := by
  induction entries with
  | nil => exact List.pairwise_singleton _ _
  | cons entry rest ih =>
    obtain ⟨other, kept⟩ := entry
    obtain ⟨hfirst, hrest⟩ := List.pairwise_cons.mp h
    rw [ModLint.insertByKey]
    split
    · rename_i hlt
      refine List.pairwise_cons.mpr ⟨fun b hb => ?_, h⟩
      rcases List.mem_cons.mp hb with rfl | hb
      · exact hlt
      · exact String.lt_trans hlt (hfirst b hb)
    · rename_i hnot
      split
      · rename_i heq
        subst heq
        exact List.pairwise_cons.mpr ⟨hfirst, hrest⟩
      · rename_i hne
        have hlt : other < key := by
          by_contra hnot'
          exact hne (String.le_antisymm (String.not_lt.mp hnot') (String.not_lt.mp hnot))
        refine List.pairwise_cons.mpr ⟨fun b hb => ?_, ih hrest⟩
        rcases mem_insertByKey hb with rfl | hb
        · exact hlt
        · exact hfirst b hb

theorem keysOrdered_orderedByKey {α : Type} (entries : List (String × α)) :
    KeysOrdered (orderedByKey entries) := by
  have hfold : ∀ ordered : List (String × α), KeysOrdered ordered →
      KeysOrdered (entries.foldl (fun ordered entry => insertByKey entry.1 entry.2 ordered)
        ordered) := by
    induction entries with
    | nil => exact fun _ h => h
    | cons entry entries ih => exact fun ordered h => ih _ (h.insertByKey entry.1 entry.2)
  exact hfold [] List.Pairwise.nil

/-- A configuration that was read has its keys in their order. -/
theorem Config.keysOrdered_of_decode {rules : Rules} {datum : Datum} {config : Config}
    (h : Config.decode rules datum = some config) : KeysOrdered config.rules := by
  obtain ⟨fields, -, h⟩ := Option.bind_eq_some_iff.mp h
  obtain ⟨version, -, h⟩ := Option.bind_eq_some_iff.mp h
  obtain ⟨framework, -, h⟩ := Option.bind_eq_some_iff.mp h
  obtain ⟨overrides, hoverrides, h⟩ := Option.bind_eq_some_iff.mp h
  obtain ⟨excluded, -, h⟩ := Option.bind_eq_some_iff.mp h
  obtain ⟨failOn, -, h⟩ := Option.bind_eq_some_iff.mp h
  cases h
  unfold Record.getD at hoverrides
  split at hoverrides
  · cases hoverrides
    exact List.Pairwise.nil
  · obtain ⟨entries, -, rfl⟩ := Option.map_eq_some_iff.mp hoverrides
    exact keysOrdered_orderedByKey entries

theorem Config.keysOrdered_of_ofYaml? {text : String} {config : Config}
    (h : Config.ofYaml? text = some config) : KeysOrdered config.rules := by
  obtain ⟨datum, -, h⟩ := Option.bind_eq_some_iff.mp h
  exact keysOrdered_of_decode h

/-! ## Which key decides -/

section Decision

variable {α : Type} {rules : List (String × RuleOverride)} {part : RuleOverride → Option α}
  {id : DiagnosticId}

/-- A key that denotes a condition and sets a part of its setting, and no such key comes later. -/
structure LastToSet (rules : List (String × RuleOverride)) (part : RuleOverride → Option α)
    (id : DiagnosticId) (key : String) (value : α) : Prop where
  sets : ∃ rule, (key, rule) ∈ rules ∧ part rule = some value
  denotes : DiagnosticId.Denotes key id
  last : ∀ other rule, (other, rule) ∈ rules → DiagnosticId.Denotes other id →
    (part rule).isSome → other ≤ key

/-- The value of a part of a setting under some overrides: that of the last key that sets it, or the
value without overrides if there is no such key. -/
def Effective (rules : List (String × RuleOverride)) (part : RuleOverride → Option α)
    (id : DiagnosticId) (builtin value : α) : Prop :=
  (∃ key, LastToSet rules part id key value) ∨
    (∀ key rule, (key, rule) ∈ rules → DiagnosticId.Denotes key id → part rule = none) ∧
      value = builtin

theorem overridesFor_append (before after : List (String × RuleOverride)) :
    overridesFor (before ++ after) id = overridesFor before id ++ overridesFor after id := by
  simp [overridesFor]

theorem mem_overridesFor {rule : RuleOverride} :
    rule ∈ overridesFor rules id ↔ ∃ key, (key, rule) ∈ rules ∧ DiagnosticId.Denotes key id := by
  simp [overridesFor, DiagnosticId.parse?_eq_some_iff_denotes]

/-- The last override for a condition that sets a part stands under the last key that does. -/
theorem effective_getLast? (hkeys : KeysOrdered rules) (builtin : α) :
    Effective rules part id builtin
      (((overridesFor rules id).filterMap part).getLast?.getD builtin) := by
  -- induction from the end: the entry with the last key decides if it can
  induction rules using List.reverseRecOn with
  | nil => exact Or.inr ⟨by simp, rfl⟩
  | append_singleton rules entry ih =>
    obtain ⟨key, rule⟩ := entry
    obtain ⟨hkeys, -, hlater⟩ := List.pairwise_append.mp hkeys
    have hlast : ∀ other rule', (other, rule') ∈ rules → other ≤ key := fun other rule' hmem =>
      String.not_lt.mp (String.lt_asymm (hlater _ hmem _ List.mem_cons_self))
    rw [overridesFor_append, List.filterMap_append]
    by_cases hdecides : DiagnosticId.Denotes key id ∧ (part rule).isSome
    · obtain ⟨hdenotes, hsome⟩ := hdecides
      obtain ⟨value, hvalue⟩ := Option.isSome_iff_exists.mp hsome
      have hone : (overridesFor [(key, rule)] id).filterMap part = [value] := by
        simp [overridesFor, DiagnosticId.parse?_eq_some_iff_denotes, hdenotes, hvalue]
      rw [hone, List.getLast?_append, List.getLast?_singleton, Option.some_or, Option.getD_some]
      refine Or.inl ⟨key, ⟨rule, by simp, hvalue⟩, hdenotes, fun other rule' hmem _ _ => ?_⟩
      rcases List.mem_append.mp hmem with hmem | hmem
      · exact hlast other rule' hmem
      · cases List.mem_singleton.mp hmem
        exact String.le_refl _
    · have hnone : DiagnosticId.Denotes key id → part rule = none := by
        intro hdenotes
        simpa [hdenotes] using hdecides
      have hsets : (overridesFor [(key, rule)] id).filterMap part = [] := by
        rw [List.filterMap_eq_nil_iff]
        intro rule' hmem
        obtain ⟨key', hkey', hdenotes⟩ := mem_overridesFor.mp hmem
        cases List.mem_singleton.mp hkey'
        exact hnone hdenotes
      rw [hsets, List.append_nil]
      rcases ih hkeys with ⟨key', ⟨rule', hmem, hpart⟩, hdenotes, hlast'⟩ | ⟨hnothing, hvalue⟩
      · refine Or.inl ⟨key', ⟨rule', List.mem_append_left _ hmem, hpart⟩, hdenotes, ?_⟩
        intro other rule'' hother hdenotes' hsome
        rcases List.mem_append.mp hother with hother | hother
        · exact hlast' other rule'' hother hdenotes' hsome
        · cases List.mem_singleton.mp hother
          rw [hnone hdenotes'] at hsome
          cases hsome
      · refine Or.inr ⟨fun other rule'' hother hdenotes => ?_, hvalue⟩
        rcases List.mem_append.mp hother with hother | hother
        · exact hnothing other rule'' hother hdenotes
        · cases List.mem_singleton.mp hother
          exact hnone hdenotes

end Decision

/-! ## Diagnostics -/

/-- A diagnostic says what the catalog makes of its condition and its arguments, at a node, and a
checker that names its condition looks at some event of the program. -/
structure Diagnostic.Conforms (analyzer : Analyzer) (p : Program) (diagnostic : Diagnostic) :
    Prop where
  enabled : (analyzer.catalog.setting diagnostic.id).enabled = true
  severity : diagnostic.severity = (analyzer.catalog.setting diagnostic.id).severity
  message : diagnostic.message = diagnostic.id.format diagnostic.args
  checker : ∃ events event checker, p.raisedEvents = .ok events ∧ event ∈ events ∧
    checker ∈ Checker.subscribers analyzer.checkers event.kind ∧
    diagnostic.id ∈ checker.conditions
  place : ∃ node, p.Has node ∧ p.location node = .ok diagnostic.location

theorem Finding.diagnostic?_conforms {finding : Finding} {catalog : Catalog} {p : Program}
    {diagnostic : Diagnostic} (h : finding.diagnostic? catalog p = .ok (some diagnostic)) :
    (catalog.setting diagnostic.id).enabled = true ∧
      diagnostic.severity = (catalog.setting diagnostic.id).severity ∧
      diagnostic.message = diagnostic.id.format diagnostic.args := by
  unfold Finding.diagnostic? at h
  obtain ⟨location, -, h⟩ := lookup_bind_eq_ok.mp h
  dsimp only at h
  split at h
  · rename_i henabled
    cases h
    exact ⟨henabled, rfl, rfl⟩
  · cases h

/-- Every report of every checker conforms to the catalog. -/
theorem Analyzer.conforms_of_mem_reportList {analyzer : Analyzer} {p : Program}
    {diagnostic : Diagnostic} (h : diagnostic ∈ analyzer.reportList p) :
    diagnostic.Conforms analyzer p := by
  obtain ⟨node, events, event, checker, findings, finding, hevents, hevent, hchecker, hfindings,
    hfinding, hreport, hnode⟩ := mem_reportList_iff.mp h
  obtain ⟨henabled, hseverity, hmessage⟩ := Finding.diagnostic?_conforms hreport
  obtain ⟨hid, hlocation⟩ := Finding.diagnostic?_eq_some hreport
  refine ⟨henabled, hseverity, hmessage, ⟨events, event, checker, hevents, hevent, hchecker, ?_⟩,
    finding.node, ?_, hlocation⟩
  · rw [hid]
    exact checker.inspect_only p _ event findings hfindings finding hfinding
  · obtain ⟨syntaxNode, -, hfetch, -⟩ := Program.location_eq_ok hlocation
    obtain ⟨hlt, -⟩ := Array.getElem?_eq_some_iff.mp (Program.fetch_eq_ok_iff.mp hfetch)
    exact hlt

namespace Analyzer

/-- A configuration is refused exactly if one of its keys denotes no condition. -/
theorem ofConfig_fails_iff (config : Config) :
    (∃ unknown, Analyzer.ofConfig config = .error unknown) ↔
      ∃ entry ∈ config.rules, ∀ id, ¬ DiagnosticId.Denotes entry.1 id := by
  have hdenotes : ∀ entry : String × RuleOverride,
      (∀ id, ¬ DiagnosticId.Denotes entry.1 id) ↔ ¬ (DiagnosticId.parse? entry.1).isSome := by
    intro entry
    simp only [← DiagnosticId.parse?_eq_some_iff_denotes, Option.isSome_iff_exists, not_exists]
  have hfails : (∃ unknown, Analyzer.ofConfig config = .error unknown) ↔
      ¬ ∃ catalog, Catalog.ofConfig config = .ok catalog := by
    unfold ofConfig
    cases Catalog.ofConfig config with
    | error unknown => exact ⟨fun _ ⟨_, h⟩ => (by cases h), fun _ => ⟨unknown, rfl⟩⟩
    | ok catalog => exact ⟨fun ⟨_, h⟩ => (by cases h), fun h => absurd ⟨catalog, rfl⟩ h⟩
  rw [hfails, Catalog.ofConfig, Catalog.withOverrides_eq_ok_iff]
  simp only [hdenotes, not_forall, exists_prop]

/-- The settings of a configuration are those of the last keys. -/
theorem effective_of_ofConfig {config : Config} {analyzer : Analyzer}
    (hkeys : KeysOrdered config.rules) (h : Analyzer.ofConfig config = .ok analyzer)
    (id : DiagnosticId) :
    Effective config.rules RuleOverride.enabled id (Catalog.builtin.setting id).enabled
        (analyzer.catalog.setting id).enabled ∧
      Effective config.rules RuleOverride.severity id (Catalog.builtin.setting id).severity
        (analyzer.catalog.setting id).severity := by
  obtain ⟨catalog, hcatalog, rfl⟩ := ofConfig_eq_ok_iff.mp h
  dsimp only
  rw [Catalog.setting_withOverrides hcatalog id, RuleSetting.enabled_foldl,
    RuleSetting.severity_foldl]
  exact ⟨effective_getLast? hkeys _, effective_getLast? hkeys _⟩

end Analyzer

namespace Program

/-- A configuration gives an analyzer unless a key denotes no condition. The settings of the
analyzer are then the effective ones, and in every loaded program all diagnostics of the analysis
conform to them. -/
theorem diagnostics_conform_to_catalog {config : Config} (hkeys : KeysOrdered config.rules) :
    ((∃ unknown, Analyzer.ofConfig config = .error unknown) ↔
      ∃ entry ∈ config.rules, ∀ id, ¬ DiagnosticId.Denotes entry.1 id) ∧
    ∀ analyzer, Analyzer.ofConfig config = .ok analyzer →
      (∀ id,
        Effective config.rules RuleOverride.enabled id (Catalog.builtin.setting id).enabled
          (analyzer.catalog.setting id).enabled ∧
        Effective config.rules RuleOverride.severity id (Catalog.builtin.setting id).severity
          (analyzer.catalog.setting id).severity) ∧
      ∀ p q : Program, p.check = .ok () → p.link = .ok q →
        ∃ all, analyzer.analyze q = .ok all ∧
          ∀ diagnostic ∈ all, diagnostic.Conforms analyzer q := by
  refine ⟨Analyzer.ofConfig_fails_iff config, fun analyzer hanalyzer =>
    ⟨Analyzer.effective_of_ofConfig hkeys hanalyzer, fun p q hcheck hlink => ?_⟩⟩
  have hq : q.Loaded := loaded_of_link hcheck hlink
  refine ⟨_, hq.analyze_eq analyzer, fun diagnostic hmem => ?_⟩
  exact Analyzer.conforms_of_mem_reportList (Diagnostic.mem_of_mem_canonical hmem)

/-- A configuration that disables two conditions by their codes, and enables one of them by its
name, as an error. -/
def reversedConfig : Config :=
  { framework := { hook := "Hook" }
    rules := [("CL0003", { enabled := some false }), ("CL0004", { enabled := some false }),
      ("CallOrigInHooks", { enabled := some true, severity := some .error })] }

/-- The text of `reversedConfig`. -/
def reversedText : String :=
  "framework:\n  hook: Hook\nrules:\n  CallOrigInHooks:\n    enabled: true\n    severity: error\n"
    ++ "  CL0004:\n    enabled: false\n  CL0003:\n    enabled: false\n"

theorem hookedRemoval_conforms :
    Config.ofYaml? reversedText = some reversedConfig ∧ hookedRemoval.check = .ok () ∧
      hookedRemoval.link = .ok hookedRemoval ∧
      ∃ analyzer all, Analyzer.ofConfig reversedConfig = .ok analyzer ∧
        analyzer.analyze hookedRemoval = .ok all ∧
        all.map (fun diagnostic => (diagnostic.id, diagnostic.severity)) =
          [(.callOrigInHooks, .error), (.dontUseCursorRemove, .warning)] ∧
        ∀ diagnostic ∈ all, diagnostic.Conforms analyzer hookedRemoval := by
  have htext : Config.ofYaml? reversedText = some reversedConfig := by decide +kernel
  have hcheck : hookedRemoval.check = .ok () := by decide +kernel
  have hlink : hookedRemoval.link = .ok hookedRemoval := by decide +kernel
  obtain ⟨analyzer, reports, hanalyzer, hcollect, hsorted, hlisted⟩ :
      ∃ analyzer reports, Analyzer.ofConfig reversedConfig = .ok analyzer ∧
        analyzer.collect hookedRemoval = .ok reports ∧
        reports.Pairwise (fun a b => Diagnostic.le a b) ∧
        (Diagnostic.dropRepeats reports).map
            (fun diagnostic => (diagnostic.id, diagnostic.severity)) =
          [(.callOrigInHooks, .error), (.dontUseCursorRemove, .warning)] :=
    ⟨_, _, rfl, rfl, by decide +kernel, by decide +kernel⟩
  have hanalyze : analyzer.analyze hookedRemoval = .ok (Diagnostic.dropRepeats reports) := by
    rw [← Diagnostic.canonical_of_pairwise hsorted]
    exact lookup_bind_eq_ok.mpr ⟨reports, hcollect, rfl⟩
  obtain ⟨-, hconforms⟩ := diagnostics_conform_to_catalog (Config.keysOrdered_of_ofYaml? htext)
  obtain ⟨all, hall, hmembers⟩ := (hconforms analyzer hanalyzer).2 _ _ hcheck hlink
  rw [hanalyze] at hall
  cases hall
  exact ⟨htext, hcheck, hlink, analyzer, _, hanalyzer, hanalyze, hlisted, hmembers⟩

end Program

end ModLint
