import ModLint.Proofs.Keys
import ModLint.Proofs.Overrides
import ModLint.Proofs.Reports

/-!
# Checkers do not disturb each other

Every condition belongs to one checker. Reports on a place therefore all come from one checker, and
which of them is the first depends on nothing but this checker and the order of the events: not on
the other checkers, nor on how often and where it stands in their list. So an analysis with other
checkers lists those diagnostics of the full analysis whose conditions belong to these checkers. In
the same way an analysis in which conditions are disabled lists those whose conditions are not.
-/

namespace ModLint

/-! ## Conditions and checkers -/

/-- Every condition belongs to exactly one checker. -/
theorem Checker.exists_owner (id : DiagnosticId) :
    ∃ owner : Checker, ∀ checker : Checker, id ∈ checker.conditions ↔ checker = owner := by
  have hall : ∀ id ∈ DiagnosticId.all, ∃ owner ∈ builtin, ∀ checker ∈ builtin,
      id ∈ checker.conditions ↔ checker = owner := by decide
  have hid : id ∈ DiagnosticId.all := by cases id <;> decide
  obtain ⟨owner, -, howner⟩ := hall id hid
  refine ⟨owner, fun checker => howner checker ?_⟩
  cases checker <;> decide

theorem Checker.mem_builtin (checker : Checker) : checker ∈ builtin := by
  cases checker <;> decide

namespace Analyzer

/-- A checker reports the conditions that it names and no other ones. -/
theorem id_mem_of_mem_found {analyzer : Analyzer} {p : Program} {event : Event} {checker : Checker}
    {diagnostic : Diagnostic} (h : diagnostic ∈ analyzer.found p event checker) :
    diagnostic.id ∈ checker.conditions := by
  obtain ⟨finding, hfinding, hreport⟩ := List.mem_filterMap.mp h
  obtain ⟨findings, hfindings, hfinding⟩ := Lookup.mem_items.mp hfinding
  rw [Finding.report?_eq_some_iff] at hreport
  rw [(Finding.diagnostic?_eq_some hreport).1]
  exact checker.inspect_only p _ event findings hfindings finding hfinding

end Analyzer

/-! ## First reports -/

theorem Diagnostic.id_eq_of_place_eq {a b : Diagnostic} (h : a.place = b.place) : a.id = b.id :=
  DiagnosticId.code_injective (congrArg (fun place => place.2.2.1) h)

/-- The first report on a place is the first one that the checker for its condition makes, if this
is one of the checkers. -/
theorem Analyzer.find?_reportList (analyzer : Analyzer) (p : Program) {a : Diagnostic}
    {owner : Checker} (howner : ∀ checker : Checker, a.id ∈ checker.conditions ↔ checker = owner) :
    (analyzer.reportList p).find? (fun b => b.place = a.place) =
      if owner ∈ analyzer.checkers then
        (Lookup.items p.raisedEvents).findSome? fun event =>
          if event.kind ∈ owner.eventKinds then
            (analyzer.found p event owner).find? fun b => b.place = a.place
          else none
      else none := by
  have hother : ∀ event checker, checker ≠ owner →
      (analyzer.found p event checker).find? (fun b => b.place = a.place) = none := by
    intro event checker hne
    rw [List.find?_eq_none]
    intro b hb hplace
    have hid := id_mem_of_mem_found hb
    rw [Diagnostic.id_eq_of_place_eq (of_decide_eq_true hplace)] at hid
    exact hne ((howner checker).mp hid)
  have hevent : ∀ event : Event,
      ((Checker.subscribers analyzer.checkers event.kind).flatMap (analyzer.found p event)).find?
        (fun b => b.place = a.place) =
      if owner ∈ analyzer.checkers then
        if event.kind ∈ owner.eventKinds then
          (analyzer.found p event owner).find? fun b => b.place = a.place
        else none
      else none := by
    intro event
    rw [List.find?_flatMap, findSome?_eq_of_unique (hother event)]
    by_cases hmem : owner ∈ analyzer.checkers <;> by_cases hkind : event.kind ∈ owner.eventKinds <;>
      simp [Checker.subscribers, hmem, hkind]
  rw [reportList, List.find?_flatMap]
  simp only [hevent]
  split
  · rfl
  · simp

/-! ## Paths of reports -/

theorem Analyzer.plainPath_of_mem_reportList {analyzer : Analyzer} {p : Program}
    (hplain : ∀ file ∈ p.files, '|' ∉ file.path.toList) {diagnostic : Diagnostic}
    (h : diagnostic ∈ analyzer.reportList p) : diagnostic.PlainPath := by
  obtain ⟨node, _, _, _, _, finding, -, -, -, -, -, hreport, -⟩ := mem_reportList_iff.mp h
  obtain ⟨-, hlocation⟩ := Finding.diagnostic?_eq_some hreport
  obtain ⟨node, file, -, hfile, hlocation⟩ := Program.location_eq_ok hlocation
  have hmem := Array.mem_of_getElem? (Program.fetch_eq_ok_iff.mp hfile)
  rw [Diagnostic.PlainPath, Diagnostic.file, hlocation]
  exact hplain file hmem

/-! ## Other checkers -/

/-- With other checkers those diagnostics are listed whose conditions belong to them. -/
theorem Analyzer.canonical_checkers {p : Program}
    (hplain : ∀ file ∈ p.files, '|' ∉ file.path.toList) (catalog : Catalog) (config : Config)
    (checkers : List Checker) :
    Diagnostic.canonical (Analyzer.reportList { checkers, catalog, config } p) =
      (Diagnostic.canonical (Analyzer.reportList { catalog, config } p)).filter
        fun diagnostic => diagnostic.id ∈ checkers.flatMap Checker.conditions := by
  refine Diagnostic.canonical_eq_filter
    (fun _ hreport => plainPath_of_mem_reportList hplain hreport)
    (fun _ hreport => plainPath_of_mem_reportList hplain hreport) fun a => ?_
  obtain ⟨owner, howner⟩ := Checker.exists_owner a.id
  have hmem : a.id ∈ checkers.flatMap Checker.conditions ↔ owner ∈ checkers := by
    rw [List.mem_flatMap]
    constructor
    · rintro ⟨checker, hchecker, hid⟩
      rwa [← (howner checker).mp hid]
    · intro hchecker
      exact ⟨owner, hchecker, (howner owner).mpr rfl⟩
  rw [find?_reportList _ p howner, find?_reportList _ p howner, if_pos owner.mem_builtin,
    decide_eq_true_eq, hmem]
  by_cases hchecker : owner ∈ checkers
  · rw [if_pos hchecker, and_iff_left hchecker]
    exact Iff.rfl
  · rw [if_neg hchecker]
    constructor
    · intro hfirst
      cases hfirst
    · intro hfirst
      exact absurd hfirst.2 hchecker

/-! ## Fewer conditions -/

theorem Finding.report?_eq (finding : Finding) (catalog : Catalog) (p : Program) :
    finding.report? catalog p = (p.location finding.node).toOption.bind fun location =>
      if (catalog.setting finding.id).enabled then
        some
          { id := finding.id, severity := (catalog.setting finding.id).severity, location
            message := finding.id.format finding.args, args := finding.args }
      else none := by
  unfold Finding.report? Finding.diagnostic?
  cases p.location finding.node with
  | error fault => rfl
  | ok location =>
    dsimp only [bind, Except.bind]
    cases (catalog.setting finding.id).enabled <;> rfl

/-- Where conditions are disabled, a finding is reported as before unless it is of one of them. -/
theorem Finding.report?_disabled {catalog catalog' : Catalog} {off : List DiagnosticId}
    (hkept : ∀ id, id ∉ off → catalog'.setting id = catalog.setting id)
    (hdisabled : ∀ id ∈ off, (catalog'.setting id).enabled = false) (finding : Finding)
    (p : Program) :
    finding.report? catalog' p =
      (finding.report? catalog p).filter fun diagnostic => diagnostic.id ∉ off := by
  rw [report?_eq, report?_eq]
  cases (p.location finding.node).toOption with
  | none => rfl
  | some location =>
    simp only [Option.bind_some]
    by_cases hid : finding.id ∈ off
    · rw [hdisabled _ hid, if_neg Bool.false_ne_true]
      split <;> simp [Option.filter_some, hid]
    · rw [hkept _ hid]
      split <;> simp [Option.filter_some, hid]

theorem Analyzer.reportList_disabled {catalog catalog' : Catalog} {config config' : Config}
    {off : List DiagnosticId} (hframework : config'.framework = config.framework)
    (hkept : ∀ id, id ∉ off → catalog'.setting id = catalog.setting id)
    (hdisabled : ∀ id ∈ off, (catalog'.setting id).enabled = false) (checkers : List Checker)
    (p : Program) :
    Analyzer.reportList { checkers, catalog := catalog', config := config' } p =
      (Analyzer.reportList { checkers, catalog, config } p).filter
        fun diagnostic => diagnostic.id ∉ off := by
  have hfound : ∀ event checker,
      Analyzer.found { checkers, catalog := catalog', config := config' } p event checker =
        (Analyzer.found { checkers, catalog, config } p event checker).filter
          fun diagnostic => diagnostic.id ∉ off := by
    intro event checker
    rw [found, found, hframework, List.filter_filterMap]
    congr 1
    funext finding
    exact finding.report?_disabled hkept hdisabled p
  rw [reportList, reportList, List.filter_flatMap]
  congr 1
  funext event
  rw [List.filter_flatMap, funext (hfound event)]

theorem Analyzer.ofConfig_eq_ok_iff {config : Config} {analyzer : Analyzer} :
    Analyzer.ofConfig config = .ok analyzer ↔
      ∃ catalog, Catalog.ofConfig config = .ok catalog ∧ analyzer = { catalog, config } := by
  unfold ofConfig
  cases Catalog.ofConfig config with
  | error unknown =>
    constructor
    · intro h
      cases h
    · rintro ⟨catalog, hcatalog, -⟩
      cases hcatalog
  | ok catalog =>
    constructor
    · intro h
      cases h
      exact ⟨catalog, rfl, rfl⟩
    · rintro ⟨_, hcatalog, rfl⟩
      cases hcatalog
      rfl

namespace Program

/-- The analysis with any list of checkers lists those diagnostics of the full analysis whose
conditions belong to them; the analysis with some conditions disabled, in whatever way the overrides
do it, lists those whose conditions are not disabled. -/
theorem checkers_are_independent {p q : Program} (hcheck : p.check = .ok ())
    (hlink : p.link = .ok q) (hplain : ∀ file ∈ q.files, '|' ∉ file.path.toList)
    {config : Config} {analyzer : Analyzer} (hconfig : Analyzer.ofConfig config = .ok analyzer) :
    ∃ all, analyzer.analyze q = .ok all ∧
      (∀ checkers : List Checker, Analyzer.analyze { analyzer with checkers } q =
        .ok (all.filter fun diagnostic => diagnostic.id ∈ checkers.flatMap Checker.conditions)) ∧
      ∀ off : List DiagnosticId, config.Disabling off (config.disableAll off) ∧
        ∀ config', config.Disabling off config' →
          ∃ analyzer', Analyzer.ofConfig config' = .ok analyzer' ∧
            analyzer'.analyze q = .ok (all.filter fun diagnostic => diagnostic.id ∉ off) := by
  have hq : q.Loaded := loaded_of_link hcheck hlink
  obtain ⟨catalog, hcatalog, rfl⟩ := Analyzer.ofConfig_eq_ok_iff.mp hconfig
  refine ⟨_, hq.analyze_eq _, fun checkers => ?_, fun off => ⟨?_, fun config' hdisabling => ?_⟩⟩
  · rw [hq.analyze_eq, Analyzer.canonical_checkers hplain]
  · have hknown := (Catalog.builtin.withOverrides_eq_ok_iff config.rules).mp ⟨catalog, hcatalog⟩
    exact Config.disabling_disableAll hknown off
  · obtain ⟨catalog', hcatalog', hkept, hdisabled⟩ := hdisabling.catalog hcatalog
    refine ⟨_, Analyzer.ofConfig_eq_ok_iff.mpr ⟨catalog', hcatalog', rfl⟩, ?_⟩
    have hreports : Analyzer.reportList { catalog := catalog', config := config' } q =
        (Analyzer.reportList { catalog, config } q).filter fun diagnostic => diagnostic.id ∉ off :=
      Analyzer.reportList_disabled hdisabling.framework hkept hdisabled Checker.builtin q
    have hplace : ∀ a b : Diagnostic, a.place = b.place →
        decide (a.id ∉ off) = decide (b.id ∉ off) := by
      intro a b hplace
      rw [Diagnostic.id_eq_of_place_eq hplace]
    rw [hq.analyze_eq, hreports, Diagnostic.canonical_filter _ hplace]
    exact fun _ hreport => Analyzer.plainPath_of_mem_reportList hplain hreport

/-- A program of three statements: a lambda that does not call what it replaces is registered as a
hook, and a cursor removes instructions. -/
def hookedRemoval : Program :=
  let nodes : List (Option NodeId × NodeKind) :=
    [(none, .compilationUnit [⟨1⟩, ⟨5⟩]), (some ⟨0⟩, .objectCreation "Hook" [⟨2⟩, ⟨3⟩] (some ⟨0⟩)),
      (some ⟨1⟩, .identifier "target" none),
      (some ⟨1⟩, .anonymousFunction .lambda [] [] ⟨4⟩ (some ⟨0⟩)), (some ⟨3⟩, .block []),
      (some ⟨0⟩, .invocation ⟨6⟩ [] (some ⟨1⟩) []), (some ⟨5⟩, .identifier "Remove" none)]
  { assembly := "Mod"
    files := #[{ path := "Patch.cs" }]
    namespaces := #[{ name := "MonoMod" }, { name := "Cil", parent := some ⟨0⟩ }]
    types := #[{ name := "Hook", assembly := "Loader" },
      { name := "ILCursor", nameSpace := some ⟨1⟩, assembly := "MonoMod" }]
    methods := #[
      { name := "", kind := .anonymousFunction, parameters := [{ name := "orig" }]
        declaration := some ⟨3⟩ },
      { name := "Remove", containingType := some ⟨1⟩ }]
    nodes := (nodes.mapIdx fun i (parent, kind) =>
      { file := ⟨0⟩
        span := { startByte := i, endByte := i + 1, startLine := 1, startColumn := i + 1 }
        parent
        kind }).toArray }

/-- A configuration in which two keys denote one condition. -/
def doubledConfig : Config :=
  { framework := { hook := "Hook" }
    rules := [("CL0003", { enabled := some false }),
      ("CallOrigInHooks", { enabled := some true, severity := some .error })] }

theorem hookedRemoval_checkers_are_independent :
    hookedRemoval.check = .ok () ∧ hookedRemoval.link = .ok hookedRemoval ∧
      (∀ file ∈ hookedRemoval.files, '|' ∉ file.path.toList) ∧
      ∃ analyzer all, Analyzer.ofConfig doubledConfig = .ok analyzer ∧
        analyzer.analyze hookedRemoval = .ok all ∧
        Analyzer.analyze { analyzer with checkers := [.tracker, .hooks, .hooks] } hookedRemoval =
          .ok (all.filter fun diagnostic => diagnostic.id ∈
            Check.Tracker.conditions ++ Check.Hooks.conditions ++ Check.Hooks.conditions) ∧
        ∃ analyzer', Analyzer.ofConfig (doubledConfig.disableAll [.callOrigInHooks]) =
            .ok analyzer' ∧
          analyzer'.analyze hookedRemoval =
            .ok (all.filter fun diagnostic => diagnostic.id ∉ [.callOrigInHooks]) := by
  have hcheck : hookedRemoval.check = .ok () := by decide +kernel
  have hlink : hookedRemoval.link = .ok hookedRemoval := by decide +kernel
  have hplain : ∀ file ∈ hookedRemoval.files, '|' ∉ file.path.toList := by decide +kernel
  obtain ⟨analyzer, hanalyzer⟩ : ∃ analyzer, Analyzer.ofConfig doubledConfig = .ok analyzer :=
    ⟨_, rfl⟩
  obtain ⟨all, hall, hsome, hoff⟩ := checkers_are_independent hcheck hlink hplain hanalyzer
  obtain ⟨hdisabling, hless⟩ := hoff [.callOrigInHooks]
  exact ⟨hcheck, hlink, hplain, analyzer, all, hanalyzer, hall, hsome _, hless _ hdisabling⟩

end Program

end ModLint
