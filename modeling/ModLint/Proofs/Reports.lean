import ModLint.Proofs.Safety

/-!
# What an analysis collects

In a loaded program no look-up of an analysis meets a fault. What it collects can then be written
as plain lists, event by event and checker by checker, and every report can be traced back to the
finding it was made from. A checker finds nothing but the conditions that it names, so that a
report also tells which checker made it.
-/

namespace ModLint

theorem mapM_eq_ok {α β : Type} {xs : List α} {f : α → Lookup β} {g : α → β}
    (h : ∀ a ∈ xs, f a = .ok (g a)) : xs.mapM f = .ok (xs.map g) := by
  induction xs with
  | nil => rfl
  | cons a xs ih =>
    rw [List.mapM_cons, h a (by simp), ih fun a' ha' => h a' (by simp [ha'])]
    rfl

theorem exists_of_mem_mapM {α β : Type} {xs : List α} {f : α → Lookup β} {ys : List β}
    (h : xs.mapM f = .ok ys) {y : β} (hy : y ∈ ys) : ∃ x ∈ xs, f x = .ok y := by
  induction xs generalizing ys with
  | nil =>
    cases h
    cases hy
  | cons x xs ih =>
    rw [List.mapM_cons] at h
    obtain ⟨z, hz, h⟩ := lookup_bind_eq_ok.mp h
    obtain ⟨zs, hzs, h⟩ := lookup_bind_eq_ok.mp h
    cases h
    rcases List.mem_cons.mp hy with rfl | hy
    · exact ⟨x, by simp, hz⟩
    · obtain ⟨x', hx', hok⟩ := ih hzs hy
      exact ⟨x', by simp [hx'], hok⟩

theorem filterMapM_eq_ok {α β : Type} {xs : List α} {f : α → Lookup (Option β)}
    {g : α → Option β} (h : ∀ a ∈ xs, f a = .ok (g a)) :
    xs.filterMapM f = .ok (xs.filterMap g) := by
  induction xs with
  | nil => rfl
  | cons a xs ih =>
    rw [List.filterMapM_cons, h a (by simp), ih fun a' ha' => h a' (by simp [ha']),
      List.filterMap_cons]
    cases hg : g a <;> rfl

/-- A search in which only one item can succeed succeeds where this item does. -/
theorem findSome?_eq_of_unique {α β : Type} [DecidableEq α] {f : α → Option β} {owner : α}
    (h : ∀ a, a ≠ owner → f a = none) (xs : List α) :
    xs.findSome? f = if owner ∈ xs then f owner else none := by
  induction xs with
  | nil => rfl
  | cons a xs ih =>
    rw [List.findSome?_cons, ih]
    by_cases ha : a = owner
    · subst ha
      cases f a <;> simp
    · have howner : ¬ owner = a := fun heq => ha heq.symm
      simp [h a ha, howner]

/-! ## Findings of a checker -/

/-- A look-up that answers, if at all, with findings of some conditions only. -/
def FindsOnly (conditions : List DiagnosticId) (x : Lookup (List Finding)) : Prop :=
  ∀ findings, x = .ok findings → ∀ finding ∈ findings, finding.id ∈ conditions

namespace FindsOnly

variable {conditions : List DiagnosticId}

theorem pure {findings : List Finding} (h : ∀ finding ∈ findings, finding.id ∈ conditions) :
    FindsOnly conditions (Pure.pure findings) := by
  rintro _ ⟨⟩
  exact h

theorem nil : FindsOnly conditions (Pure.pure []) :=
  pure (by simp)

theorem single {id : DiagnosticId} (h : id ∈ conditions) (node : NodeId) (args : List String) :
    FindsOnly conditions (Pure.pure [⟨id, node, args⟩]) :=
  pure (by simpa using h)

theorem bind {α : Type} {x : Lookup α} {f : α → Lookup (List Finding)}
    (h : ∀ a, x = .ok a → FindsOnly conditions (f a)) : FindsOnly conditions (x >>= f) := by
  intro findings hok
  obtain ⟨a, ha, hfa⟩ := lookup_bind_eq_ok.mp hok
  exact h a ha findings hfa

theorem mono {conditions' : List DiagnosticId} {x : Lookup (List Finding)}
    (h : FindsOnly conditions x) (hsub : conditions ⊆ conditions') : FindsOnly conditions' x := by
  intro findings hok finding hf
  exact hsub (h findings hok finding hf)

end FindsOnly

namespace Check.Hooks

theorem origFindings_only (p : Program) (site : HookSite) (orig : ParameterSymbol) (body : NodeId)
    (sequence : Bool) :
    FindsOnly [.callOrigInHooks, .dontYieldReturnOrig]
      (origFindings p site orig body sequence) := by
  have hcall : FindsOnly [.callOrigInHooks, .dontYieldReturnOrig]
      (callFindings p site orig body) := by
    unfold callFindings
    refine .bind fun ids _ => .bind fun calls _ => ?_
    split
    · exact .nil
    · exact .bind fun name _ => .single (by decide) _ _
  have hyield : FindsOnly [.callOrigInHooks, .dontYieldReturnOrig]
      (yieldFindings p orig body) := by
    unfold yieldFindings
    refine .bind fun ids _ => .bind fun yielded _ => .pure fun finding hf => ?_
    obtain ⟨id, -, rfl⟩ := List.mem_map.mp hf
    simp
  unfold origFindings
  refine .bind fun missing hmissing => ?_
  split
  · refine .bind fun yielded hyielded => .pure fun finding hf => ?_
    rcases List.mem_append.mp hf with hf | hf
    · exact hcall missing hmissing finding hf
    · exact hyield yielded hyielded finding hf
  · exact .pure (hcall missing hmissing)

/-- What is found about a replacement is that it needs an instance, if it does, and what is found
about its use of the replaced method. -/
theorem mem_siteFindings {p : Program} {names : FrameworkNames} {site : HookSite}
    {findings : List Finding} (h : siteFindings p names site = .ok findings) {finding : Finding}
    (hf : finding ∈ findings) :
    (∃ method, p.method site.method = .ok method ∧ method.isStatic = false ∧
      finding = ⟨.hooksShouldBeStatic, site.declaration, [methodName method]⟩) ∨
      finding.id ∈ [DiagnosticId.callOrigInHooks, .dontYieldReturnOrig] := by
  unfold siteFindings at h
  obtain ⟨method, hmethod, h⟩ := lookup_bind_eq_ok.mp h
  obtain ⟨node, -, h⟩ := lookup_bind_eq_ok.mp h
  obtain ⟨sequence, -, h⟩ := lookup_bind_eq_ok.mp h
  have hinstance : finding ∈ (if method.isStatic then []
      else [⟨.hooksShouldBeStatic, site.declaration, [methodName method]⟩] : List Finding) →
      ∃ method, p.method site.method = .ok method ∧ method.isStatic = false ∧
        finding = ⟨.hooksShouldBeStatic, site.declaration, [methodName method]⟩ := by
    intro hmem
    cases hstatic : method.isStatic with
    | true => simp [hstatic] at hmem
    | false => exact ⟨method, hmethod, hstatic, by simpa [hstatic] using hmem⟩
  dsimp only at h
  split at h
  · obtain ⟨context, -, h⟩ := lookup_bind_eq_ok.mp h
    split at h
    · cases h
      exact Or.inl (hinstance hf)
    · split at h
      · obtain ⟨uses, huses, h⟩ := lookup_bind_eq_ok.mp h
        cases h
        rcases List.mem_append.mp hf with hf | hf
        · exact Or.inl (hinstance hf)
        · exact Or.inr (origFindings_only p site _ _ _ uses huses finding hf)
      · cases h
        exact Or.inl (hinstance hf)
  · cases h
    exact Or.inl (hinstance hf)

theorem siteFindings_only (p : Program) (names : FrameworkNames) (site : HookSite) :
    FindsOnly conditions (siteFindings p names site) := by
  intro findings hfindings finding hf
  rcases mem_siteFindings hfindings hf with ⟨method, -, -, rfl⟩ | hid
  · simp [conditions]
  · exact List.mem_cons_of_mem _ hid

theorem inspect_only (p : Program) (names : FrameworkNames) (event : Event) :
    FindsOnly conditions (inspect p names event) := by
  unfold inspect
  refine .bind fun site? _ => ?_
  split
  · exact .nil
  · exact siteFindings_only p names _

end Check.Hooks

namespace Check.Cursor

theorem inspect_only (p : Program) (names : FrameworkNames) (event : Event) :
    FindsOnly conditions (inspect p names event) := by
  have hemit : ∀ emit argument, FindsOnly conditions (emitFindings p emit argument) := by
    intro emit argument
    unfold emitFindings
    refine .bind fun node _ => ?_
    split
    · exact .single (by decide) _ _
    · refine .bind fun method _ => ?_
      split
      · exact .single (by decide) _ _
      · exact .nil
    · exact .nil
  have hcall : ∀ methods id name arguments,
      FindsOnly conditions (callFindings p methods id name arguments) := by
    intro methods id name arguments
    unfold callFindings
    split
    · split
      · exact hemit _ _
      · exact .nil
    · split
      · exact .single (by decide) _ _
      · split
        · exact .single (by decide) _ _
        · exact .nil
  unfold inspect
  split
  · refine .bind fun node _ => ?_
    split
    · refine .bind fun method _ => ?_
      split
      · exact .nil
      · split
        · refine .bind fun full _ => ?_
          split
          · exact hcall _ _ _ _
          · exact .nil
        · exact .nil
    · exact .nil
  · exact .nil

end Check.Cursor

namespace Check.Entity

/-- The conditions that may be found about a declared type. -/
def typeConditions : List DiagnosticId :=
  [.customEntityWithNoValidCtor, .customEntityNotExtendingEntity,
    .customEntityGeneratorMethodMissing, .customEntityGeneratorInvalidParams,
    .customEntityGeneratorInvalid, .customEntityNoIDs]

theorem generatorFindings_only (p : Program) (names : FrameworkNames) (symbol : TypeSymbol)
    (declaration : NodeId) (name : String) :
    FindsOnly typeConditions (generatorFindings p names symbol declaration name) := by
  unfold generatorFindings
  refine .bind fun found? _ => ?_
  split
  · exact .single (by decide) _ _
  · refine .bind fun method _ => .bind fun entity _ => .bind fun callable _ => .pure ?_
    intro finding hf
    rcases List.mem_append.mp hf with hf | hf
    · split at hf <;> simp_all [typeConditions]
    · split at hf <;> simp_all [typeConditions]

theorem idFindings_only (p : Program) (names : FrameworkNames) (symbol : TypeSymbol)
    (declaration : NodeId) (data : AttributeData) :
    FindsOnly typeConditions (idFindings p names symbol declaration data) := by
  unfold idFindings
  refine .bind fun generators hgenerators => .bind fun constructible _ => .pure fun finding hf => ?_
  rcases List.mem_append.mp hf with hf | hf
  · rcases List.mem_append.mp hf with hf | hf
    · split at hf <;> simp_all [typeConditions]
    · obtain ⟨found, hfound, hf⟩ := List.mem_flatten.mp hf
      obtain ⟨name, -, hname⟩ := exists_of_mem_mapM hgenerators hfound
      exact generatorFindings_only p names symbol declaration name found hname finding hf
  · split at hf <;> simp_all [typeConditions]

theorem typeFindings_only (p : Program) (names : FrameworkNames) (id : TypeId) :
    FindsOnly typeConditions (typeFindings p names id) := by
  unfold typeFindings
  refine .bind fun data? _ => ?_
  split
  · refine .bind fun symbol _ => ?_
    split
    · refine .bind fun isEntity _ => ?_
      split
      · exact idFindings_only p names _ _ _
      · exact .single (by decide) _ _
    · exact .nil
  · exact .nil

theorem inspect_only (p : Program) (names : FrameworkNames) (event : Event) :
    FindsOnly conditions (inspect p names event) := by
  cases event with
  | namedType id => exact (typeFindings_only p names id).mono (by decide)
  | propertyReference id =>
    unfold inspect propertyFindings
    refine .bind fun node _ => ?_
    split
    · refine .bind fun property _ => .bind fun scene _ => ?_
      split
      · refine .bind fun kind? _ => ?_
        split
        · exact .single (by decide) _ _
        · exact .nil
      · exact .nil
    · exact .nil
  | _ => exact .nil

end Check.Entity

namespace Check.Tracker

theorem inspect_only (p : Program) (names : FrameworkNames) (event : Event) :
    FindsOnly conditions (inspect p names event) := by
  cases event with
  | namedType id =>
    unfold inspect typeFindings
    refine .bind fun data? _ => ?_
    split
    · split
      · refine .bind fun full _ => .bind fun isTarget _ => ?_
        split
        · exact .nil
        · refine .bind fun symbol _ => ?_
          split
          · exact .bind fun name _ => .single (by decide) _ _
          · exact .nil
      · exact .nil
    · exact .nil
  | invocation id =>
    have hcall : ∀ owner name used,
        FindsOnly conditions (callFindings p names id owner name used) := by
      intro owner name used
      unfold callFindings
      refine .bind fun ownerName _ => .bind fun usedName _ => ?_
      split
      · split
        · exact .nil
        · refine .bind fun tracked _ => ?_
          split
          · exact .nil
          · exact .single (by decide) _ _
      · split
        · refine .bind fun tracked _ => ?_
          split
          · exact .single (by decide) _ _
          · refine .bind fun isLocal _ => ?_
            split
            · exact .single (by decide) _ _
            · exact .nil
        · exact .nil
    unfold inspect invocationFindings
    refine .bind fun node _ => ?_
    split
    · refine .bind fun method _ => ?_
      split
      · exact .nil
      · split
        · split
          · exact hcall _ _ _
          · exact .nil
        · exact .nil
    · exact .nil
  | _ => exact .nil

end Check.Tracker

/-- A checker finds the conditions that it names and no other ones. -/
theorem Checker.inspect_only (checker : Checker) (p : Program) (names : FrameworkNames)
    (event : Event) : FindsOnly checker.conditions (checker.inspect p names event) := by
  cases checker with
  | hooks => exact Check.Hooks.inspect_only p names event
  | ilCursor => exact Check.Cursor.inspect_only p names event
  | entity => exact Check.Entity.inspect_only p names event
  | tracker => exact Check.Tracker.inspect_only p names event

/-! ## Reports as plain lists -/

/-- The answer to a look-up, or the empty list. -/
def Lookup.items {α : Type} (x : Lookup (List α)) : List α :=
  x.toOption.getD []

theorem Lookup.items_ok {α : Type} {x : Lookup (List α)} {xs : List α} (h : x = .ok xs) :
    Lookup.items x = xs := by
  rw [h]
  rfl

theorem Lookup.mem_items {α : Type} {x : Lookup (List α)} {a : α} :
    a ∈ Lookup.items x ↔ ∃ xs, x = .ok xs ∧ a ∈ xs := by
  cases x with
  | error fault =>
    constructor
    · intro ha
      cases ha
    · rintro ⟨xs, hxs, -⟩
      cases hxs
  | ok xs =>
    constructor
    · intro ha
      exact ⟨xs, rfl, ha⟩
    · rintro ⟨ys, hys, ha⟩
      cases hys
      exact ha

/-- The diagnostic for a finding, if it can be made and is reported. -/
def Finding.report? (finding : Finding) (catalog : Catalog) (p : Program) : Option Diagnostic :=
  (finding.diagnostic? catalog p).toOption.join

theorem Finding.report?_eq_some_iff {finding : Finding} {catalog : Catalog} {p : Program}
    {diagnostic : Diagnostic} : finding.report? catalog p = some diagnostic ↔
      finding.diagnostic? catalog p = .ok (some diagnostic) := by
  unfold Finding.report?
  cases finding.diagnostic? catalog p with
  | error fault => simp [Except.toOption]
  | ok report? => simp [Except.toOption]

namespace Analyzer

/-- What a checker reports at an event. -/
def found (analyzer : Analyzer) (p : Program) (event : Event) (checker : Checker) :
    List Diagnostic :=
  (Lookup.items (checker.inspect p analyzer.config.framework event)).filterMap
    fun finding => finding.report? analyzer.catalog p

/-- What the checkers report at the events of a program, in order. -/
def reportList (analyzer : Analyzer) (p : Program) : List Diagnostic :=
  (Lookup.items p.raisedEvents).flatMap fun event =>
    (Checker.subscribers analyzer.checkers event.kind).flatMap (analyzer.found p event)

/-- A diagnostic that is reported at a node: at an event of the program, a checker that looks at
this kind of events finds something at the node, and this is the diagnostic for it. -/
def ReportedAt (analyzer : Analyzer) (p : Program) (diagnostic : Diagnostic) (node : NodeId) :
    Prop :=
  ∃ events event checker findings finding, p.raisedEvents = .ok events ∧ event ∈ events ∧
    checker ∈ Checker.subscribers analyzer.checkers event.kind ∧
    checker.inspect p analyzer.config.framework event = .ok findings ∧ finding ∈ findings ∧
    finding.diagnostic? analyzer.catalog p = .ok (some diagnostic) ∧ finding.node = node

/-- A diagnostic is collected exactly if it is reported at a node. -/
theorem mem_reportList_iff {analyzer : Analyzer} {p : Program} {diagnostic : Diagnostic} :
    diagnostic ∈ analyzer.reportList p ↔ ∃ node, analyzer.ReportedAt p diagnostic node := by
  simp only [reportList, found, List.mem_flatMap, List.mem_filterMap,
    Lookup.mem_items, Finding.report?_eq_some_iff]
  constructor
  · rintro ⟨event, ⟨events, hevents, hevent⟩, checker, hchecker, finding,
      ⟨findings, hfindings, hfinding⟩, hreport⟩
    exact ⟨finding.node, events, event, checker, findings, finding, hevents, hevent, hchecker,
      hfindings, hfinding, hreport, rfl⟩
  · rintro ⟨node, events, event, checker, findings, finding, hevents, hevent, hchecker, hfindings,
      hfinding, hreport, -⟩
    exact ⟨event, ⟨events, hevents, hevent⟩, checker, hchecker, finding,
      ⟨findings, hfindings, hfinding⟩, hreport⟩

end Analyzer

theorem Program.location_eq_ok {p : Program} {id : NodeId} {location : Location}
    (h : p.location id = .ok location) :
    ∃ node file, p.node id = .ok node ∧ p.file node.file = .ok file ∧
      location = { file := file.path, span := node.span } := by
  unfold Program.location at h
  obtain ⟨node, hnode, h⟩ := lookup_bind_eq_ok.mp h
  obtain ⟨file, hfile, h⟩ := lookup_bind_eq_ok.mp h
  cases h
  exact ⟨node, file, hnode, hfile, rfl⟩

/-- A diagnostic takes its condition and its arguments from its finding, its place from the node. -/
theorem Finding.diagnostic?_eq_some {finding : Finding} {catalog : Catalog} {p : Program}
    {diagnostic : Diagnostic} (h : finding.diagnostic? catalog p = .ok (some diagnostic)) :
    diagnostic.id = finding.id ∧ p.location finding.node = .ok diagnostic.location := by
  unfold Finding.diagnostic? at h
  obtain ⟨location, hlocation, h⟩ := lookup_bind_eq_ok.mp h
  dsimp only at h
  split at h
  · cases h
    exact ⟨rfl, hlocation⟩
  · cases h

namespace Program.Loaded

variable {p : Program} (h : p.Loaded)

include h

theorem raisedEvents_eq : p.raisedEvents = .ok (Lookup.items p.raisedEvents) := by
  obtain ⟨events, hevents, -⟩ := h.raisedEvents
  rw [Lookup.items_ok hevents, hevents]

theorem inRange_of_mem_raisedEvents {event : Event} (hevent : event ∈ Lookup.items p.raisedEvents) :
    event.InRange p := by
  obtain ⟨events, hevents, hrange⟩ := h.raisedEvents
  rw [Lookup.items_ok hevents] at hevent
  exact hrange event hevent

theorem inspect_eq (names : FrameworkNames) (checker : Checker) {event : Event}
    (hevent : event.InRange p) :
    checker.inspect p names event = .ok (Lookup.items (checker.inspect p names event)) := by
  obtain ⟨findings, hfindings, -⟩ := h.inspect names checker hevent
  rw [Lookup.items_ok hfindings, hfindings]

theorem diagnostic?_eq (names : FrameworkNames) (catalog : Catalog) {checker : Checker}
    {event : Event} (hevent : event.InRange p) {finding : Finding}
    (hfinding : finding ∈ Lookup.items (checker.inspect p names event)) :
    finding.diagnostic? catalog p = .ok (finding.report? catalog p) := by
  obtain ⟨findings, hfindings, hnodes⟩ := h.inspect names checker hevent
  rw [Lookup.items_ok hfindings] at hfinding
  obtain ⟨report?, hreport, -⟩ := h.diagnostic? catalog (hnodes finding hfinding)
  rw [Finding.report?, hreport]
  rfl

theorem reportsOf_eq (analyzer : Analyzer) (checker : Checker) {event : Event}
    (hevent : event.InRange p) :
    analyzer.reportsOf p event checker = .ok (analyzer.found p event checker) := by
  rw [Analyzer.reportsOf, h.inspect_eq _ checker hevent]
  exact filterMapM_eq_ok fun finding hf => h.diagnostic?_eq _ _ hevent hf

/-- The analysis of a loaded program collects the reports of all events and checkers. -/
theorem collect_eq (analyzer : Analyzer) :
    analyzer.collect p = .ok (analyzer.reportList p) := by
  have hreports : ∀ event ∈ Lookup.items p.raisedEvents, analyzer.reports p event =
      .ok ((Checker.subscribers analyzer.checkers event.kind).flatMap
        (analyzer.found p event)) := by
    intro event hevent
    have hrange := h.inRange_of_mem_raisedEvents hevent
    unfold Analyzer.reports
    dsimp only
    rw [mapM_eq_ok fun checker _ => h.reportsOf_eq analyzer checker hrange]
    rfl
  rw [Analyzer.collect, h.raisedEvents_eq]
  refine lookup_bind_eq_ok.mpr ⟨_, rfl, ?_⟩
  rw [mapM_eq_ok hreports]
  rfl

theorem analyze_eq (analyzer : Analyzer) :
    analyzer.analyze p = .ok (Diagnostic.canonical (analyzer.reportList p)) := by
  rw [Analyzer.analyze, h.collect_eq]
  rfl

end Program.Loaded

end ModLint
