import ModLint.Proofs.HookFindings
import ModLint.Proofs.NumberFree

/-!
# Hooks are judged exactly

A hook is registered by creating a hook object, or with an event whose outermost namespace is one of
hooks. The chains of containing types and namespaces are followed for as many steps as there are
types and namespaces, which is enough for every chain that ends. So every registration with a
replacement in the source comes to the check as an event, and what is reported for it is one
diagnostic for each thing that is wrong with the replacement.
-/

namespace ModLint

open Relation

/-! ## Chains that end -/

/-- The end of a chain, if it is reached in at most `bound` steps. -/
def follow {α : Type} (next : α → Lookup (Option α)) : Nat → α → Lookup (Option α)
  | 0, a => return if (← next a).isNone then some a else none
  | bound + 1, a => do
    match ← next a with
    | none => return some a
    | some b => follow next bound b

/-- A chain starts at `a` and ends at `last`. -/
def EndsAt {α : Type} (next : α → Lookup (Option α)) (a last : α) : Prop :=
  ReflTransGen (fun b c => next b = .ok (some c)) a last ∧ next last = .ok none

theorem follow_eq_of_rank {α : Type} {next : α → Lookup (Option α)} {last : α}
    (hlast : next last = .ok none) {rank : α → Nat}
    (hrank : ∀ a b, next a = .ok (some b) →
      ReflTransGen (fun b c => next b = .ok (some c)) b last → rank b < rank a)
    {bound : Nat} {a : α} (hreach : ReflTransGen (fun b c => next b = .ok (some c)) a last)
    (hbound : rank a ≤ bound) : follow next bound a = .ok (some last) := by
  induction bound generalizing a with
  | zero =>
    rcases hreach.cases_head with rfl | ⟨b, hstep, hrest⟩
    · rw [follow, hlast]
      rfl
    · have hlt := hrank a b hstep hrest
      omega
  | succ bound ih =>
    rcases hreach.cases_head with rfl | ⟨b, hstep, hrest⟩
    · rw [follow, hlast]
      rfl
    · have hlt := hrank a b hstep hrest
      rw [follow, hstep]
      exact ih hrest (by omega)

/-- In an arena of `n` items, `n` steps are enough for a chain that ends. -/
theorem EndsAt.follow_eq {arena : Arena} {next : ItemId arena → Lookup (Option (ItemId arena))}
    {n : Nat} (hin : ∀ a b, next a = .ok (some b) → a.index < n ∧ b.index < n)
    {a last : ItemId arena} (h : EndsAt next a last) (ha : a.index < n) :
    follow next n a = .ok (some last) := by
  have hunique : Relator.RightUnique fun b c => next b = .ok (some c) := by
    intro b c d hc hd
    rw [hc] at hd
    cases hd
    rfl
  have hend : ∀ b, ¬ next last = .ok (some b) := by
    intro b hb
    rw [h.2] at hb
    cases hb
  obtain ⟨rank, hrank, hlt⟩ := exists_rank_to hin hunique hend
  exact follow_eq_of_rank h.2 hrank h.1 (hlt a ha).le

namespace Program

variable {p : Program}

/-- The type around a type. -/
def outerType (p : Program) (id : TypeId) : Lookup (Option TypeId) :=
  return (← p.type id).containingType

/-- The namespace around a namespace. -/
def outerNamespace (p : Program) (id : NamespaceId) : Lookup (Option NamespaceId) :=
  return (← p.nameSpace id).parent

/-- The outermost namespace that an event is declared in. -/
def DeclaredIn (p : Program) (id : EventId) (root : NamespaceId) : Prop :=
  ∃ event outer type space, p.event id = .ok event ∧
    EndsAt p.outerType event.containingType outer ∧ p.type outer = .ok type ∧
    type.nameSpace = some space ∧ EndsAt p.outerNamespace space root

theorem outermostType_eq_follow (p : Program) (bound : Nat) (id : TypeId) :
    p.outermostType bound id = follow p.outerType bound id := by
  induction bound generalizing id with
  | zero =>
    rw [outermostType, follow, outerType]
    cases p.type id <;> rfl
  | succ bound ih =>
    rw [outermostType, follow, outerType]
    cases p.type id with
    | error fault => rfl
    | ok symbol =>
      simp only [bind, Except.bind, pure, Except.pure]
      cases symbol.containingType with
      | none => rfl
      | some outer => exact ih outer

theorem outermostNamespace_eq_follow (p : Program) (bound : Nat) (id : NamespaceId) :
    p.outermostNamespace bound id = follow p.outerNamespace bound id := by
  induction bound generalizing id with
  | zero =>
    rw [outermostNamespace, follow, outerNamespace]
    cases p.nameSpace id <;> rfl
  | succ bound ih =>
    rw [outermostNamespace, follow, outerNamespace]
    cases p.nameSpace id with
    | error fault => rfl
    | ok space =>
      simp only [bind, Except.bind, pure, Except.pure]
      cases space.parent with
      | none => rfl
      | some outer => exact ih outer

theorem InRange.outerType_lt (h : p.InRange) {id outer : TypeId}
    (houter : p.outerType id = .ok (some outer)) :
    id.index < p.types.size ∧ outer.index < p.types.size := by
  obtain ⟨symbol, hsymbol, hsome⟩ := lookup_bind_eq_ok.mp houter
  have hid : p.Has id := lt_size_of_fetch hsymbol
  obtain ⟨symbol', hsymbol', hbelow⟩ := h.type hid
  obtain rfl := lookup_unique hsymbol hsymbol'
  exact ⟨hid, hbelow.containingType outer (Except.ok.inj hsome)⟩

theorem InRange.outerNamespace_lt (h : p.InRange) {id outer : NamespaceId}
    (houter : p.outerNamespace id = .ok (some outer)) :
    id.index < p.namespaces.size ∧ outer.index < p.namespaces.size := by
  obtain ⟨space, hspace, hsome⟩ := lookup_bind_eq_ok.mp houter
  have hid : p.Has id := lt_size_of_fetch hspace
  obtain ⟨space', hspace', hbelow⟩ := h.nameSpace hid
  obtain rfl := lookup_unique hspace hspace'
  exact ⟨hid, hbelow outer (Except.ok.inj hsome)⟩

theorem InRange.bottommostNamespace_eq (h : p.InRange) {id : EventId} {root : NamespaceId}
    (hroot : p.DeclaredIn id root) : p.bottommostNamespace (.event id) = .ok (some root) := by
  obtain ⟨event, outer, type, space, hevent, houter, htype, hspace, hends⟩ := hroot
  obtain ⟨event', hevent', howner⟩ := h.event (lt_size_of_fetch hevent)
  obtain rfl := lookup_unique hevent hevent'
  obtain ⟨type', htype', hbelow⟩ := h.type (lt_size_of_fetch htype)
  obtain rfl := lookup_unique htype htype'
  have howning : p.owningType (.event id) = .ok (some event.containingType) := by
    rw [Program.owningType, hevent]
    rfl
  have htypes : p.outermostType p.types.size event.containingType = .ok (some outer) := by
    rw [outermostType_eq_follow]
    exact houter.follow_eq (fun _ _ => h.outerType_lt) howner
  have hspaces : p.outermostNamespace p.namespaces.size space = .ok (some root) := by
    rw [outermostNamespace_eq_follow]
    exact hends.follow_eq (fun _ _ => h.outerNamespace_lt) (hbelow.nameSpace space hspace)
  simp only [Program.bottommostNamespace, howning, htypes, htype, hspace, bind, Except.bind]
  exact hspaces

end Program

namespace Check.Hooks

open Program

variable {p : Program} {names : FrameworkNames} {event : Event} {argument : NodeId}
  {site : HookSite}

/-! ## Registrations -/

/-- An event registers a hook whose replacement is given by an argument: two arguments make a hook
object, or a handler is added to or taken from an event of a hook namespace. -/
inductive Registers (p : Program) (names : FrameworkNames) : Event → NodeId → Prop where
  | creation {id original replacement : NodeId} {node : SyntaxNode} {typeName : String}
    {created : TypeId} (hnode : p.node id = .ok node)
    (hkind : node.kind = .objectCreation typeName [original, replacement] (some created))
    (hhook : p.fullTypeName created = .ok names.hook) :
    Registers p names (.objectCreation id) replacement
  | assignment {id left right : NodeId} {node target : SyntaxNode} {operator : AssignmentOperator}
    {event : EventId} {root : NamespaceId} {space : Namespace} (hnode : p.node id = .ok node)
    (hkind : node.kind = .assignment operator left right)
    (hoperator : operator = .addAssign ∨ operator = .subtractAssign)
    (htarget : p.node left = .ok target) (hevent : target.kind.symbol? = some (.event event))
    (hroot : p.DeclaredIn event root) (hspace : p.nameSpace root = .ok space)
    (hname : space.name ∈ names.hookNamespaces) :
    Registers p names (.eventAssignment id) right

/-- An argument names a replacement: it is bound to a method that has a declaration, or it is an
anonymous function that has a symbol. -/
inductive Resolves (p : Program) : NodeId → HookSite → Prop where
  | name {argument declaration : NodeId} {node : SyntaxNode} {text : String} {id : MethodId}
    {method : MethodSymbol} (hnode : p.node argument = .ok node)
    (hkind : node.kind = .identifier text (some (.method id)))
    (hmethod : p.method id = .ok method) (hdeclaration : method.declaration = some declaration) :
    Resolves p argument ⟨id, declaration⟩
  | anonymousFunction {argument body : NodeId} {node : SyntaxNode} {form : FunctionSyntax}
    {modifiers : List Modifier} {parameters : List NodeId} {id : MethodId}
    (hnode : p.node argument = .ok node)
    (hkind : node.kind = .anonymousFunction form modifiers parameters body (some id)) :
    Resolves p argument ⟨id, argument⟩

theorem Resolves.resolve_eq (h : Resolves p argument site) :
    resolve p argument = .ok (some site) := by
  cases h with
  | name hnode hkind hmethod hdeclaration =>
    simp only [resolve, resolveIdentifier, hnode, hkind, hmethod, hdeclaration, bind, Except.bind]
    rfl
  | anonymousFunction hnode hkind =>
    simp only [resolve, hnode, hkind, bind, Except.bind]
    rfl

theorem Registers.siteOf_eq (hrange : p.InRange) (h : Registers p names event argument)
    (hresolves : Resolves p argument site) : siteOf p names event = .ok (some site) := by
  have hsite := hresolves.resolve_eq
  cases h with
  | creation hnode hkind hhook =>
    simp only [siteOf, detour, hnode, hkind, hhook, bind, Except.bind, beq_self_eq_true, if_true]
    exact hsite
  | assignment hnode hkind hoperator htarget hevent hroot hspace hname =>
    have hcontains := List.contains_iff_mem.mpr hname
    simp only [siteOf, eventHook, hnode, hkind, htarget, hevent,
      hrange.bottommostNamespace_eq hroot, hspace, hcontains, bind, Except.bind, if_true]
    exact hsite

theorem Registers.eventOf_eq (h : Registers p names event argument) :
    ∃ id, p.Has id ∧ p.eventOf id = .ok (some event) := by
  cases h with
  | creation hnode hkind hhook =>
    refine ⟨_, lt_size_of_fetch hnode, ?_⟩
    simp only [eventOf, hnode, hkind, bind, Except.bind]
    rfl
  | assignment hnode hkind hoperator htarget hevent hroot hspace hname =>
    refine ⟨_, lt_size_of_fetch hnode, ?_⟩
    rcases hoperator with rfl | rfl <;>
    · simp only [eventOf, assignmentEvent, hnode, hkind, htarget, hevent, bind, Except.bind]
      rfl

theorem Registers.kind_mem (h : Registers p names event argument) : event.kind ∈ eventKinds := by
  cases h <;> simp [Event.kind, eventKinds]

/-- A registration comes up as an event. -/
theorem Registers.raised (hp : p.Loaded) (h : Registers p names event argument) :
    event ∈ Lookup.items p.raisedEvents := by
  obtain ⟨id, hid, hevent⟩ := h.eventOf_eq
  rw [hp.items_raisedEvents]
  refine List.mem_append_right _ (List.mem_filterMap.mpr ⟨id, mem_nodeIds.mpr hid, ?_⟩)
  rw [raisedAt?, hevent]
  rfl

/-- What the check finds at a registration is what is to be found about the replacement. -/
theorem Registers.inspect_exactly (hp : p.Loaded) (hlisted : p.listedChildren.Nodup)
    (h : Registers p names event argument) (hresolves : Resolves p argument site) :
    Answers (inspect p names event) (Exactly · (Judged p names site)) := by
  have hsite := h.siteOf_eq hp.inRange hresolves
  obtain ⟨site?, hsite?, hin⟩ :=
    siteOf_answers hp names (hp.inRange_of_mem_raisedEvents (h.raised hp))
  rw [hsite] at hsite?
  cases hsite?
  rw [inspect, hsite]
  exact siteFindings_exactly hp hlisted names (hin site rfl)

end Check.Hooks

/-! ## Reports -/

/-- A diagnostic says what was found and where. -/
structure Finding.ReportedAs (finding : Finding) (p : Program) (diagnostic : Diagnostic) :
    Prop where
  id : diagnostic.id = finding.id
  args : diagnostic.args = finding.args
  location : p.location finding.node = .ok diagnostic.location

theorem Program.Loaded.exists_report {p : Program} (h : p.Loaded) {catalog : Catalog}
    {finding : Finding} (hnode : p.Has finding.node)
    (henabled : (catalog.setting finding.id).enabled = true) :
    ∃ diagnostic, finding.report? catalog p = some diagnostic ∧
      finding.ReportedAs p diagnostic := by
  obtain ⟨location, hlocation, -⟩ := h.inRange.location hnode
  refine ⟨{ id := finding.id, severity := (catalog.setting finding.id).severity, location
            message := finding.id.format finding.args, args := finding.args },
    Finding.report?_eq_some_iff.mpr ?_, ⟨rfl, rfl, hlocation⟩⟩
  simp only [Finding.diagnostic?, hlocation, henabled, bind, Except.bind, if_true]
  rfl

/-- If every item is kept, the kept ones stand in the order of the items. -/
theorem forall₂_filterMap {α β : Type} {R : α → β → Prop} {g : α → Option β} {xs : List α}
    (h : ∀ a ∈ xs, ∃ b, g a = some b ∧ R a b) : List.Forall₂ R xs (xs.filterMap g) := by
  induction xs with
  | nil => exact .nil
  | cons x xs ih =>
    obtain ⟨b, hb, hR⟩ := h x List.mem_cons_self
    rw [List.filterMap_cons_some hb]
    exact .cons hR (ih fun a ha => h a (List.mem_cons_of_mem x ha))

/-- If the conditions of all findings are enabled, each of them is reported once, in their order. -/
theorem Program.Loaded.reportsOf_findings {p : Program} (h : p.Loaded) (analyzer : Analyzer)
    (checker : Checker) {event : Event} (hevent : event.InRange p) {findings : List Finding}
    (hfindings : checker.inspect p analyzer.config.framework event = .ok findings)
    (henabled : ∀ finding ∈ findings, (analyzer.catalog.setting finding.id).enabled = true) :
    ∃ reports, analyzer.reportsOf p event checker = .ok reports ∧
      List.Forall₂ (fun finding report => finding.ReportedAs p report) findings reports := by
  obtain ⟨findings', hfindings', hnodes⟩ := h.inspect analyzer.config.framework checker hevent
  obtain rfl := lookup_unique hfindings hfindings'
  refine ⟨_, h.reportsOf_eq analyzer checker hevent, ?_⟩
  rw [Analyzer.found, Lookup.items_ok hfindings]
  refine forall₂_filterMap fun finding hfinding => ?_
  exact h.exists_report (hnodes finding hfinding) (henabled finding hfinding)

namespace Check.Hooks

open Program

/-- In every loaded program every registration of a hook whose replacement is in the source comes up
as an event that the check of hooks wants to see. If the conditions of the check are enabled, it
reports one diagnostic for each thing that is wrong with the replacement, and nothing else. -/
theorem registered_hooks_are_judged_exactly {p q : Program} (hcheck : p.check = .ok ())
    (hlink : p.link = .ok q) (analyzer : Analyzer)
    (henabled : ∀ id ∈ conditions, (analyzer.catalog.setting id).enabled = true)
    {event : Event} {argument : NodeId} {site : HookSite}
    (hregisters : Registers q analyzer.config.framework event argument)
    (hresolves : Resolves q argument site) :
    (∃ events, q.raisedEvents = .ok events ∧ event ∈ events) ∧ event.kind ∈ eventKinds ∧
      ∃ findings reports, inspect q analyzer.config.framework event = .ok findings ∧
        findings.Nodup ∧
        (∀ finding, finding ∈ findings ↔ Judged q analyzer.config.framework site finding) ∧
        analyzer.reportsOf q event .hooks = .ok reports ∧
        List.Forall₂ (fun finding report => finding.ReportedAs q report) findings reports := by
  have hq : q.Loaded := loaded_of_link hcheck hlink
  have hraised := hregisters.raised hq
  have hrange := hq.inRange_of_mem_raisedEvents hraised
  obtain ⟨findings, hfindings, hexactly⟩ :=
    hregisters.inspect_exactly hq (listedChildren_nodup_of_link hcheck hlink) hresolves
  obtain ⟨findings', hfindings', hnodes⟩ := inspect_answers hq analyzer.config.framework hrange
  rw [hfindings] at hfindings'
  cases hfindings'
  refine ⟨⟨_, hq.raisedEvents_eq, hraised⟩, hregisters.kind_mem, findings, _, hfindings,
    hexactly.nodup, hexactly.mem_iff, hq.reportsOf_eq analyzer .hooks hrange, ?_⟩
  have hitems : Lookup.items (Checker.hooks.inspect q analyzer.config.framework event) = findings :=
    Lookup.items_ok hfindings
  rw [Analyzer.found, hitems]
  refine forall₂_filterMap fun finding hfinding => hq.exists_report (hnodes finding hfinding) ?_
  exact henabled _ (inspect_only q _ event findings hfindings finding hfinding)

/-- A method that makes a sequence is added to `On.Celeste.Level.Player.Update`. It yields what it
replaces in parentheses, and once more in a nested function, which is not its own statement. -/
def yieldingHook : Program :=
  let nodes : List (Option NodeId × NodeKind) :=
    [(none, .compilationUnit [⟨1⟩, ⟨12⟩]),
      (some ⟨0⟩, .method "OnUpdate" [] (some 0) (some ⟨0⟩) [] (some ⟨2⟩)),
      (some ⟨1⟩, .block [⟨3⟩, ⟨7⟩]),
      (some ⟨2⟩, .yieldReturn ⟨4⟩),
      (some ⟨3⟩, .parenthesized ⟨5⟩),
      (some ⟨4⟩, .invocation ⟨6⟩ [] none []),
      (some ⟨5⟩, .identifier "orig" none),
      (some ⟨2⟩, .expressionStatement ⟨8⟩),
      (some ⟨7⟩, .anonymousFunction .lambda [] [] ⟨9⟩ none),
      (some ⟨8⟩, .yieldReturn ⟨10⟩),
      (some ⟨9⟩, .invocation ⟨11⟩ [] none []),
      (some ⟨10⟩, .identifier "orig" none),
      (some ⟨0⟩, .assignment .addAssign ⟨13⟩ ⟨14⟩),
      (some ⟨12⟩, .identifier "Update" (some (.event ⟨0⟩))),
      (some ⟨12⟩, .identifier "OnUpdate" (some (.method ⟨0⟩)))]
  { assembly := "Mod"
    files := #[{ path := "Hook.cs" }]
    namespaces := #[{ name := "On" }, { name := "Celeste", parent := some ⟨0⟩ },
      { name := "System" }, { name := "Collections", parent := some ⟨2⟩ }]
    types := #[{ name := "Player", containingType := some ⟨1⟩, assembly := "Game" },
      { name := "Level", nameSpace := some ⟨1⟩, assembly := "Game" },
      { name := "IEnumerator", nameSpace := some ⟨3⟩, assembly := "System" }]
    methods := #[{ name := "OnUpdate", parameters := [{ name := "orig" }], returnType := some ⟨2⟩
                   declaration := some ⟨1⟩ }]
    events := #[{ name := "Update", containingType := ⟨0⟩ }]
    nodes := (nodes.mapIdx fun i (parent, kind) =>
      { file := ⟨0⟩
        span := { startByte := 20 * i, endByte := 20 * i + 20, startLine := 1
                  startColumn := 20 * i + 1 }
        parent
        kind }).toArray }

theorem yieldingHook_is_judged :
    yieldingHook.check = .ok () ∧ yieldingHook.link = .ok yieldingHook ∧
      Registers yieldingHook {} (.eventAssignment ⟨12⟩) ⟨14⟩ ∧
      Resolves yieldingHook ⟨14⟩ ⟨⟨0⟩, ⟨1⟩⟩ ∧
      ∃ findings reports,
        findings = [⟨.hooksShouldBeStatic, ⟨1⟩, ["OnUpdate"]⟩,
          ⟨.dontYieldReturnOrig, ⟨3⟩, ["orig"]⟩] ∧
        (∀ finding, finding ∈ findings ↔ Judged yieldingHook {} ⟨⟨0⟩, ⟨1⟩⟩ finding) ∧
        plainAnalyzer.reportsOf yieldingHook (.eventAssignment ⟨12⟩) .hooks = .ok reports ∧
        List.Forall₂ (fun finding report => finding.ReportedAs yieldingHook report)
          findings reports := by
  have hcheck : yieldingHook.check = .ok () := by decide +kernel
  have hlink : yieldingHook.link = .ok yieldingHook := by decide +kernel
  have hroot : yieldingHook.DeclaredIn ⟨0⟩ ⟨0⟩ :=
    ⟨_, ⟨1⟩, _, ⟨1⟩, rfl, ⟨.head rfl .refl, rfl⟩, rfl, rfl, ⟨.head rfl .refl, rfl⟩⟩
  have hregisters : Registers yieldingHook {} (.eventAssignment ⟨12⟩) ⟨14⟩ :=
    .assignment rfl rfl (.inl rfl) rfl rfl hroot rfl (by decide)
  have hresolves : Resolves yieldingHook ⟨14⟩ ⟨⟨0⟩, ⟨1⟩⟩ := .name rfl rfl rfl rfl
  obtain ⟨-, -, findings, reports, hfindings, -, hjudged, hreports, hmatch⟩ :=
    registered_hooks_are_judged_exactly hcheck hlink plainAnalyzer (by decide) hregisters hresolves
  have hfound : inspect yieldingHook {} (.eventAssignment ⟨12⟩) =
      .ok [⟨.hooksShouldBeStatic, ⟨1⟩, ["OnUpdate"]⟩, ⟨.dontYieldReturnOrig, ⟨3⟩, ["orig"]⟩] := by
    decide +kernel
  exact ⟨hcheck, hlink, hregisters, hresolves, findings, reports,
    Except.ok.inj (hfindings.symm.trans hfound), hjudged, hreports, hmatch⟩

end Check.Hooks

end ModLint
