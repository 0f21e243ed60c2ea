import ModLint.Proofs.HookJudgement
import ModLint.Proofs.Preorder

/-!
# Reads of the scene in constructors

The check of entities goes up from a read of the scene to the innermost function around it. Seen
from above, the reads that it reports are those in the code of a constructor itself: the walk down
from the constructor comes to them without entering another function. This holds for any nesting of
functions, and nothing else is reported under this condition.
-/

namespace ModLint

/-- The first success among the answers of a list of look-ups. -/
theorem find?_mapM_eq_some_iff {α β : Type} {xs : List α} {f : α → Lookup β} {ys : List β}
    (h : xs.mapM f = .ok ys) {test : β → Bool} {y : β} :
    ys.find? test = some y ↔ ∃ before x after, xs = before ++ x :: after ∧ f x = .ok y ∧
      test y = true ∧ ∀ x' ∈ before, ∃ y', f x' = .ok y' ∧ test y' = false := by
  induction xs generalizing ys with
  | nil =>
    cases h
    simp
  | cons x xs ih =>
    rw [List.mapM_cons] at h
    obtain ⟨z, hz, h⟩ := lookup_bind_eq_ok.mp h
    obtain ⟨zs, hzs, h⟩ := lookup_bind_eq_ok.mp h
    cases h
    by_cases htest : test z = true
    · rw [List.find?_cons_of_pos htest]
      constructor
      · intro heq
        cases heq
        exact ⟨[], x, xs, rfl, hz, htest, by simp⟩
      · rintro ⟨before, a, after, hsplit, ha, -, hbefore⟩
        cases before with
        | nil =>
          obtain ⟨rfl, -⟩ := List.cons.inj hsplit
          rw [lookup_unique hz ha]
        | cons b before =>
          obtain ⟨rfl, -⟩ := List.cons.inj hsplit
          obtain ⟨z', hz', hno⟩ := hbefore x (by simp)
          rw [← lookup_unique hz hz', htest] at hno
          cases hno
    · rw [List.find?_cons_of_neg htest, ih hzs]
      have hno : test z = false := by simpa using htest
      constructor
      · rintro ⟨before, a, after, rfl, ha, hyes, hbefore⟩
        refine ⟨x :: before, a, after, rfl, ha, hyes, ?_⟩
        intro x' hx'
        rcases List.mem_cons.mp hx' with rfl | hx'
        · exact ⟨z, hz, hno⟩
        · exact hbefore x' hx'
      · rintro ⟨before, a, after, hsplit, ha, hyes, hbefore⟩
        cases before with
        | nil =>
          obtain ⟨rfl, -⟩ := List.cons.inj hsplit
          rw [lookup_unique ha hz] at hyes
          exact absurd hyes htest
        | cons b before =>
          obtain ⟨rfl, rfl⟩ := List.cons.inj hsplit
          exact ⟨before, a, after, rfl, ha, hyes, fun x' hx' => hbefore x' (by simp [hx'])⟩

namespace Check.Entity

open Program

variable {p : Program} {names : FrameworkNames} {id : NodeId}

/-- A node reads the scene of an entity: it is bound to the property with the name of the scene of
the base class of entities. -/
def ReadsScene (p : Program) (names : FrameworkNames) (id : NodeId) : Prop :=
  ∃ node property symbol, p.node id = .ok node ∧
    node.kind.symbol? = some (.property property) ∧ p.property property = .ok symbol ∧
    symbol.name = names.sceneProperty ∧ p.fullTypeName symbol.containingType = .ok names.entity

/-- A node is in the code of a constructor: the walk down from the constructor that stays out of
other functions lists it. -/
def InConstructor (p : Program) (id : NodeId) : Prop :=
  ∃ c node modifiers symbol parameters body ids, p.node c = .ok node ∧
    node.kind = .constructor modifiers symbol parameters body ∧
    p.descendantsUntil c NodeKind.isFunction = .ok ids ∧ id ∈ ids

/-! ## Going up and going down -/

theorem not_isFunction_of_symbol? {kind : NodeKind} {symbol : SymbolRef}
    (h : kind.symbol? = some symbol) : kind.isFunction = false := by
  cases kind with
  | method | constructor | localFunction | anonymousFunction => cases h
  | _ => rfl

theorem enclosingFunction_iff (h : p.Loaded) (hid : p.Has id) :
    Answers (enclosingFunction p id) fun kind? => ∀ kind, kind? = some kind ↔
      ∃ between c above node, p.ancestors id = .ok (between ++ c :: above) ∧ p.node c = .ok node ∧
        node.kind = kind ∧ kind.isFunction = true ∧
        ∀ a ∈ between, p.IsEntered NodeKind.isFunction a := by
  unfold enclosingFunction
  refine (h.ancestors hid).bind_eq fun ids hids hhas => ?_
  have hkinds : Answers (ids.mapM fun ancestor => return (← p.node ancestor).kind)
      fun _ => True := by
    refine (Answers.mapM (Q := fun _ => True) fun a ha => ?_).mono fun _ _ => trivial
    exact (h.inRange.node (hhas a ha)).bind fun _ _ => Answers.pure trivial
  refine hkinds.bind_eq fun kinds hkinds _ => Answers.pure fun kind => ?_
  have hkind : ∀ (a : NodeId) (k : NodeKind),
      (do return (← p.node a).kind : Lookup NodeKind) = .ok k ↔
        ∃ node, p.node a = .ok node ∧ node.kind = k := by
    intro a k
    rw [lookup_bind_eq_ok]
    constructor
    · rintro ⟨node, hnode, heq⟩
      exact ⟨node, hnode, Except.ok.inj heq⟩
    · rintro ⟨node, hnode, rfl⟩
      exact ⟨node, hnode, rfl⟩
  rw [find?_mapM_eq_some_iff hkinds]
  constructor
  · rintro ⟨between, c, above, rfl, hc, hfunction, hbetween⟩
    obtain ⟨node, hnode, hnodekind⟩ := (hkind c kind).mp hc
    refine ⟨between, c, above, node, hids, hnode, hnodekind, hfunction, ?_⟩
    intro a ha
    obtain ⟨k, hk, hno⟩ := hbetween a ha
    obtain ⟨other, hother, rfl⟩ := (hkind a k).mp hk
    exact ⟨other, hother, hno⟩
  · rintro ⟨between, c, above, node, hids', hnode, hnodekind, hfunction, hbetween⟩
    obtain rfl := lookup_unique hids hids'
    refine ⟨between, c, above, rfl, (hkind c kind).mpr ⟨node, hnode, hnodekind⟩, hfunction, ?_⟩
    intro a ha
    obtain ⟨other, hother, hno⟩ := hbetween a ha
    exact ⟨other.kind, (hkind a _).mpr ⟨other, hother, rfl⟩, hno⟩

theorem inConstructor_iff (h : p.Loaded) {node : SyntaxNode} (hnode : p.node id = .ok node)
    (hno : node.kind.isFunction = false) :
    InConstructor p id ↔ ∃ between c above cnode modifiers symbol parameters body,
      p.ancestors id = .ok (between ++ c :: above) ∧ p.node c = .ok cnode ∧
      cnode.kind = .constructor modifiers symbol parameters body ∧
      ∀ a ∈ between, p.IsEntered NodeKind.isFunction a := by
  constructor
  · rintro ⟨c, cnode, modifiers, symbol, parameters, body, ids, hc, hkind, hids, hmem⟩
    rw [h.mem_descendantsUntil_iff hids, h.reflTransGen_enters_iff] at hmem
    rcases hmem with rfl | ⟨between, above, hup, hentered⟩
    · -- a constructor is a function, and the node is none
      obtain rfl := lookup_unique hnode hc
      rw [hkind] at hno
      cases hno
    · have hbetween : ∀ a ∈ between, p.IsEntered NodeKind.isFunction a := by
        intro a ha
        exact hentered a (List.mem_cons_of_mem id ha)
      exact ⟨between, c, above, cnode, modifiers, symbol, parameters, body, hup, hc, hkind,
        hbetween⟩
  · rintro ⟨between, c, above, cnode, modifiers, symbol, parameters, body, hup, hc, hkind,
      hbetween⟩
    have hhas : p.Has c := lt_size_of_fetch hc
    obtain ⟨ids, hids⟩ := (h.descendantsUntil hhas NodeKind.isFunction).exists_ok
    refine ⟨c, cnode, modifiers, symbol, parameters, body, ids, hc, hkind, hids, ?_⟩
    rw [h.mem_descendantsUntil_iff hids]
    refine h.enters_of_openBelow hup ?_
    intro a ha
    rcases List.mem_cons.mp ha with rfl | ha
    · exact ⟨node, hnode, hno⟩
    · exact hbetween a ha

/-! ## What is found -/

theorem isScene_iff (h : p.Loaded) {symbol : PropertySymbol} (hin : p.Has symbol.containingType) :
    Answers (isScene p names symbol) fun b => b = true ↔
      symbol.name = names.sceneProperty ∧
        p.fullTypeName symbol.containingType = .ok names.entity := by
  unfold isScene
  by_cases hname : symbol.name = names.sceneProperty
  · rw [if_pos (by simpa using hname)]
    refine (h.inRange.fullTypeName hin).bind_eq fun full hfull _ => Answers.pure ?_
    rw [beq_iff_eq, hfull, Except.ok.injEq]
    exact ⟨fun heq => ⟨hname, heq⟩, fun hboth => hboth.2⟩
  · rw [if_neg (by simpa using hname)]
    exact Answers.pure (by simp [hname])

/-- What is found about the use of a property is that it reads the scene in a constructor, if it
does. -/
theorem propertyFindings_exactly (h : p.Loaded) (names : FrameworkNames) (hid : p.Has id) :
    Answers (propertyFindings p names id) (Exactly · fun finding =>
      finding = ⟨.usingSceneInWrongPlace, id, []⟩ ∧ ReadsScene p names id ∧
        InConstructor p id) := by
  unfold propertyFindings
  refine (h.inRange.node hid).bind_eq fun node hnode hbelow => ?_
  split
  · rename_i property hproperty
    refine (h.inRange.property (hbelow.symbol _ hproperty)).bind_eq fun symbol hsymbol hin => ?_
    refine (isScene_iff h hin).bind fun scene hscene => ?_
    have hreads : ReadsScene p names id ↔ scene = true := by
      rw [hscene]
      constructor
      · rintro ⟨node', property', symbol', hnode', hproperty', hsymbol', hrest⟩
        obtain rfl := lookup_unique hnode hnode'
        rw [hproperty] at hproperty'
        cases hproperty'
        obtain rfl := lookup_unique hsymbol hsymbol'
        exact hrest
      · intro hrest
        exact ⟨node, property, symbol, hnode, hproperty, hsymbol, hrest⟩
    have hconstructor := inConstructor_iff h hnode (not_isFunction_of_symbol? hproperty)
    by_cases hyes : scene = true
    · rw [if_pos hyes]
      refine (enclosingFunction_iff h hid).bind fun kind? hkind => ?_
      split
      · rename_i modifiers symbol parameters body
        obtain ⟨between, c, above, cnode, hup, hc, hcnode, -, hbetween⟩ := (hkind _).mp rfl
        have hinside : InConstructor p id := hconstructor.mpr
          ⟨between, c, above, cnode, modifiers, symbol, parameters, body, hup, hc, hcnode, hbetween⟩
        refine Answers.pure (.single fun finding => ?_)
        exact ⟨fun hfound => hfound.1, fun heq => ⟨heq, hreads.mpr hyes, hinside⟩⟩
      · rename_i hother
        refine Answers.pure (.nil ?_)
        rintro finding ⟨-, -, hinside⟩
        obtain ⟨between, c, above, cnode, modifiers, symbol, parameters, body, hup, hc, hcnode,
          hbetween⟩ := hconstructor.mp hinside
        have hfirst := (hkind (.constructor modifiers symbol parameters body)).mpr
          ⟨between, c, above, cnode, hup, hc, hcnode, rfl, hbetween⟩
        exact hother modifiers symbol parameters body hfirst
    · rw [if_neg hyes]
      refine Answers.pure (.nil ?_)
      rintro finding ⟨-, hread, -⟩
      exact hyes (hreads.mp hread)
  · rename_i hother
    refine Answers.pure (.nil ?_)
    rintro finding ⟨-, ⟨node', property, symbol, hnode', hproperty, -⟩, -⟩
    obtain rfl := lookup_unique hnode hnode'
    exact hother property hproperty

/-! ## What is reported -/

theorem ReadsScene.has (h : ReadsScene p names id) : p.Has id := by
  obtain ⟨node, -, -, hnode, -⟩ := h
  exact lt_size_of_fetch hnode

theorem ReadsScene.raised (hp : p.Loaded) (h : ReadsScene p names id) :
    .propertyReference id ∈ Lookup.items p.raisedEvents := by
  obtain ⟨node, property, symbol, hnode, hproperty, -⟩ := h
  have hevent : p.eventOf id = .ok (some (.propertyReference id)) := by
    obtain ⟨file, span, trivia, parent, kind⟩ := node
    rw [eventOf, hnode]
    cases kind with
    | identifier name bound =>
      cases hproperty
      rfl
    | memberAccess operand name bound =>
      cases hproperty
      rfl
    | _ => cases hproperty
  rw [hp.items_raisedEvents]
  refine List.mem_append_right _ (List.mem_filterMap.mpr ⟨id, mem_nodeIds.mpr ?_, ?_⟩)
  · exact lt_size_of_fetch hnode
  · rw [raisedAt?, hevent]
    rfl

/-- Only the check of entities has to do with the scene. -/
theorem eq_entity_of_mem_conditions {checker : Checker}
    (h : .usingSceneInWrongPlace ∈ checker.conditions) : checker = .entity := by
  revert h
  cases checker <;> decide

/-- Whatever is reported as a read of the scene is one, and in a constructor. -/
theorem readsScene_of_reportedAt (hp : p.Loaded) {analyzer : Analyzer} {diagnostic : Diagnostic}
    (h : analyzer.ReportedAt p diagnostic id) (hid : diagnostic.id = .usingSceneInWrongPlace) :
    ReadsScene p analyzer.config.framework id ∧ InConstructor p id := by
  obtain ⟨events, event, checker, findings, finding, hevents, hevent, -, hfindings, hmem, hreport,
    rfl⟩ := h
  have hcondition : finding.id = .usingSceneInWrongPlace := by
    rw [← (Finding.diagnostic?_eq_some hreport).1, hid]
  have honly := checker.inspect_only p _ event findings hfindings finding hmem
  rw [hcondition] at honly
  obtain rfl := eq_entity_of_mem_conditions honly
  have hin : event.InRange p := by
    refine hp.inRange_of_mem_raisedEvents ?_
    rw [Lookup.items_ok hevents]
    exact hevent
  cases event with
  | namedType type =>
    have hother := typeFindings_only p _ type findings hfindings finding hmem
    rw [hcondition] at hother
    exact absurd hother (by decide)
  | propertyReference node =>
    obtain ⟨findings', hfindings', hexactly⟩ :=
      propertyFindings_exactly hp analyzer.config.framework hin
    obtain rfl := lookup_unique hfindings hfindings'
    obtain ⟨hfound, hreads, hinside⟩ := (hexactly.mem_iff finding).mp hmem
    rw [hfound]
    exact ⟨hreads, hinside⟩
  | invocation node | objectCreation node | eventAssignment node =>
    cases hfindings
    cases hmem

/-- In every loaded program, if the condition is enabled, the check of entities reports a read of
the scene exactly if it is in the code of a constructor itself, outside of nested functions, and
nothing else is reported under this condition. -/
theorem scene_reads_are_reported_exactly_in_constructors {p q : Program}
    (hcheck : p.check = .ok ()) (hlink : p.link = .ok q) (analyzer : Analyzer)
    (henabled : (analyzer.catalog.setting .usingSceneInWrongPlace).enabled = true) :
    (∀ id, ReadsScene q analyzer.config.framework id →
      (∃ events, q.raisedEvents = .ok events ∧ .propertyReference id ∈ events) ∧
      .propertyReference ∈ eventKinds ∧
      ∃ findings reports,
        inspect q analyzer.config.framework (.propertyReference id) = .ok findings ∧
        Exactly findings (fun finding =>
          finding = ⟨.usingSceneInWrongPlace, id, []⟩ ∧ InConstructor q id) ∧
        analyzer.reportsOf q (.propertyReference id) .entity = .ok reports ∧
        List.Forall₂ (fun finding report => finding.ReportedAs q report) findings reports) ∧
    ∀ diagnostic id, analyzer.ReportedAt q diagnostic id →
      diagnostic.id = .usingSceneInWrongPlace →
        ReadsScene q analyzer.config.framework id ∧ InConstructor q id := by
  have hq : q.Loaded := loaded_of_link hcheck hlink
  refine ⟨?_, fun diagnostic id hreported hid => readsScene_of_reportedAt hq hreported hid⟩
  intro id hreads
  obtain ⟨findings, hfindings, hexactly⟩ :=
    propertyFindings_exactly hq analyzer.config.framework hreads.has
  have hconditions : ∀ finding ∈ findings,
      (analyzer.catalog.setting finding.id).enabled = true := by
    intro finding hfinding
    rw [((hexactly.mem_iff finding).mp hfinding).1]
    exact henabled
  have hin : Event.InRange q (.propertyReference id) := hreads.has
  obtain ⟨reports, hreports, hmatch⟩ :=
    hq.reportsOf_findings analyzer .entity hin hfindings hconditions
  refine ⟨⟨_, hq.raisedEvents_eq, hreads.raised hq⟩, by decide, findings, reports, hfindings, ?_,
    hreports, hmatch⟩
  exact hexactly.congr fun finding => and_congr_right fun _ => and_iff_right hreads

/-- A constructor that reads the scene twice, by its name and in an anonymous function. -/
def sceneReads : Program :=
  let nodes : List (Option NodeId × NodeKind) :=
    [(none, .compilationUnit [⟨1⟩]),
      (some ⟨0⟩, .constructor [] none [] (some ⟨2⟩)),
      (some ⟨1⟩, .block [⟨3⟩, ⟨5⟩]),
      (some ⟨2⟩, .expressionStatement ⟨4⟩),
      (some ⟨3⟩, .identifier "Scene" (some (.property ⟨0⟩))),
      (some ⟨2⟩, .expressionStatement ⟨6⟩),
      (some ⟨5⟩, .anonymousFunction .lambda [] [] ⟨7⟩ none),
      (some ⟨6⟩, .memberAccess ⟨8⟩ "Scene" (some (.property ⟨0⟩))),
      (some ⟨7⟩, .identifier "self" none)]
  { assembly := "Mod"
    files := #[{ path := "Spinner.cs" }]
    namespaces := #[{ name := "Monocle" }]
    types := #[{ name := "Entity", nameSpace := some ⟨0⟩, assembly := "Game" }]
    properties := #[{ name := "Scene", containingType := ⟨0⟩ }]
    nodes := (nodes.mapIdx fun i entry =>
      { file := ⟨0⟩
        span := { startByte := i, endByte := i + 1, startLine := 1, startColumn := i + 1 }
        parent := entry.1
        kind := entry.2 }).toArray }

/-- Both are reads of the scene, and only the first is reported. -/
theorem sceneReads_are_reported_once :
    sceneReads.check = .ok () ∧ sceneReads.link = .ok sceneReads ∧
      ReadsScene sceneReads {} ⟨4⟩ ∧ ReadsScene sceneReads {} ⟨7⟩ ∧
      InConstructor sceneReads ⟨4⟩ ∧ ¬ InConstructor sceneReads ⟨7⟩ ∧
      ∃ report, plainAnalyzer.reportsOf sceneReads (.propertyReference ⟨4⟩) .entity = .ok [report] ∧
        Finding.ReportedAs ⟨.usingSceneInWrongPlace, ⟨4⟩, []⟩ sceneReads report := by
  have hcheck : sceneReads.check = .ok () := by decide +kernel
  have hlink : sceneReads.link = .ok sceneReads := by decide +kernel
  have hname : sceneReads.fullTypeName ⟨0⟩ = .ok "Monocle.Entity" := by decide +kernel
  have hfirst : ReadsScene sceneReads {} ⟨4⟩ := ⟨_, _, _, rfl, rfl, rfl, rfl, hname⟩
  have hsecond : ReadsScene sceneReads {} ⟨7⟩ := ⟨_, _, _, rfl, rfl, rfl, rfl, hname⟩
  obtain ⟨hreads, -⟩ :=
    scene_reads_are_reported_exactly_in_constructors hcheck hlink plainAnalyzer (by decide)
  obtain ⟨-, -, findings, reports, hfindings, hexactly, hreports, hmatch⟩ := hreads ⟨4⟩ hfirst
  obtain ⟨-, -, findings', -, hfindings', hexactly', -, -⟩ := hreads ⟨7⟩ hsecond
  have hfound : inspect sceneReads {} (.propertyReference ⟨4⟩) =
      .ok [⟨.usingSceneInWrongPlace, ⟨4⟩, []⟩] := by
    decide +kernel
  have hnothing : inspect sceneReads {} (.propertyReference ⟨7⟩) = .ok [] := by decide +kernel
  obtain rfl := lookup_unique hfindings hfound
  obtain rfl := lookup_unique hfindings' hnothing
  have hinside := ((hexactly.mem_iff _).mp List.mem_cons_self).2
  have houtside : ¬ InConstructor sceneReads ⟨7⟩ := by
    intro hin
    have hmem := (hexactly'.mem_iff _).mpr ⟨rfl, hin⟩
    cases hmem
  cases hmatch with
  | cons hreported hrest =>
    cases hrest
    exact ⟨hcheck, hlink, hfirst, hsecond, hinside, houtside, _, hreports, hreported⟩

end Check.Entity

end ModLint
