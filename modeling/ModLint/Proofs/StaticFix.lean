import ModLint.Proofs.Easing
import ModLint.Proofs.Keys

/-!
# What making a function static does to an analysis

The fix changes the modifiers of one function and makes the method that it declares static, so it
eases the program: no diagnostic appears, and only diagnostics that a static method does not give
can go. The diagnostic that the fix was offered for does go, if the declarations of methods are
their own and no two functions stand at one place. Three look-ups have to meet for that: the report
starts from the method that is registered and is made at its declaration, the fix finds its node
again by path and range, and what becomes static is the method that this node declares.
-/

namespace ModLint

/-! ## What the fix changes -/

section Entries

variable {α : Type} {R : α → α → Prop} (hrefl : ∀ a, R a a) {xs : Array α} {i : Nat}

include hrefl

theorem rel_refl_entry (entry : Option α) : Option.Rel R entry entry := by
  cases entry with
  | none => exact .none
  | some a => exact .some (hrefl a)

/-- An array whose entry at one position is replaced by a related one. -/
theorem rel_setIfInBounds {a b : α} (ha : xs[i]? = some a) (hab : R a b) (j : Nat) :
    Option.Rel R xs[j]? (xs.setIfInBounds i b)[j]? := by
  by_cases hij : i = j
  · subst hij
    obtain ⟨hi, -⟩ := Array.getElem?_eq_some_iff.mp ha
    rw [Array.getElem?_setIfInBounds_self_of_lt hi, ha]
    exact .some hab
  · rw [Array.getElem?_setIfInBounds_ne hij]
    exact rel_refl_entry hrefl _

/-- An array whose entry at one position is changed into a related one. -/
theorem rel_modify {f : α → α} (hf : ∀ a, R a (f a)) (j : Nat) :
    Option.Rel R xs[j]? (xs.modify i f)[j]? := by
  rw [Array.getElem?_modify]
  split
  · cases xs[j]? with
    | none => exact .none
    | some a => exact .some (hf a)
  · exact rel_refl_entry hrefl _

end Entries

namespace MakeStatic

variable {overflow : Overflow} {p : Program} {target : NodeId} {fix : AppliedFix}

/-- The fix replaces one node, and marks the method that this node declares as static. -/
theorem apply_eq_some (h : apply overflow p target = .ok (some fix)) :
    ∃ node fixed, p.node target = .ok node ∧
      fixedNode overflow node = .ok (some (fixed, fix.edit)) ∧
      fix.program =
        { p with
          nodes := p.nodes.setIfInBounds target.index fixed
          methods := node.kind.declaredMethod?.elim p.methods fun id =>
            p.methods.modify id.index fun method => { method with isStatic := true } } := by
  unfold apply at h
  obtain ⟨node, hnode, h⟩ := lookup_bind_eq_ok.mp h
  obtain ⟨fixed?, hfixed, h⟩ := lookup_bind_eq_ok.mp h
  cases fixed? with
  | none => cases h
  | some result =>
    obtain ⟨fixed, edit⟩ := result
    cases hmethod : node.kind.declaredMethod? with
    | none =>
      simp only [hmethod] at h
      cases h
      exact ⟨node, fixed, hnode, hfixed, by rw [hmethod]; rfl⟩
    | some id =>
      simp only [hmethod] at h
      obtain ⟨method, -, h⟩ := lookup_bind_eq_ok.mp h
      cases h
      exact ⟨node, fixed, hnode, hfixed, by rw [hmethod]; rfl⟩

theorem fixedNode_remodified {node fixed : SyntaxNode} {edit : TextEdit}
    (h : fixedNode overflow node = .ok (some (fixed, edit))) : node.Remodified fixed := by
  obtain ⟨file, span, trivia, parent, kind⟩ := node
  cases (fixes_of_fixedNode h).2 with
  | method hkind hstatic hedit hmodifier =>
    cases hkind
    exact .mk .method
  | anonymousFunction hkind hstatic hmodifier =>
    cases hkind
    exact .mk .anonymousFunction

/-- The fix eases a program. -/
theorem apply_eased (h : apply overflow p target = .ok (some fix)) : p.EasedTo fix.program := by
  obtain ⟨node, fixed, hnode, hfixed, hprogram⟩ := apply_eq_some h
  have hmethod : ∀ method : MethodSymbol, method.Eased method :=
    fun method => ⟨method.isStatic, rfl, fun hstatic => hstatic⟩
  have hkept : ∀ node : SyntaxNode, node.Remodified node := fun _ => .mk (.same _)
  rw [hprogram]
  refine ⟨rfl, fun i => ?_, fun i => ?_⟩
  · cases node.kind.declaredMethod? with
    | none => exact rel_refl_entry hmethod _
    | some id => exact rel_modify hmethod (fun method => ⟨true, rfl, fun _ => rfl⟩) i
  · exact rel_setIfInBounds hkept (Program.fetch_eq_ok_iff.mp hnode) (fixedNode_remodified hfixed) i

/-- After the fix the method that the changed node declares is static. -/
theorem isStatic_of_apply (h : apply overflow p target = .ok (some fix)) {node : SyntaxNode}
    (hnode : p.node target = .ok node) {id : MethodId}
    (hid : node.kind.declaredMethod? = some id) {method : MethodSymbol}
    (hmethod : fix.program.method id = .ok method) : method.isStatic = true := by
  obtain ⟨node', fixed, hnode', -, hprogram⟩ := apply_eq_some h
  rw [hnode] at hnode'
  cases hnode'
  rw [Program.method, Program.fetch_eq_ok_iff, hprogram, hid] at hmethod
  simp only [Option.elim, Array.getElem?_modify, if_true] at hmethod
  obtain ⟨before, -, rfl⟩ := Option.map_eq_some_iff.mp hmethod
  rfl

end MakeStatic

/-! ## No diagnostic appears -/

namespace Program

/-- Making a function static adds no key to the analysis of a loaded program, and only diagnostics
that a static method does not give can lose theirs. -/
theorem static_fix_adds_no_key {p q : Program} (hcheck : p.check = .ok ()) (hlink : p.link = .ok q)
    (analyzer : Analyzer) {overflow : Overflow} {target : NodeId} {fix : AppliedFix}
    (hfix : MakeStatic.apply overflow q target = .ok (some fix)) :
    ∃ before after, analyzer.analyze q = .ok before ∧ analyzer.analyze fix.program = .ok after ∧
      (∀ key ∈ after.map Diagnostic.key, key ∈ before.map Diagnostic.key) ∧
      ∀ diagnostic ∈ before, diagnostic.key ∉ after.map Diagnostic.key →
        diagnostic.id ∈ [DiagnosticId.hooksShouldBeStatic, .dontEmitInstanceMethods,
          .customEntityGeneratorInvalid] := by
  have heased := MakeStatic.apply_eased hfix
  have hq : q.Loaded := loaded_of_link hcheck hlink
  have hfixed : fix.program.Loaded := heased.loaded hq
  refine ⟨_, _, hq.analyze_eq analyzer, hfixed.analyze_eq analyzer, ?_, ?_⟩
  · intro key hkey
    rw [Diagnostic.mem_keys_canonical] at hkey ⊢
    obtain ⟨diagnostic, hmem, rfl⟩ := List.mem_map.mp hkey
    obtain ⟨node, hreported⟩ := Analyzer.mem_reportList_iff.mp hmem
    exact List.mem_map_of_mem
      (Analyzer.mem_reportList_iff.mpr ⟨node, heased.reportedAt_before hreported⟩)
  · intro diagnostic hmem hlost
    by_contra hid
    obtain ⟨node, hreported⟩ :=
      Analyzer.mem_reportList_iff.mp (Diagnostic.mem_of_mem_canonical hmem)
    rw [Diagnostic.mem_keys_canonical] at hlost
    exact hlost (List.mem_map_of_mem
      (Analyzer.mem_reportList_iff.mpr ⟨node, heased.reportedAt_after hreported hid⟩))

/-- Two replacements that need an instance: a method that is registered twice by its name, and an
anonymous function. -/
def pairedHooks : Program :=
  let accessibility : Modifier :=
    { text := "private"
      span := { startByte := 20, endByte := 27, startLine := 1, startColumn := 21 } }
  let nodes : List (Option NodeId × NodeKind) :=
    [(none, .compilationUnit [⟨1⟩, ⟨2⟩, ⟨5⟩, ⟨8⟩]),
      (some ⟨0⟩, .method "Replace" [accessibility] none (some ⟨0⟩) [] none),
      (some ⟨0⟩, .objectCreation "Hook" [⟨3⟩, ⟨4⟩] (some ⟨0⟩)),
      (some ⟨2⟩, .identifier "target" none),
      (some ⟨2⟩, .identifier "Replace" (some (.method ⟨0⟩))),
      (some ⟨0⟩, .objectCreation "Hook" [⟨6⟩, ⟨7⟩] (some ⟨0⟩)),
      (some ⟨5⟩, .identifier "target" none),
      (some ⟨5⟩, .identifier "Replace" (some (.method ⟨0⟩))),
      (some ⟨0⟩, .objectCreation "Hook" [⟨9⟩, ⟨10⟩] (some ⟨0⟩)),
      (some ⟨8⟩, .identifier "target" none),
      (some ⟨8⟩, .anonymousFunction .lambda [] [] ⟨11⟩ (some ⟨1⟩)),
      (some ⟨10⟩, .block [])]
  { assembly := "Mod"
    files := #[{ path := "Hook.cs" }]
    types := #[{ name := "Hook", assembly := "Loader" }]
    methods := #[{ name := "Replace", declaration := some ⟨1⟩ },
      { name := "", kind := .anonymousFunction, declaration := some ⟨10⟩ }]
    nodes := (nodes.mapIdx fun i (parent, kind) =>
      { file := ⟨0⟩
        span := { startByte := 20 * i, endByte := 20 * i + 20, startLine := 1
                  startColumn := 20 * i + 1 }
        parent
        kind }).toArray }

theorem static_fix_of_pairedHooks_adds_no_key :
    pairedHooks.check = .ok () ∧ pairedHooks.link = .ok pairedHooks ∧
      ∃ fix, MakeStatic.apply .wraps pairedHooks ⟨1⟩ = .ok (some fix) ∧
        ∃ before after, hookAnalyzer.analyze pairedHooks = .ok before ∧
          hookAnalyzer.analyze fix.program = .ok after ∧
          (∀ key ∈ after.map Diagnostic.key, key ∈ before.map Diagnostic.key) ∧
          ∀ diagnostic ∈ before, diagnostic.key ∉ after.map Diagnostic.key →
            diagnostic.id ∈ [DiagnosticId.hooksShouldBeStatic, .dontEmitInstanceMethods,
              .customEntityGeneratorInvalid] := by
  have hcheck : pairedHooks.check = .ok () := by decide +kernel
  have hlink : pairedHooks.link = .ok pairedHooks := by decide +kernel
  obtain ⟨fix, hfix⟩ : ∃ fix, MakeStatic.apply .wraps pairedHooks ⟨1⟩ = .ok (some fix) := ⟨_, rfl⟩
  exact ⟨hcheck, hlink, fix, hfix, static_fix_adds_no_key hcheck hlink hookAnalyzer hfix⟩

end Program

/-! ## From a report to the method -/

namespace Check.Hooks

/-- Every replacement comes from an argument that names it. -/
theorem resolve_of_siteOf {p : Program} {names : FrameworkNames} {event : Event} {site : HookSite}
    (h : siteOf p names event = .ok (some site)) :
    ∃ argument, resolve p argument = .ok (some site) := by
  cases event with
  | objectCreation id =>
    simp only [siteOf, detour] at h
    obtain ⟨node, -, h⟩ := lookup_bind_eq_ok.mp h
    split at h
    · obtain ⟨full, -, h⟩ := lookup_bind_eq_ok.mp h
      split at h
      · split at h
        · exact ⟨_, h⟩
        · cases h
      · cases h
    · cases h
  | eventAssignment id =>
    simp only [siteOf, eventHook] at h
    obtain ⟨node, -, h⟩ := lookup_bind_eq_ok.mp h
    split at h
    · obtain ⟨left, -, h⟩ := lookup_bind_eq_ok.mp h
      split at h
      · obtain ⟨root?, -, h⟩ := lookup_bind_eq_ok.mp h
        split at h
        · obtain ⟨root, -, h⟩ := lookup_bind_eq_ok.mp h
          split at h
          · exact ⟨_, h⟩
          · cases h
        · cases h
      · cases h
    · cases h
  | _ => cases h

/-- An instance is found missing at the declaration of a registered method that is not static. -/
theorem site_of_inspect {p : Program} {names : FrameworkNames} {event : Event}
    {findings : List Finding} (h : inspect p names event = .ok findings) {finding : Finding}
    (hf : finding ∈ findings) (hid : finding.id = .hooksShouldBeStatic) :
    ∃ site method, siteOf p names event = .ok (some site) ∧ finding.node = site.declaration ∧
      p.method site.method = .ok method ∧ method.isStatic = false := by
  unfold inspect at h
  obtain ⟨site?, hsite, h⟩ := lookup_bind_eq_ok.mp h
  cases site? with
  | none =>
    cases h
    cases hf
  | some site =>
    rcases mem_siteFindings h hf with ⟨method, hmethod, hstatic, rfl⟩ | hother
    · exact ⟨site, method, hsite, rfl, hmethod, hstatic⟩
    · rw [hid] at hother
      exact absurd hother (by decide)

end Check.Hooks

namespace Program

/-- The declaration of a method declares this method. -/
def DeclarationsAgree (p : Program) : Prop :=
  ∀ (i : Nat) (hi : i < p.methods.size), ∀ declaration ∈ p.methods[i].declaration,
    (p.nodes[declaration.index]?.bind fun node => node.kind.declaredMethod?) = some ⟨i⟩

instance (p : Program) : Decidable p.DeclarationsAgree :=
  inferInstanceAs (Decidable (∀ (i : Nat) (_ : i < p.methods.size), _))

/-- What a node covers: the path of its file, its first byte and the byte behind its last one. -/
def rangeOf (p : Program) (node : SyntaxNode) : Option String × Nat × Nat :=
  (p.files[node.file.index]?.map SourceFile.path, node.span.startByte, node.span.endByte)

/-- What the functions of a program cover. -/
def functionRanges (p : Program) : List (Option String × Nat × Nat) :=
  (p.nodes.toList.filter fun node => node.kind.isFunction).map p.rangeOf

/-- A node declares a method. -/
def Declares (p : Program) (id : NodeId) (method : MethodId) : Prop :=
  ∃ node, p.node id = .ok node ∧ node.kind.declaredMethod? = some method

theorem Declares.isFunction {p : Program} {id : NodeId} {method : MethodId}
    (h : p.Declares id method) : ∃ node, p.node id = .ok node ∧ node.kind.isFunction = true := by
  obtain ⟨node, hnode, hdeclared⟩ := h
  refine ⟨node, hnode, ?_⟩
  cases hkind : node.kind with
  | method | constructor | localFunction | anonymousFunction => rfl
  | _ =>
    rw [hkind] at hdeclared
    cases hdeclared

/-- The declaration of a replacement declares it. -/
theorem DeclarationsAgree.declares {p : Program} (h : p.DeclarationsAgree)
    {names : FrameworkNames} {event : Event} {site : Check.Hooks.HookSite}
    (hsite : Check.Hooks.siteOf p names event = .ok (some site)) :
    p.Declares site.declaration site.method := by
  obtain ⟨argument, hresolve⟩ := Check.Hooks.resolve_of_siteOf hsite
  unfold Check.Hooks.resolve at hresolve
  obtain ⟨node, hnode, hresolve⟩ := lookup_bind_eq_ok.mp hresolve
  split at hresolve
  · -- a name: from the method to its declaration, and by agreement back to the method
    obtain ⟨found, hfound, hsome⟩ := lookup_bind_eq_ok.mp hresolve
    unfold resolveIdentifier at hfound
    obtain ⟨node', -, hfound⟩ := lookup_bind_eq_ok.mp hfound
    split at hfound
    · rename_i id _
      obtain ⟨method, hmethod, hfound⟩ := lookup_bind_eq_ok.mp hfound
      obtain ⟨hi, hentry⟩ := Array.getElem?_eq_some_iff.mp (fetch_eq_ok_iff.mp hmethod)
      cases hdeclaration : method.declaration with
      | none =>
        rw [hdeclaration] at hfound
        cases hfound
        cases hsome
      | some declaration =>
        rw [hdeclaration] at hfound
        cases hfound
        cases hsome
        have hagree := h id.index hi declaration (by rw [hentry, hdeclaration]; rfl)
        obtain ⟨declaring, hdeclaring, hdeclared⟩ := Option.bind_eq_some_iff.mp hagree
        exact ⟨declaring, fetch_eq_ok_iff.mpr hdeclaring, hdeclared⟩
    · cases hfound
      cases hsome
  · -- an anonymous function is its own declaration
    rename_i form modifiers parameters body symbol hkind
    cases symbol with
    | none => cases hresolve
    | some method =>
      cases hresolve
      exact ⟨node, hnode, by rw [hkind]; rfl⟩
  · cases hresolve

/-! ## From a report to the node of the fix -/

theorem rangeOf_of_location {p : Program} {id : NodeId} {node : SyntaxNode} {own : Location}
    (hnode : p.node id = .ok node) (hown : p.location id = .ok own) :
    p.rangeOf node = (some own.file, own.span.startByte, own.span.endByte) := by
  obtain ⟨node', file, hnode', hfile, rfl⟩ := location_eq_ok hown
  rw [hnode] at hnode'
  cases hnode'
  rw [rangeOf, fetch_eq_ok_iff.mp hfile]
  rfl

/-- If no two functions cover the same, what a function covers tells the function. -/
theorem eq_of_rangeOf_eq {p : Program} (hapart : p.functionRanges.Nodup) {a b : NodeId}
    {m n : SyntaxNode} (hm : p.node a = .ok m) (hn : p.node b = .ok n)
    (hfm : m.kind.isFunction = true) (hfn : n.kind.isFunction = true)
    (hrange : p.rangeOf m = p.rangeOf n) : a = b := by
  have hpairs : p.nodes.toList.Pairwise fun x y =>
      x.kind.isFunction = true → y.kind.isFunction = true → p.rangeOf x ≠ p.rangeOf y := by
    rw [functionRanges, List.Nodup, List.pairwise_map, List.pairwise_filter] at hapart
    exact hapart
  rw [List.pairwise_iff_getElem] at hpairs
  obtain ⟨ha, hma⟩ := Array.getElem?_eq_some_iff.mp (fetch_eq_ok_iff.mp hm)
  obtain ⟨hb, hnb⟩ := Array.getElem?_eq_some_iff.mp (fetch_eq_ok_iff.mp hn)
  have hindex : a.index = b.index := by
    rcases Nat.lt_trichotomy a.index b.index with hlt | heq | hgt
    · have hne := hpairs a.index b.index ha hb hlt
      simp only [Array.getElem_toList, hma, hnb] at hne
      exact absurd hrange (hne hfm hfn)
    · exact heq
    · have hne := hpairs b.index a.index hb ha hgt
      simp only [Array.getElem_toList, hma, hnb] at hne
      exact absurd hrange.symm (hne hfn hfm)
  obtain ⟨i⟩ := a
  obtain ⟨j⟩ := b
  rw [show i = j from hindex]

end Program

namespace CodeAction

theorem isFunction_of_isCandidate {kind : NodeKind} (h : isCandidate kind = true) :
    kind.isFunction = true := by
  cases kind with
  | method | anonymousFunction => rfl
  | _ => cases h

theorem target_of_offer {p : Program} {diagnostic : Diagnostic} {action : CodeAction}
    (h : offer p diagnostic = .ok (some action)) :
    declarationAt? p diagnostic = some action.target := by
  unfold offer at h
  split at h
  · cases h
  · cases htarget : declarationAt? p diagnostic with
    | none =>
      rw [htarget] at h
      cases h
    | some target =>
      simp only [htarget] at h
      obtain ⟨node, -, h⟩ := lookup_bind_eq_ok.mp h
      split at h <;> cases h
      rfl

/-- The node for a diagnostic is a function that covers its range in a file with its path. -/
theorem rangeOf_of_declarationAt? {p : Program} {diagnostic : Diagnostic} {target : NodeId}
    (h : declarationAt? p diagnostic = some target) :
    ∃ node, p.node target = .ok node ∧ node.kind.isFunction = true ∧
      p.rangeOf node = (some diagnostic.file, diagnostic.location.span.startByte,
        diagnostic.location.span.endByte) := by
  unfold declarationAt? at h
  obtain ⟨file, hfile, h⟩ := Option.bind_eq_some_iff.mp h
  obtain ⟨index, hindex, h⟩ := Option.bind_eq_some_iff.mp h
  cases h
  obtain ⟨i, hi, rfl⟩ := Option.map_eq_some_iff.mp hfile
  obtain ⟨hi, hpath, -⟩ := Array.findIdx?_eq_some_iff_getElem.mp hi
  obtain ⟨hindex, hmatch, -⟩ := Array.findIdx?_eq_some_iff_getElem.mp hindex
  simp only [Bool.and_eq_true, beq_iff_eq, Span.sameRange] at hpath hmatch
  obtain ⟨⟨hfile, hstart, hend⟩, hcandidate⟩ := hmatch
  refine ⟨p.nodes[index], Program.fetch_eq_ok_iff.mpr (Array.getElem?_eq_getElem hindex), ?_, ?_⟩
  · exact isFunction_of_isCandidate hcandidate
  · rw [Program.rangeOf, hfile, hstart, hend, Array.getElem?_eq_getElem hi, Option.map_some, hpath]

end CodeAction

namespace Program

/-- A report that a replacement should be static is made where a registered method is declared
which is not static. -/
theorem site_of_reportedAt {p : Program} {analyzer : Analyzer} {diagnostic : Diagnostic}
    {node : NodeId} (h : analyzer.ReportedAt p diagnostic node)
    (hid : diagnostic.id = .hooksShouldBeStatic) :
    p.location node = .ok diagnostic.location ∧ ∃ event site method,
      Check.Hooks.siteOf p analyzer.config.framework event = .ok (some site) ∧
        site.declaration = node ∧ p.method site.method = .ok method ∧ method.isStatic = false := by
  obtain ⟨events, event, checker, findings, finding, -, -, -, hinspect, hfinding, hreport, rfl⟩ := h
  obtain ⟨hsame, hlocation⟩ := Finding.diagnostic?_eq_some hreport
  rw [hid] at hsame
  have hcondition := checker.inspect_only p _ event findings hinspect finding hfinding
  rw [← hsame] at hcondition
  cases checker with
  | hooks =>
    obtain ⟨site, method, hsite, hnode, hmethod, hstatic⟩ :=
      Check.Hooks.site_of_inspect hinspect hfinding hsame.symm
    exact ⟨hlocation, event, site, method, hsite, hnode.symm, hmethod, hstatic⟩
  | _ => exact absurd hcondition (by decide)

/-- The node for a diagnostic that has the path and the range of a replacement's declaration is this
declaration. -/
theorem declaration_eq_target {p : Program} (hagree : p.DeclarationsAgree)
    (hapart : p.functionRanges.Nodup) {names : FrameworkNames} {event : Event}
    {site : Check.Hooks.HookSite} (hsite : Check.Hooks.siteOf p names event = .ok (some site))
    {diagnostic : Diagnostic} {location : Location}
    (hlocation : p.location site.declaration = .ok location)
    (hfile : location.file = diagnostic.file)
    (hrange : location.span.sameRange diagnostic.location.span = true) {target : NodeId}
    (htarget : CodeAction.declarationAt? p diagnostic = some target) :
    site.declaration = target := by
  obtain ⟨node, hnode, hfunction⟩ := (hagree.declares hsite).isFunction
  obtain ⟨found, hfound, hfoundFunction, hfoundRange⟩ :=
    CodeAction.rangeOf_of_declarationAt? htarget
  refine eq_of_rangeOf_eq hapart hnode hfound hfunction hfoundFunction ?_
  simp only [Span.sameRange, Bool.and_eq_true, beq_iff_eq] at hrange
  rw [rangeOf_of_location hnode hlocation, hfoundRange, hfile, hrange.1, hrange.2]

/-! ## The diagnostic goes -/

/-- In a loaded program in which declarations agree and functions stand apart, the fix for a hook
that should be static is made at the declaration that was reported, and afterwards no hook is
reported there any more. -/
theorem static_fix_removes_its_diagnostic {p q : Program} (hcheck : p.check = .ok ())
    (hlink : p.link = .ok q) (hagree : q.DeclarationsAgree) (hapart : q.functionRanges.Nodup)
    (analyzer : Analyzer) {diagnostics : List Diagnostic}
    (hanalyze : analyzer.analyze q = .ok diagnostics) {diagnostic : Diagnostic}
    (hlisted : diagnostic ∈ diagnostics) (hid : diagnostic.id = .hooksShouldBeStatic)
    {action : CodeAction} (hoffer : CodeAction.offer q diagnostic = .ok (some action))
    {overflow : Overflow} {fix : AppliedFix} (hfix : action.apply overflow q = .ok (some fix)) :
    analyzer.ReportedAt q diagnostic action.target ∧
      (∀ node, analyzer.ReportedAt q diagnostic node → node = action.target) ∧
      ∃ after, analyzer.analyze fix.program = .ok after ∧
        ∀ other ∈ after, other.id = .hooksShouldBeStatic → other.file = diagnostic.file →
          other.location.span.sameRange diagnostic.location.span = false := by
  have hq : q.Loaded := loaded_of_link hcheck hlink
  have heased : q.EasedTo fix.program := MakeStatic.apply_eased hfix
  have hfixed : fix.program.Loaded := heased.loaded hq
  have htarget := CodeAction.target_of_offer hoffer
  have hat : ∀ node, analyzer.ReportedAt q diagnostic node → node = action.target := by
    intro node hreported
    obtain ⟨hlocation, event, site, -, hsite, rfl, -⟩ := site_of_reportedAt hreported hid
    exact declaration_eq_target hagree hapart hsite hlocation rfl (by simp [Span.sameRange])
      htarget
  rw [hq.analyze_eq] at hanalyze
  cases hanalyze
  obtain ⟨node, hreported⟩ :=
    Analyzer.mem_reportList_iff.mp (Diagnostic.mem_of_mem_canonical hlisted)
  refine ⟨hat node hreported ▸ hreported, hat, _, hfixed.analyze_eq analyzer, ?_⟩
  intro other hother hotherId hfile
  by_contra hrange
  rw [Bool.not_eq_false] at hrange
  obtain ⟨declaration, hafter⟩ :=
    Analyzer.mem_reportList_iff.mp (Diagnostic.mem_of_mem_canonical hother)
  obtain ⟨hlocation, event, site, method, hsite, rfl, hmethod, hinstance⟩ :=
    site_of_reportedAt hafter hotherId
  rw [heased.siteOf_eq] at hsite
  rw [heased.location_eq] at hlocation
  have heq := declaration_eq_target hagree hapart hsite hlocation hfile hrange htarget
  obtain ⟨declaring, hdeclaring, hdeclared⟩ := hagree.declares hsite
  rw [heq] at hdeclaring
  have hstatic := MakeStatic.isStatic_of_apply hfix hdeclaring hdeclared hmethod
  rw [hinstance] at hstatic
  cases hstatic

/-- The report on a function of `pairedHooks` that starts at an offset. -/
def instanceReport (start : Nat) (name : String) : Diagnostic :=
  { id := .hooksShouldBeStatic
    severity := .warning
    location := {
      file := "Hook.cs"
      span := { startByte := start, endByte := start + 20, startLine := 1
                startColumn := start + 1 } }
    message := DiagnosticId.hooksShouldBeStatic.format [name]
    args := [name] }

/-- The reports on `pairedHooks`, in the order in which they arrive. -/
def pairedReports : List Diagnostic :=
  [instanceReport 20 "Replace", instanceReport 20 "Replace", instanceReport 200 "lambda"]

theorem static_fix_of_pairedHooks_removes_its_diagnostic :
    pairedHooks.check = .ok () ∧ pairedHooks.link = .ok pairedHooks ∧
      pairedHooks.DeclarationsAgree ∧ pairedHooks.functionRanges.Nodup ∧
      hookAnalyzer.analyze pairedHooks = .ok (Diagnostic.canonical pairedReports) ∧
      instanceReport 20 "Replace" ∈ Diagnostic.canonical pairedReports ∧
      CodeAction.offer pairedHooks (instanceReport 20 "Replace") =
        .ok (some { file := "Hook.cs", target := ⟨1⟩ }) ∧
      ∃ fix, MakeStatic.apply .wraps pairedHooks ⟨1⟩ = .ok (some fix) ∧
        ∃ after, hookAnalyzer.analyze fix.program = .ok after ∧
          instanceReport 20 "Replace" ∉ after := by
  have hcheck : pairedHooks.check = .ok () := by decide +kernel
  have hlink : pairedHooks.link = .ok pairedHooks := by decide +kernel
  have hagree : pairedHooks.DeclarationsAgree := by decide +kernel
  have hapart : pairedHooks.functionRanges.Nodup := by decide +kernel
  have hcollect : hookAnalyzer.collect pairedHooks = .ok pairedReports := by decide +kernel
  have hanalyze : hookAnalyzer.analyze pairedHooks = .ok (Diagnostic.canonical pairedReports) := by
    rw [Analyzer.analyze, hcollect]
    rfl
  have hplain : ∀ report ∈ pairedReports, report.PlainPath := by
    unfold Diagnostic.PlainPath
    decide +kernel
  have hlisted : instanceReport 20 "Replace" ∈ Diagnostic.canonical pairedReports :=
    (Diagnostic.mem_canonical_iff hplain).mpr (by decide +kernel)
  have hoffer : CodeAction.offer pairedHooks (instanceReport 20 "Replace") =
      .ok (some { file := "Hook.cs", target := ⟨1⟩ }) := by decide +kernel
  obtain ⟨fix, hfix⟩ : ∃ fix, MakeStatic.apply .wraps pairedHooks ⟨1⟩ = .ok (some fix) := ⟨_, rfl⟩
  obtain ⟨-, -, after, hafter, hgone⟩ :=
    static_fix_removes_its_diagnostic hcheck hlink hagree hapart hookAnalyzer hanalyze hlisted rfl
      hoffer hfix
  refine ⟨hcheck, hlink, hagree, hapart, hanalyze, hlisted, hoffer, fix, hfix, after, hafter, ?_⟩
  intro hstill
  have hrange := hgone _ hstill rfl rfl
  simp [Span.sameRange] at hrange

end Program

end ModLint
