import ModLint.Analysis.Run
import ModLint.Proofs.KeywordPlace
import ModLint.Proofs.Questions

/-!
# The analysis of a loaded program meets no fault

Every checker answers at every event that a loaded program raises, and what it finds is at nodes of
the program, so that it can be reported. Suppressions can be collected, fixes offered and offered
fixes applied.
-/

namespace ModLint

/-- Findings at nodes of a program. -/
def Findings.InRange (p : Program) (findings : List Finding) : Prop :=
  ∀ finding ∈ findings, p.Has finding.node

/-- A diagnostic as a catalog makes it: of a condition that is reported, with its severity and its
message. -/
structure Diagnostic.Follows (catalog : Catalog) (diagnostic : Diagnostic) : Prop where
  severity : diagnostic.severity = (catalog.setting diagnostic.id).severity
  enabled : (catalog.setting diagnostic.id).enabled = true
  message : diagnostic.message = diagnostic.id.format diagnostic.args

/-- An event at a type or node of a program. -/
def Event.InRange (p : Program) : Event → Prop
  | .namedType id => p.Has id
  | .invocation id => p.Has id
  | .objectCreation id => p.Has id
  | .eventAssignment id => p.Has id
  | .propertyReference id => p.Has id

theorem Findings.inRange_nil (p : Program) : Findings.InRange p [] := by
  simp [Findings.InRange]

theorem Findings.inRange_singleton {p : Program} {id : NodeId} (hid : p.Has id)
    (condition : DiagnosticId) (args : List String) :
    Findings.InRange p [⟨condition, id, args⟩] := by
  simpa [Findings.InRange] using hid

theorem Findings.InRange.append {p : Program} {xs ys : List Finding} (hx : Findings.InRange p xs)
    (hy : Findings.InRange p ys) : Findings.InRange p (xs ++ ys) := by
  intro finding hf
  exact (List.mem_append.mp hf).elim (hx finding) (hy finding)

/-! ## Hooks -/

namespace Check.Hooks

/-- A replacement whose method and declaration exist. -/
def HookSite.InRange (p : Program) (site : HookSite) : Prop :=
  p.Has site.method ∧ p.Has site.declaration

variable {p : Program} (h : p.Loaded) (names : FrameworkNames)

include h

theorem resolve_answers {argument : NodeId} (hid : p.Has argument) :
    Answers (resolve p argument) fun site? => ∀ site, site? = some site → site.InRange p := by
  unfold resolve
  refine (h.inRange.node hid).bind fun node hnode => ?_
  split
  · refine (h.inRange.resolveIdentifier hid).bind fun found? hfound => ?_
    refine Answers.pure fun site hsite => ?_
    obtain ⟨⟨method, declaration⟩, hsome, rfl⟩ := Option.map_eq_some_iff.mp hsite
    exact hfound method declaration hsome
  · rename_i symbol hk
    refine Answers.pure fun site hsite => ?_
    obtain ⟨method, hsome, rfl⟩ := Option.map_eq_some_iff.mp hsite
    exact ⟨hnode.declaredMethod method (by simp [hk, NodeKind.declaredMethod?, hsome]), hid⟩
  · exact Answers.pure (by simp)

theorem detour_answers {id : NodeId} (hid : p.Has id) :
    Answers (detour p names id) fun site? => ∀ site, site? = some site → site.InRange p := by
  unfold detour
  refine (h.inRange.node hid).bind fun node hnode => ?_
  split
  · rename_i typeName arguments created hk
    refine (h.inRange.fullTypeName (hnode.created _ _ _ hk)).bind fun full _ => ?_
    split
    · split
      · rename_i original replacement
        have hreplacement : p.Has replacement :=
          hnode.children replacement (by simp [hk, NodeKind.children])
        exact resolve_answers h hreplacement
      · exact Answers.pure (by simp)
    · exact Answers.pure (by simp)
  · exact Answers.pure (by simp)

theorem eventHook_answers {id : NodeId} (hid : p.Has id) :
    Answers (eventHook p names id) fun site? => ∀ site, site? = some site → site.InRange p := by
  unfold eventHook
  refine (h.inRange.node hid).bind fun node hnode => ?_
  split
  · rename_i operator left right hk
    have hleft : p.Has left := hnode.children left (by simp [hk, NodeKind.children])
    have hright : p.Has right := hnode.children right (by simp [hk, NodeKind.children])
    refine (h.inRange.node hleft).bind fun target htarget => ?_
    split
    · rename_i event hsymbol
      refine (h.inRange.bottommostNamespace (htarget.symbol _ hsymbol)).bind fun root? hroot => ?_
      split
      · rename_i root
        refine (h.inRange.nameSpace (hroot root rfl)).bind fun space _ => ?_
        split
        · exact resolve_answers h hright
        · exact Answers.pure (by simp)
      · exact Answers.pure (by simp)
    · exact Answers.pure (by simp)
  · exact Answers.pure (by simp)

theorem yieldsCallOf_answers {id : NodeId} (hid : p.Has id) (orig : String) :
    Answers (yieldsCallOf p orig id) fun _ => True := by
  unfold yieldsCallOf
  refine (h.inRange.node hid).bind fun node hnode => ?_
  split
  · rename_i operand hk
    have hoperand : p.Has operand := hnode.children operand (by simp [hk, NodeKind.children])
    exact (h.withoutParentheses hoperand).bind fun inner hinner => h.isInvocationOf hinner orig
  · exact Answers.pure trivial

theorem isContext_answers {parameter : ParameterSymbol}
    (hparameter : ∀ id, parameter.type = some id → p.Has id) :
    Answers (isContext p names parameter) fun _ => True := by
  unfold isContext
  split
  · exact Answers.pure trivial
  · rename_i type htype
    exact (h.inRange.fullTypeName (hparameter type htype)).bind fun name _ => Answers.pure trivial

theorem origTypeName_answers {orig : ParameterSymbol}
    (horig : ∀ id, orig.type = some id → p.Has id) :
    Answers (origTypeName p orig) fun _ => True := by
  unfold origTypeName
  split
  · exact Answers.pure trivial
  · rename_i type htype
    exact h.inRange.typeName (horig type htype)

theorem callFindings_answers {site : HookSite} (hsite : site.InRange p) {orig : ParameterSymbol}
    (horig : ∀ id, orig.type = some id → p.Has id) {body : NodeId} (hbody : p.Has body) :
    Answers (callFindings p site orig body) (Findings.InRange p) := by
  unfold callFindings
  refine (h.descendantsUntil hbody _).bind fun ids hids => ?_
  refine (Answers.anyM fun id hid => h.isInvocationOf (hids id hid) _).bind fun calls _ => ?_
  split
  · exact Answers.pure (Findings.inRange_nil p)
  · exact (origTypeName_answers h horig).bind fun name _ =>
      Answers.pure (Findings.inRange_singleton hsite.2 _ _)

theorem yieldFindings_answers (orig : ParameterSymbol) {body : NodeId} (hbody : p.Has body) :
    Answers (yieldFindings p orig body) (Findings.InRange p) := by
  unfold yieldFindings
  refine (h.descendantsUntil hbody _).bind fun ids hids => ?_
  refine (Answers.filterM fun id hid => yieldsCallOf_answers h (hids id hid) _).bind
    fun yielded hyielded => Answers.pure fun finding hf => ?_
  obtain ⟨id, hid, rfl⟩ := List.mem_map.mp hf
  exact hids id (hyielded id hid)

theorem origFindings_answers {site : HookSite} (hsite : site.InRange p) {orig : ParameterSymbol}
    (horig : ∀ id, orig.type = some id → p.Has id) {body : NodeId} (hbody : p.Has body)
    (sequence : Bool) : Answers (origFindings p site orig body sequence) (Findings.InRange p) := by
  unfold origFindings
  refine (callFindings_answers h hsite horig hbody).bind fun missing hmissing => ?_
  split
  · exact (yieldFindings_answers h orig hbody).bind fun yielded hyielded =>
      Answers.pure (hmissing.append hyielded)
  · exact Answers.pure hmissing

omit h in
theorem body_in_range {node : SyntaxNode} (hnode : node.IdsBelow p.size) {body : NodeId}
    (hbody : node.kind.body? = some body) : p.Has body := by
  refine hnode.children body ?_
  cases hk : node.kind <;> simp [hk, NodeKind.body?, NodeKind.children] at hbody ⊢ <;>
    simp [hbody]

theorem siteFindings_answers {site : HookSite} (hsite : site.InRange p) :
    Answers (siteFindings p names site) (Findings.InRange p) := by
  unfold siteFindings
  refine (h.inRange.method hsite.1).bind fun method hmethod => ?_
  refine (h.inRange.node hsite.2).bind fun node hnode => ?_
  refine (h.inRange.isSequenceType names _ hmethod.returnType).bind fun sequence _ => ?_
  have hinstance : Findings.InRange p (if method.isStatic then []
      else [⟨.hooksShouldBeStatic, site.declaration, [methodName method]⟩]) := by
    split
    · exact Findings.inRange_nil p
    · exact Findings.inRange_singleton hsite.2 _ _
  dsimp only
  split
  · rename_i orig horig
    have hparameter := hmethod.parameters orig (List.mem_of_head? horig)
    refine (isContext_answers h names hparameter).bind fun context _ => ?_
    split
    · exact Answers.pure hinstance
    · split
      · rename_i body hbody
        refine (origFindings_answers h hsite hparameter (body_in_range hnode hbody) _).bind
          fun findings hfindings => ?_
        exact Answers.pure (hinstance.append hfindings)
      · exact Answers.pure hinstance
  · exact Answers.pure hinstance

theorem siteOf_answers {event : Event} (hevent : event.InRange p) :
    Answers (siteOf p names event) fun site? => ∀ site, site? = some site → site.InRange p := by
  cases event with
  | objectCreation id => exact detour_answers h names hevent
  | eventAssignment id => exact eventHook_answers h names hevent
  | _ => exact Answers.pure (by simp)

theorem inspect_answers {event : Event} (hevent : event.InRange p) :
    Answers (inspect p names event) (Findings.InRange p) := by
  unfold inspect
  refine (siteOf_answers h names hevent).bind fun site? hsite => ?_
  split
  · exact Answers.pure (Findings.inRange_nil p)
  · rename_i site
    exact siteFindings_answers h names (hsite site rfl)

end Check.Hooks

/-! ## Instruction cursors -/

namespace Check.Cursor

variable {p : Program} (h : p.Loaded) (names : FrameworkNames)

include h

theorem emitFindings_answers (emit : String) {argument : NodeId} (hid : p.Has argument) :
    Answers (emitFindings p emit argument) (Findings.InRange p) := by
  unfold emitFindings
  refine (h.inRange.node hid).bind fun node hnode => ?_
  split
  · exact Answers.pure (Findings.inRange_singleton hid _ _)
  · rename_i name method hk
    have hmethod : p.Has method := hnode.symbol (.method method) (by simp [hk, NodeKind.symbol?])
    refine (h.inRange.method hmethod).bind fun symbol _ => ?_
    split
    · exact Answers.pure (Findings.inRange_singleton hid _ _)
    · exact Answers.pure (Findings.inRange_nil p)
  · exact Answers.pure (Findings.inRange_nil p)

theorem callFindings_answers (methods : CursorMethods) {id : NodeId} (hid : p.Has id)
    (name : String) {arguments : List NodeId} (harguments : ∀ a ∈ arguments, p.Has a) :
    Answers (callFindings p methods id name arguments) (Findings.InRange p) := by
  unfold callFindings
  split
  · split
    · rename_i argument
      exact emitFindings_answers h name (harguments argument (by simp))
    · exact Answers.pure (Findings.inRange_nil p)
  · split
    · exact Answers.pure (Findings.inRange_singleton hid _ _)
    · split
      · exact Answers.pure (Findings.inRange_singleton hid _ _)
      · exact Answers.pure (Findings.inRange_nil p)

theorem inspect_answers {event : Event} (hevent : event.InRange p) :
    Answers (inspect p names event) (Findings.InRange p) := by
  unfold inspect
  split
  · rename_i id
    have hid : p.Has id := hevent
    refine (h.inRange.node hid).bind fun node hnode => ?_
    split
    · rename_i callee arguments target typeArguments hk
      refine (h.inRange.method (hnode.target _ _ _ _ hk)).bind fun method hmethod => ?_
      split
      · exact Answers.pure (Findings.inRange_nil p)
      · split
        · rename_i owner howner
          refine (h.inRange.fullTypeName (hmethod.containingType owner howner)).bind
            fun full _ => ?_
          split
          · refine callFindings_answers h _ hid _ fun a ha => hnode.children a ?_
            simp [hk, NodeKind.children, ha]
          · exact Answers.pure (Findings.inRange_nil p)
        · exact Answers.pure (Findings.inRange_nil p)
    · exact Answers.pure (Findings.inRange_nil p)
  · exact Answers.pure (Findings.inRange_nil p)

end Check.Cursor

/-! ## Custom entities -/

namespace Check.Entity

variable {p : Program} (h : p.Loaded) (names : FrameworkNames)

include h

theorem hasTypeNamed_answers {parameter : ParameterSymbol}
    (hparameter : ∀ id, parameter.type = some id → p.Has id) (name : String) :
    Answers (hasTypeNamed p parameter name) fun _ => True := by
  unfold hasTypeNamed
  split
  · exact Answers.pure trivial
  · rename_i type htype
    exact (h.inRange.fullTypeName (hparameter type htype)).bind fun full _ => Answers.pure trivial

theorem isCallable_answers {method : MethodSymbol} (hmethod : method.IdsBelow p.size)
    (generator : Bool) : Answers (isCallable p names method generator) fun _ => True := by
  unfold isCallable
  refine Answers.anyM fun shape _ => ?_
  unfold hasShape
  split
  · exact Answers.pure trivial
  · split
    · refine Answers.allM fun pair hpair => ?_
      exact hasTypeNamed_answers h (hmethod.parameters pair.2 (List.of_mem_zip hpair).2) pair.1
    · exact Answers.pure trivial

theorem returnsEntity_answers {method : MethodSymbol} (hmethod : method.IdsBelow p.size) :
    Answers (returnsEntity p names method) fun _ => True := by
  unfold returnsEntity
  split
  · exact Answers.pure trivial
  · rename_i type htype
    exact h.inRange.extendsType (hmethod.returnType type htype) _

theorem generatorFindings_answers {symbol : TypeSymbol} (hsymbol : symbol.IdsBelow p.size)
    {declaration : NodeId} (hdeclaration : p.Has declaration) (name : String) :
    Answers (generatorFindings p names symbol declaration name) (Findings.InRange p) := by
  unfold generatorFindings
  refine (Answers.findM? fun member hmember => ?_).bind fun found? hfound => ?_
  · exact (h.inRange.method (hsymbol.members member hmember)).bind
      fun method _ => Answers.pure trivial
  · split
    · exact Answers.pure (Findings.inRange_singleton hdeclaration _ _)
    · rename_i member
      have hmember := hsymbol.members member (hfound member rfl)
      refine (h.inRange.method hmember).bind fun method hmethod => ?_
      have hnode : p.Has (method.declaration.getD declaration) := by
        cases hd : method.declaration with
        | none => exact hdeclaration
        | some id => exact hmethod.declaration id hd
      refine (returnsEntity_answers h names hmethod).bind fun entity _ => ?_
      refine (isCallable_answers h names hmethod true).bind fun callable _ => ?_
      refine Answers.pure (Findings.InRange.append ?_ ?_)
      · split
        · exact Findings.inRange_nil p
        · exact Findings.inRange_singleton hnode _ _
      · split
        · exact Findings.inRange_nil p
        · exact Findings.inRange_singleton hnode _ _

theorem isConstructible_answers {symbol : TypeSymbol} (hsymbol : symbol.IdsBelow p.size)
    (ids : List EntityId) : Answers (isConstructible p names symbol ids) fun _ => True := by
  unfold isConstructible
  split
  · exact Answers.pure trivial
  · refine Answers.anyM fun member hmember => ?_
    unfold isUsableConstructor
    refine (h.inRange.method (hsymbol.members member hmember)).bind fun method hmethod => ?_
    split
    · exact isCallable_answers h names hmethod false
    · exact Answers.pure trivial

theorem idFindings_answers {symbol : TypeSymbol} (hsymbol : symbol.IdsBelow p.size)
    {declaration : NodeId} (hdeclaration : p.Has declaration) {data : AttributeData}
    (hdata : data.IdsBelow p.size) :
    Answers (idFindings p names symbol declaration data) (Findings.InRange p) := by
  have hsite : p.Has (data.site.getD declaration) := by
    cases hs : data.site with
    | none => exact hdeclaration
    | some id => exact hdata.site id hs
  unfold idFindings
  refine (Answers.mapM fun name _ =>
    generatorFindings_answers h names hsymbol hdeclaration name).bind
      fun generators hgenerators => ?_
  refine (isConstructible_answers h names hsymbol _).bind fun constructible _ => ?_
  refine Answers.pure (Findings.InRange.append (Findings.InRange.append ?_ ?_) ?_)
  · split
    · exact Findings.inRange_singleton hsite _ _
    · exact Findings.inRange_nil p
  · intro finding hf
    obtain ⟨findings, hmem, hf⟩ := List.mem_flatten.mp hf
    exact hgenerators findings hmem finding hf
  · split
    · exact Findings.inRange_nil p
    · exact Findings.inRange_singleton hdeclaration _ _

theorem typeFindings_answers {id : TypeId} (hid : p.Has id) :
    Answers (typeFindings p names id) (Findings.InRange p) := by
  unfold typeFindings
  refine (h.inRange.findAttribute hid _).bind fun data? hdata => ?_
  split
  · rename_i data
    refine (h.inRange.type hid).bind fun symbol hsymbol => ?_
    split
    · rename_i declaration hdeclaration
      have hnode := hsymbol.declaration declaration hdeclaration
      refine (h.inRange.extendsType hid _).bind fun isEntity _ => ?_
      split
      · exact idFindings_answers h names hsymbol hnode (hdata data rfl)
      · exact Answers.pure (Findings.inRange_singleton hnode _ _)
    · exact Answers.pure (Findings.inRange_nil p)
  · exact Answers.pure (Findings.inRange_nil p)

theorem enclosingFunction_answers {id : NodeId} (hid : p.Has id) :
    Answers (enclosingFunction p id) fun _ => True := by
  unfold enclosingFunction
  refine (h.ancestors hid).bind fun ids hids => ?_
  refine Answers.bind (P := fun _ => True) ?_ fun kinds _ => Answers.pure trivial
  refine Answers.mono (Answers.mapM (Q := fun _ => True) fun ancestor hancestor => ?_)
    fun _ _ => trivial
  exact (h.inRange.node (hids ancestor hancestor)).bind fun node _ => Answers.pure trivial

theorem propertyFindings_answers {id : NodeId} (hid : p.Has id) :
    Answers (propertyFindings p names id) (Findings.InRange p) := by
  unfold propertyFindings
  refine (h.inRange.node hid).bind fun node hnode => ?_
  split
  · rename_i property hproperty
    refine (h.inRange.property (hnode.symbol _ hproperty)).bind fun symbol hsymbol => ?_
    have hscene : Answers (isScene p names symbol) fun _ => True := by
      unfold isScene
      split
      · exact (h.inRange.fullTypeName hsymbol).bind fun full _ => Answers.pure trivial
      · exact Answers.pure trivial
    refine hscene.bind fun scene _ => ?_
    split
    · refine (enclosingFunction_answers h hid).bind fun kind? _ => ?_
      split
      · exact Answers.pure (Findings.inRange_singleton hid _ _)
      · exact Answers.pure (Findings.inRange_nil p)
    · exact Answers.pure (Findings.inRange_nil p)
  · exact Answers.pure (Findings.inRange_nil p)

theorem inspect_answers {event : Event} (hevent : event.InRange p) :
    Answers (inspect p names event) (Findings.InRange p) := by
  cases event with
  | namedType id => exact typeFindings_answers h names hevent
  | propertyReference id => exact propertyFindings_answers h names hevent
  | _ => exact Answers.pure (Findings.inRange_nil p)

end Check.Entity

/-! ## The tracker -/

namespace Check.Tracker

variable {p : Program} (h : p.Loaded) (names : FrameworkNames)

include h

theorem typeFindings_answers {id : TypeId} (hid : p.Has id) :
    Answers (typeFindings p names id) (Findings.InRange p) := by
  unfold typeFindings
  refine (h.inRange.findAttribute hid _).bind fun data? hdata => ?_
  split
  · rename_i data
    split
    · rename_i target harguments
      have htarget : p.Has target := by
        refine (hdata data rfl).types target ?_
        simp [harguments, AttributeArgument.typesOfItems, AttributeArgument.types]
      refine (h.inRange.fullTypeName htarget).bind fun full _ => ?_
      refine (h.inRange.extendsType hid full).bind fun isTarget _ => ?_
      split
      · exact Answers.pure (Findings.inRange_nil p)
      · refine (h.inRange.type hid).bind fun symbol hsymbol => ?_
        split
        · rename_i node hnode
          have hhas : p.Has node := by
            cases hs : data.site with
            | none => exact hsymbol.declaration node (by simpa [hs] using hnode)
            | some id => exact (hdata data rfl).site node (by simpa [hs] using hnode)
          exact (h.inRange.typeName htarget).bind fun name _ =>
            Answers.pure (Findings.inRange_singleton hhas _ _)
        · exact Answers.pure (Findings.inRange_nil p)
    · exact Answers.pure (Findings.inRange_nil p)
  · exact Answers.pure (Findings.inRange_nil p)

theorem callFindings_answers {id : NodeId} (hid : p.Has id) {owner : TypeId} (howner : p.Has owner)
    (name : String) {used : TypeId} (hused : p.Has used) :
    Answers (callFindings p names id owner name used) (Findings.InRange p) := by
  unfold callFindings
  refine (h.inRange.fullTypeName howner).bind fun ownerName _ => ?_
  refine (h.inRange.typeName hused).bind fun usedName _ => ?_
  split
  · split
    · exact Answers.pure (Findings.inRange_nil p)
    · refine (h.inRange.isTracked names hused).bind fun tracked _ => ?_
      split
      · exact Answers.pure (Findings.inRange_nil p)
      · exact Answers.pure (Findings.inRange_singleton hid _ _)
  · split
    · refine (h.inRange.isTracked names hused).bind fun tracked _ => ?_
      split
      · exact Answers.pure (Findings.inRange_singleton hid _ _)
      · have hsymbol : p.HasSymbol (.type used) := hused
        refine (h.inRange.isSourceLocal hsymbol).bind fun isLocal _ => ?_
        split
        · exact Answers.pure (Findings.inRange_singleton hid _ _)
        · exact Answers.pure (Findings.inRange_nil p)
    · exact Answers.pure (Findings.inRange_nil p)

theorem invocationFindings_answers {id : NodeId} (hid : p.Has id) :
    Answers (invocationFindings p names id) (Findings.InRange p) := by
  unfold invocationFindings
  refine (h.inRange.node hid).bind fun node hnode => ?_
  split
  · rename_i callee arguments target typeArguments hk
    refine (h.inRange.method (hnode.target _ _ _ _ hk)).bind fun method hmethod => ?_
    split
    · exact Answers.pure (Findings.inRange_nil p)
    · split
      · rename_i owner howner
        split
        · rename_i used hused
          have hmem : used ∈ typeArguments := List.mem_of_head? hused
          exact callFindings_answers h names hid (hmethod.containingType owner howner) _
            (hnode.typeArguments _ _ _ _ hk used hmem)
        · exact Answers.pure (Findings.inRange_nil p)
      · exact Answers.pure (Findings.inRange_nil p)
  · exact Answers.pure (Findings.inRange_nil p)

theorem inspect_answers {event : Event} (hevent : event.InRange p) :
    Answers (inspect p names event) (Findings.InRange p) := by
  cases event with
  | namedType id => exact typeFindings_answers h names hevent
  | invocation id => exact invocationFindings_answers h names hevent
  | _ => exact Answers.pure (Findings.inRange_nil p)

end Check.Tracker

/-! ## Analysis -/

namespace Program

theorem suppressionsFor_answers (p : Program) (disk : String → Option String)
    (diagnostics : List Diagnostic) :
    Answers (p.suppressionsFor disk diagnostics) fun _ => True := by
  unfold Program.suppressionsFor
  refine (Answers.mapM (Q := fun _ => True) fun path _ => ?_).bind
    fun found _ => Answers.pure trivial
  unfold Program.suppressionsAt
  split
  · rename_i id hid
    obtain ⟨i, hi, rfl⟩ := Option.map_eq_some_iff.mp hid
    have hfile : i < p.files.size := (Array.findIdx?_eq_some_iff_getElem.mp hi).1
    have htext : Answers (p.sourceText disk ⟨i⟩) fun _ => True :=
      Answers.bind (fetch_answers hfile) fun file _ => Answers.pure trivial
    refine htext.bind fun text? _ => ?_
    split <;> exact Answers.pure trivial
  · exact Answers.pure trivial

end Program

namespace Program.Loaded

variable {p : Program} (h : p.Loaded)

include h

theorem inspect (names : FrameworkNames) (checker : Checker) {event : Event}
    (hevent : event.InRange p) :
    Answers (checker.inspect p names event) (Findings.InRange p) := by
  cases checker with
  | hooks => exact Check.Hooks.inspect_answers h names hevent
  | ilCursor => exact Check.Cursor.inspect_answers h names hevent
  | entity => exact Check.Entity.inspect_answers h names hevent
  | tracker => exact Check.Tracker.inspect_answers h names hevent

theorem assignmentEvent {id left : NodeId} (hid : p.Has id) (hleft : p.Has left) :
    Answers (p.assignmentEvent id left) fun event? =>
      ∀ event, event? = some event → event.InRange p := by
  unfold Program.assignmentEvent
  refine (h.inRange.node hleft).bind fun target _ => ?_
  split
  · exact Answers.pure (by rintro _ ⟨⟩; exact hid)
  · exact Answers.pure (by simp)

theorem eventOf {id : NodeId} (hid : p.Has id) :
    Answers (p.eventOf id) fun event? => ∀ event, event? = some event → event.InRange p := by
  unfold Program.eventOf
  refine (h.inRange.node hid).bind fun node hnode => ?_
  split
  · exact Answers.pure (by rintro _ ⟨⟩; exact hid)
  · exact Answers.pure (by rintro _ ⟨⟩; exact hid)
  · rename_i left right hk
    exact h.assignmentEvent hid (hnode.children left (by simp [hk, NodeKind.children]))
  · rename_i left right hk
    exact h.assignmentEvent hid (hnode.children left (by simp [hk, NodeKind.children]))
  · exact Answers.pure (by rintro _ ⟨⟩; exact hid)
  · exact Answers.pure (by rintro _ ⟨⟩; exact hid)
  · exact Answers.pure (by simp)

theorem typeEventOf {id : TypeId} (hid : p.Has id) :
    Answers (p.typeEventOf id) fun event? => ∀ event, event? = some event → event.InRange p := by
  unfold Program.typeEventOf
  refine (h.inRange.type hid).bind fun symbol _ => Answers.pure fun event hevent => ?_
  split at hevent <;> cases hevent
  exact hid

theorem raisedEvents : Answers p.raisedEvents fun events => ∀ event ∈ events, event.InRange p := by
  unfold Program.raisedEvents
  refine (Answers.filterMapM (Q := Event.InRange p) fun id hid => ?_).bind
    fun declared hdeclared => ?_
  · obtain ⟨i, hi, rfl⟩ := List.mem_map.mp hid
    exact h.typeEventOf (List.mem_range.mp hi)
  · refine (Answers.filterMapM (Q := Event.InRange p) fun id hid => ?_).bind
      fun raised hraised => ?_
    · exact h.eventOf (mem_nodeIds.mp hid)
    · refine Answers.pure fun event hevent => ?_
      exact (List.mem_append.mp hevent).elim (hdeclared event) (hraised event)

theorem diagnostic? (catalog : Catalog) {finding : Finding} (hfinding : p.Has finding.node) :
    Answers (finding.diagnostic? catalog p) fun report? =>
      ∀ report, report? = some report → report.Follows catalog := by
  unfold Finding.diagnostic?
  refine (h.inRange.location hfinding).bind fun location _ => ?_
  dsimp only
  split
  · rename_i henabled
    exact Answers.pure (by rintro _ ⟨⟩; exact ⟨rfl, henabled, rfl⟩)
  · exact Answers.pure (by simp)

theorem reports (analyzer : Analyzer) {event : Event} (hevent : event.InRange p) :
    Answers (analyzer.reports p event) fun reports =>
      ∀ report ∈ reports, report.Follows analyzer.catalog := by
  unfold Analyzer.reports
  refine (Answers.mapM (Q := fun reports : List Diagnostic =>
    ∀ report ∈ reports, report.Follows analyzer.catalog) fun checker _ => ?_).bind
      fun found hfound => Answers.pure fun report hreport => ?_
  · unfold Analyzer.reportsOf
    refine (h.inspect _ checker hevent).bind fun findings hfindings => ?_
    exact Answers.filterMapM fun finding hf => h.diagnostic? _ (hfindings finding hf)
  · obtain ⟨reports, hmem, hreport⟩ := List.mem_flatten.mp hreport
    exact hfound reports hmem report hreport

theorem collect (analyzer : Analyzer) :
    Answers (analyzer.collect p) fun reports =>
      ∀ report ∈ reports, report.Follows analyzer.catalog := by
  unfold Analyzer.collect
  refine h.raisedEvents.bind fun events hevents => ?_
  refine (Answers.mapM fun event hevent => h.reports analyzer (hevents event hevent)).bind
    fun found hfound => Answers.pure fun report hreport => ?_
  obtain ⟨reports, hmem, hreport⟩ := List.mem_flatten.mp hreport
  exact hfound reports hmem report hreport

theorem analyze (analyzer : Analyzer) : Answers (analyzer.analyze p) fun _ => True := by
  unfold Analyzer.analyze
  exact (h.collect analyzer).bind fun reports _ => Answers.pure trivial

theorem run (analyzer : Analyzer) (disk : String → Option String) :
    Answers (analyzer.run disk p) fun _ => True := by
  unfold Analyzer.run
  refine (h.analyze analyzer).bind fun diagnostics _ => ?_
  exact (p.suppressionsFor_answers disk _).bind fun suppressions _ => Answers.pure trivial

/-! ## Fixes -/

theorem offer (diagnostic : Diagnostic) :
    Answers (CodeAction.offer p diagnostic) fun action? =>
      ∀ action, action? = some action → p.Has action.target := by
  unfold CodeAction.offer
  split
  · exact Answers.pure (by simp)
  · split
    · rename_i target htarget
      have hhas : p.Has target := by
        simp only [CodeAction.declarationAt?, Option.bind_eq_bind,
          Option.bind_eq_some_iff] at htarget
        obtain ⟨file, -, index, hindex, heq⟩ := htarget
        cases heq
        exact (Array.findIdx?_eq_some_iff_getElem.mp hindex).1
      refine (h.inRange.node hhas).bind fun node _ => ?_
      split
      · exact Answers.pure (by rintro _ ⟨⟩; exact hhas)
      · exact Answers.pure (by simp)
    · exact Answers.pure (by simp)

/-- Nothing is missing when an offered fix is applied: the only fault is a keyword that does not
fit, in a build with checks. -/
theorem apply_eq_error {action : CodeAction} (haction : p.Has action.target) {overflow : Overflow}
    {fault : Fault} (herror : action.apply overflow p = .error fault) :
    overflow = .stops ∧ fault = .overflow := by
  obtain ⟨node, hnode, hids⟩ := h.inRange.node haction
  unfold CodeAction.apply MakeStatic.apply at herror
  rw [hnode] at herror
  rcases lookup_bind_eq_error herror with herror | ⟨_, hsame, herror⟩
  · cases herror
  cases hsame
  rcases lookup_bind_eq_error herror with herror | ⟨fixed?, -, herror⟩
  · exact MakeStatic.fixedNode_eq_error herror
  cases fixed? with
  | none => cases herror
  | some fixed =>
    dsimp only at herror
    split at herror
    · cases herror
    · rename_i id hdeclared
      obtain ⟨method, hmethod, -⟩ := h.inRange.method (hids.declaredMethod id hdeclared)
      rw [hmethod] at herror
      cases herror

/-- In a build without checks an offered fix meets no fault. -/
theorem apply {action : CodeAction} (haction : p.Has action.target) :
    Answers (action.apply .wraps p) fun _ => True := by
  cases happly : action.apply .wraps p with
  | ok fix? => exact .ok trivial
  | error fault => cases (h.apply_eq_error haction happly).1

end Program.Loaded

/-! ## What loading guarantees -/

namespace Program

/-- A walk that gives the same answer under all bounds from some bound on: the walk without a bound
ends. -/
def Ends {α : Type} (walk : Nat → Lookup α) : Prop :=
  ∃ answer least, ∀ bound, least ≤ bound → walk bound = .ok answer

theorem Loaded.walks_end {p : Program} (h : p.Loaded) {id : NodeId} (hid : p.Has id) :
    (∀ stop, Ends fun bound => p.visit id stop bound [id]) ∧
    (∀ node, p.node id = .ok node → Ends fun bound => p.parentsFrom bound node.parent) ∧
    (Ends fun bound => p.nameText bound id) ∧
    Ends fun bound => Check.Hooks.withoutParentheses p bound id := by
  refine ⟨fun stop => ?_, fun node hnode => ?_, ?_, ?_⟩
  · obtain ⟨ids, hids⟩ := (h.descendantsUntil hid stop).exists_ok
    exact ⟨ids, _, fun bound hle => visit_of_le hle hids⟩
  · obtain ⟨ids, hids⟩ := (h.ancestors hid).exists_ok
    rw [Program.ancestors, hnode] at hids
    exact ⟨ids, _, fun bound hle => parentsFrom_of_le hle hids⟩
  · obtain ⟨text, htext⟩ := (h.expressionText hid).exists_ok
    exact ⟨text, _, fun bound hle => nameText_of_le hle htext⟩
  · obtain ⟨inner, hinner⟩ := (h.withoutParentheses hid).exists_ok
    exact ⟨inner, _, fun bound hle => withoutParentheses_of_le hle hinner⟩

/-- Nothing that is asked about a program that was checked and linked meets a fault: not the
collection of events, not a checker at a raised event, not the report of what it finds, not a whole
run, not the collection of suppressions, not the offer of a fix and not the application of an
offered fix, which a build with checks stops only if a position is too large for it. And all walks
end that have no bound in themselves. -/
theorem loaded_program_meets_no_fault {p q : Program} (hcheck : p.check = .ok ())
    (hlink : p.link = .ok q) (analyzer : Analyzer) (disk : String → Option String) :
    (∃ events, q.raisedEvents = .ok events ∧ ∀ event ∈ events, ∀ checker : Checker,
      ∃ findings, checker.inspect q analyzer.config.framework event = .ok findings ∧
        ∀ finding ∈ findings, ∃ report?, finding.diagnostic? analyzer.catalog q = .ok report?) ∧
    (∃ result, analyzer.run disk q = .ok result) ∧
    (∀ diagnostics, ∃ suppressions, q.suppressionsFor disk diagnostics = .ok suppressions) ∧
    (∀ diagnostic, ∃ action?, CodeAction.offer q diagnostic = .ok action? ∧
      ∀ action, action? = some action → (∃ fix?, action.apply .wraps q = .ok fix?) ∧
        ∀ overflow fault, action.apply overflow q = .error fault →
          overflow = .stops ∧ fault = .overflow) ∧
    ∀ id : NodeId, id.index < q.nodes.size →
      (∀ stop, Ends fun bound => q.visit id stop bound [id]) ∧
      (∀ node, q.node id = .ok node → Ends fun bound => q.parentsFrom bound node.parent) ∧
      (Ends fun bound => q.nameText bound id) ∧
      Ends fun bound => Check.Hooks.withoutParentheses q bound id := by
  have h := loaded_of_link hcheck hlink
  refine ⟨?_, (h.run analyzer disk).exists_ok, fun diagnostics => ?_, fun diagnostic => ?_,
    fun id hid => h.walks_end hid⟩
  · obtain ⟨events, hevents, hrange⟩ := h.raisedEvents
    refine ⟨events, hevents, fun event hevent checker => ?_⟩
    obtain ⟨findings, hfindings, hnodes⟩ :=
      h.inspect analyzer.config.framework checker (hrange event hevent)
    exact ⟨findings, hfindings, fun finding hf =>
      (h.diagnostic? analyzer.catalog (hnodes finding hf)).exists_ok⟩
  · exact (q.suppressionsFor_answers disk diagnostics).exists_ok
  · obtain ⟨action?, haction, htarget⟩ := h.offer diagnostic
    refine ⟨action?, haction, fun action hsome => ?_⟩
    have hhas := htarget action hsome
    exact ⟨(h.apply hhas).exists_ok, fun overflow fault => h.apply_eq_error hhas⟩

/-- An analyzer for which `hookProgram` registers a hook. -/
def hookAnalyzer : Analyzer :=
  { catalog := .builtin, config := { framework := { hook := "Hook" } } }

theorem hookProgram_meets_no_fault :
    (hookProgram fun _ => none).check = .ok () ∧
      (hookProgram fun _ => none).link = .ok (hookProgram hookParents) ∧
      ∃ result, hookAnalyzer.run (fun _ => none) (hookProgram hookParents) = .ok result := by
  have hcheck : (hookProgram fun _ => none).check = .ok () := by decide
  have hlink : (hookProgram fun _ => none).link = .ok (hookProgram hookParents) := by
    decide +kernel
  exact ⟨hcheck, hlink, (loaded_program_meets_no_fault hcheck hlink hookAnalyzer fun _ => none).2.1⟩

end Program

end ModLint
