import ModLint.Proofs.Resemblance

/-!
# Checks of programs that resemble each other

A checker finds in the second of two programs that resemble each other what it found in the first
one, at the replaced nodes. Static methods are told apart in three places only, and there a static
method is what is wanted: if methods have become static, some findings of three conditions may be
gone. Members are looked up in the check of custom entities only, so only this check needs them in
the same order.
-/

namespace ModLint

/-! ## Findings -/

/-- The conditions that a static method does not meet. -/
def easedConditions : List DiagnosticId :=
  [.hooksShouldBeStatic, .dontEmitInstanceMethods, .customEntityGeneratorInvalid]

/-- The second list has the findings of the first in their order, at other nodes. It may lack
findings of the conditions that a static method does not meet if `eased` holds. -/
inductive FoundAgain (f : NodeId → NodeId) (eased : Bool) : List Finding → List Finding → Prop
  | nil : FoundAgain f eased [] []
  | kept {xs ys : List Finding} (finding : Finding) (h : FoundAgain f eased xs ys) :
      FoundAgain f eased (finding :: xs) (finding.mapNodes f :: ys)
  | lost {xs ys : List Finding} {finding : Finding} (heased : eased = true)
      (hid : finding.id ∈ easedConditions) (h : FoundAgain f eased xs ys) :
      FoundAgain f eased (finding :: xs) ys

namespace FoundAgain

variable {f : NodeId → NodeId} {eased : Bool} {xs ys : List Finding}

theorem all (xs : List Finding) : FoundAgain f eased xs (xs.map (Finding.mapNodes f)) := by
  induction xs with
  | nil => exact .nil
  | cons finding xs ih => exact .kept finding ih

theorem append {xs' ys' : List Finding} (h : FoundAgain f eased xs ys)
    (h' : FoundAgain f eased xs' ys') : FoundAgain f eased (xs ++ xs') (ys ++ ys') := by
  induction h with
  | nil => exact h'
  | kept finding _ ih => exact .kept finding ih
  | lost heased hid _ ih => exact .lost heased hid ih

theorem flatten {xss yss : List (List Finding)} (h : List.Forall₂ (FoundAgain f eased) xss yss) :
    FoundAgain f eased xss.flatten yss.flatten := by
  induction h with
  | nil => exact .nil
  | cons hxy _ ih => exact hxy.append ih

theorem ite {c : Prop} [Decidable c] {xs' ys' : List Finding} (h : FoundAgain f eased xs ys)
    (h' : FoundAgain f eased xs' ys') :
    FoundAgain f eased (if c then xs else xs') (if c then ys else ys') := by
  split
  · exact h
  · exact h'

/-- A finding that is made unless something holds may be gone if this holds more often. -/
theorem of_imp {c c' : Bool} (hkept : c = true → c' = true)
    (hnew : c' = true → c = true ∨ eased = true) {id : DiagnosticId} (hid : id ∈ easedConditions)
    (node : NodeId) (args : List String) :
    FoundAgain f eased (if c then [] else [⟨id, node, args⟩])
      (if c' then [] else [⟨id, f node, args⟩]) := by
  cases c with
  | true =>
    rw [hkept rfl]
    exact .nil
  | false =>
    cases c' with
    | false => exact .kept _ .nil
    | true =>
      rcases hnew rfl with hstatic | heased
      · cases hstatic
      · exact .lost heased hid .nil

/-- Where no method has become static, nothing is gone. -/
theorem eq_map (h : FoundAgain f false xs ys) : ys = xs.map (Finding.mapNodes f) := by
  induction h with
  | nil => rfl
  | kept finding _ ih => rw [List.map_cons, ih]
  | lost heased => cases heased

theorem exists_of_mem (h : FoundAgain f eased xs ys) {finding : Finding} (hmem : finding ∈ ys) :
    ∃ old ∈ xs, finding = old.mapNodes f := by
  induction h with
  | nil => cases hmem
  | kept old _ ih =>
    rcases List.mem_cons.mp hmem with rfl | hmem
    · exact ⟨old, List.mem_cons_self, rfl⟩
    · obtain ⟨old, hold, rfl⟩ := ih hmem
      exact ⟨old, List.mem_cons_of_mem _ hold, rfl⟩
  | lost _ _ _ ih =>
    obtain ⟨old, hold, rfl⟩ := ih hmem
    exact ⟨old, List.mem_cons_of_mem _ hold, rfl⟩

theorem mem_of_mem (h : FoundAgain f eased xs ys) {finding : Finding} (hmem : finding ∈ xs)
    (hid : finding.id ∉ easedConditions) : finding.mapNodes f ∈ ys := by
  induction h with
  | nil => cases hmem
  | kept other _ ih =>
    rcases List.mem_cons.mp hmem with rfl | hmem
    · exact List.mem_cons_self
    · exact List.mem_cons_of_mem _ (ih hmem)
  | lost _ hlost _ ih =>
    rcases List.mem_cons.mp hmem with rfl | hmem
    · exact absurd hlost hid
    · exact ih hmem

end FoundAgain

namespace Program.Resembles

variable {f : NodeId → NodeId} {eased : Bool} {p q : Program} (h : p.Resembles f eased q)
  (names : FrameworkNames)

include h

/-! ## Hooks -/

section Hooks

open Check.Hooks

theorem resolve_alike (argument : NodeId) :
    Alike (ImageUnder (Option.map (HookSite.mapNodes f))) (resolve p argument)
      (resolve q (f argument)) := by
  unfold resolve
  refine (h.node argument).bind ?_
  rintro ⟨file, span, trivia, parent, kind⟩ _ ⟨hkind⟩
  cases kind with
  | identifier name symbol =>
    cases hkind
    refine (h.resolveIdentifier_alike argument).bind ?_
    rintro resolved? _ rfl
    refine .pure ?_
    cases resolved? <;> rfl
  | anonymousFunction form modifiers parameters body symbol =>
    cases hkind <;> cases symbol <;> exact .pure rfl
  | _ => cases hkind <;> exact .pure rfl

theorem detour_alike (id : NodeId) :
    Alike (ImageUnder (Option.map (HookSite.mapNodes f))) (detour p names id)
      (detour q names (f id)) := by
  unfold detour
  simp only [h.sameNaming.fullTypeName_eq]
  refine (h.node id).bind ?_
  rintro ⟨file, span, trivia, parent, kind⟩ _ ⟨hkind⟩
  cases kind with
  | objectCreation typeName arguments created =>
    cases hkind
    cases created with
    | none => exact .pure rfl
    | some created =>
      refine Alike.bind_same fun full => ?_
      split
      · obtain _ | ⟨target, _ | ⟨replacement, _ | _⟩⟩ := arguments
        · exact .pure rfl
        · exact .pure rfl
        · exact h.resolve_alike replacement
        · exact .pure rfl
      · exact .pure rfl
  | _ => cases hkind <;> exact .pure rfl

theorem eventHook_alike (id : NodeId) :
    Alike (ImageUnder (Option.map (HookSite.mapNodes f))) (eventHook p names id)
      (eventHook q names (f id)) := by
  unfold eventHook
  simp only [h.sameNaming.bottommostNamespace_eq, h.sameNaming.nameSpace_eq]
  refine (h.node id).bind ?_
  rintro ⟨file, span, trivia, parent, kind⟩ _ ⟨hkind⟩
  cases kind with
  | assignment operator left right =>
    cases hkind
    refine (h.node left).bind ?_
    rintro target _ ⟨htarget⟩
    rw [htarget.symbol?_eq, NodeKind.symbol?_mapNodes]
    split
    · refine Alike.bind_same fun root? => ?_
      split
      · refine Alike.bind_same fun space => ?_
        split
        · exact h.resolve_alike right
        · exact .pure rfl
      · exact .pure rfl
    · exact .pure rfl
  | _ => cases hkind <;> exact .pure rfl

theorem siteOf_alike (event : Event) :
    Alike (ImageUnder (Option.map (HookSite.mapNodes f))) (siteOf p names event)
      (siteOf q names (event.mapNodes f)) := by
  cases event with
  | objectCreation id => exact h.detour_alike names id
  | eventAssignment id => exact h.eventHook_alike names id
  | _ => exact .pure rfl

theorem withoutParentheses_alike (bound : Nat) (id : NodeId) :
    Alike (ImageUnder f) (withoutParentheses p bound id) (withoutParentheses q bound (f id)) := by
  induction bound generalizing id with
  | zero => exact .error _
  | succ bound ih =>
    rw [withoutParentheses, withoutParentheses]
    refine (h.node id).bind ?_
    rintro ⟨file, span, trivia, parent, kind⟩ _ ⟨hkind⟩
    cases kind with
    | parenthesized operand =>
      cases hkind
      exact ih operand
    | _ => cases hkind <;> exact .pure rfl

theorem yieldsCallOf_eq (orig : String) (id : NodeId) :
    yieldsCallOf q orig (f id) = yieldsCallOf p orig id := by
  unfold yieldsCallOf
  rw [h.nodes_size]
  refine (h.node id).bind_eq ?_
  rintro ⟨file, span, trivia, parent, kind⟩ _ ⟨hkind⟩
  cases kind with
  | yieldReturn operand =>
    cases hkind
    refine (h.withoutParentheses_alike _ operand).bind_eq ?_
    rintro inner _ rfl
    exact h.isInvocationOf_eq inner orig
  | _ => cases hkind <;> rfl

theorem callFindings_hooks (site : HookSite) (orig : ParameterSymbol) (body : NodeId) :
    Alike (FoundAgain f eased) (callFindings p site orig body)
      (callFindings q (site.mapNodes f) orig (f body)) := by
  have htype : origTypeName q orig = origTypeName p orig := by
    unfold origTypeName
    simp only [h.sameNaming.typeName_eq]
  unfold callFindings
  refine (h.descendantsUntil_alike body fun _ _ _ => rfl).bind ?_
  rintro ids _ rfl
  rw [anyM_map, htype]
  simp only [h.isInvocationOf_eq]
  refine Alike.bind_same fun calls => ?_
  cases calls with
  | true => exact .pure .nil
  | false => exact Alike.bind_same fun name => .pure (.all [_])

theorem yieldFindings_again (orig : ParameterSymbol) (body : NodeId) :
    Alike (FoundAgain f eased) (yieldFindings p orig body) (yieldFindings q orig (f body)) := by
  have hstop : ∀ a b : NodeKind, (a.mapNodes f).Remodified b → b.isFunction = a.isFunction :=
    fun a b hkind => hkind.isFunction_eq.trans (a.isFunction_mapNodes f)
  have hyields : (fun id => yieldsCallOf q orig.name (f id)) = yieldsCallOf p orig.name :=
    funext (h.yieldsCallOf_eq orig.name)
  unfold yieldFindings
  refine (h.descendantsUntil_alike body hstop).bind ?_
  rintro ids _ rfl
  have hfilter := filterM_map (m := f) ids (yieldsCallOf q orig.name)
  rw [hyields] at hfilter
  refine hfilter.bind ?_
  rintro yielded _ rfl
  have hall : FoundAgain f eased _ _ :=
    .all (yielded.map fun id => ⟨.dontYieldReturnOrig, id, [orig.name]⟩)
  rw [List.map_map] at hall ⊢
  exact .pure hall

theorem origFindings_again (site : HookSite) (orig : ParameterSymbol) (body : NodeId)
    (sequence : Bool) :
    Alike (FoundAgain f eased) (origFindings p site orig body sequence)
      (origFindings q (site.mapNodes f) orig (f body) sequence) := by
  unfold origFindings
  refine (h.callFindings_hooks site orig body).bind fun missing missing' hmissing => ?_
  cases sequence with
  | false => exact .pure hmissing
  | true =>
    refine (h.yieldFindings_again orig body).bind fun yielded yielded' hyielded => ?_
    exact .pure (hmissing.append hyielded)

/-- A replacement that has become static is no longer found to need an instance. -/
theorem siteFindings_again (site : HookSite) :
    Alike (FoundAgain f eased) (siteFindings p names site)
      (siteFindings q names (site.mapNodes f)) := by
  unfold siteFindings isContext
  simp only [h.sameNaming.fullTypeName_eq, h.sameNaming.isSequenceType_eq]
  refine (h.method site.method).bind ?_
  rintro method _ ⟨isStatic, rfl, hkept, hnew⟩
  refine (h.node site.declaration).bind ?_
  rintro node _ ⟨hkind⟩
  have hneeds : DiagnosticId.hooksShouldBeStatic ∈ easedConditions := by decide
  have hinstance := FoundAgain.of_imp (f := f) hkept hnew hneeds site.declaration
    [methodName method]
  rw [hkind.body?_eq, NodeKind.body?_mapNodes]
  refine Alike.bind_same fun sequence => ?_
  dsimp only [MethodSymbol.mapNodes]
  cases method.parameters.head? with
  | none => exact .pure hinstance
  | some orig =>
    refine Alike.bind_same fun context => ?_
    cases context with
    | true => exact .pure hinstance
    | false =>
      cases node.kind.body? with
      | none => exact .pure hinstance
      | some body =>
        refine (h.origFindings_again site orig body sequence).bind fun found found' hfound => ?_
        exact .pure (hinstance.append hfound)

theorem inspect_hooks (event : Event) :
    Alike (FoundAgain f eased) (inspect p names event) (inspect q names (event.mapNodes f)) := by
  unfold inspect
  refine (h.siteOf_alike names event).bind ?_
  rintro site? _ rfl
  cases site? with
  | none => exact .pure .nil
  | some site => exact h.siteFindings_again names site

end Hooks

/-! ## Instruction cursors -/

section Cursor

open Check.Cursor

/-- A method that has become static may be emitted. -/
theorem emitFindings_again (emit : String) (argument : NodeId) :
    Alike (FoundAgain f eased) (emitFindings p emit argument)
      (emitFindings q emit (f argument)) := by
  unfold emitFindings
  refine (h.node argument).bind ?_
  rintro ⟨file, span, trivia, parent, kind⟩ _ ⟨hkind⟩
  cases kind with
  | identifier name symbol =>
    cases hkind
    obtain _ | ⟨_ | method | _ | _⟩ := symbol
    · exact .pure .nil
    · exact .pure .nil
    · refine (h.method method).bind ?_
      rintro method _ ⟨isStatic, rfl, hkept, hnew⟩
      simp only [needsInstance, MethodSymbol.mapNodes]
      by_cases hordinary : (method.kind == .ordinary || method.kind == .localFunction) = true
      · simp only [hordinary, Bool.true_and]
        cases hold : method.isStatic with
        | true =>
          rw [hkept hold]
          exact .pure .nil
        | false =>
          cases isStatic with
          | false => exact .pure (.all [_])
          | true =>
            rcases hnew rfl with hstatic | heased
            · rw [hold] at hstatic
              cases hstatic
            · have hneeds : DiagnosticId.dontEmitInstanceMethods ∈ easedConditions := by decide
              exact .pure (.lost heased hneeds .nil)
      · simp only [hordinary, Bool.false_and]
        exact .pure .nil
    · exact .pure .nil
    · exact .pure .nil
  | anonymousFunction form modifiers parameters body symbol =>
    cases hkind <;> exact .pure (.all [_])
  | _ => cases hkind <;> exact .pure .nil

theorem callFindings_cursor (methods : CursorMethods) (id : NodeId) (name : String)
    (arguments : List NodeId) :
    Alike (FoundAgain f eased) (callFindings p methods id name arguments)
      (callFindings q methods (f id) name (arguments.map f)) := by
  unfold callFindings
  rw [List.length_map]
  split
  · obtain _ | ⟨argument, _ | _⟩ := arguments
    · exact .pure .nil
    · exact h.emitFindings_again name argument
    · exact .pure .nil
  · split
    · exact .pure (.all [_])
    · split
      · exact .pure (.all [_])
      · exact .pure .nil

theorem inspect_ilCursor (event : Event) :
    Alike (FoundAgain f eased) (inspect p names event) (inspect q names (event.mapNodes f)) := by
  cases event with
  | invocation id =>
    simp only [Event.mapNodes, inspect, h.sameNaming.fullTypeName_eq]
    refine (h.node id).bind ?_
    rintro ⟨file, span, trivia, parent, kind⟩ _ ⟨hkind⟩
    cases kind with
    | invocation callee arguments target typeArguments =>
      cases hkind
      cases target with
      | none => exact .pure .nil
      | some target =>
        refine (h.method target).bind ?_
        rintro method _ ⟨isStatic, rfl, -⟩
        refine Alike.ite Iff.rfl (.pure .nil) ?_
        dsimp only [MethodSymbol.mapNodes]
        split
        · refine Alike.bind_same fun full => Alike.ite Iff.rfl ?_ (.pure .nil)
          exact h.callFindings_cursor names.cursor id method.name arguments
        · exact .pure .nil
    | _ => cases hkind <;> exact .pure .nil
  | _ => exact .pure .nil

end Cursor

/-! ## Custom entities -/

section Entity

open Check.Entity

/-- Whether the mod loader can call a method does not depend on the method being static. -/
theorem isCallable_eq {a b : MethodSymbol} (hab : a.Resembles f eased b) (generator : Bool) :
    isCallable q names b generator = isCallable p names a generator := by
  obtain ⟨isStatic, rfl, -⟩ := hab
  have hnamed : hasTypeNamed q = hasTypeNamed p := by
    funext parameter name
    unfold hasTypeNamed
    simp only [h.sameNaming.fullTypeName_eq]
  have hshape : hasShape q { a.mapNodes f with isStatic } = hasShape p a := by
    funext shape
    unfold hasShape
    rw [hnamed]
    rfl
  rw [isCallable, isCallable, hshape]

theorem returnsEntity_eq {a b : MethodSymbol} (hab : a.Resembles f eased b) :
    returnsEntity q names b = returnsEntity p names a := by
  obtain ⟨isStatic, rfl, -⟩ := hab
  simp only [returnsEntity, h.sameNaming.extendsType_eq, MethodSymbol.mapNodes]

/-- A generator that has become static may be valid. -/
theorem generatorFindings_again (symbol : TypeSymbol) (declaration : NodeId) (name : String) :
    Alike (FoundAgain f eased) (generatorFindings p names symbol declaration name)
      (generatorFindings q names (symbol.mapNodes f) (f declaration) name) := by
  have hname : (fun member => do return (← q.method member).name == name : MethodId → Lookup Bool) =
      fun member => do return (← p.method member).name == name := by
    funext member
    exact (h.method member).bind_eq (by rintro method _ ⟨isStatic, rfl, -⟩; rfl)
  unfold generatorFindings
  rw [hname]
  refine Alike.bind_same fun found? => ?_
  cases found? with
  | none => exact .pure (.all [_])
  | some member =>
    refine (h.method member).bind fun a b hab => ?_
    rw [h.returnsEntity_eq names hab, h.isCallable_eq names hab]
    obtain ⟨isStatic, rfl, hkept, hnew⟩ := hab
    have hnode : (a.mapNodes f).declaration.getD (f declaration) =
        f (a.declaration.getD declaration) := by
      unfold MethodSymbol.mapNodes
      cases a.declaration <;> rfl
    refine Alike.bind_same fun entity => Alike.bind_same fun callable => .pure ?_
    dsimp only
    rw [hnode]
    refine FoundAgain.append (.of_imp ?_ ?_ (by decide) _ _) (.ite .nil (.all [_]))
    · simp only [Bool.and_eq_true]
      exact fun hboth => ⟨hkept hboth.1, hboth.2⟩
    · simp only [Bool.and_eq_true]
      exact fun hboth => (hnew hboth.1).imp_left fun hstatic => ⟨hstatic, hboth.2⟩

theorem isConstructible_eq (symbol : TypeSymbol) (ids : List EntityId) :
    isConstructible q names (symbol.mapNodes f) ids = isConstructible p names symbol ids := by
  have husable : isUsableConstructor q names = isUsableConstructor p names := by
    funext member
    unfold isUsableConstructor
    refine (h.method member).bind_eq fun a b hab => ?_
    rw [h.isCallable_eq names hab]
    obtain ⟨isStatic, rfl, -⟩ := hab
    rfl
  rw [isConstructible, isConstructible, husable]
  rfl

theorem idFindings_again (symbol : TypeSymbol) (declaration : NodeId) (data : AttributeData) :
    Alike (FoundAgain f eased) (idFindings p names symbol declaration data)
      (idFindings q names (symbol.mapNodes f) (f declaration) (data.mapNodes f)) := by
  have hnode : (data.mapNodes f).site.getD (f declaration) = f (data.site.getD declaration) := by
    unfold AttributeData.mapNodes
    cases data.site <;> rfl
  unfold idFindings
  simp only [h.isConstructible_eq, hnode]
  refine (Alike.mapM fun name _ => h.generatorFindings_again names symbol declaration name).bind
    fun xss yss hxy => ?_
  refine Alike.bind_same fun constructible => .pure ?_
  refine FoundAgain.append (FoundAgain.append ?_ (FoundAgain.flatten hxy)) ?_
  · exact .ite (.all [_]) .nil
  · exact .ite .nil (.all [_])

/-- A type is judged as before if its members are listed in the same order. -/
theorem typeFindings_entity (id : TypeId)
    (hmembers : ∀ a b, p.type id = .ok a → q.type id = .ok b → b.members = a.members) :
    Alike (FoundAgain f eased) (typeFindings p names id) (typeFindings q names id) := by
  have htype : Alike (ImageUnder (TypeSymbol.mapNodes f)) (p.type id) (q.type id) := by
    have halike := h.type id
    generalize p.type id = x at halike hmembers ⊢
    generalize q.type id = y at halike hmembers ⊢
    cases halike with
    | error fault => exact .error fault
    | ok hab =>
      obtain ⟨members, rfl⟩ := hab
      obtain rfl := hmembers _ _ rfl rfl
      exact .ok rfl
  unfold typeFindings
  simp only [h.sameNaming.extendsType_eq]
  refine (h.findAttribute_alike id _).bind ?_
  rintro data? _ rfl
  cases data? with
  | none => exact .pure .nil
  | some data =>
    refine htype.bind ?_
    rintro symbol _ rfl
    cases hdeclaration : symbol.declaration with
    | none =>
      simp only [TypeSymbol.mapNodes, hdeclaration, Option.map_none]
      exact .pure .nil
    | some declaration =>
      have hmoved : (symbol.mapNodes f).declaration = some (f declaration) := by
        rw [TypeSymbol.mapNodes, hdeclaration, Option.map_some]
      simp only [hmoved]
      refine Alike.bind_same fun isEntity => ?_
      cases isEntity with
      | false => exact .pure (.all [_])
      | true => exact h.idFindings_again names symbol declaration data

/-- The function around a node is the same up to node ids and modifiers. -/
theorem enclosingFunction_alike (id : NodeId) :
    Alike (Option.Rel fun a b => (a.mapNodes f).Remodified b) (enclosingFunction p id)
      (enclosingFunction q (f id)) := by
  unfold enclosingFunction
  refine (h.ancestors_alike id).bind ?_
  rintro ids _ rfl
  rw [List.mapM_map]
  have hkinds : Alike (List.Forall₂ fun a b => (a.mapNodes f).Remodified b)
      (ids.mapM fun ancestor => do return (← p.node ancestor).kind)
      (ids.mapM ((fun ancestor => do return (← q.node ancestor).kind) ∘ f)) := by
    refine Alike.mapM fun ancestor _ => (h.node ancestor).bind ?_
    rintro node _ ⟨hkind⟩
    exact .pure hkind
  refine hkinds.bind fun kinds kinds' hmapped => .pure ?_
  induction hmapped with
  | nil => exact .none
  | cons hkind _ ih =>
    rw [List.find?_cons, List.find?_cons, hkind.isFunction_eq, NodeKind.isFunction_mapNodes]
    split
    · exact .some hkind
    · exact ih

theorem propertyFindings_again (id : NodeId) :
    Alike (FoundAgain f eased) (propertyFindings p names id)
      (propertyFindings q names (f id)) := by
  unfold propertyFindings isScene
  simp only [h.sameNaming.property_eq, h.sameNaming.fullTypeName_eq]
  refine (h.node id).bind ?_
  rintro node _ ⟨hkind⟩
  rw [hkind.symbol?_eq, NodeKind.symbol?_mapNodes]
  split
  · refine Alike.bind_same fun property => Alike.bind_same fun scene => ?_
    split
    · refine (h.enclosingFunction_alike id).bind fun kind? kind?' hfunction => ?_
      cases hfunction with
      | none => exact .pure .nil
      | @some kind _ hfunction =>
        cases kind with
        | constructor modifiers symbol parameters body =>
          cases hfunction
          exact .pure (.all [_])
        | _ => cases hfunction <;> exact .pure .nil
    · exact .pure .nil
  · exact .pure .nil

theorem inspect_entity (hmembers : ∀ id a b, p.type id = .ok a → q.type id = .ok b →
      b.members = a.members) (event : Event) :
    Alike (FoundAgain f eased) (inspect p names event) (inspect q names (event.mapNodes f)) := by
  cases event with
  | namedType id => exact h.typeFindings_entity names id (hmembers id)
  | propertyReference id => exact h.propertyFindings_again names id
  | _ => exact .pure .nil

end Entity

/-! ## The tracker -/

section Tracker

open Check.Tracker

theorem typeFindings_tracker (id : TypeId) :
    Alike (FoundAgain f eased) (typeFindings p names id) (typeFindings q names id) := by
  unfold typeFindings
  simp only [h.sameNaming.fullTypeName_eq, h.sameNaming.extendsType_eq, h.sameNaming.typeName_eq]
  refine (h.findAttribute_alike id _).bind ?_
  rintro data? _ rfl
  cases data? with
  | none => exact .pure .nil
  | some data =>
    dsimp only [Option.map_some, AttributeData.mapNodes]
    split
    · refine Alike.bind_same fun full => Alike.bind_same fun isTarget => ?_
      split
      · exact .pure .nil
      · refine (h.type id).bind ?_
        rintro symbol _ ⟨members, rfl⟩
        have hnode : (data.site.map f <|> (symbol.mapNodes f).declaration) =
            (data.site <|> symbol.declaration).map f := by
          unfold TypeSymbol.mapNodes
          cases data.site <;> rfl
        dsimp only
        rw [hnode]
        cases (data.site <|> symbol.declaration) with
        | none => exact .pure .nil
        | some node => exact Alike.bind_same fun name => .pure (.all [_])
    · exact .pure .nil

theorem callFindings_tracker (id : NodeId) (owner : TypeId) (name : String) (used : TypeId) :
    Alike (FoundAgain f eased) (callFindings p names id owner name used)
      (callFindings q names (f id) owner name used) := by
  unfold callFindings
  simp only [h.sameNaming.fullTypeName_eq, h.sameNaming.typeName_eq,
    h.sameNaming.isSourceLocal_eq, h.isTracked_eq]
  refine Alike.bind_same fun ownerName => Alike.bind_same fun usedName => ?_
  refine Alike.ite Iff.rfl (Alike.ite Iff.rfl (.pure .nil) ?_) (Alike.ite Iff.rfl ?_ (.pure .nil))
  · exact Alike.bind_same fun tracked => Alike.ite Iff.rfl (.pure .nil) (.pure (.all [_]))
  · refine Alike.bind_same fun tracked => Alike.ite Iff.rfl (.pure (.all [_])) ?_
    exact Alike.bind_same fun isLocal => Alike.ite Iff.rfl (.pure (.all [_])) (.pure .nil)

theorem invocationFindings_again (id : NodeId) :
    Alike (FoundAgain f eased) (invocationFindings p names id)
      (invocationFindings q names (f id)) := by
  unfold invocationFindings
  refine (h.node id).bind ?_
  rintro ⟨file, span, trivia, parent, kind⟩ _ ⟨hkind⟩
  cases kind with
  | invocation callee arguments target typeArguments =>
    cases hkind
    cases target with
    | none => exact .pure .nil
    | some target =>
      refine (h.method target).bind ?_
      rintro method _ ⟨isStatic, rfl, -⟩
      refine Alike.ite Iff.rfl (.pure .nil) ?_
      dsimp only [MethodSymbol.mapNodes]
      split
      · split
        · exact h.callFindings_tracker names id _ method.name _
        · exact .pure .nil
      · exact .pure .nil
  | _ => cases hkind <;> exact .pure .nil

theorem inspect_tracker (event : Event) :
    Alike (FoundAgain f eased) (inspect p names event) (inspect q names (event.mapNodes f)) := by
  cases event with
  | namedType id => exact h.typeFindings_tracker names id
  | invocation id => exact h.invocationFindings_again names id
  | _ => exact .pure .nil

end Tracker

/-- A checker finds at the replaced event what it finds at the event, less some findings that a
static method does not give. -/
theorem inspect (hmembers : ∀ id a b, p.type id = .ok a → q.type id = .ok b →
      b.members = a.members) (checker : Checker) (event : Event) :
    Alike (FoundAgain f eased) (checker.inspect p names event)
      (checker.inspect q names (event.mapNodes f)) := by
  cases checker with
  | hooks => exact h.inspect_hooks names event
  | ilCursor => exact h.inspect_ilCursor names event
  | entity => exact h.inspect_entity names hmembers event
  | tracker => exact h.inspect_tracker names event

end Program.Resembles

end ModLint
