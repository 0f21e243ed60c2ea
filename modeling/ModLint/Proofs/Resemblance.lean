import ModLint.Check.Checker
import ModLint.Proofs.Naming

/-!
# Programs that resemble each other

Much can be done to a program that the checks hardly notice: its nodes can be numbered in another
way, the texts of its files can change, methods can become static and be written with other
modifiers, and the members of a type can be listed in another order. `Program.Resembles` allows all
of this at once. In programs that resemble each other every question has the same answer, with the
node ids in it replaced, every walk visits the same nodes, and the same events are raised.
-/

namespace ModLint

/-! ## Replacing node ids -/

section

variable (f : NodeId → NodeId)

/-- A kind with its node ids replaced. -/
def NodeKind.mapNodes : NodeKind → NodeKind
  | .compilationUnit members => .compilationUnit (members.map f)
  | .namespaceDeclaration name members => .namespaceDeclaration name (members.map f)
  | .typeDeclaration name symbol attributes members =>
    .typeDeclaration name symbol (attributes.map f) (members.map f)
  | .attributeNode name arguments => .attributeNode name (arguments.map f)
  | .method name modifiers start symbol parameters body =>
    .method name modifiers start symbol (parameters.map f) (body.map f)
  | .constructor modifiers symbol parameters body =>
    .constructor modifiers symbol (parameters.map f) (body.map f)
  | .localFunction name modifiers symbol parameters body =>
    .localFunction name modifiers symbol (parameters.map f) (body.map f)
  | .property name symbol accessors => .property name symbol (accessors.map f)
  | .field name initializer => .field name (initializer.map f)
  | .parameter name => .parameter name
  | .block statements => .block (statements.map f)
  | .expressionStatement operand => .expressionStatement (f operand)
  | .localDeclaration name initializer => .localDeclaration name (initializer.map f)
  | .returnStatement operand => .returnStatement (operand.map f)
  | .yieldReturn operand => .yieldReturn (f operand)
  | .yieldBreak => .yieldBreak
  | .statement keyword children => .statement keyword (children.map f)
  | .invocation callee arguments target typeArguments =>
    .invocation (f callee) (arguments.map f) target typeArguments
  | .objectCreation typeName arguments created =>
    .objectCreation typeName (arguments.map f) created
  | .anonymousFunction form modifiers parameters body symbol =>
    .anonymousFunction form modifiers (parameters.map f) (f body) symbol
  | .identifier name symbol => .identifier name symbol
  | .memberAccess operand name symbol => .memberAccess (f operand) name symbol
  | .assignment operator left right => .assignment operator (f left) (f right)
  | .await operand => .await (f operand)
  | .parenthesized operand => .parenthesized (f operand)
  | .literal text => .literal text
  | .expression text children => .expression text (children.map f)

/-- A node with its node ids replaced, that of its parent included. -/
def SyntaxNode.mapNodes (node : SyntaxNode) : SyntaxNode :=
  { node with parent := node.parent.map f, kind := node.kind.mapNodes f }

/-- An attribute with the node replaced where it is written. -/
def AttributeData.mapNodes (data : AttributeData) : AttributeData :=
  { data with site := data.site.map f }

/-- A type with its node ids replaced. -/
def TypeSymbol.mapNodes (symbol : TypeSymbol) : TypeSymbol :=
  { symbol with
    attributes := symbol.attributes.map (AttributeData.mapNodes f)
    declaration := symbol.declaration.map f }

/-- A method with its declaration replaced. -/
def MethodSymbol.mapNodes (symbol : MethodSymbol) : MethodSymbol :=
  { symbol with declaration := symbol.declaration.map f }

namespace NodeKind

variable (kind : NodeKind)

@[simp] theorem children_mapNodes : (kind.mapNodes f).children = kind.children.map f := by
  cases kind <;> simp [mapNodes, children, Option.toList_map]

@[simp] theorem isFunction_mapNodes : (kind.mapNodes f).isFunction = kind.isFunction := by
  cases kind <;> rfl

@[simp] theorem body?_mapNodes : (kind.mapNodes f).body? = kind.body?.map f := by
  cases kind <;> rfl

@[simp] theorem symbol?_mapNodes : (kind.mapNodes f).symbol? = kind.symbol? := by
  cases kind <;> rfl

@[simp] theorem declaredMethod?_mapNodes :
    (kind.mapNodes f).declaredMethod? = kind.declaredMethod? := by
  cases kind <;> rfl

@[simp] theorem extraReferences_mapNodes :
    (kind.mapNodes f).extraReferences = kind.extraReferences := by
  cases kind <;> rfl

end NodeKind

end

/-- A finding at another node. -/
def Finding.mapNodes (f : NodeId → NodeId) (finding : Finding) : Finding :=
  { finding with node := f finding.node }

/-- The same event at another node. -/
def Event.mapNodes (f : NodeId → NodeId) : Event → Event
  | .namedType id => .namedType id
  | .invocation id => .invocation (f id)
  | .objectCreation id => .objectCreation (f id)
  | .eventAssignment id => .eventAssignment (f id)
  | .propertyReference id => .propertyReference (f id)

@[simp] theorem Event.kind_mapNodes (f : NodeId → NodeId) (event : Event) :
    (event.mapNodes f).kind = event.kind := by
  cases event <;> rfl

/-- The same replacement with its declaration at another node. -/
def Check.Hooks.HookSite.mapNodes (f : NodeId → NodeId) (site : HookSite) : HookSite :=
  { site with declaration := f site.declaration }

@[simp] theorem NodeKind.mapNodes_id : NodeKind.mapNodes id = id := by
  funext kind
  cases kind <;> simp [mapNodes]

@[simp] theorem SyntaxNode.mapNodes_id : SyntaxNode.mapNodes id = id := by
  funext node
  simp [mapNodes]

@[simp] theorem AttributeData.mapNodes_id : AttributeData.mapNodes id = id := by
  funext data
  simp [mapNodes]

@[simp] theorem TypeSymbol.mapNodes_id : TypeSymbol.mapNodes id = id := by
  funext symbol
  simp [mapNodes]

@[simp] theorem MethodSymbol.mapNodes_id : MethodSymbol.mapNodes id = id := by
  funext symbol
  simp [mapNodes]

@[simp] theorem Event.mapNodes_id : Event.mapNodes id = id := by
  funext event
  cases event <;> rfl

/-! ## Programs that resemble each other -/

/-- Kinds of nodes that differ in the modifiers of a method or an anonymous function only. -/
inductive NodeKind.Remodified : NodeKind → NodeKind → Prop
  | same (kind : NodeKind) : Remodified kind kind
  | method {name : String} {modifiers modifiers' : List Modifier} {start : Option Nat}
      {symbol : Option MethodId} {parameters : List NodeId} {body : Option NodeId} :
      Remodified (.method name modifiers start symbol parameters body)
        (.method name modifiers' start symbol parameters body)
  | anonymousFunction {form : FunctionSyntax} {modifiers modifiers' : List Modifier}
      {parameters : List NodeId} {body : NodeId} {symbol : Option MethodId} :
      Remodified (.anonymousFunction form modifiers parameters body symbol)
        (.anonymousFunction form modifiers' parameters body symbol)

namespace NodeKind.Remodified

variable {a b : NodeKind} (h : a.Remodified b)

include h

theorem isFunction_eq : b.isFunction = a.isFunction := by
  cases h <;> rfl

theorem children_eq : b.children = a.children := by
  cases h <;> rfl

theorem body?_eq : b.body? = a.body? := by
  cases h <;> rfl

theorem symbol?_eq : b.symbol? = a.symbol? := by
  cases h <;> rfl

end NodeKind.Remodified

/-- Nodes that differ in modifiers and in what stands in front of them only. -/
inductive SyntaxNode.Remodified : SyntaxNode → SyntaxNode → Prop
  | mk {file : FileId} {span : Span} {trivia trivia' : String} {parent : Option NodeId}
      {kind kind' : NodeKind} (h : kind.Remodified kind') :
      Remodified ⟨file, span, trivia, parent, kind⟩ ⟨file, span, trivia', parent, kind'⟩

/-- The second type is the first one with its node ids replaced and perhaps with other members. -/
def TypeSymbol.Resembles (f : NodeId → NodeId) (a b : TypeSymbol) : Prop :=
  ∃ members, b = { a.mapNodes f with members }

/-- The second method is the first one with its declaration replaced. It is static if the first one
is, and otherwise only if methods may become static. -/
def MethodSymbol.Resembles (f : NodeId → NodeId) (eased : Bool) (a b : MethodSymbol) : Prop :=
  ∃ isStatic, b = { a.mapNodes f with isStatic } ∧ (a.isStatic = true → isStatic = true) ∧
    (isStatic = true → a.isStatic = true ∨ eased = true)

/-- The second node is the first one with its node ids replaced, up to modifiers and blanks. -/
def SyntaxNode.Resembles (f : NodeId → NodeId) (a b : SyntaxNode) : Prop :=
  (a.mapNodes f).Remodified b

/-- The second program is named like the first one, has files with the same paths, and its items are
those of the first one with their node ids replaced by `f`. More methods may be static if `eased`
holds. -/
structure Program.Resembles (f : NodeId → NodeId) (eased : Bool) (p q : Program) : Prop where
  injective : Function.Injective f
  sameNaming : p.SameNaming q
  file : ∀ id, Alike (fun a b => b.path = a.path) (p.file id) (q.file id)
  type : ∀ id, Alike (TypeSymbol.Resembles f) (p.type id) (q.type id)
  method : ∀ id, Alike (MethodSymbol.Resembles f eased) (p.method id) (q.method id)
  node : ∀ id, Alike (SyntaxNode.Resembles f) (p.node id) (q.node (f id))
  nodes_size : q.nodes.size = p.nodes.size
  walkBound_eq : q.walkBound = p.walkBound

/-- Answers of which the second is the image of the first. -/
abbrev ImageUnder {α β : Type} (m : α → β) (a : α) (b : β) : Prop :=
  b = m a

section

variable {α β : Type} {m : α → β}

theorem Program.fetch_map (items : Array α) {arena : Arena} (id : ItemId arena) :
    Alike (ImageUnder m) (fetch items id) (fetch (items.map m) id) := by
  unfold fetch
  rw [Array.getElem?_map]
  cases items[id.index]? with
  | none => exact .error _
  | some item => exact .ok rfl

theorem anyM_map (xs : List α) (g : β → Lookup Bool) :
    (xs.map m).anyM g = xs.anyM fun a => g (m a) := by
  induction xs with
  | nil => rfl
  | cons a xs ih => simp only [List.map_cons, List.anyM, ih]

theorem findM?_map (xs : List α) (g : β → Lookup Bool) :
    Alike (ImageUnder (Option.map m)) (xs.findM? fun a => g (m a)) ((xs.map m).findM? g) := by
  induction xs with
  | nil => exact .pure rfl
  | cons a xs ih =>
    rw [List.map_cons, List.findM?, List.findM?]
    refine Alike.bind_same fun found => ?_
    cases found with
    | true => exact .pure rfl
    | false => exact ih

theorem filterM_map (xs : List α) (g : β → Lookup Bool) :
    Alike (ImageUnder (List.map m)) (xs.filterM fun a => g (m a)) ((xs.map m).filterM g) := by
  have hloop : ∀ zs acc : List α, Alike (ImageUnder (List.map m))
      (zs.filterAuxM (fun a => g (m a)) acc) ((zs.map m).filterAuxM g (acc.map m)) := by
    intro zs
    induction zs with
    | nil => intro acc; exact .pure rfl
    | cons a zs ih =>
      intro acc
      rw [List.map_cons, List.filterAuxM, List.filterAuxM]
      refine Alike.bind_same fun keep => ?_
      cases keep with
      | true => exact ih (a :: acc)
      | false => exact ih acc
  rw [List.filterM, List.filterM]
  refine (hloop xs []).bind ?_
  rintro kept _ rfl
  exact .pure (List.map_reverse ..).symm

end

/-! ## Questions -/

namespace Program.Resembles

variable {f : NodeId → NodeId} {eased : Bool} {p q : Program} (h : p.Resembles f eased q)

include h

theorem location_eq (id : NodeId) : q.location (f id) = p.location id := by
  unfold Program.location
  refine (h.node id).bind_eq ?_
  rintro node _ ⟨_⟩
  refine (h.file node.file).bind_eq ?_
  intro old new hpath
  rw [hpath]

theorem findAttribute_alike (id : TypeId) (className : String) :
    Alike (ImageUnder (Option.map (AttributeData.mapNodes f))) (p.findAttribute id className)
      (q.findAttribute id className) := by
  unfold Program.findAttribute
  simp only [h.sameNaming.fullTypeName_eq]
  refine (h.type id).bind ?_
  rintro symbol _ ⟨members, rfl⟩
  exact findM?_map symbol.attributes fun data : AttributeData => do
    return (← p.fullTypeName data.attributeClass) == className

theorem isTracked_eq (names : FrameworkNames) (id : TypeId) :
    q.isTracked names id = p.isTracked names id := by
  unfold Program.isTracked
  refine (h.findAttribute_alike id _).bind_eq ?_
  rintro data? _ rfl
  rw [Option.isSome_map]
  split
  · rfl
  · refine (h.findAttribute_alike id _).bind_eq ?_
    rintro data? _ rfl
    rw [Option.isSome_map]

theorem resolveIdentifier_alike (id : NodeId) :
    Alike (ImageUnder (Option.map (Prod.map (fun method : MethodId => method) f)))
      (p.resolveIdentifier id) (q.resolveIdentifier (f id)) := by
  unfold Program.resolveIdentifier
  refine (h.node id).bind ?_
  rintro ⟨file, span, trivia, parent, kind⟩ _ ⟨hkind⟩
  cases kind with
  | identifier name symbol =>
    cases hkind
    obtain _ | ⟨_ | method | _ | _⟩ := symbol
    · exact .pure rfl
    · exact .pure rfl
    · refine (h.method method).bind ?_
      rintro symbol _ ⟨isStatic, rfl, -⟩
      refine .pure ?_
      unfold MethodSymbol.mapNodes
      cases symbol.declaration <;> rfl
    · exact .pure rfl
    · exact .pure rfl
  | _ => cases hkind <;> exact .pure rfl

/-! ## Walks -/

theorem parentsFrom_alike (bound : Nat) (id? : Option NodeId) :
    Alike (ImageUnder (List.map f)) (p.parentsFrom bound id?)
      (q.parentsFrom bound (id?.map f)) := by
  induction bound generalizing id? with
  | zero =>
    cases id? with
    | none => exact .ok rfl
    | some id => exact .error _
  | succ bound ih =>
    cases id? with
    | none => exact .ok rfl
    | some id =>
      rw [Option.map_some, parentsFrom, parentsFrom]
      refine (h.node id).bind ?_
      rintro node _ ⟨_⟩
      refine (ih node.parent).bind ?_
      rintro ids _ rfl
      exact .pure rfl

theorem ancestors_alike (id : NodeId) :
    Alike (ImageUnder (List.map f)) (p.ancestors id) (q.ancestors (f id)) := by
  unfold Program.ancestors
  rw [h.nodes_size]
  refine (h.node id).bind ?_
  rintro node _ ⟨_⟩
  exact h.parentsFrom_alike _ node.parent

/-- A walk that looks at neither node ids nor modifiers visits the same nodes. -/
theorem visit_alike (root : NodeId) {stop : NodeKind → Bool}
    (hstop : ∀ a b : NodeKind, (a.mapNodes f).Remodified b → stop b = stop a) (bound : Nat)
    (stack : List NodeId) :
    Alike (ImageUnder (List.map f)) (p.visit root stop bound stack)
      (q.visit (f root) stop bound (stack.map f)) := by
  induction bound generalizing stack with
  | zero =>
    cases stack with
    | nil => exact .ok rfl
    | cons id stack => exact .error _
  | succ bound ih =>
    cases stack with
    | nil => exact .ok rfl
    | cons id stack =>
      rw [List.map_cons, Program.visit, Program.visit]
      refine (h.node id).bind ?_
      rintro node _ ⟨hkind⟩
      have hroot : decide (f id ≠ f root) = decide (id ≠ root) := by
        simp only [ne_eq, h.injective.eq_iff]
      rw [hroot, hstop _ _ hkind, hkind.children_eq, NodeKind.children_mapNodes, ← List.map_append]
      split
      · exact ih stack
      · refine (ih (node.kind.children ++ stack)).bind ?_
        rintro ids _ rfl
        exact .pure rfl

theorem descendantsUntil_alike (id : NodeId) {stop : NodeKind → Bool}
    (hstop : ∀ a b : NodeKind, (a.mapNodes f).Remodified b → stop b = stop a) :
    Alike (ImageUnder (List.map f)) (p.descendantsUntil id stop)
      (q.descendantsUntil (f id) stop) := by
  unfold Program.descendantsUntil
  rw [h.walkBound_eq]
  exact h.visit_alike id hstop _ [id]

theorem nameText_eq (bound : Nat) (id : NodeId) :
    q.nameText bound (f id) = p.nameText bound id := by
  induction bound generalizing id with
  | zero => rfl
  | succ bound ih =>
    rw [nameText, nameText]
    refine (h.node id).bind_eq ?_
    rintro ⟨file, span, trivia, parent, kind⟩ _ ⟨hkind⟩
    cases kind with
    | memberAccess operand name symbol =>
      cases hkind
      simp only [NodeKind.mapNodes, ih]
    | parenthesized operand =>
      cases hkind
      simp only [NodeKind.mapNodes, ih]
    | _ => cases hkind <;> rfl

theorem isInvocationOf_eq (id : NodeId) (name : String) :
    q.isInvocationOf (f id) name = p.isInvocationOf id name := by
  unfold Program.isInvocationOf Program.expressionText
  rw [h.nodes_size]
  refine (h.node id).bind_eq ?_
  rintro ⟨file, span, trivia, parent, kind⟩ _ ⟨hkind⟩
  cases kind with
  | invocation callee arguments target typeArguments =>
    cases hkind
    simp only [NodeKind.mapNodes, h.nameText_eq]
  | _ => cases hkind <;> rfl

/-! ## Events -/

theorem assignmentEvent_alike (id left : NodeId) :
    Alike (ImageUnder (Option.map (Event.mapNodes f))) (p.assignmentEvent id left)
      (q.assignmentEvent (f id) (f left)) := by
  unfold Program.assignmentEvent
  refine (h.node left).bind ?_
  rintro target _ ⟨hkind⟩
  rw [hkind.symbol?_eq, NodeKind.symbol?_mapNodes]
  split <;> exact .pure rfl

theorem eventOf_alike (id : NodeId) :
    Alike (ImageUnder (Option.map (Event.mapNodes f))) (p.eventOf id) (q.eventOf (f id)) := by
  unfold Program.eventOf
  refine (h.node id).bind ?_
  rintro ⟨file, span, trivia, parent, kind⟩ _ ⟨hkind⟩
  cases kind with
  | assignment operator left right =>
    cases hkind
    cases operator with
    | addAssign => exact h.assignmentEvent_alike id left
    | subtractAssign => exact h.assignmentEvent_alike id left
    | assign => exact .pure rfl
    | other => exact .pure rfl
  | identifier name symbol =>
    cases hkind
    obtain _ | ⟨_ | _ | _ | _⟩ := symbol <;> exact .pure rfl
  | memberAccess operand name symbol =>
    cases hkind
    obtain _ | ⟨_ | _ | _ | _⟩ := symbol <;> exact .pure rfl
  | _ => cases hkind <;> exact .pure rfl

theorem typeEventOf_eq (id : TypeId) : q.typeEventOf id = p.typeEventOf id := by
  unfold Program.typeEventOf
  refine (h.type id).bind_eq ?_
  rintro symbol _ ⟨members, rfl⟩
  unfold TypeSymbol.mapNodes
  rw [Option.isSome_map]

end Program.Resembles

/-- With the same node ids the same events are raised in the same order. -/
theorem Program.Resembles.raisedEvents_eq {eased : Bool} {p q : Program}
    (h : p.Resembles id eased q) : q.raisedEvents = p.raisedEvents := by
  have hnodes : ∀ node, q.eventOf node = p.eventOf node := by
    intro node
    refine (h.eventOf_alike node).eq fun event? event?' hevent => ?_
    rw [hevent, Event.mapNodes_id, Option.map_id]
    rfl
  rw [Program.raisedEvents, Program.raisedEvents, funext h.typeEventOf_eq, funext hnodes, typeIds,
    typeIds, nodeIds, nodeIds, h.sameNaming.size, h.nodes_size]

end ModLint
