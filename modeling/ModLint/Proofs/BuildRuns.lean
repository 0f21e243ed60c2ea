import ModLint.Program.Load
import ModLint.Proofs.BuildSteps

/-!
# Runs of a builder

A caller of a builder gets ids back and passes them in again. A call is *proper* if every id that it
passes was returned by an earlier call, and if every child that it passes was returned by a call
other than one for an attribute and was never passed before. After any number of proper calls, in
any order, the program that was built is one that loads.
-/

namespace ModLint

/-! ## Calls -/

/-- The calls that make one node: any node, the expressions and the statements. -/
inductive Phrase where
  | node (kind : NodeKind)
  | ident (name : String)
  | reference (name : String) (symbol : SymbolRef)
  | member (expression : NodeId) (name : String) (symbol : Option SymbolRef)
  | invoke (callee : NodeId) (arguments : List NodeId)
  | call (callee : NodeId) (target : MethodId) (typeArguments : List TypeId)
      (arguments : List NodeId)
  | literal (text : String)
  | assign (operator : AssignmentOperator) (left right : NodeId)
  | awaited (expression : NodeId)
  | paren (expression : NodeId)
  | block (statements : List NodeId)
  | expressionStatement (expression : NodeId)
  | localVariable (name : String) (initializer : Option NodeId)
  | returnStatement (expression : Option NodeId)
  | yieldReturn (expression : NodeId)
  | yieldBreak
  | statement (keyword : String) (children : List NodeId)

namespace Phrase

/-- Makes the node of a phrase. -/
def build : Phrase → Build NodeId
  | node kind => Build.alloc kind
  | ident name => Build.ident name
  | reference name symbol => Build.reference name symbol
  | member expression name symbol => Build.member expression name symbol
  | invoke callee arguments => Build.invoke callee arguments
  | call callee target typeArguments arguments => Build.call callee target typeArguments arguments
  | literal text => Build.literal text
  | assign operator left right => Build.assign operator left right
  | awaited expression => Build.awaited expression
  | paren expression => Build.paren expression
  | block statements => Build.block statements
  | expressionStatement expression => Build.expressionStatement expression
  | localVariable name initializer => Build.localVariable name initializer
  | returnStatement expression => Build.returnStatement expression
  | yieldReturn expression => Build.yieldReturn expression
  | yieldBreak => Build.yieldBreak
  | statement keyword children => Build.statement keyword children

/-- The symbols that a phrase is given. -/
def symbols : Phrase → List Reference
  | node kind => kind.symbolReferences
  | reference _ symbol => [symbol.reference]
  | member _ _ symbol => symbol.toList.map SymbolRef.reference
  | call _ target typeArguments _ => target.reference :: typeArguments.map ItemId.reference
  | _ => []

/-- The nodes that a phrase is given. -/
def children : Phrase → List NodeId
  | node kind => kind.children
  | ident _ | reference _ _ | literal _ | yieldBreak => []
  | member expression _ _ | awaited expression | paren expression
  | expressionStatement expression | yieldReturn expression => [expression]
  | invoke callee arguments | call callee _ _ arguments => callee :: arguments
  | assign _ left right => [left, right]
  | block statements => statements
  | localVariable _ initializer => initializer.toList
  | returnStatement expression => expression.toList
  | statement _ children => children

/-- A phrase is a node with the given symbols and children. -/
theorem exists_build_eq_alloc (phrase : Phrase) : ∃ kind, phrase.build = Build.alloc kind ∧
    kind.symbolReferences = phrase.symbols ∧ kind.children = phrase.children := by
  cases phrase with
  | member expression name symbol =>
    exact ⟨.memberAccess expression name symbol, rfl, List.append_nil _, rfl⟩
  | _ => exact ⟨_, rfl, rfl, rfl⟩

end Phrase

/-- The calls of a builder. -/
inductive BuildCall where
  | file (path : String)
  | nameSpace (dotted : String)
  | externalType (fullName assembly : String) (base : Option TypeId)
  | classType (fullName : String) (base : Option TypeId)
  | attributeOn (target attributeClass : TypeId) (arguments : List AttributeArgument)
  | externalMethod (owner : TypeId) (spec : MethodSpec)
  | methodNamed (owner : TypeId) (name : String)
  | method (owner : TypeId) (spec : MethodSpec) (body : Option NodeId)
  | constructor (owner : TypeId) (spec : MethodSpec) (body : Option NodeId)
  | implicitConstructor (owner : TypeId)
  | localFunction (owner : Option TypeId) (spec : MethodSpec) (body : NodeId)
  | anonymousFunction (form : FunctionSyntax) (spec : MethodSpec) (body : NodeId)
  | property (owner : TypeId) (name : String)
  | event (owner : TypeId) (name : String)
  | newObject (type : TypeId) (arguments : List NodeId)
  | phrase (content : Phrase)

/-- The id that a step returns. -/
def Build.returned {arena : Arena} (x : Build (ItemId arena)) : Build (List Reference) := do
  return [(← x).reference]

/-- The node that a reference points to. -/
def Reference.node? : Reference → Option NodeId
  | ⟨.node, index⟩ => some ⟨index⟩
  | _ => none

namespace BuildCall

/-- Performs a call and gives the ids that it returns. -/
def run : BuildCall → Build (List Reference)
  | file path => (Build.file path).returned
  | nameSpace dotted => return ItemId.references (← Build.nameSpace dotted)
  | externalType fullName assembly base => (Build.externalType fullName assembly base).returned
  | classType fullName base => (Build.classType fullName base).returned
  | attributeOn target attributeClass arguments =>
    (Build.attributeOn target attributeClass arguments).returned
  | externalMethod owner spec => (Build.externalMethod owner spec).returned
  | methodNamed owner name => (Build.methodNamed owner name).returned
  | method owner spec body => (Build.method owner spec body).returned
  | constructor owner spec body => (Build.constructor owner spec body).returned
  | implicitConstructor owner => (Build.implicitConstructor owner).returned
  | localFunction owner spec body => (Build.localFunction owner spec body).returned
  | anonymousFunction form spec body => (Build.anonymousFunction form spec body).returned
  | property owner name => (Build.property owner name).returned
  | event owner name => (Build.event owner name).returned
  | newObject type arguments => (Build.newObject type arguments).returned
  | phrase content => content.build.returned

/-- The ids of symbols that a call passes. -/
def symbols : BuildCall → List Reference
  | file _ | nameSpace _ => []
  | externalType _ _ base | classType _ base => ItemId.references base
  | attributeOn target attributeClass arguments =>
    target.reference :: attributeClass.reference
      :: (AttributeArgument.typesOfItems arguments).map ItemId.reference
  | externalMethod owner spec | method owner spec _ | constructor owner spec _ =>
    owner.reference :: spec.references
  | methodNamed owner _ | implicitConstructor owner | property owner _ | event owner _ =>
    [owner.reference]
  | localFunction owner spec _ => ItemId.references owner ++ spec.references
  | anonymousFunction _ spec _ => spec.references
  | newObject type _ => [type.reference]
  | phrase content => content.symbols

/-- The nodes that a call passes as children or as a body. -/
def children : BuildCall → List NodeId
  | method _ _ body | constructor _ _ body => body.toList
  | localFunction _ _ body | anonymousFunction _ _ body => [body]
  | newObject _ arguments => arguments
  | phrase content => content.children
  | _ => []

/-- The nodes among the ids that a call returned, if they may be passed as children. The node of an
attribute has its place already. -/
def made : BuildCall → List Reference → List NodeId
  | attributeOn .., _ => []
  | _, ids => ids.filterMap Reference.node?

end BuildCall

/-- What a caller got and passed so far. -/
structure History where
  /-- The ids that were returned. -/
  returned : List Reference := []
  /-- The nodes that were returned by calls other than those for attributes. -/
  made : List NodeId := []
  /-- The nodes that were passed as children or as bodies. -/
  passed : List NodeId := []

namespace BuildCall

/-- The history after a call that returned the given ids. -/
def after (call : BuildCall) (history : History) (ids : List Reference) : History where
  returned := history.returned ++ ids
  made := history.made ++ call.made ids
  passed := history.passed ++ call.children

/-- A call that passes only what was returned before, and no node for a second time. -/
structure Proper (call : BuildCall) (history : History) : Prop where
  symbols : ∀ id ∈ call.symbols, id ∈ history.returned
  children : ∀ child ∈ call.children, child ∈ history.made
  once : (history.passed ++ call.children).Nodup

instance (call : BuildCall) (history : History) : Decidable (call.Proper history) :=
  decidable_of_iff ((∀ id ∈ call.symbols, id ∈ history.returned) ∧
      (∀ child ∈ call.children, child ∈ history.made) ∧ (history.passed ++ call.children).Nodup)
    ⟨fun h => ⟨h.1, h.2.1, h.2.2⟩, fun h => ⟨h.symbols, h.children, h.once⟩⟩

/-- Performs calls one after the other. -/
def runAll : History → List BuildCall → Build History
  | history, [] => return history
  | history, call :: calls => do
    let ids ← call.run
    runAll (call.after history ids) calls

/-- Whether calls are proper, each at its time. -/
def areProper : History → Builder → List BuildCall → Bool
  | _, _, [] => true
  | history, b, call :: calls => decide (call.Proper history) &&
    match call.run.run b with
    | .ok (ids, b') => areProper (call.after history ids) b' calls
    | .error _ => true

end BuildCall

/-! ## What a call makes -/

section Returned

variable {b : Builder} {keep : NodeId → Prop}

/-- Ids of the program, and the nodes among them are roots. -/
def Builder.Gives (b : Builder) (ids : List Reference) : Prop :=
  AllBelow b.program.size ids ∧ ∀ id ∈ ids.filterMap Reference.node?, b.Root id

theorem returned_symbol {arena : Arena} {x : Build (ItemId arena)} (harena : arena ≠ .node)
    (hx : Build.Makes x b keep fun id b' => b'.program.Has id) :
    Build.Makes x.returned b keep fun ids b' => b'.Gives ids := by
  refine hx.bind fun id b' hb' _ hid =>
    .pure hb' ⟨allBelow_cons.mpr ⟨hid, allBelow_nil⟩, ?_⟩
  cases arena with
  | node => exact absurd rfl harena
  | _ => simp [Reference.node?, ItemId.reference]

theorem returned_node {x : Build NodeId} (hx : Build.Makes x b keep fun id b' => b'.Root id) :
    Build.Makes x.returned b keep fun ids b' => b'.Gives ids := by
  refine hx.bind fun id b' hb' _ hroot =>
    .pure hb' ⟨allBelow_cons.mpr ⟨hroot.has, allBelow_nil⟩, ?_⟩
  simpa [Reference.node?, ItemId.reference] using hroot

end Returned

theorem Phrase.build_makes (phrase : Phrase) {b : Builder} {keep : NodeId → Prop} (hb : b.Sound)
    (hsymbols : AllBelow b.program.size phrase.symbols)
    (hchildren : ∀ child ∈ phrase.children, b.Root child) (hnodup : phrase.children.Nodup)
    (hkeep : ∀ child ∈ phrase.children, ¬ keep child) :
    Build.Makes phrase.build b keep fun id b' => b'.Root id := by
  obtain ⟨kind, hbuild, hkind, hlisted⟩ := phrase.exists_build_eq_alloc
  rw [← hkind] at hsymbols
  rw [← hlisted] at hchildren hnodup hkeep
  rw [hbuild]
  exact (Build.alloc_makes hb hsymbols hchildren hnodup hkeep).imp
    fun _ _ _ h => h.root

namespace BuildCall

variable {b : Builder}

/-- A call that is given ids of the program and roots meets no fault and returns ids of the program;
the nodes that it made are roots. -/
theorem run_makes (call : BuildCall) (keep : NodeId → Prop) (hb : b.Sound)
    (hsymbols : AllBelow b.program.size call.symbols)
    (hchildren : ∀ child ∈ call.children, b.Root child) (hnodup : call.children.Nodup)
    (hkeep : ∀ child ∈ call.children, ¬ keep child) :
    Build.Makes call.run b keep fun ids b' =>
      AllBelow b'.program.size ids ∧ ∀ id ∈ call.made ids, b'.Root id := by
  cases call with
  | file path =>
    exact returned_symbol (by decide) ((Build.file_makes hb path).imp
      fun id b' hb' h => hb'.file id h.1).of_all
  | nameSpace dotted =>
    refine (Build.nameSpace_makes hb dotted).bind_all fun id? b' hb' _ hid? =>
      .pure hb' ⟨allBelow_references.mpr hid?, ?_⟩
    cases id? <;> simp [made, ItemId.references, Reference.node?, ItemId.reference]
  | externalType fullName assembly base =>
    exact returned_symbol (by decide) (Build.externalType_makes hb
      (allBelow_references.mp hsymbols) fullName assembly).of_all
  | classType fullName base =>
    exact returned_symbol (by decide) (Build.classType_makes hb
      (allBelow_references.mp hsymbols) fullName).of_all
  | attributeOn target attributeClass arguments =>
    obtain ⟨htarget, hrest⟩ := allBelow_cons.mp hsymbols
    obtain ⟨hclass, harguments⟩ := allBelow_cons.mp hrest
    exact (Build.attributeOn_makes hb htarget hclass (allBelow_map.mp harguments)).bind_all
      fun id b' hb' _ hid => .pure hb' ⟨allBelow_cons.mpr ⟨hid, allBelow_nil⟩, by simp [made]⟩
  | externalMethod owner spec =>
    obtain ⟨howner, hspec⟩ := allBelow_cons.mp hsymbols
    exact returned_symbol (by decide) (Build.externalMethod_makes hb howner hspec).of_all
  | methodNamed owner name =>
    exact returned_symbol (by decide) (Build.methodNamed_makes hb (allBelow_cons.mp hsymbols).1
      name).of_all
  | method owner spec body =>
    obtain ⟨howner, hspec⟩ := allBelow_cons.mp hsymbols
    exact returned_symbol (by decide) (Build.method_makes hb hspec howner hchildren hkeep)
  | constructor owner spec body =>
    obtain ⟨howner, hspec⟩ := allBelow_cons.mp hsymbols
    exact returned_symbol (by decide) (Build.constructor_makes hb hspec howner hchildren hkeep)
  | implicitConstructor owner =>
    exact returned_symbol (by decide) (Build.implicitConstructor_makes hb
      (allBelow_cons.mp hsymbols).1).of_all
  | localFunction owner spec body =>
    obtain ⟨howner, hspec⟩ := allBelow_append.mp hsymbols
    exact returned_node (Build.localFunction_makes hb hspec (hchildren body (by simp [children]))
      (hkeep body (by simp [children])) (allBelow_references.mp howner))
  | anonymousFunction form spec body =>
    exact returned_node (Build.anonymousFunction_makes hb hsymbols
      (hchildren body (by simp [children])) (hkeep body (by simp [children])) form)
  | property owner name =>
    exact returned_symbol (by decide) (Build.property_makes hb (allBelow_cons.mp hsymbols).1
      name).of_all
  | event owner name =>
    exact returned_symbol (by decide) (Build.event_makes hb (allBelow_cons.mp hsymbols).1
      name).of_all
  | newObject type arguments =>
    exact returned_node ((Build.newObject_makes hb (allBelow_cons.mp hsymbols).1 hchildren hnodup
      hkeep).imp fun _ _ _ h => h.root)
  | phrase content =>
    exact returned_node (content.build_makes hb hsymbols hchildren hnodup hkeep)

end BuildCall

/-! ## Runs -/

/-- What a history says about the builder that it led to: the ids that were returned are ids of the
program, and the nodes that were made and not passed are roots. -/
structure History.Fits (history : History) (b : Builder) : Prop where
  sound : b.Sound
  returned : AllBelow b.program.size history.returned
  made : ∀ id ∈ history.made, id ∉ history.passed → b.Root id

namespace BuildCall

variable {b : Builder} {history : History}

/-- A proper call meets no fault and leads to a builder that its history fits. -/
theorem Proper.run_fits {call : BuildCall} (hproper : call.Proper history) (h : history.Fits b) :
    ∃ ids b', call.run.run b = .ok (ids, b') ∧ (call.after history ids).Fits b' := by
  obtain ⟨-, hnodup, hdisjoint⟩ := List.nodup_append.mp hproper.once
  have hroots : ∀ child ∈ call.children, b.Root child := fun child hchild =>
    h.made child (hproper.children child hchild)
      fun hpassed => hdisjoint child hpassed child hchild rfl
  obtain ⟨ids, b', hrun, hb', hgrows, hids, hmade⟩ :=
    call.run_makes (fun id => id ∉ history.passed ++ call.children) h.sound
      (fun id hid => h.returned id (hproper.symbols id hid)) hroots hnodup
      fun child hchild hkept => hkept (List.mem_append_right _ hchild)
  refine ⟨ids, b', hrun, hb', allBelow_append.mpr ⟨hgrows.allBelow h.returned, hids⟩, ?_⟩
  intro id hid hnot
  rcases List.mem_append.mp hid with hold | hnew
  · exact hgrows.root id hnot (h.made id hold fun hpassed => hnot (List.mem_append_left _ hpassed))
  · exact hmade id hnew

/-- So do any number of proper calls. -/
theorem runAll_fits {calls : List BuildCall} (h : history.Fits b)
    (hproper : areProper history b calls = true) :
    ∃ history' b', (runAll history calls).run b = .ok (history', b') ∧ history'.Fits b' := by
  induction calls generalizing history b with
  | nil => exact ⟨history, b, rfl, h⟩
  | cons call calls ih =>
    rw [areProper, Bool.and_eq_true, decide_eq_true_eq] at hproper
    obtain ⟨ids, b', hrun, hfits⟩ := hproper.1.run_fits h
    have hrest := hproper.2
    rw [hrun] at hrest
    obtain ⟨history', b'', hrun', hfits'⟩ := ih hfits hrest
    refine ⟨history', b'', ?_, hfits'⟩
    rw [runAll, StateT.run_bind, hrun]
    exact hrun'

end BuildCall

/-- After any number of proper calls, of any kind and in any order, the builder holds a program that
loads. The calls meet no fault, the program passes the check, its nodes are linked, and what comes
out is a program that the loader takes as it is. -/
theorem Builder.properly_built_programs_load (assembly : String) (calls : List BuildCall)
    (hproper : BuildCall.areProper {} (Builder.new assembly) calls = true) :
    ∃ history b, (BuildCall.runAll {} calls).run (Builder.new assembly) = .ok (history, b) ∧
      b.program.check = .ok () ∧ b.program.link = .ok b.finish ∧
      b.program.finish = .ok b.finish ∧ b.finish.finish = .ok b.finish := by
  obtain ⟨history, b, hrun, hfits⟩ :=
    BuildCall.runAll_fits ⟨.new assembly, allBelow_nil, by simp⟩ hproper
  obtain ⟨hcheck, hlink, hcheck', hlink'⟩ := hfits.sound.loads
  exact ⟨history, b, hrun, hcheck, hlink, by rw [Program.finish, hcheck, hlink],
    by rw [Program.finish, hcheck', hlink']⟩

/-- Calls for a class with an attribute, whose one method holds a lambda. -/
def Builder.spinnerCalls : List BuildCall :=
  [.file "Spinner.cs",
    .externalType "Celeste.Entity" "Celeste" none,
    .externalType "Celeste.Mod.CustomEntityAttribute" "Celeste" none,
    .classType "Example.Spinner" (some ⟨0⟩),
    .attributeOn ⟨2⟩ ⟨1⟩ [.string "spinner", .array [.type ⟨0⟩]],
    .methodNamed ⟨0⟩ "Update",
    .phrase (.ident "self"),
    .phrase (.member ⟨3⟩ "Update" (some (.method ⟨0⟩))),
    .newObject ⟨2⟩ [],
    .phrase (.call ⟨4⟩ ⟨0⟩ [⟨2⟩] [⟨5⟩]),
    .phrase (.expressionStatement ⟨6⟩),
    .phrase (.block [⟨7⟩]),
    .anonymousFunction .lambda { name := "", parameters := [⟨"self", some ⟨0⟩⟩] } ⟨8⟩,
    .phrase (.returnStatement (some ⟨10⟩)),
    .phrase (.block [⟨11⟩]),
    .method ⟨2⟩ { name := "Load", modifiers := ["public", "static"] } (some ⟨12⟩)]

theorem Builder.spinnerCalls_build_a_program_that_loads :
    BuildCall.areProper {} (Builder.new "Mod") Builder.spinnerCalls = true ∧
    ∃ history b,
      (BuildCall.runAll {} Builder.spinnerCalls).run (Builder.new "Mod") = .ok (history, b) ∧
      b.program.check = .ok () ∧ b.program.link = .ok b.finish ∧
      b.program.finish = .ok b.finish ∧ b.finish.finish = .ok b.finish := by
  have hproper : BuildCall.areProper {} (Builder.new "Mod") Builder.spinnerCalls = true := by
    decide +kernel
  exact ⟨hproper, Builder.properly_built_programs_load "Mod" Builder.spinnerCalls hproper⟩

-- A node that is passed twice is a child of two nodes, and the program is not linked.
example : ((BuildCall.runAll {} [.phrase (.ident "x"), .phrase (.paren ⟨1⟩),
    .phrase (.paren ⟨1⟩)]).run (Builder.new "Mod")).toOption.map
      (fun built => built.2.program.link.isOk) = some false := by
  decide +kernel

end ModLint
