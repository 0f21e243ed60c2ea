import ModLint.Program.Query
import ModLint.Proofs.Loaded

/-!
# Questions about loaded programs

The questions that the checks ask have answers in a loaded program. The chains of namespaces, base
classes and containing types are followed for a bounded number of steps, so that for these only the
ids matter; the questions about syntax rest on the walks.
-/

namespace ModLint.Program

namespace InRange

variable {p : Program} (h : p.InRange)

include h

theorem segments (bound : Nat) (id? : Option NamespaceId) (hid : ∀ id, id? = some id → p.Has id) :
    Answers (p.segments bound id?) fun _ => True := by
  induction bound generalizing id? with
  | zero => cases id? <;> exact Answers.ok trivial
  | succ bound ih =>
    cases id? with
    | none => exact Answers.ok trivial
    | some id =>
      rw [Program.segments]
      refine (h.nameSpace (hid id rfl)).bind fun space hspace => ?_
      exact (ih space.parent hspace).bind fun names _ => Answers.pure trivial

theorem namespacePath (id? : Option NamespaceId) (hid : ∀ id, id? = some id → p.Has id) :
    Answers (p.namespacePath id?) fun _ => True := by
  rw [Program.namespacePath]
  exact (h.segments _ id? hid).bind fun names _ => Answers.pure trivial

theorem containers (bound : Nat) {id : TypeId} (hid : p.Has id) :
    Answers (p.containers bound id) fun chain => ∀ symbol ∈ chain, symbol.IdsBelow p.size := by
  induction bound generalizing id with
  | zero =>
    rw [Program.containers]
    exact (h.type hid).bind fun symbol hsymbol => Answers.pure (by simpa using hsymbol)
  | succ bound ih =>
    rw [Program.containers]
    refine (h.type hid).bind fun symbol hsymbol => ?_
    split
    · exact Answers.pure (by simpa using hsymbol)
    · rename_i outer houter
      split
      · exact Answers.pure (by simpa using hsymbol)
      · refine (ih (hsymbol.containingType outer houter)).bind fun chain hchain => ?_
        exact Answers.pure (by simpa using ⟨hsymbol, hchain⟩)

theorem fullTypeName {id : TypeId} (hid : p.Has id) :
    Answers (p.fullTypeName id) fun _ => True := by
  rw [Program.fullTypeName]
  refine (h.containers _ hid).bind fun chain hchain => ?_
  refine (h.namespacePath _ fun space hspace => ?_).bind fun path _ => Answers.pure trivial
  obtain ⟨symbol, hlast, hsymbol⟩ := Option.bind_eq_some_iff.mp hspace
  exact (hchain symbol (List.mem_of_getLast? hlast)).nameSpace space hsymbol

theorem extendsWithin (name : String) (bound : Nat) {id : TypeId} (hid : p.Has id) :
    Answers (p.extendsWithin name bound id) fun _ => True := by
  induction bound generalizing id with
  | zero =>
    rw [Program.extendsWithin]
    exact (h.fullTypeName hid).bind fun full _ => Answers.pure trivial
  | succ bound ih =>
    rw [Program.extendsWithin]
    refine (h.fullTypeName hid).bind fun full _ => ?_
    split
    · exact Answers.pure trivial
    · refine (h.type hid).bind fun symbol hsymbol => ?_
      split
      · rename_i base hbase
        exact ih (hsymbol.base base hbase)
      · exact Answers.pure trivial

theorem extendsType {id : TypeId} (hid : p.Has id) (name : String) :
    Answers (p.extendsType id name) fun _ => True :=
  h.extendsWithin name _ hid

theorem owningType {symbol : SymbolRef} (hsymbol : p.HasSymbol symbol) :
    Answers (p.owningType symbol) fun owner => ∀ id, owner = some id → p.Has id := by
  cases symbol with
  | type id => exact Answers.pure (by rintro _ ⟨⟩; exact hsymbol)
  | method id =>
    exact (h.method hsymbol).bind fun method hmethod => Answers.pure hmethod.containingType
  | property id =>
    exact (h.property hsymbol).bind fun property hproperty =>
      Answers.pure (by rintro _ ⟨⟩; exact hproperty)
  | event id =>
    exact (h.event hsymbol).bind fun event hevent => Answers.pure (by rintro _ ⟨⟩; exact hevent)

theorem outermostType (bound : Nat) {id : TypeId} (hid : p.Has id) :
    Answers (p.outermostType bound id) fun outer => ∀ id, outer = some id → p.Has id := by
  induction bound generalizing id with
  | zero =>
    rw [Program.outermostType]
    refine (h.type hid).bind fun symbol _ => Answers.pure fun outer houter => ?_
    split at houter <;> cases houter
    exact hid
  | succ bound ih =>
    rw [Program.outermostType]
    refine (h.type hid).bind fun symbol hsymbol => ?_
    split
    · exact Answers.pure (by rintro _ ⟨⟩; exact hid)
    · rename_i outer houter
      exact ih (hsymbol.containingType outer houter)

theorem outermostNamespace (bound : Nat) {id : NamespaceId} (hid : p.Has id) :
    Answers (p.outermostNamespace bound id) fun outer => ∀ id, outer = some id → p.Has id := by
  induction bound generalizing id with
  | zero =>
    rw [Program.outermostNamespace]
    refine (h.nameSpace hid).bind fun space _ => Answers.pure fun outer houter => ?_
    split at houter <;> cases houter
    exact hid
  | succ bound ih =>
    rw [Program.outermostNamespace]
    refine (h.nameSpace hid).bind fun space hspace => ?_
    split
    · exact Answers.pure (by rintro _ ⟨⟩; exact hid)
    · rename_i outer houter
      exact ih (hspace outer houter)

theorem bottommostNamespace {symbol : SymbolRef} (hsymbol : p.HasSymbol symbol) :
    Answers (p.bottommostNamespace symbol) fun root => ∀ id, root = some id → p.Has id := by
  rw [Program.bottommostNamespace]
  refine (h.owningType hsymbol).bind fun owner? howner => ?_
  split
  · rename_i owner
    refine (h.outermostType _ (howner owner rfl)).bind fun outer? houter => ?_
    split
    · rename_i outer
      refine (h.type (houter outer rfl)).bind fun type htype => ?_
      split
      · rename_i space hspace
        exact h.outermostNamespace _ (htype.nameSpace space hspace)
      · exact Answers.pure (by simp)
    · exact Answers.pure (by simp)
  · exact Answers.pure (by simp)

theorem findAttribute {id : TypeId} (hid : p.Has id) (className : String) :
    Answers (p.findAttribute id className) fun data? =>
      ∀ data, data? = some data → data.IdsBelow p.size := by
  rw [Program.findAttribute]
  refine (h.type hid).bind fun symbol hsymbol => ?_
  refine Answers.mono (Answers.findM? fun data hdata => ?_)
    fun data? hdata? data hdata => hsymbol.attributes data (hdata? data hdata)
  exact (h.fullTypeName (hsymbol.attributes data hdata).attributeClass).bind
    fun name _ => Answers.pure trivial

theorem isTracked (names : FrameworkNames) {id : TypeId} (hid : p.Has id) :
    Answers (p.isTracked names id) fun _ => True := by
  rw [Program.isTracked]
  refine (h.findAttribute hid _).bind fun data? _ => ?_
  split
  · exact Answers.pure trivial
  · exact (h.findAttribute hid _).bind fun data? _ => Answers.pure trivial

theorem isSourceLocal {symbol : SymbolRef} (hsymbol : p.HasSymbol symbol) :
    Answers (p.isSourceLocal symbol) fun _ => True := by
  rw [Program.isSourceLocal]
  refine (h.owningType hsymbol).bind fun owner? howner => ?_
  split
  · exact Answers.pure trivial
  · rename_i owner
    exact (h.type (howner owner rfl)).bind fun type _ => Answers.pure trivial

theorem resolveIdentifier {id : NodeId} (hid : p.Has id) :
    Answers (p.resolveIdentifier id) fun found? =>
      ∀ method declaration, found? = some (method, declaration) →
        p.Has method ∧ p.Has declaration := by
  rw [Program.resolveIdentifier]
  refine (h.node hid).bind fun node hnode => ?_
  split
  · rename_i name method hk
    have hmethod : p.Has method := hnode.symbol (.method method) (by simp [hk, NodeKind.symbol?])
    refine (h.method hmethod).bind fun symbol hsymbol => ?_
    refine Answers.pure fun method' declaration hfound => ?_
    obtain ⟨_, hdeclaration, heq⟩ := Option.map_eq_some_iff.mp hfound
    cases heq
    exact ⟨hmethod, hsymbol.declaration _ hdeclaration⟩
  · exact Answers.pure (by simp)

theorem isSequenceType (names : FrameworkNames) (id? : Option TypeId)
    (hid : ∀ id, id? = some id → p.Has id) :
    Answers (p.isSequenceType names id?) fun _ => True := by
  cases id? with
  | none => exact Answers.pure trivial
  | some id => exact (h.fullTypeName (hid id rfl)).bind fun name _ => Answers.pure trivial

theorem typeName {id : TypeId} (hid : p.Has id) : Answers (p.typeName id) fun _ => True :=
  (h.type hid).bind fun _ _ => Answers.pure trivial

end InRange

theorem Loaded.isInvocationOf {p : Program} (h : p.Loaded) {id : NodeId} (hid : p.Has id)
    (name : String) : Answers (p.isInvocationOf id name) fun _ => True := by
  rw [Program.isInvocationOf]
  refine (h.inRange.node hid).bind fun node hnode => ?_
  split
  · rename_i callee arguments target typeArguments hk
    have hcallee : p.Has callee := hnode.children callee (by simp [hk, NodeKind.children])
    exact (h.expressionText hcallee).bind fun text _ => Answers.pure trivial
  · exact Answers.pure trivial

end ModLint.Program
