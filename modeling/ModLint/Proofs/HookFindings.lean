import ModLint.Proofs.Descent
import ModLint.Proofs.Safety

/-!
# What is found at a hook

The relations here say what it means to call the replaced method, to yield such a call and to be
wrong about either, without any bound and in terms of the child relation. The check of a hook asks
the same questions by walks over the syntax: one through everything below the body of the
replacement, one that stays out of nested functions, one through parentheses and one along the text
of a name. In a loaded program the check finds exactly what the relations say, each finding once.
-/

namespace ModLint

open Relation

/-! ## Lists of exactly some items -/

/-- A list of exactly the items that satisfy `P`, each of them once. -/
structure Exactly {α : Type} (xs : List α) (P : α → Prop) : Prop where
  nodup : xs.Nodup
  mem_iff : ∀ a, a ∈ xs ↔ P a

namespace Exactly

variable {α β : Type} {P Q : α → Prop} {xs ys : List α}

theorem congr (h : Exactly xs P) (heq : ∀ a, P a ↔ Q a) : Exactly xs Q :=
  ⟨h.nodup, fun a => (h.mem_iff a).trans (heq a)⟩

theorem nil (h : ∀ a, ¬ P a) : Exactly [] P :=
  ⟨List.nodup_nil, fun a => by simp [h a]⟩

theorem single {x : α} (h : ∀ a, P a ↔ a = x) : Exactly [x] P :=
  ⟨List.nodup_singleton x, fun a => by rw [List.mem_singleton, h]⟩

/-- One item unless a test succeeds. -/
theorem ite_nil {b : Bool} {C : Prop} (h : b = true ↔ C) (x : α) :
    Exactly (if b = true then [] else [x]) fun a => ¬ C ∧ a = x := by
  split
  · rename_i hb
    exact nil fun a ha => ha.1 (h.mp hb)
  · rename_i hb
    have hnot : ¬ C := fun hC => hb (h.mpr hC)
    exact single fun a => and_iff_right hnot

theorem append (hx : Exactly xs P) (hy : Exactly ys Q) (hdisjoint : ∀ a, P a → ¬ Q a) :
    Exactly (xs ++ ys) fun a => P a ∨ Q a := by
  constructor
  · refine List.nodup_append.mpr ⟨hx.nodup, hy.nodup, ?_⟩
    intro a ha b hb hab
    rw [hab, hx.mem_iff] at ha
    exact hdisjoint b ha ((hy.mem_iff b).mp hb)
  · intro a
    rw [List.mem_append, hx.mem_iff, hy.mem_iff]

theorem map {g : α → β} (h : Exactly xs P) (hg : Function.Injective g) :
    Exactly (xs.map g) fun b => ∃ a, P a ∧ b = g a := by
  refine ⟨h.nodup.map hg, fun b => ?_⟩
  rw [List.mem_map]
  constructor
  · rintro ⟨a, ha, rfl⟩
    exact ⟨a, (h.mem_iff a).mp ha, rfl⟩
  · rintro ⟨a, ha, rfl⟩
    exact ⟨a, (h.mem_iff a).mpr ha, rfl⟩

end Exactly

namespace Program

variable {p : Program}

/-! ## Calls -/

/-- The text of an expression that is made of names, members and parentheses. -/
inductive Spells (p : Program) : NodeId → String → Prop where
  | identifier {id : NodeId} {node : SyntaxNode} {name : String} {symbol : Option SymbolRef}
    (hnode : p.node id = .ok node) (hkind : node.kind = .identifier name symbol) : Spells p id name
  | memberAccess {id operand : NodeId} {node : SyntaxNode} {name text : String}
    {symbol : Option SymbolRef} (hnode : p.node id = .ok node)
    (hkind : node.kind = .memberAccess operand name symbol) (hoperand : Spells p operand text) :
    Spells p id (text ++ "." ++ name)
  | parenthesized {id operand : NodeId} {node : SyntaxNode} {text : String}
    (hnode : p.node id = .ok node) (hkind : node.kind = .parenthesized operand)
    (hoperand : Spells p operand text) : Spells p id ("(" ++ text ++ ")")

/-- A call of what is written like `name`. -/
def CallOf (p : Program) (name : String) (id : NodeId) : Prop :=
  ∃ node callee arguments target typeArguments, p.node id = .ok node ∧
    node.kind = .invocation callee arguments target typeArguments ∧ p.Spells callee name

/-- An expression in parentheses and the expression inside. -/
def Encloses (p : Program) (outer inner : NodeId) : Prop :=
  ∃ node, p.node outer = .ok node ∧ node.kind = .parenthesized inner

/-- A statement that yields a call of what is written like `name`, in any number of parentheses. -/
def YieldsCallOf (p : Program) (name : String) (id : NodeId) : Prop :=
  ∃ node operand call, p.node id = .ok node ∧ node.kind = .yieldReturn operand ∧
    ReflTransGen p.Encloses operand call ∧ p.CallOf name call

theorem spells_of_nameText {bound : Nat} {id : NodeId} {text : String}
    (h : p.nameText bound id = .ok (some text)) : p.Spells id text := by
  induction bound generalizing id text with
  | zero => cases h
  | succ bound ih =>
    rw [nameText] at h
    obtain ⟨node, hnode, h⟩ := lookup_bind_eq_ok.mp h
    split at h
    · rename_i hkind
      cases h
      exact .identifier hnode hkind
    · rename_i hkind
      obtain ⟨inner, hinner, h⟩ := lookup_bind_eq_ok.mp h
      cases inner with
      | none => cases h
      | some inner =>
        cases h
        exact .memberAccess hnode hkind (ih hinner)
    · rename_i hkind
      obtain ⟨inner, hinner, h⟩ := lookup_bind_eq_ok.mp h
      cases inner with
      | none => cases h
      | some inner =>
        cases h
        exact .parenthesized hnode hkind (ih hinner)
    · cases h

theorem Spells.eq_of_nameText {id : NodeId} {text : String} (h : p.Spells id text) {bound : Nat}
    {answer : Option String} (hanswer : p.nameText bound id = .ok answer) : answer = some text := by
  induction h generalizing bound answer with
  | identifier hnode hkind =>
    cases bound with
    | zero => cases hanswer
    | succ bound =>
      rw [nameText, hnode] at hanswer
      obtain ⟨_, hsame, hanswer⟩ := lookup_bind_eq_ok.mp hanswer
      cases hsame
      rw [hkind] at hanswer
      cases hanswer
      rfl
  | memberAccess hnode hkind hoperand ih | parenthesized hnode hkind hoperand ih =>
    cases bound with
    | zero => cases hanswer
    | succ bound =>
      rw [nameText, hnode] at hanswer
      obtain ⟨_, hsame, hanswer⟩ := lookup_bind_eq_ok.mp hanswer
      cases hsame
      rw [hkind] at hanswer
      obtain ⟨inner, hinner, hanswer⟩ := lookup_bind_eq_ok.mp hanswer
      rw [ih hinner] at hanswer
      cases hanswer
      rfl

theorem Loaded.expressionText_iff (h : p.Loaded) {id : NodeId} (hid : p.Has id) :
    Answers (p.expressionText id) fun answer => ∀ text, answer = some text ↔ p.Spells id text := by
  obtain ⟨answer, hanswer, -⟩ := h.expressionText hid
  refine ⟨answer, hanswer, fun text => ⟨?_, ?_⟩⟩
  · rintro rfl
    exact spells_of_nameText hanswer
  · intro hspells
    exact hspells.eq_of_nameText hanswer

theorem Loaded.isInvocationOf_iff (h : p.Loaded) {id : NodeId} (hid : p.Has id) (name : String) :
    Answers (p.isInvocationOf id name) fun b => b = true ↔ p.CallOf name id := by
  rw [Program.isInvocationOf]
  refine (h.inRange.node hid).bind_eq fun node hnode hbelow => ?_
  split
  · rename_i callee arguments target typeArguments hkind
    have hcallee : p.Has callee := hbelow.children callee (by simp [hkind, NodeKind.children])
    refine (h.expressionText_iff hcallee).bind fun answer htext => Answers.pure ?_
    rw [beq_iff_eq, htext]
    constructor
    · intro hspells
      exact ⟨node, callee, arguments, target, typeArguments, hnode, hkind, hspells⟩
    · rintro ⟨node', callee', _, _, _, hnode', hkind', hspells⟩
      obtain rfl := lookup_unique hnode hnode'
      rw [hkind] at hkind'
      cases hkind'
      exact hspells
  · rename_i hother
    refine Answers.pure ⟨fun hfalse => absurd hfalse (by simp), ?_⟩
    rintro ⟨node', callee, arguments, target, typeArguments, hnode', hkind, -⟩
    obtain rfl := lookup_unique hnode hnode'
    exact absurd hkind (hother callee arguments target typeArguments)

theorem not_encloses_of_callOf {name : String} {id : NodeId} (h : p.CallOf name id)
    (inner : NodeId) : ¬ p.Encloses id inner := by
  rintro ⟨node, hnode, hkind⟩
  obtain ⟨node', callee, arguments, target, typeArguments, hnode', hkind', -⟩ := h
  obtain rfl := lookup_unique hnode hnode'
  rw [hkind] at hkind'
  cases hkind'

/-- Where parentheses end is determined by where they start. -/
theorem eq_of_encloses {id a b : NodeId} (ha : ReflTransGen p.Encloses id a)
    (hb : ReflTransGen p.Encloses id b) (hna : ∀ inner, ¬ p.Encloses a inner)
    (hnb : ∀ inner, ¬ p.Encloses b inner) : a = b := by
  have hunique : Relator.RightUnique p.Encloses := by
    rintro outer x y ⟨node, hnode, hx⟩ ⟨node', hnode', hy⟩
    obtain rfl := lookup_unique hnode hnode'
    rw [hx] at hy
    cases hy
    rfl
  rcases ReflTransGen.total_of_right_unique hunique ha hb with hreach | hreach
  · rcases hreach.cases_head with heq | ⟨inner, hstep, -⟩
    · exact heq
    · exact absurd hstep (hna inner)
  · rcases hreach.cases_head with heq | ⟨inner, hstep, -⟩
    · exact heq.symm
    · exact absurd hstep (hnb inner)

end Program

namespace Check.Hooks

open Program

variable {p : Program}

theorem encloses_of_withoutParentheses {bound : Nat} {id inner : NodeId}
    (h : withoutParentheses p bound id = .ok inner) :
    ReflTransGen p.Encloses id inner ∧ ∀ x, ¬ p.Encloses inner x := by
  induction bound generalizing id with
  | zero => cases h
  | succ bound ih =>
    rw [withoutParentheses] at h
    obtain ⟨node, hnode, h⟩ := lookup_bind_eq_ok.mp h
    split at h
    · rename_i operand hkind
      obtain ⟨hreach, hend⟩ := ih h
      exact ⟨.head ⟨node, hnode, hkind⟩ hreach, hend⟩
    · rename_i hother
      cases h
      refine ⟨.refl, ?_⟩
      rintro x ⟨node', hnode', hkind⟩
      obtain rfl := lookup_unique hnode hnode'
      exact hother x hkind

theorem yieldsCallOf_iff (h : p.Loaded) {id : NodeId} (hid : p.Has id) (name : String) :
    Answers (yieldsCallOf p name id) fun b => b = true ↔ p.YieldsCallOf name id := by
  unfold yieldsCallOf
  refine (h.inRange.node hid).bind_eq fun node hnode hbelow => ?_
  split
  · rename_i operand hkind
    have hoperand : p.Has operand := hbelow.children operand (by simp [hkind, NodeKind.children])
    refine (h.withoutParentheses hoperand).bind_eq fun inner hinner hin => ?_
    obtain ⟨hreach, hend⟩ := encloses_of_withoutParentheses hinner
    refine (h.isInvocationOf_iff hin name).mono fun b hb => hb.trans ⟨?_, ?_⟩
    · intro hcall
      exact ⟨node, operand, inner, hnode, hkind, hreach, hcall⟩
    · rintro ⟨node', operand', call, hnode', hkind', hreach', hcall⟩
      obtain rfl := lookup_unique hnode hnode'
      rw [hkind] at hkind'
      cases hkind'
      rw [eq_of_encloses hreach hreach' hend (not_encloses_of_callOf hcall)]
      exact hcall
  · rename_i hother
    refine Answers.pure ⟨fun hfalse => absurd hfalse (by simp), ?_⟩
    rintro ⟨node', operand, call, hnode', hkind, -⟩
    obtain rfl := lookup_unique hnode hnode'
    exact absurd hkind (hother operand)

/-! ## What can be wrong with a hook -/

/-- A replacement gets the replaced method as its first parameter, which is not the context of an
instruction hook, and has a body in which it can be called. -/
structure TakesOrig (p : Program) (names : FrameworkNames) (site : HookSite)
    (orig : ParameterSymbol) (body : NodeId) : Prop where
  parameter : ∃ method, p.method site.method = .ok method ∧ method.parameters.head? = some orig
  notContext : ∀ type, orig.type = some type → p.fullTypeName type ≠ .ok names.ilContext
  body : ∃ node, p.node site.declaration = .ok node ∧ node.kind.body? = some body

/-- A replacement returns a sequence. -/
def MakesSequence (p : Program) (names : FrameworkNames) (site : HookSite) : Prop :=
  ∃ method type name, p.method site.method = .ok method ∧ method.returnType = some type ∧
    p.fullTypeName type = .ok name ∧ name ∈ names.sequenceTypes

/-- The replacement needs an instance, which is found at its declaration. -/
def NeedsInstance (p : Program) (site : HookSite) (finding : Finding) : Prop :=
  ∃ method, p.method site.method = .ok method ∧ method.isStatic = false ∧
    finding = ⟨.hooksShouldBeStatic, site.declaration, [methodName method]⟩

/-- Nothing below the body, in nested functions or not, calls the replaced method, which is found at
the declaration. -/
def MissesCall (p : Program) (site : HookSite) (orig : ParameterSymbol) (body : NodeId)
    (finding : Finding) : Prop :=
  (∀ id, ReflTransGen p.IsChild body id → ¬ p.CallOf orig.name id) ∧
    ∃ typeName, origTypeName p orig = .ok typeName ∧
      finding = ⟨.callOrigInHooks, site.declaration, [orig.name, typeName]⟩

/-- A statement of the body itself, outside of nested functions, yields a call of the replaced
method. -/
def YieldsOrig (p : Program) (orig : ParameterSymbol) (body : NodeId) (finding : Finding) : Prop :=
  ∃ id, (ReflTransGen (p.Enters NodeKind.isFunction) body id ∧ p.YieldsCallOf orig.name id) ∧
    finding = ⟨.dontYieldReturnOrig, id, [orig.name]⟩

/-- What is to be found about a replacement. -/
def Judged (p : Program) (names : FrameworkNames) (site : HookSite) (finding : Finding) : Prop :=
  NeedsInstance p site finding ∨ ∃ orig body, TakesOrig p names site orig body ∧
    (MissesCall p site orig body finding ∨
      MakesSequence p names site ∧ YieldsOrig p orig body finding)

section Judgement

variable {names : FrameworkNames} {site : HookSite}

theorem TakesOrig.unique {orig orig' : ParameterSymbol} {body body' : NodeId}
    (h : TakesOrig p names site orig body) (h' : TakesOrig p names site orig' body') :
    orig = orig' ∧ body = body' := by
  obtain ⟨⟨method, hmethod, horig⟩, -, ⟨node, hnode, hbody⟩⟩ := h
  obtain ⟨⟨method', hmethod', horig'⟩, -, ⟨node', hnode', hbody'⟩⟩ := h'
  obtain rfl := lookup_unique hmethod hmethod'
  obtain rfl := lookup_unique hnode hnode'
  exact ⟨Option.some.inj (horig.symm.trans horig'), Option.some.inj (hbody.symm.trans hbody')⟩

/-- Without the replaced method only the instance matters. -/
theorem needsInstance_iff_judged (hnone : ∀ orig body, ¬ TakesOrig p names site orig body)
    (finding : Finding) : NeedsInstance p site finding ↔ Judged p names site finding := by
  refine ⟨Or.inl, ?_⟩
  rintro (hneeds | ⟨orig, body, htakes, -⟩)
  · exact hneeds
  · exact absurd htakes (hnone orig body)

theorem TakesOrig.judged_iff {orig : ParameterSymbol} {body : NodeId}
    (h : TakesOrig p names site orig body) (finding : Finding) :
    Judged p names site finding ↔ NeedsInstance p site finding ∨
      MissesCall p site orig body finding ∨
        MakesSequence p names site ∧ YieldsOrig p orig body finding := by
  refine or_congr_right ⟨?_, fun huse => ⟨orig, body, h, huse⟩⟩
  rintro ⟨orig', body', h', huse⟩
  obtain ⟨rfl, rfl⟩ := h.unique h'
  exact huse

theorem makesSequence_iff {method : MethodSymbol} (hmethod : p.method site.method = .ok method) :
    MakesSequence p names site ↔ ∃ type name, method.returnType = some type ∧
      p.fullTypeName type = .ok name ∧ name ∈ names.sequenceTypes := by
  constructor
  · rintro ⟨method', type, name, hmethod', hrest⟩
    obtain rfl := lookup_unique hmethod hmethod'
    exact ⟨type, name, hrest⟩
  · rintro ⟨type, name, hrest⟩
    exact ⟨method, type, name, hmethod, hrest⟩

theorem instanceFindings_exactly {method : MethodSymbol}
    (hmethod : p.method site.method = .ok method) :
    Exactly (if method.isStatic then []
      else [⟨.hooksShouldBeStatic, site.declaration, [methodName method]⟩])
      (NeedsInstance p site) := by
  refine (Exactly.ite_nil Iff.rfl _).congr fun finding => ⟨?_, ?_⟩
  · rintro ⟨hinstance, rfl⟩
    exact ⟨method, hmethod, by simpa using hinstance, rfl⟩
  · rintro ⟨method', hmethod', hinstance, rfl⟩
    obtain rfl := lookup_unique hmethod hmethod'
    exact ⟨by simp [hinstance], rfl⟩

end Judgement

/-! ## The check finds what is to be found -/

section Findings

variable (h : p.Loaded) (hlisted : p.listedChildren.Nodup)

include h

theorem isSequenceType_iff (names : FrameworkNames) {type? : Option TypeId}
    (hin : ∀ type, type? = some type → p.Has type) :
    Answers (p.isSequenceType names type?) fun b => b = true ↔
      ∃ type name, type? = some type ∧ p.fullTypeName type = .ok name ∧
        name ∈ names.sequenceTypes := by
  cases type? with
  | none => exact Answers.pure (by simp)
  | some type =>
    refine (h.inRange.fullTypeName (hin type rfl)).bind_eq fun name hname _ =>
      Answers.pure ?_
    rw [List.contains_iff_mem]
    constructor
    · intro hmem
      exact ⟨type, name, rfl, hname, hmem⟩
    · rintro ⟨type', name', htype, hname', hmem⟩
      cases htype
      rw [hname] at hname'
      cases hname'
      exact hmem

theorem isContext_iff (names : FrameworkNames) {orig : ParameterSymbol}
    (hin : ∀ type, orig.type = some type → p.Has type) :
    Answers (isContext p names orig) fun b => b = true ↔
      ∃ type, orig.type = some type ∧ p.fullTypeName type = .ok names.ilContext := by
  unfold isContext
  split
  · rename_i hnone
    exact Answers.pure (by simp [hnone])
  · rename_i type htype
    refine (h.inRange.fullTypeName (hin type htype)).bind_eq fun name hname _ =>
      Answers.pure ?_
    rw [beq_iff_eq]
    constructor
    · rintro rfl
      exact ⟨type, htype, hname⟩
    · rintro ⟨type', htype', hname'⟩
      rw [htype] at htype'
      cases htype'
      rw [hname] at hname'
      cases hname'
      rfl

theorem callFindings_exactly (site : HookSite) {orig : ParameterSymbol}
    (hin : ∀ type, orig.type = some type → p.Has type) {body : NodeId} (hbody : p.Has body) :
    Answers (callFindings p site orig body) (Exactly · (MissesCall p site orig body)) := by
  unfold callFindings
  refine (h.descendantsUntil hbody _).bind_eq fun ids hids hhas => ?_
  refine (Answers.anyM_iff fun id hid => h.isInvocationOf_iff (hhas id hid) orig.name).bind
    fun calls hcalls => ?_
  split
  · rename_i hcalled
    obtain ⟨call, hmem, hcall⟩ := hcalls.mp hcalled
    refine Answers.pure (.nil ?_)
    rintro finding ⟨hnever, -⟩
    exact hnever call ((h.mem_descendants_iff hids).mp hmem) hcall
  · rename_i hcalled
    have hnever : ∀ id, ReflTransGen p.IsChild body id → ¬ p.CallOf orig.name id := by
      intro id hreach hcall
      exact hcalled (hcalls.mpr ⟨id, (h.mem_descendants_iff hids).mpr hreach, hcall⟩)
    refine (origTypeName_answers h hin).bind_eq fun typeName htype _ =>
      Answers.pure (.single fun finding => ⟨?_, ?_⟩)
    · rintro ⟨-, typeName', htype', rfl⟩
      rw [htype] at htype'
      cases htype'
      rfl
    · rintro rfl
      exact ⟨hnever, typeName, htype, rfl⟩

include hlisted

theorem yieldFindings_exactly (orig : ParameterSymbol) {body : NodeId} (hbody : p.Has body) :
    Answers (yieldFindings p orig body) (Exactly · (YieldsOrig p orig body)) := by
  unfold yieldFindings
  refine (h.descendantsUntil hbody _).bind_eq fun ids hids hhas => ?_
  refine (Answers.filterM_iff fun id hid => yieldsCallOf_iff h (hhas id hid) orig.name).bind
    fun yielded hfiltered => ?_
  obtain ⟨hsub, hyielded⟩ := hfiltered
  have hexactly : Exactly yielded fun id =>
      ReflTransGen (p.Enters NodeKind.isFunction) body id ∧ p.YieldsCallOf orig.name id := by
    refine ⟨(h.nodup_descendantsUntil hlisted hids).sublist hsub, fun id => ?_⟩
    rw [hyielded, h.mem_descendantsUntil_iff hids]
  have hinjective : Function.Injective fun id : NodeId =>
      (⟨.dontYieldReturnOrig, id, [orig.name]⟩ : Finding) := by
    intro a b hab
    exact congrArg Finding.node hab
  exact Answers.pure (hexactly.map hinjective)

theorem origFindings_exactly (site : HookSite) {orig : ParameterSymbol}
    (hin : ∀ type, orig.type = some type → p.Has type) {body : NodeId} (hbody : p.Has body)
    (sequence : Bool) :
    Answers (origFindings p site orig body sequence) (Exactly · fun finding =>
      MissesCall p site orig body finding ∨ sequence = true ∧ YieldsOrig p orig body finding) := by
  unfold origFindings
  refine (callFindings_exactly h site hin hbody).bind fun missing hmissing => ?_
  cases sequence with
  | false => exact Answers.pure (hmissing.congr fun finding => by simp)
  | true =>
    refine (yieldFindings_exactly h hlisted orig hbody).bind fun yielded hyielded =>
      Answers.pure ((hmissing.append hyielded ?_).congr fun finding => by simp)
    rintro finding ⟨-, _, -, rfl⟩ ⟨_, -, heq⟩
    cases heq

theorem siteFindings_exactly (names : FrameworkNames) {site : HookSite} (hsite : site.InRange p) :
    Answers (siteFindings p names site) (Exactly · (Judged p names site)) := by
  unfold siteFindings
  refine (h.inRange.method hsite.1).bind_eq fun method hmethod hids => ?_
  refine (h.inRange.node hsite.2).bind_eq fun node hnode hbelow => ?_
  refine (isSequenceType_iff h names hids.returnType).bind fun sequence hsequence => ?_
  rw [← makesSequence_iff hmethod] at hsequence
  have hinstance := instanceFindings_exactly hmethod
  dsimp only
  split
  · rename_i orig horig
    have hparameter := hids.parameters orig (List.mem_of_head? horig)
    refine (isContext_iff h names hparameter).bind fun context hcontext => ?_
    split
    · rename_i hyes
      obtain ⟨type, htype, hname⟩ := hcontext.mp hyes
      refine Answers.pure (hinstance.congr (needsInstance_iff_judged ?_))
      rintro other body ⟨⟨method', hmethod', hother⟩, hnot, -⟩
      obtain rfl := lookup_unique hmethod hmethod'
      obtain rfl := Option.some.inj (horig.symm.trans hother)
      exact hnot type htype hname
    · rename_i hno
      split
      · rename_i body hbody
        have htakes : TakesOrig p names site orig body :=
          { parameter := ⟨method, hmethod, horig⟩
            notContext := fun type htype hname => hno (hcontext.mpr ⟨type, htype, hname⟩)
            body := ⟨node, hnode, hbody⟩ }
        refine (origFindings_exactly h hlisted site hparameter (body_in_range hbelow hbody)
          sequence).bind fun uses huses =>
            Answers.pure ((hinstance.append huses ?_).congr fun finding => ?_)
        · rintro finding ⟨method', -, -, rfl⟩ (⟨-, _, -, heq⟩ | ⟨-, _, -, heq⟩) <;> cases heq
        · rw [htakes.judged_iff, hsequence]
      · rename_i hnone
        refine Answers.pure (hinstance.congr (needsInstance_iff_judged ?_))
        rintro other body ⟨-, -, ⟨node', hnode', hbody⟩⟩
        obtain rfl := lookup_unique hnode hnode'
        exact absurd hbody (hnone body)
  · rename_i hnone
    refine Answers.pure (hinstance.congr (needsInstance_iff_judged ?_))
    rintro orig body ⟨⟨method', hmethod', horig⟩, -, -⟩
    obtain rfl := lookup_unique hmethod hmethod'
    exact absurd horig (hnone orig)

end Findings

end Check.Hooks

end ModLint
