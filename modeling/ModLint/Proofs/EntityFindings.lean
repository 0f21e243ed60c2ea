import Mathlib.Data.List.Forall2
import ModLint.Proofs.EntityIds
import ModLint.Proofs.HookFindings
import ModLint.Proofs.StoredIds

/-!
# What is found about a custom entity

The relations here say when a type is an entity, which parameters the mod loader can supply and what
can be wrong with a generator, without bounds and without a search. The check follows base classes
for as many steps as there are types, which is enough even for a chain that goes in circles, because
a type that is met twice has not the wanted name. It cuts blanks off an id before it looks for the
equals sign; the name of a generator is the same without that.
-/

namespace ModLint

open Relation

/-! ## Names of generators -/

namespace EntityId

/-- What stands behind the first equals sign of a text, without blanks around it. -/
def generatorName (text : String) : String :=
  String.ofList (Text.trim (text.toList.dropWhile (· != '=')).tail)

theorem generator?_parse (text : String) : (parse text).generator? =
    if '=' ∈ text.toList then some (generatorName text) else none := by
  by_cases hmem : '=' ∈ text.toList
  · obtain ⟨before, after, htext, hbefore⟩ := List.eq_append_cons_of_mem hmem
    have hname : generatorName text = String.ofList (Text.trim after) := by
      have hdrop : text.toList.dropWhile (· != '=') = '=' :: after := by
        rw [htext, List.dropWhile_append_of_pos, List.dropWhile_cons_of_neg (by simp)]
        intro c hc
        have hne : c ≠ '=' := fun heq => hbefore (heq ▸ hc)
        simpa using hne
      rw [generatorName, hdrop, List.tail_cons]
    rw [if_pos hmem, hname, parse_of_append htext hbefore, generator?]
  · rw [if_neg hmem, parse_of_not_mem hmem, generator?]

end EntityId

/-! ## Base classes -/

namespace Program

variable {p : Program}

/-- A type or one of its base classes has a full name. -/
def Extends (p : Program) (name : String) (id : TypeId) : Prop :=
  ∃ base, ReflTransGen (p.Leads .base) id base ∧ p.fullTypeName base = .ok name

/-- A step to the base class of a type that does not have the name itself. -/
def PassesOn (p : Program) (name : String) (a b : TypeId) : Prop :=
  p.fullTypeName a ≠ .ok name ∧ p.Leads .base a b

theorem leads_base_iff {a b : TypeId} {symbol : TypeSymbol} (ha : p.type a = .ok symbol) :
    p.Leads .base a b ↔ symbol.base = some b := by
  have hget := fetch_eq_ok_iff.mp ha
  constructor
  · rintro ⟨symbol', hget', hbase⟩
    obtain rfl := Option.some.inj (hget.symm.trans hget')
    exact hbase
  · intro hbase
    exact ⟨symbol, hget, hbase⟩

/-- On the way to a base class with the name there is a first one. -/
theorem Extends.exists_first {name : String} {id : TypeId} (h : p.Extends name id) :
    ∃ first, ReflTransGen (p.PassesOn name) id first ∧ p.fullTypeName first = .ok name := by
  obtain ⟨base, hreach, hname⟩ := h
  induction hreach using ReflTransGen.head_induction_on with
  | refl => exact ⟨base, .refl, hname⟩
  | @head a b hstep _ ih =>
    by_cases ha : p.fullTypeName a = .ok name
    · exact ⟨a, .refl, ha⟩
    · obtain ⟨first, hfirst, hnamed⟩ := ih
      exact ⟨first, .head ⟨ha, hstep⟩ hfirst, hnamed⟩

theorem extends_of_extendsWithin {name : String} {bound : Nat} {id : TypeId}
    (h : p.extendsWithin name bound id = .ok true) : p.Extends name id := by
  induction bound generalizing id with
  | zero =>
    rw [extendsWithin] at h
    obtain ⟨full, hfull, h⟩ := lookup_bind_eq_ok.mp h
    obtain rfl := beq_iff_eq.mp (Except.ok.inj h)
    exact ⟨id, .refl, hfull⟩
  | succ bound ih =>
    rw [extendsWithin] at h
    obtain ⟨full, hfull, h⟩ := lookup_bind_eq_ok.mp h
    split at h
    · rename_i hsame
      obtain rfl := beq_iff_eq.mp hsame
      exact ⟨id, .refl, hfull⟩
    · obtain ⟨symbol, hsymbol, h⟩ := lookup_bind_eq_ok.mp h
      split at h
      · rename_i base hbase
        obtain ⟨last, hreach, hlast⟩ := ih h
        exact ⟨last, .head ((leads_base_iff hsymbol).mpr hbase) hreach, hlast⟩
      · cases h

theorem InRange.leads_base_lt (h : p.InRange) {a b : TypeId} (hab : p.Leads .base a b) :
    a.index < p.types.size ∧ b.index < p.types.size := by
  obtain ⟨symbol, hget, hbase⟩ := hab
  have ha : p.Has a := (Array.getElem?_eq_some_iff.mp hget).1
  exact ⟨ha, (h.types symbol (Array.mem_of_getElem? hget)).base b hbase⟩

theorem InRange.extendsWithin_of_rank (h : p.InRange) {name : String} {first : TypeId}
    (hfirst : p.fullTypeName first = .ok name) {rank : TypeId → Nat}
    (hrank : ∀ a b, p.PassesOn name a b → ReflTransGen (p.PassesOn name) b first →
      rank b < rank a)
    {bound : Nat} {id : TypeId} (hreach : ReflTransGen (p.PassesOn name) id first)
    (hbound : rank id ≤ bound) : p.extendsWithin name bound id = .ok true := by
  induction bound generalizing id with
  | zero =>
    rcases hreach.cases_head with rfl | ⟨b, hstep, hrest⟩
    · simp only [Program.extendsWithin, hfirst, bind, Except.bind, beq_self_eq_true]
      rfl
    · have hlt := hrank id b hstep hrest
      omega
  | succ bound ih =>
    rcases hreach.cases_head with rfl | ⟨b, hstep, hrest⟩
    · simp only [Program.extendsWithin, hfirst, bind, Except.bind, beq_self_eq_true, if_true]
      rfl
    · have hlt := hrank id b hstep hrest
      have hid : p.Has id := (h.leads_base_lt hstep.2).1
      obtain ⟨full, hfull, -⟩ := h.fullTypeName hid
      obtain ⟨symbol, hsymbol, -⟩ := h.type hid
      have hne : full ≠ name := by
        rintro rfl
        exact hstep.1 hfull
      have hbase := (leads_base_iff hsymbol).mp hstep.2
      simp only [Program.extendsWithin, hfull, bind, Except.bind, beq_iff_eq, hne, if_false,
        hsymbol, hbase]
      exact ih hrest (by omega)

/-- As many steps as there are types are enough to find a base class. -/
theorem InRange.extendsType_iff (h : p.InRange) {id : TypeId} (hid : p.Has id) (name : String) :
    Answers (p.extendsType id name) fun b => b = true ↔ p.Extends name id := by
  obtain ⟨b, hb, -⟩ := h.extendsType hid name
  refine ⟨b, hb, ?_, ?_⟩
  · rintro rfl
    exact extends_of_extendsWithin hb
  · intro hextends
    obtain ⟨first, hreach, hfirst⟩ := hextends.exists_first
    have hunique : Relator.RightUnique (p.PassesOn name) := by
      rintro a b c ⟨-, symbol, hget, hb⟩ ⟨-, symbol', hget', hc⟩
      obtain rfl := Option.some.inj (hget.symm.trans hget')
      exact Option.some.inj (hb.symm.trans hc)
    have hend : ∀ b, ¬ p.PassesOn name first b := fun b hstep => hstep.1 hfirst
    obtain ⟨rank, hrank, hlt⟩ :=
      exists_rank_to (fun a b hstep => h.leads_base_lt hstep.2) hunique hend
    have hfound := h.extendsWithin_of_rank hfirst hrank hreach (hlt id hid).le
    exact lookup_unique hb hfound

end Program

/-! ## Lists of look-ups -/

/-- The first item of a list with a property. -/
def IsFirst {α : Type} (P : α → Prop) (xs : List α) (a : α) : Prop :=
  ∃ before after, xs = before ++ a :: after ∧ P a ∧ ∀ b ∈ before, ¬ P b

/-- A list in which some item has a property has a first one. -/
theorem exists_isFirst {α : Type} {P : α → Prop} {xs : List α} (h : ∃ a ∈ xs, P a) :
    ∃ a, IsFirst P xs a := by
  classical
  have hfound : (xs.find? fun a => decide (P a)).isSome = true := by
    simpa [List.find?_isSome] using h
  obtain ⟨a, ha⟩ := Option.isSome_iff_exists.mp hfound
  obtain ⟨hP, before, after, hsplit, hbefore⟩ := List.find?_eq_some_iff_append.mp ha
  refine ⟨a, before, after, hsplit, of_decide_eq_true hP, fun b hb => ?_⟩
  simpa using hbefore b hb

theorem IsFirst.unique {α : Type} {P : α → Prop} {xs : List α} {a b : α} (ha : IsFirst P xs a)
    (hb : IsFirst P xs b) : a = b := by
  obtain ⟨before, after, hxs, hPa, hbefore⟩ := ha
  obtain ⟨before', after', hxs', hPb, hbefore'⟩ := hb
  rcases List.append_eq_append_iff.mp (hxs.symm.trans hxs') with
    ⟨mid, rfl, hrest⟩ | ⟨mid, rfl, hrest⟩
  · cases mid with
    | nil => exact (List.cons.inj hrest).1
    | cons c mid =>
      obtain rfl := (List.cons.inj hrest).1
      exact absurd hPa (hbefore' a (by simp))
  · cases mid with
    | nil => exact (List.cons.inj hrest).1.symm
    | cons c mid =>
      obtain rfl := (List.cons.inj hrest).1
      exact absurd hPb (hbefore b (by simp))

theorem IsFirst.mem {α : Type} {P : α → Prop} {xs : List α} {a : α} (h : IsFirst P xs a) :
    a ∈ xs ∧ P a := by
  obtain ⟨before, after, rfl, hPa, -⟩ := h
  exact ⟨by simp, hPa⟩

theorem Answers.mapM_forall₂ {α β : Type} {R : α → β → Prop} {xs : List α} {f : α → Lookup β}
    (h : ∀ a ∈ xs, Answers (f a) (R a)) : Answers (xs.mapM f) (List.Forall₂ R xs) := by
  induction xs with
  | nil => exact Answers.pure .nil
  | cons a xs ih =>
    rw [List.mapM_cons]
    refine (h a List.mem_cons_self).bind fun b hb => ?_
    refine (ih fun a' ha' => h a' (List.mem_cons_of_mem a ha')).bind fun bs hbs => ?_
    exact Answers.pure (.cons hb hbs)

/-! ## Methods that make an entity -/

namespace Check.Entity

open Program

variable {p : Program} {names : FrameworkNames} {symbol : TypeSymbol} {declaration : NodeId}

/-- A parameter has a type with a full name. -/
def HasTypeNamed (p : Program) (name : String) (parameter : ParameterSymbol) : Prop :=
  ∃ type, parameter.type = some type ∧ p.fullTypeName type = .ok name

/-- The types of the arguments that the mod loader can call a method with: none, the position of the
entity, its data and position, these and its id. A generator may also take the level, the data of
the level, the position and the data of the entity. -/
inductive Supplied (names : FrameworkNames) : Bool → List String → Prop where
  | nothing {generator : Bool} : Supplied names generator []
  | position {generator : Bool} : Supplied names generator [names.vector2]
  | data {generator : Bool} : Supplied names generator [names.entityData, names.vector2]
  | dataAndId {generator : Bool} :
    Supplied names generator [names.entityData, names.vector2, names.entityId]
  | level : Supplied names true [names.level, names.levelData, names.vector2, names.entityData]

/-- The parameters of a method have the types of arguments that the mod loader can supply, in order;
without parameters the method is written in the source. -/
def Callable (p : Program) (names : FrameworkNames) (generator : Bool) (method : MethodSymbol) :
    Prop :=
  ∃ types, Supplied names generator types ∧ List.Forall₂ (HasTypeNamed p) types method.parameters ∧
    (types = [] → method.isImplicit = false)

/-- A method returns an entity. -/
def ReturnsEntity (p : Program) (names : FrameworkNames) (method : MethodSymbol) : Prop :=
  ∃ type, method.returnType = some type ∧ p.Extends names.entity type

/-- A member has a name. -/
def HasName (p : Program) (name : String) (member : MethodId) : Prop :=
  ∃ method, p.method member = .ok method ∧ method.name = name

/-- What is wrong with the generator that has a name. -/
inductive GeneratorFault (p : Program) (names : FrameworkNames) (symbol : TypeSymbol)
    (declaration : NodeId) (name : String) : Finding → Prop where
  | missing (hnone : ∀ member ∈ symbol.members, ¬ HasName p name member) :
    GeneratorFault p names symbol declaration name
      ⟨.customEntityGeneratorMethodMissing, declaration, [name, symbol.name]⟩
  | invalid {member : MethodId} {method : MethodSymbol}
    (hfirst : IsFirst (HasName p name) symbol.members member)
    (hmethod : p.method member = .ok method)
    (hinvalid : ¬ (method.isStatic = true ∧ ReturnsEntity p names method)) :
    GeneratorFault p names symbol declaration name
      ⟨.customEntityGeneratorInvalid, method.declaration.getD declaration, [name]⟩
  | invalidParams {member : MethodId} {method : MethodSymbol}
    (hfirst : IsFirst (HasName p name) symbol.members member)
    (hmethod : p.method member = .ok method) (hparams : ¬ Callable p names true method) :
    GeneratorFault p names symbol declaration name
      ⟨.customEntityGeneratorInvalidParams, method.declaration.getD declaration, [name]⟩

/-- There is a constructor that the mod loader can call. -/
def HasUsableConstructor (p : Program) (names : FrameworkNames) (symbol : TypeSymbol) : Prop :=
  ∃ member ∈ symbol.members, ∃ method, p.method member = .ok method ∧
    method.kind = .constructor ∧ Callable p names false method

theorem hasTypeNamed_iff (h : p.InRange) {parameter : ParameterSymbol}
    (hparameter : ∀ id, parameter.type = some id → p.Has id) (name : String) :
    Answers (hasTypeNamed p parameter name) fun b => b = true ↔ HasTypeNamed p name parameter := by
  unfold hasTypeNamed HasTypeNamed
  split
  · rename_i hnone
    exact Answers.pure (by simp [hnone])
  · rename_i type htype
    refine (h.fullTypeName (hparameter type htype)).bind_eq fun full hfull _ => Answers.pure ?_
    rw [beq_iff_eq]
    constructor
    · rintro rfl
      exact ⟨type, htype, hfull⟩
    · rintro ⟨type', htype', hname⟩
      obtain rfl := Option.some.inj (htype.symm.trans htype')
      exact lookup_unique hfull hname

theorem hasShape_iff (h : p.InRange) {method : MethodSymbol} (hmethod : method.IdsBelow p.size)
    (shape : List String) : Answers (hasShape p method shape) fun b => b = true ↔
      List.Forall₂ (HasTypeNamed p) shape method.parameters ∧
        (shape = [] → method.isImplicit = false) := by
  unfold hasShape
  split
  · rename_i hempty
    obtain rfl := List.isEmpty_iff.mp hempty
    exact Answers.pure (by simp)
  · rename_i hshape
    have hne : shape ≠ [] := fun hnil => hshape (List.isEmpty_iff.mpr hnil)
    simp only [hne, false_implies, and_true]
    split
    · rename_i hlength
      refine Answers.mono (Answers.allM_iff (P := fun pair => HasTypeNamed p pair.1 pair.2)
        fun pair hpair => ?_) fun b hb => ?_
      · exact hasTypeNamed_iff h (hmethod.parameters pair.2 (List.of_mem_zip hpair).2) pair.1
      · rw [hb, List.forall₂_iff_zip]
        constructor
        · intro hall
          exact ⟨hlength, fun hpair => hall _ hpair⟩
        · intro hall pair hpair
          exact hall.2 hpair
    · rename_i hlength
      refine Answers.pure ⟨fun hfalse => absurd hfalse Bool.false_ne_true, ?_⟩
      intro hall
      exact absurd hall.length_eq hlength

theorem mem_shapes_iff {generator : Bool} {types : List String} :
    types ∈ shapes names generator ↔ Supplied names generator types := by
  constructor
  · intro h
    rcases List.mem_append.mp h with h | h
    · simp only [List.mem_cons, List.not_mem_nil, or_false] at h
      rcases h with rfl | rfl | rfl | rfl
      · exact .nothing
      · exact .position
      · exact .data
      · exact .dataAndId
    · cases generator with
      | false => cases h
      | true =>
        obtain rfl := List.mem_singleton.mp h
        exact .level
  · intro h
    cases h <;> simp [shapes]

theorem isCallable_iff (h : p.InRange) {method : MethodSymbol} (hmethod : method.IdsBelow p.size)
    (generator : Bool) : Answers (isCallable p names method generator) fun b =>
      b = true ↔ Callable p names generator method := by
  unfold isCallable
  refine Answers.mono (Answers.anyM_iff fun shape _ => hasShape_iff h hmethod shape) fun b hb => ?_
  simp only [hb, mem_shapes_iff, Callable]

theorem returnsEntity_iff (h : p.InRange) {method : MethodSymbol}
    (hmethod : method.IdsBelow p.size) : Answers (returnsEntity p names method) fun b =>
      b = true ↔ ReturnsEntity p names method := by
  unfold returnsEntity ReturnsEntity
  split
  · rename_i hnone
    exact Answers.pure (by simp [hnone])
  · rename_i type htype
    refine Answers.mono (h.extendsType_iff (hmethod.returnType type htype) _) fun b hb => ?_
    rw [hb]
    constructor
    · intro hextends
      exact ⟨type, htype, hextends⟩
    · rintro ⟨type', htype', hextends⟩
      obtain rfl := Option.some.inj (htype.symm.trans htype')
      exact hextends

theorem isUsableConstructor_iff (h : p.InRange) {member : MethodId} (hmember : p.Has member) :
    Answers (isUsableConstructor p names member) fun b => b = true ↔
      ∃ method, p.method member = .ok method ∧ method.kind = .constructor ∧
        Callable p names false method := by
  unfold isUsableConstructor
  refine (h.method hmember).bind_eq fun method hmethod hbelow => ?_
  split
  · rename_i hkind
    refine Answers.mono (isCallable_iff h hbelow false) fun b hb => ?_
    rw [hb]
    constructor
    · intro hcallable
      exact ⟨method, hmethod, hkind, hcallable⟩
    · rintro ⟨method', hmethod', -, hcallable⟩
      obtain rfl := lookup_unique hmethod hmethod'
      exact hcallable
  · rename_i hkind
    refine Answers.pure ⟨fun hfalse => absurd hfalse Bool.false_ne_true, ?_⟩
    rintro ⟨method', hmethod', hkind', -⟩
    obtain rfl := lookup_unique hmethod hmethod'
    exact absurd hkind' hkind

/-! ## What is found -/

theorem hasName_iff (h : p.InRange) {member : MethodId} (hmember : p.Has member) (name : String) :
    Answers (do return (← p.method member).name == name) fun b =>
      b = true ↔ HasName p name member := by
  refine (h.method hmember).bind_eq fun method hmethod _ => Answers.pure ?_
  rw [beq_iff_eq]
  constructor
  · intro hname
    exact ⟨method, hmethod, hname⟩
  · rintro ⟨method', hmethod', hname⟩
    obtain rfl := lookup_unique hmethod hmethod'
    exact hname

theorem generatorFindings_exactly (h : p.InRange) (hsymbol : symbol.IdsBelow p.size)
    (declaration : NodeId) (name : String) :
    Answers (generatorFindings p names symbol declaration name)
      (Exactly · (GeneratorFault p names symbol declaration name)) := by
  unfold generatorFindings
  refine (Answers.findM?_iff fun member hmember =>
    hasName_iff h (hsymbol.members member hmember) name).bind fun found? hfound => ?_
  split
  · have hnone : ∀ member, ¬ IsFirst (HasName p name) symbol.members member := by
      intro member hfirst
      exact absurd ((hfound member).mpr hfirst) (by simp)
    refine Answers.pure (Exactly.single fun finding => ⟨?_, ?_⟩)
    · rintro (hmissing | ⟨hfirst, -, -⟩ | ⟨hfirst, -, -⟩)
      · rfl
      · exact absurd hfirst (hnone _)
      · exact absurd hfirst (hnone _)
    · rintro rfl
      refine .missing fun member hmember hname => ?_
      obtain ⟨first, hfirst⟩ := exists_isFirst ⟨member, hmember, hname⟩
      exact hnone first hfirst
  · rename_i member
    have hfirst : IsFirst (HasName p name) symbol.members member := (hfound member).mp rfl
    obtain ⟨hmember, hname⟩ := hfirst.mem
    refine (h.method (hsymbol.members member hmember)).bind_eq fun method hmethod hbelow => ?_
    refine (returnsEntity_iff h hbelow).bind fun entity hentity => ?_
    refine (isCallable_iff h hbelow true).bind fun callable hcallable => Answers.pure ?_
    have hvalid : (method.isStatic && entity) = true ↔
        method.isStatic = true ∧ ReturnsEntity p names method := by
      rw [Bool.and_eq_true, hentity]
    refine ((Exactly.ite_nil hvalid _).append (Exactly.ite_nil hcallable _) ?_).congr ?_
    · rintro finding ⟨-, rfl⟩ ⟨-, hsame⟩
      cases hsame
    · intro finding
      constructor
      · rintro (⟨hinvalid, rfl⟩ | ⟨hparams, rfl⟩)
        · exact .invalid hfirst hmethod hinvalid
        · exact .invalidParams hfirst hmethod hparams
      · rintro (hnone | ⟨hfirst', hmethod', hinvalid⟩ | ⟨hfirst', hmethod', hparams⟩)
        · exact absurd hname (hnone member hmember)
        · obtain rfl := Option.some.inj ((hfound _).mpr hfirst')
          obtain rfl := lookup_unique hmethod hmethod'
          exact Or.inl ⟨hinvalid, rfl⟩
        · obtain rfl := Option.some.inj ((hfound _).mpr hfirst')
          obtain rfl := lookup_unique hmethod hmethod'
          exact Or.inr ⟨hparams, rfl⟩

end Check.Entity

end ModLint
