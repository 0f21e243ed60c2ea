import ModLint.Proofs.EntityFindings
import ModLint.Proofs.HookJudgement

/-!
# Walks along symbols

Names, base classes and outermost namespaces are found by walks that stop after as many steps as
there are types or namespaces. Here the walks are compared with relations that have no bound: a
chain that ends is followed to its end, however long it is, and a chain of namespaces that never
ends is found out. A check accepts chains of namespaces that go in circles, but no such chains of
types, so in an accepted program every chain of containing types ends.
-/

namespace ModLint

open Relation

/-! ## Chains that end and chains that do not -/

section

variable {α : Type} {next : α → Lookup (Option α)} {a b last : α}

/-- A chain that can always be followed further. -/
def Endless (next : α → Lookup (Option α)) (a : α) : Prop :=
  ∀ b, ReflTransGen (fun b c => next b = .ok (some c)) a b → ∃ c, next b = .ok (some c)

theorem EndsAt.not_endless (h : EndsAt next a last) : ¬ Endless next a := by
  intro hendless
  obtain ⟨c, hc⟩ := hendless last h.1
  rw [h.2] at hc
  cases hc

theorem Endless.exists_step (h : Endless next a) : ∃ b, next a = .ok (some b) ∧ Endless next b := by
  obtain ⟨b, hb⟩ := h a .refl
  exact ⟨b, hb, fun c hc => h c (.head hb hc)⟩

theorem Endless.follow_eq (h : Endless next a) (bound : Nat) : follow next bound a = .ok none := by
  induction bound generalizing a with
  | zero =>
    obtain ⟨b, hb, -⟩ := h.exists_step
    rw [follow, hb]
    rfl
  | succ bound ih =>
    obtain ⟨b, hb, hrest⟩ := h.exists_step
    rw [follow, hb]
    exact ih hrest

end

section

variable {arena : Arena} {next : ItemId arena → Lookup (Option (ItemId arena))} {n : Nat}

theorem index_lt_of_reaches (hin : ∀ a b, next a = .ok (some b) → a.index < n ∧ b.index < n)
    {a b : ItemId arena} (ha : a.index < n)
    (h : ReflTransGen (fun b c => next b = .ok (some c)) a b) : b.index < n := by
  rcases h.cases_tail with rfl | ⟨c, -, hstep⟩
  · exact ha
  · exact (hin c b hstep).2

theorem exists_endsAt_or_endless
    (hin : ∀ a b, next a = .ok (some b) → a.index < n ∧ b.index < n)
    (hnext : ∀ a, a.index < n → Answers (next a) fun _ => True) {a : ItemId arena}
    (ha : a.index < n) : (∃ last, EndsAt next a last) ∨ Endless next a := by
  by_cases hendless : Endless next a
  · exact Or.inr hendless
  · obtain ⟨b, hb⟩ := not_forall.mp hendless
    obtain ⟨hreach, hstops⟩ := Classical.not_imp.mp hb
    obtain ⟨c?, hc, -⟩ := hnext b (index_lt_of_reaches hin ha hreach)
    cases c? with
    | none => exact Or.inl ⟨b, hreach, hc⟩
    | some c => exact absurd ⟨c, hc⟩ hstops

/-- In an arena of `n` items, `n` steps tell whether a chain ends, and where. -/
theorem follow_answers (hin : ∀ a b, next a = .ok (some b) → a.index < n ∧ b.index < n)
    (hnext : ∀ a, a.index < n → Answers (next a) fun _ => True) {a : ItemId arena}
    (ha : a.index < n) :
    Answers (follow next n a) fun last? =>
      (∀ last, last? = some last ↔ EndsAt next a last) ∧ (last? = none ↔ Endless next a) := by
  rcases exists_endsAt_or_endless hin hnext ha with ⟨last, hends⟩ | hendless
  · have hfollow := hends.follow_eq hin ha
    refine ⟨some last, hfollow, fun last' => ⟨?_, ?_⟩, ?_⟩
    · rintro ⟨⟩
      exact hends
    · intro hends'
      exact lookup_unique hfollow (hends'.follow_eq hin ha)
    · simp [hends.not_endless]
  · refine ⟨none, hendless.follow_eq n, fun last => ?_, by simp [hendless]⟩
    simp only [reduceCtorEq, false_iff]
    exact fun hends => hends.not_endless hendless

/-- A chain along which a rank drops ends. -/
theorem exists_endsAt_of_rank (hin : ∀ a b, next a = .ok (some b) → a.index < n ∧ b.index < n)
    (hnext : ∀ a, a.index < n → Answers (next a) fun _ => True) (rank : Nat → Nat)
    (hrank : ∀ a b, next a = .ok (some b) → rank b.index < rank a.index) {a : ItemId arena}
    (ha : a.index < n) : ∃ last, EndsAt next a last := by
  induction hr : rank a.index using Nat.strong_induction_on generalizing a with
  | _ r ih =>
    obtain ⟨b?, hb, -⟩ := hnext a ha
    cases b? with
    | none => exact ⟨a, .refl, hb⟩
    | some b =>
      have hlt := hrank a b hb
      obtain ⟨last, hreach, hlast⟩ := ih _ (hr ▸ hlt) (hin a b hb).2 rfl
      exact ⟨last, .head hb hreach, hlast⟩

end

namespace Program

variable {p : Program}

/-! ## Containing types and namespaces, outermost first -/

/-- The types around a type and the type itself, outermost first. -/
inductive Nested (p : Program) : TypeId → List TypeSymbol → Prop
  | outermost {id : TypeId} {symbol : TypeSymbol} (hsymbol : p.type id = .ok symbol)
      (hnone : symbol.containingType = none) : p.Nested id [symbol]
  | inside {id outer : TypeId} {symbol : TypeSymbol} {chain : List TypeSymbol}
      (hsymbol : p.type id = .ok symbol) (houter : symbol.containingType = some outer)
      (hchain : p.Nested outer chain) : p.Nested id (chain ++ [symbol])

/-- The names of a namespace and of those around it, outermost first; none for the global one. -/
inductive Segmented (p : Program) : Option NamespaceId → List String → Prop
  | global : p.Segmented none []
  | inside {id : NamespaceId} {space : Namespace} {names : List String}
      (hspace : p.nameSpace id = .ok space) (houter : p.Segmented space.parent names) :
      p.Segmented (some id) (names ++ [space.name])

/-- The type that a symbol belongs to; a type belongs to itself. -/
inductive BelongsTo (p : Program) : SymbolRef → TypeId → Prop
  | type {id : TypeId} : p.BelongsTo (.type id) id
  | method {id : MethodId} {method : MethodSymbol} {owner : TypeId}
      (hmethod : p.method id = .ok method) (howner : method.containingType = some owner) :
      p.BelongsTo (.method id) owner
  | property {id : PropertyId} {property : PropertySymbol}
      (hproperty : p.property id = .ok property) :
      p.BelongsTo (.property id) property.containingType
  | event {id : EventId} {event : EventSymbol} (hevent : p.event id = .ok event) :
      p.BelongsTo (.event id) event.containingType

/-- The type whose namespace a symbol is in: the outermost one around the type it belongs to. -/
def PlacedBy (p : Program) (symbol : SymbolRef) (type : TypeSymbol) : Prop :=
  ∃ owner outer, p.BelongsTo symbol owner ∧ EndsAt p.outerType owner outer ∧
    p.type outer = .ok type

theorem Nested.exists_cons {id : TypeId} {chain : List TypeSymbol} (h : p.Nested id chain) :
    ∃ outer inner, chain = outer :: inner := by
  cases h with
  | outermost => exact ⟨_, _, rfl⟩
  | inside => exact List.exists_cons_of_ne_nil (by simp)

theorem Nested.unique {id : TypeId} {chain chain' : List TypeSymbol} (h : p.Nested id chain)
    (h' : p.Nested id chain') : chain = chain' := by
  induction h generalizing chain' with
  | outermost hsymbol hnone =>
    cases h' with
    | outermost hsymbol' _ => rw [lookup_unique hsymbol hsymbol']
    | inside hsymbol' houter' _ =>
      obtain rfl := lookup_unique hsymbol hsymbol'
      cases hnone.symm.trans houter'
  | inside hsymbol houter _ ih =>
    cases h' with
    | outermost hsymbol' hnone' =>
      obtain rfl := lookup_unique hsymbol hsymbol'
      cases hnone'.symm.trans houter
    | inside hsymbol' houter' hchain' =>
      obtain rfl := lookup_unique hsymbol hsymbol'
      obtain rfl := Option.some.inj (houter.symm.trans houter')
      rw [ih hchain']

theorem Segmented.unique {id? : Option NamespaceId} {names names' : List String}
    (h : p.Segmented id? names) (h' : p.Segmented id? names') : names = names' := by
  induction h generalizing names' with
  | global =>
    cases h'
    rfl
  | inside hspace _ ih =>
    cases h' with
    | inside hspace' houter' =>
      obtain rfl := lookup_unique hspace hspace'
      rw [ih houter']

theorem outerType_eq_ok_iff {id : TypeId} {outer? : Option TypeId} :
    p.outerType id = .ok outer? ↔
      ∃ symbol, p.type id = .ok symbol ∧ symbol.containingType = outer? := by
  rw [outerType, lookup_bind_eq_ok]
  simp [pure, Except.pure]

theorem outerNamespace_eq_ok_iff {id : NamespaceId} {outer? : Option NamespaceId} :
    p.outerNamespace id = .ok outer? ↔
      ∃ space, p.nameSpace id = .ok space ∧ space.parent = outer? := by
  rw [outerNamespace, lookup_bind_eq_ok]
  simp [pure, Except.pure]

/-- The walk around a type follows a chain that ends to its end. -/
theorem containers_of_rank {last : TypeId} (hlast : p.outerType last = .ok none)
    {rank : TypeId → Nat}
    (hrank : ∀ a b, p.outerType a = .ok (some b) →
      ReflTransGen (fun b c => p.outerType b = .ok (some c)) b last → rank b < rank a)
    {bound : Nat} {id : TypeId}
    (hreach : ReflTransGen (fun b c => p.outerType b = .ok (some c)) id last)
    (hbound : rank id ≤ bound) :
    ∃ chain, p.Nested id chain ∧ p.containers bound id = .ok chain.reverse := by
  induction bound generalizing id with
  | zero =>
    rcases hreach.cases_head with rfl | ⟨b, hstep, hrest⟩
    · obtain ⟨symbol, hsymbol, hnone⟩ := outerType_eq_ok_iff.mp hlast
      refine ⟨_, .outermost hsymbol hnone, ?_⟩
      rw [containers, hsymbol]
      rfl
    · have hlt := hrank id b hstep hrest
      omega
  | succ bound ih =>
    rcases hreach.cases_head with rfl | ⟨b, hstep, hrest⟩
    · obtain ⟨symbol, hsymbol, hnone⟩ := outerType_eq_ok_iff.mp hlast
      refine ⟨_, .outermost hsymbol hnone, ?_⟩
      simp only [containers, hsymbol, hnone, bind, Except.bind]
      rfl
    · have hlt := hrank id b hstep hrest
      obtain ⟨symbol, hsymbol, houter⟩ := outerType_eq_ok_iff.mp hstep
      obtain ⟨chain, hchain, hwalk⟩ := ih hrest (by omega)
      have hne : b ≠ id := by
        rintro rfl
        omega
      refine ⟨_, .inside hsymbol houter hchain, ?_⟩
      simp only [containers, hsymbol, houter, bind, Except.bind, if_neg hne, hwalk]
      simp [pure, Except.pure]

/-- The walk up from a namespace follows a chain that ends to its end. -/
theorem segments_of_rank {last : NamespaceId} (hlast : p.outerNamespace last = .ok none)
    {rank : NamespaceId → Nat}
    (hrank : ∀ a b, p.outerNamespace a = .ok (some b) →
      ReflTransGen (fun b c => p.outerNamespace b = .ok (some c)) b last → rank b < rank a)
    {bound : Nat} {id : NamespaceId}
    (hreach : ReflTransGen (fun b c => p.outerNamespace b = .ok (some c)) id last)
    (hbound : rank id < bound) :
    ∃ names, p.Segmented (some id) names ∧ p.segments bound (some id) = .ok names.reverse := by
  induction bound generalizing id with
  | zero => omega
  | succ bound ih =>
    rcases hreach.cases_head with rfl | ⟨b, hstep, hrest⟩
    · obtain ⟨space, hspace, hnone⟩ := outerNamespace_eq_ok_iff.mp hlast
      have hglobal : p.Segmented space.parent [] := by
        rw [hnone]
        exact .global
      refine ⟨_, .inside hspace hglobal, ?_⟩
      simp only [segments, hspace, hnone, bind, Except.bind]
      rfl
    · have hlt := hrank id b hstep hrest
      obtain ⟨space, hspace, houter⟩ := outerNamespace_eq_ok_iff.mp hstep
      obtain ⟨names, hnames, hwalk⟩ := ih hrest (by omega)
      refine ⟨_, .inside hspace (houter ▸ hnames), ?_⟩
      simp only [segments, hspace, houter, bind, Except.bind, hwalk]
      simp [pure, Except.pure]

theorem outerType_rightUnique :
    Relator.RightUnique fun b c => p.outerType b = .ok (some c) := by
  intro a b c hb hc
  exact Option.some.inj (lookup_unique hb hc)

theorem outerNamespace_rightUnique :
    Relator.RightUnique fun b c => p.outerNamespace b = .ok (some c) := by
  intro a b c hb hc
  exact Option.some.inj (lookup_unique hb hc)

namespace InRange

variable (h : p.InRange)

include h

theorem outerType_answers {id : TypeId} (hid : id.index < p.types.size) :
    Answers (p.outerType id) fun _ => True :=
  (h.type hid).bind fun _ _ => Answers.pure trivial

theorem outerNamespace_answers {id : NamespaceId} (hid : id.index < p.namespaces.size) :
    Answers (p.outerNamespace id) fun _ => True :=
  (h.nameSpace hid).bind fun _ _ => Answers.pure trivial

theorem containers_eq {id last : TypeId} (hid : p.Has id) (hends : EndsAt p.outerType id last) :
    ∃ chain, p.Nested id chain ∧ p.containers p.types.size id = .ok chain.reverse := by
  have hend : ∀ b, ¬ p.outerType last = .ok (some b) := by
    intro b hb
    cases lookup_unique hends.2 hb
  obtain ⟨rank, hrank, hlt⟩ :=
    exists_rank_to (fun _ _ => h.outerType_lt) outerType_rightUnique hend
  exact containers_of_rank hends.2 hrank hends.1 (hlt id hid).le

theorem segments_eq {id? : Option NamespaceId} (hid : ∀ id, id? = some id → p.Has id)
    (hends : ∀ id, id? = some id → ∃ root, EndsAt p.outerNamespace id root) :
    ∃ names, p.Segmented id? names ∧
      p.segments (p.namespaces.size + 1) id? = .ok names.reverse := by
  cases id? with
  | none => exact ⟨[], .global, rfl⟩
  | some id =>
    obtain ⟨root, hreach, hroot⟩ := hends id rfl
    have hend : ∀ b, ¬ p.outerNamespace root = .ok (some b) := by
      intro b hb
      cases lookup_unique hroot hb
    obtain ⟨rank, hrank, hlt⟩ :=
      exists_rank_to (fun _ _ => h.outerNamespace_lt) outerNamespace_rightUnique hend
    exact segments_of_rank hroot hrank hreach (Nat.lt_succ_of_lt (hlt id (hid id rfl)))

end InRange

/-! ## Full names -/

/-- What a full name is made of: a path that is not empty, and the names of nested types. -/
def dotted (path names : List String) : String :=
  ".".intercalate ((if ".".intercalate path = "" then [] else path) ++ names)

theorem dotted_eq {path names : List String} (hnames : names ≠ []) :
    dotted path names =
      if ".".intercalate path == "" then ".".intercalate names
      else ".".intercalate path ++ "." ++ ".".intercalate names := by
  by_cases hpath : ".".intercalate path = ""
  · simp [dotted, hpath]
  · have hne : path ≠ [] := by
      rintro rfl
      exact hpath rfl
    simp only [dotted, hpath, if_false, beq_iff_eq]
    exact String.intercalate_append_of_ne_nil hne hnames

theorem InRange.fullTypeName_eq (h : p.InRange) {id last : TypeId} (hid : p.Has id)
    (hends : EndsAt p.outerType id last) :
    ∃ outer inner, (∀ chain, p.Nested id chain ↔ chain = outer :: inner) ∧
      ((∀ space, outer.nameSpace = some space → ∃ root, EndsAt p.outerNamespace space root) →
        ∃ path, (∀ names, p.Segmented outer.nameSpace names ↔ names = path) ∧
          p.fullTypeName id = .ok (dotted path ((outer :: inner).map (·.name)))) := by
  obtain ⟨chain, hnested, hwalk⟩ := h.containers_eq hid hends
  obtain ⟨outer, inner, rfl⟩ := hnested.exists_cons
  refine ⟨outer, inner, fun chain => ⟨fun h' => h'.unique hnested, fun heq => heq ▸ hnested⟩,
    fun hspaces => ?_⟩
  have houter : ∀ space, outer.nameSpace = some space → p.Has space := by
    obtain ⟨chain, hchain, hbelow⟩ := h.containers p.types.size hid
    obtain rfl := lookup_unique hwalk hchain
    exact (hbelow outer (by simp)).nameSpace
  obtain ⟨path, hpath, hsegments⟩ := h.segments_eq houter hspaces
  refine ⟨path, fun names => ⟨fun h' => h'.unique hpath, fun heq => heq ▸ hpath⟩, ?_⟩
  have hlast : (outer :: inner).reverse.getLast? = some outer := by
    rw [List.getLast?_reverse, List.head?_cons]
  have hdotted : p.namespacePath outer.nameSpace = .ok (".".intercalate path) := by
    rw [Program.namespacePath, hsegments]
    simp [bind, Except.bind, pure, Except.pure]
  rw [dotted_eq (by simp), Program.fullTypeName, hwalk]
  simp only [bind, Except.bind, hlast, Option.bind_some, hdotted, pure, Except.pure,
    List.map_reverse, List.reverse_reverse]

/-! ## Outermost namespaces -/

theorem InRange.owningType_iff (h : p.InRange) {symbol : SymbolRef} (hsymbol : p.HasSymbol symbol) :
    Answers (p.owningType symbol) fun owner? =>
      ∀ owner, owner? = some owner ↔ p.BelongsTo symbol owner := by
  cases symbol with
  | type id =>
    refine Answers.pure fun owner => ⟨?_, ?_⟩
    · rintro ⟨⟩
      exact .type
    · rintro ⟨⟩
      rfl
  | method id =>
    obtain ⟨method, hmethod, -⟩ := h.method hsymbol
    rw [Program.owningType, hmethod]
    refine Answers.pure fun owner => ⟨.method hmethod, ?_⟩
    rintro (_ | ⟨hmethod', howner⟩)
    obtain rfl := lookup_unique hmethod hmethod'
    exact howner
  | property id =>
    obtain ⟨property, hproperty, -⟩ := h.property hsymbol
    rw [Program.owningType, hproperty]
    refine Answers.pure fun owner => ⟨?_, ?_⟩
    · rintro ⟨⟩
      exact .property hproperty
    · rintro (_ | _ | hproperty')
      rw [lookup_unique hproperty hproperty']
  | event id =>
    obtain ⟨event, hevent, -⟩ := h.event hsymbol
    rw [Program.owningType, hevent]
    refine Answers.pure fun owner => ⟨?_, ?_⟩
    · rintro ⟨⟩
      exact .event hevent
    · rintro (_ | _ | _ | hevent')
      rw [lookup_unique hevent hevent']

theorem InRange.outermostType_eq (h : p.InRange) {owner outer : TypeId}
    (howner : p.Has owner) (hends : EndsAt p.outerType owner outer) :
    p.outermostType p.types.size owner = .ok (some outer) := by
  rw [outermostType_eq_follow]
  exact hends.follow_eq (fun _ _ => h.outerType_lt) howner

theorem InRange.outermostNamespace_iff (h : p.InRange) {space : NamespaceId}
    (hspace : p.Has space) :
    Answers (p.outermostNamespace p.namespaces.size space) fun root? =>
      (∀ root, root? = some root ↔ EndsAt p.outerNamespace space root) ∧
        (root? = none ↔ Endless p.outerNamespace space) := by
  rw [outermostNamespace_eq_follow]
  exact follow_answers (fun _ _ => h.outerNamespace_lt) (fun _ => h.outerNamespace_answers) hspace

/-- A symbol belongs to one type at most, and the walk from there ends in one place at most. -/
theorem InRange.placedBy_unique (h : p.InRange) {symbol : SymbolRef}
    (hsymbol : p.HasSymbol symbol) {type type' : TypeSymbol} (htype : p.PlacedBy symbol type)
    (htype' : p.PlacedBy symbol type') : type = type' := by
  obtain ⟨owner, outer, hbelongs, hends, hfetch⟩ := htype
  obtain ⟨owner', outer', hbelongs', hends', hfetch'⟩ := htype'
  obtain ⟨owner?, howner, hiff⟩ := h.owningType_iff hsymbol
  obtain ⟨owner₂?, howner₂, hhas⟩ := h.owningType hsymbol
  obtain rfl := lookup_unique howner howner₂
  obtain rfl := (hiff owner).mpr hbelongs
  obtain rfl := Option.some.inj ((hiff owner').mpr hbelongs')
  have houter := h.outermostType_eq (hhas owner rfl) hends
  obtain rfl := Option.some.inj (lookup_unique houter (h.outermostType_eq (hhas owner rfl) hends'))
  exact lookup_unique hfetch hfetch'

theorem InRange.exists_placedBy_iff (h : p.InRange) {symbol : SymbolRef}
    (hsymbol : p.HasSymbol symbol) {type : TypeSymbol} (htype : p.PlacedBy symbol type)
    {P : TypeSymbol → Prop} : (∃ type', p.PlacedBy symbol type' ∧ P type') ↔ P type := by
  constructor
  · rintro ⟨type', htype', hP⟩
    rwa [h.placedBy_unique hsymbol htype htype']
  · intro hP
    exact ⟨type, htype, hP⟩

/-- Where every chain of containing types ends, the outermost namespace of a symbol is found if
there is one, and there is none for one of three reasons. -/
theorem InRange.bottommostNamespace_iff (h : p.InRange)
    (houters : ∀ id, p.Has id → ∃ outer, EndsAt p.outerType id outer) {symbol : SymbolRef}
    (hsymbol : p.HasSymbol symbol) :
    Answers (p.bottommostNamespace symbol) fun root? =>
      (∀ root, root? = some root ↔ ∃ type space, p.PlacedBy symbol type ∧
        type.nameSpace = some space ∧ EndsAt p.outerNamespace space root) ∧
      (root? = none ↔ (∀ owner, ¬ p.BelongsTo symbol owner) ∨
        ∃ type, p.PlacedBy symbol type ∧ (type.nameSpace = none ∨
          ∃ space, type.nameSpace = some space ∧ Endless p.outerNamespace space)) := by
  obtain ⟨owner?, howner, hbelongs⟩ := h.owningType_iff hsymbol
  obtain ⟨owner₂?, howner₂, hhas⟩ := h.owningType hsymbol
  obtain rfl := lookup_unique howner howner₂
  rw [Program.bottommostNamespace, howner]
  cases owner? with
  | none =>
    have hno : ∀ owner, ¬ p.BelongsTo symbol owner := by
      intro owner hbelongs'
      cases (hbelongs owner).mpr hbelongs'
    refine Answers.pure ⟨fun root => ?_, by simp [hno]⟩
    simp only [reduceCtorEq, false_iff]
    rintro ⟨type, space, ⟨owner, outer, hbelongs', -⟩, -⟩
    exact hno owner hbelongs'
  | some owner =>
    have hbelongs' := (hbelongs owner).mp rfl
    obtain ⟨outer, hends⟩ := houters owner (hhas owner rfl)
    have houter := h.outermostType_eq (hhas owner rfl) hends
    obtain ⟨outer?, houter?, hbelow⟩ := h.outermostType p.types.size (hhas owner rfl)
    obtain rfl := lookup_unique houter houter?
    obtain ⟨type, htype, hids⟩ := h.type (hbelow outer rfl)
    have hplaced : p.PlacedBy symbol type := ⟨owner, outer, hbelongs', hends, htype⟩
    have howned : ¬ ∀ owner, ¬ p.BelongsTo symbol owner := fun hno => hno owner hbelongs'
    simp only [exists_and_left, h.exists_placedBy_iff hsymbol hplaced, howned, false_or, bind,
      Except.bind, houter, htype]
    cases hspace : type.nameSpace with
    | none => exact Answers.pure (by simp)
    | some space =>
      simpa using h.outermostNamespace_iff (hids.nameSpace space hspace)

/-! ## Accepted programs -/

theorem leads_containing_iff {a b : TypeId} :
    p.Leads .containing a b ↔ p.outerType a = .ok (some b) := by
  rw [outerType_eq_ok_iff]
  constructor
  · rintro ⟨symbol, hget, hlink⟩
    exact ⟨symbol, fetch_eq_ok_iff.mpr hget, hlink⟩
  · rintro ⟨symbol, hsymbol, hlink⟩
    exact ⟨symbol, fetch_eq_ok_iff.mp hsymbol, hlink⟩

/-- In an accepted program every chain of containing types ends. -/
theorem exists_outermost (hcheck : p.check = .ok ()) {id : TypeId} (hid : p.Has id) :
    ∃ outer, EndsAt p.outerType id outer := by
  have h : p.InRange := inRange_of_check hcheck
  obtain ⟨hdangling, hcycle⟩ := check_eq_ok_iff.mp hcheck
  have hacyclic := (typeCycle?_eq_none_iff (dangling?_eq_none_iff_stores.mp hdangling)).mp hcycle
  have hin : Within p.types.size fun i j => p.linkIndex? .containing i = some j := by
    intro i j hij
    exact h.outerType_lt (leads_containing_iff.mp (linkIndex?_eq_some_iff.mp hij))
  obtain ⟨rank, hrank, -⟩ := exists_rank hin (acyclic_linkIndex?_iff.mpr (hacyclic .containing))
  refine exists_endsAt_of_rank (fun _ _ => h.outerType_lt) (fun _ => h.outerType_answers) rank
    (fun a b hab => ?_) hid
  exact hrank a.index b.index (linkIndex?_eq_some_iff.mpr (leads_containing_iff.mpr hab))

/-- A check looks at the parents of namespaces one by one, so it accepts any circles among them. -/
theorem check_with_namespaces {namespaces : Array Namespace} (hcheck : p.check = .ok ())
    (hsize : namespaces.size = p.namespaces.size)
    (hparents : ∀ space ∈ namespaces, ∀ id, space.parent = some id →
      id.index < namespaces.size) :
    ({ p with namespaces } : Program).check = .ok () := by
  obtain ⟨hdangling, hcycle⟩ := check_eq_ok_iff.mp hcheck
  have h : p.InRange := inRange_of_check hcheck
  have hsizes : ({ p with namespaces } : Program).size = p.size := by
    funext arena
    cases arena with
    | nameSpace => exact hsize
    | _ => rfl
  have hrange : ({ p with namespaces } : Program).InRange := by
    unfold InRange
    rw [hsizes]
    refine { h with namespaces := fun space hspace id hid => ?_ }
    have hlt := hparents space hspace id hid
    rw [hsize] at hlt
    exact hlt
  refine check_eq_ok_iff.mpr ⟨dangling?_eq_none_iff.mpr hrange, ?_⟩
  have hids := dangling?_eq_none_iff_stores.mp (dangling?_eq_none_iff.mpr hrange)
  have hacyclic := (typeCycle?_eq_none_iff (dangling?_eq_none_iff_stores.mp hdangling)).mp hcycle
  exact (typeCycle?_eq_none_iff hids).mpr hacyclic

/-- The bounded walks along symbols compute the relations without bounds. Where all ids are in
range, a type extends a name exactly if one of the types that base links lead to has it, even if
the links go in circles. In an accepted program the full name of a type is made of the segments of
its namespace, if their chain ends, and of the types around it, and the outermost namespace of a
symbol is the end of a chain if it has one. The walks answer as well if the parents of namespaces
go in circles, which a check accepts. -/
theorem symbol_walks_compute_whole_chains (p : Program) :
    (p.InRange → ∀ id, p.Has id → ∀ name, ∃ answer, p.extendsType id name = .ok answer ∧
      (answer = true ↔ p.Extends name id)) ∧
    (p.check = .ok () → p.InRange ∧
      (∀ id, p.Has id → (∃ name, p.fullTypeName id = .ok name) ∧
        ∃ outer inner, (∀ chain, p.Nested id chain ↔ chain = outer :: inner) ∧
          ((∀ space, outer.nameSpace = some space →
              ∃ root, EndsAt p.outerNamespace space root) →
            ∃ path, (∀ names, p.Segmented outer.nameSpace names ↔ names = path) ∧
              p.fullTypeName id = .ok (dotted path ((outer :: inner).map (·.name))))) ∧
      (∀ symbol, p.HasSymbol symbol → ∃ root?, p.bottommostNamespace symbol = .ok root? ∧
        (∀ root, root? = some root ↔ ∃ type space, p.PlacedBy symbol type ∧
          type.nameSpace = some space ∧ EndsAt p.outerNamespace space root) ∧
        (root? = none ↔ (∀ owner, ¬ p.BelongsTo symbol owner) ∨
          ∃ type, p.PlacedBy symbol type ∧ (type.nameSpace = none ∨
            ∃ space, type.nameSpace = some space ∧ Endless p.outerNamespace space))) ∧
      ∀ namespaces : Array Namespace, namespaces.size = p.namespaces.size →
        (∀ space ∈ namespaces, ∀ id, space.parent = some id → id.index < namespaces.size) →
        ({ p with namespaces } : Program).check = .ok ()) := by
  refine ⟨fun h id hid name => h.extendsType_iff hid name, fun hcheck => ?_⟩
  have h : p.InRange := inRange_of_check hcheck
  refine ⟨h, fun id hid => ⟨?_, ?_⟩, fun symbol hsymbol => ?_, fun namespaces hsize hparents => ?_⟩
  · obtain ⟨name, hname, -⟩ := h.fullTypeName hid
    exact ⟨name, hname⟩
  · obtain ⟨last, hends⟩ := exists_outermost hcheck hid
    exact h.fullTypeName_eq hid hends
  · exact h.bottommostNamespace_iff (fun id hid => exists_outermost hcheck hid) hsymbol
  · exact check_with_namespaces hcheck hsize hparents

/-- The outer type of `windmill`. -/
def mill : TypeSymbol :=
  { name := "Mill", nameSpace := some ⟨1⟩, assembly := "Mod" }

/-- The inner type of `windmill`, which extends the outer one. -/
def sail : TypeSymbol :=
  { name := "Sail", containingType := some ⟨0⟩, base := some ⟨0⟩, assembly := "Mod" }

/-- A type inside a type in a chain of namespaces, and a type in a namespace that is its own
parent. -/
def windmill : Program where
  assembly := "Mod"
  namespaces := #[{ name := "Celeste" }, { name := "Mod", parent := some ⟨0⟩ },
    { name := "Loop", parent := some ⟨2⟩ }]
  types := #[mill, sail, { name := "Stray", nameSpace := some ⟨2⟩, assembly := "Mod" }]

theorem windmill_walks_compute_whole_chains :
    windmill.check = .ok () ∧ windmill.Extends "Celeste.Mod.Mill" ⟨1⟩ ∧
      windmill.fullTypeName ⟨1⟩ = .ok (dotted ["Celeste", "Mod"] ["Mill", "Sail"]) ∧
      (∃ name, windmill.fullTypeName ⟨2⟩ = .ok name) ∧
      (∃ type space, windmill.PlacedBy (.type ⟨1⟩) type ∧ type.nameSpace = some space ∧
        EndsAt windmill.outerNamespace space ⟨0⟩) ∧
      ∃ type, windmill.PlacedBy (.type ⟨2⟩) type ∧ (type.nameSpace = none ∨
        ∃ space, type.nameSpace = some space ∧ Endless windmill.outerNamespace space) := by
  have hcheck : windmill.check = .ok () := by decide +kernel
  obtain ⟨hextends, haccepted⟩ := symbol_walks_compute_whole_chains windmill
  obtain ⟨hrange, hnames, hroots, -⟩ := haccepted hcheck
  have hsail : windmill.Has (⟨1⟩ : TypeId) := (by decide : 1 < 3)
  have hstray : windmill.Has (⟨2⟩ : TypeId) := (by decide : 2 < 3)
  refine ⟨hcheck, ?_, ?_, (hnames ⟨2⟩ hstray).1, ?_, ?_⟩
  · obtain ⟨answer, hanswer, hiff⟩ := hextends hrange ⟨1⟩ hsail "Celeste.Mod.Mill"
    have htrue : windmill.extendsType ⟨1⟩ "Celeste.Mod.Mill" = .ok true := by decide +kernel
    exact hiff.mp (lookup_unique hanswer htrue)
  · obtain ⟨-, outer, inner, hnested, hfull⟩ := hnames ⟨1⟩ hsail
    have hchain : windmill.Nested ⟨1⟩ [mill, sail] := .inside rfl rfl (.outermost rfl rfl)
    obtain ⟨rfl, rfl⟩ := List.cons.inj ((hnested _).mp hchain)
    have hends : ∀ space, mill.nameSpace = some space →
        ∃ root, EndsAt windmill.outerNamespace space root := by
      rintro _ ⟨⟩
      exact ⟨⟨0⟩, .single rfl, rfl⟩
    obtain ⟨path, hpath, hname⟩ := hfull hends
    have houter : windmill.nameSpace ⟨0⟩ = .ok { name := "Celeste" } := rfl
    have hinner : windmill.nameSpace ⟨1⟩ = .ok { name := "Mod", parent := some ⟨0⟩ } := rfl
    have hsegments : windmill.Segmented mill.nameSpace ["Celeste", "Mod"] :=
      .inside hinner (.inside houter .global)
    obtain rfl := (hpath _).mp hsegments
    exact hname
  · obtain ⟨root?, hroot, hsome, -⟩ := hroots (.type ⟨1⟩) hsail
    have hfound : windmill.bottommostNamespace (.type ⟨1⟩) = .ok (some ⟨0⟩) := by decide +kernel
    exact (hsome ⟨0⟩).mp (lookup_unique hroot hfound)
  · obtain ⟨root?, hroot, -, hnone⟩ := hroots (.type ⟨2⟩) hstray
    have hfound : windmill.bottommostNamespace (.type ⟨2⟩) = .ok none := by decide +kernel
    rcases hnone.mp (lookup_unique hroot hfound) with hno | hplaced
    · exact absurd .type (hno ⟨2⟩)
    · exact hplaced

end Program

end ModLint
