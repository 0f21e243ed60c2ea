import Mathlib.Data.List.Forall2
import ModLint.Proofs.Questions

/-!
# Programs with the same names

Two programs that are compared look-up by look-up: `Alike R x y` says that two look-ups meet the
same fault, or answer with values that `R` relates. As a first use, the questions about names, base
classes and outermost namespaces are shown to depend on few fields of the types: on their names, on
what contains them and on what they extend.
-/

namespace ModLint

/-- Two look-ups that meet the same fault or give related answers. -/
inductive Alike {α β : Type} (R : α → β → Prop) : Lookup α → Lookup β → Prop
  | ok {a : α} {b : β} (h : R a b) : Alike R (.ok a) (.ok b)
  | error (fault : Fault) : Alike R (.error fault) (.error fault)

namespace Alike

variable {α β γ δ : Type} {R : α → β → Prop} {S : γ → δ → Prop}

theorem pure {a : α} {b : β} (h : R a b) : Alike R (Pure.pure a) (Pure.pure b) :=
  .ok h

theorem refl {R : α → α → Prop} (h : ∀ a, R a a) (x : Lookup α) : Alike R x x := by
  cases x with
  | error fault => exact .error fault
  | ok a => exact .ok (h a)

theorem bind {x : Lookup α} {y : Lookup β} {f : α → Lookup γ} {g : β → Lookup δ}
    (h : Alike R x y) (hfg : ∀ a b, R a b → Alike S (f a) (g b)) :
    Alike S (x >>= f) (y >>= g) := by
  cases h with
  | ok hab => exact hfg _ _ hab
  | error fault => exact .error fault

theorem mono {R' : α → β → Prop} {x : Lookup α} {y : Lookup β} (h : Alike R x y)
    (hR : ∀ a b, R a b → R' a b) : Alike R' x y := by
  cases h with
  | ok hab => exact .ok (hR _ _ hab)
  | error fault => exact .error fault

/-- Two ways to go on after the same look-up. -/
theorem bind_same {x : Lookup α} {f : α → Lookup γ} {g : α → Lookup δ}
    (h : ∀ a, Alike S (f a) (g a)) : Alike S (x >>= f) (x >>= g) := by
  cases x with
  | error fault => exact .error fault
  | ok a => exact h a

/-- Steps that do not tell related answers apart. -/
theorem bind_eq {x : Lookup α} {y : Lookup β} {f : α → Lookup γ} {g : β → Lookup γ}
    (h : Alike R x y) (hfg : ∀ a b, R a b → g b = f a) : y >>= g = x >>= f := by
  cases h with
  | ok hab => exact hfg _ _ hab
  | error fault => rfl

/-- Look-ups whose answers are the same. -/
theorem eq {R : α → α → Prop} {x y : Lookup α} (h : Alike R x y) (hR : ∀ a b, R a b → b = a) :
    y = x := by
  cases h with
  | ok hab => rw [hR _ _ hab]
  | error fault => rfl

theorem ite {c c' : Prop} [Decidable c] [Decidable c'] (hc : c ↔ c') {x x' : Lookup α}
    {y y' : Lookup β} (h : Alike R x y) (h' : Alike R x' y') :
    Alike R (if c then x else x') (if c' then y else y') := by
  by_cases hholds : c
  · rwa [if_pos hholds, if_pos (hc.mp hholds)]
  · rwa [if_neg hholds, if_neg fun hc' => hholds (hc.mpr hc')]

theorem ok_right {x : Lookup α} {y : Lookup β} (h : Alike R x y) {a : α} (hx : x = .ok a) :
    ∃ b, y = .ok b ∧ R a b := by
  cases h with
  | ok hab =>
    cases hx
    exact ⟨_, rfl, hab⟩
  | error fault => cases hx

theorem ok_left {x : Lookup α} {y : Lookup β} (h : Alike R x y) {b : β} (hy : y = .ok b) :
    ∃ a, x = .ok a ∧ R a b := by
  cases h with
  | ok hab =>
    cases hy
    exact ⟨_, rfl, hab⟩
  | error fault => cases hy

theorem mapM {ι : Type} {xs : List ι} {f : ι → Lookup γ} {g : ι → Lookup δ}
    (h : ∀ i ∈ xs, Alike S (f i) (g i)) :
    Alike (List.Forall₂ S) (xs.mapM f) (xs.mapM g) := by
  induction xs with
  | nil => exact pure .nil
  | cons i xs ih =>
    rw [List.mapM_cons, List.mapM_cons]
    refine (h i (by simp)).bind fun c d hcd => ?_
    refine (ih fun i' hi' => h i' (by simp [hi'])).bind fun cs ds hcds => ?_
    exact pure (.cons hcd hcds)

end Alike

/-- Look-ups in two arrays that are related entry by entry. -/
theorem Program.fetch_alike {α β : Type} {R : α → β → Prop} {xs : Array α} {ys : Array β}
    (h : ∀ i : Nat, Option.Rel R xs[i]? ys[i]?) {arena : Arena} (id : ItemId arena) :
    Alike R (fetch xs id) (fetch ys id) := by
  have hid := h id.index
  unfold fetch
  generalize xs[id.index]? = x at hid ⊢
  generalize ys[id.index]? = y at hid ⊢
  cases hid with
  | none => exact .error _
  | some hab => exact .ok hab

theorem size_eq_of_rel {α β : Type} {R : α → β → Prop} {xs : Array α} {ys : Array β}
    (h : ∀ i : Nat, Option.Rel R xs[i]? ys[i]?) : ys.size = xs.size := by
  have hnone : ∀ i : Nat, ys[i]? = none ↔ xs[i]? = none := by
    intro i
    have hi := h i
    generalize xs[i]? = x at hi ⊢
    generalize ys[i]? = y at hi ⊢
    cases hi <;> simp
  simp only [Array.getElem?_eq_none_iff] at hnone
  exact Nat.le_antisymm ((hnone _).mpr (Nat.le_refl _)) ((hnone _).mp (Nat.le_refl _))

theorem forall_mem_of_rel {α : Type} {R : α → α → Prop} {P : α → Prop} {xs ys : Array α}
    (hrel : ∀ i : Nat, Option.Rel R xs[i]? ys[i]?) (hP : ∀ a b, P a → R a b → P b)
    (hxs : ∀ x ∈ xs, P x) : ∀ y ∈ ys, P y := by
  intro y hy
  obtain ⟨i, hi⟩ := Array.mem_iff_getElem?.mp hy
  have hrel := hrel i
  rw [hi] at hrel
  cases hx : xs[i]? with
  | none =>
    rw [hx] at hrel
    cases hrel
  | some x =>
    rw [hx] at hrel
    cases hrel with
    | some hxy => exact hP x y (hxs x (Array.mem_of_getElem? hx)) hxy

/-- Types that are named, placed and derived alike. -/
structure TypeSymbol.SameNaming (a b : TypeSymbol) : Prop where
  name : b.name = a.name
  nameSpace : b.nameSpace = a.nameSpace
  containingType : b.containingType = a.containingType
  base : b.base = a.base
  assembly : b.assembly = a.assembly

namespace Program

/-- Programs whose namespaces, properties and events are the same and whose types are named alike.
Nothing is said of files, methods and nodes. -/
structure SameNaming (p q : Program) : Prop where
  assembly : q.assembly = p.assembly
  namespaces : q.namespaces = p.namespaces
  properties : q.properties = p.properties
  events : q.events = p.events
  size : q.types.size = p.types.size
  type : ∀ id, Alike TypeSymbol.SameNaming (p.type id) (q.type id)

namespace SameNaming

variable {p q : Program} (h : p.SameNaming q)

include h

theorem nameSpace_eq (id : NamespaceId) : q.nameSpace id = p.nameSpace id := by
  rw [Program.nameSpace, Program.nameSpace, h.namespaces]

theorem property_eq (id : PropertyId) : q.property id = p.property id := by
  rw [Program.property, Program.property, h.properties]

theorem segments_eq (bound : Nat) (id? : Option NamespaceId) :
    q.segments bound id? = p.segments bound id? := by
  induction bound generalizing id? with
  | zero => cases id? <;> rfl
  | succ bound ih =>
    cases id? with
    | none => rfl
    | some id => simp only [segments, h.nameSpace_eq, ih]

theorem namespacePath_eq (id? : Option NamespaceId) :
    q.namespacePath id? = p.namespacePath id? := by
  simp only [namespacePath, h.segments_eq, h.namespaces]

theorem containers_alike (bound : Nat) (id : TypeId) :
    Alike (List.Forall₂ TypeSymbol.SameNaming) (p.containers bound id) (q.containers bound id) := by
  induction bound generalizing id with
  | zero =>
    rw [containers, containers]
    exact (h.type id).bind fun a b hab => .pure (.cons hab .nil)
  | succ bound ih =>
    rw [containers, containers]
    refine (h.type id).bind fun a b hab => ?_
    rw [hab.containingType]
    cases a.containingType with
    | none => exact .pure (.cons hab .nil)
    | some outer =>
      dsimp only
      split
      · exact .pure (.cons hab .nil)
      · exact (ih outer).bind fun as bs hchain => .pure (.cons hab hchain)

omit h in
/-- A chain of containing types gives its names and its namespace. -/
theorem names_eq {as bs : List TypeSymbol} (hchain : List.Forall₂ TypeSymbol.SameNaming as bs) :
    bs.map (·.name) = as.map (·.name) ∧
      bs.getLast?.bind (·.nameSpace) = as.getLast?.bind (·.nameSpace) := by
  induction hchain with
  | nil => exact ⟨rfl, rfl⟩
  | cons hab hrest ih =>
    refine ⟨by rw [List.map_cons, List.map_cons, hab.name, ih.1], ?_⟩
    cases hrest with
    | nil => simp [hab.nameSpace]
    | cons _ _ => simpa [List.getLast?_cons_cons] using ih.2

theorem fullTypeName_eq (id : TypeId) : q.fullTypeName id = p.fullTypeName id := by
  rw [fullTypeName, fullTypeName, h.size]
  refine (h.containers_alike _ id).bind_eq fun as bs hchain => ?_
  obtain ⟨hnames, hspace⟩ := names_eq hchain
  dsimp only
  rw [hnames, hspace, h.namespacePath_eq]

theorem extendsWithin_eq (name : String) (bound : Nat) (id : TypeId) :
    q.extendsWithin name bound id = p.extendsWithin name bound id := by
  induction bound generalizing id with
  | zero => simp only [extendsWithin, h.fullTypeName_eq]
  | succ bound ih =>
    rw [extendsWithin, extendsWithin, h.fullTypeName_eq]
    refine bind_congr fun full => ?_
    split
    · rfl
    · refine (h.type id).bind_eq fun a b hab => ?_
      rw [hab.base]
      cases a.base with
      | none => rfl
      | some base => exact ih base

theorem extendsType_eq (id : TypeId) (name : String) :
    q.extendsType id name = p.extendsType id name := by
  rw [extendsType, extendsType, h.size, h.extendsWithin_eq]

theorem outermostType_eq (bound : Nat) (id : TypeId) :
    q.outermostType bound id = p.outermostType bound id := by
  induction bound generalizing id with
  | zero =>
    rw [outermostType, outermostType]
    exact (h.type id).bind_eq fun a b hab => by rw [hab.containingType]
  | succ bound ih =>
    rw [outermostType, outermostType]
    refine (h.type id).bind_eq fun a b hab => ?_
    rw [hab.containingType]
    cases a.containingType with
    | none => rfl
    | some outer => exact ih outer

theorem outermostNamespace_eq (bound : Nat) (id : NamespaceId) :
    q.outermostNamespace bound id = p.outermostNamespace bound id := by
  induction bound generalizing id with
  | zero => simp only [outermostNamespace, h.nameSpace_eq]
  | succ bound ih => simp only [outermostNamespace, h.nameSpace_eq, ih]

/-- The outermost namespace of an event. -/
theorem bottommostNamespace_eq (id : EventId) :
    q.bottommostNamespace (.event id) = p.bottommostNamespace (.event id) := by
  have howner : q.owningType (.event id) = p.owningType (.event id) := by
    rw [owningType, owningType, event, event, h.events]
  rw [bottommostNamespace, bottommostNamespace, howner, h.size, h.namespaces]
  refine bind_congr fun owner? => ?_
  cases owner? with
  | none => rfl
  | some owner =>
    dsimp only
    rw [h.outermostType_eq]
    refine bind_congr fun outer? => ?_
    cases outer? with
    | none => rfl
    | some outer =>
      refine (h.type outer).bind_eq fun a b hab => ?_
      rw [hab.nameSpace]
      cases a.nameSpace with
      | none => rfl
      | some space => exact h.outermostNamespace_eq _ space

theorem typeName_eq (id : TypeId) : q.typeName id = p.typeName id := by
  rw [typeName, typeName]
  exact (h.type id).bind_eq fun a b hab => by rw [hab.name]

theorem isSequenceType_eq (names : FrameworkNames) (id? : Option TypeId) :
    q.isSequenceType names id? = p.isSequenceType names id? := by
  cases id? with
  | none => rfl
  | some id => simp only [isSequenceType, h.fullTypeName_eq]

/-- Whether a type is declared by the compilation itself. -/
theorem isSourceLocal_eq (id : TypeId) :
    q.isSourceLocal (.type id) = p.isSourceLocal (.type id) := by
  rw [isSourceLocal, isSourceLocal, h.assembly]
  exact (h.type id).bind_eq fun a b hab => by rw [hab.assembly]

end SameNaming

end Program

end ModLint
