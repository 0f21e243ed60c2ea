import Mathlib.Data.Finset.Card
import Mathlib.Data.Finset.Range
import Mathlib.Logic.Relation
import ModLint.Program.Link

/-!
# Ranks of relations without circles

Several loops of this library follow links between the items of an arena and stop after as many
steps as the arena has items. This is right because a relation without circles on `n` items has a
*rank* below `n` that drops with every step. The walk that looks for a circle is stated here once,
for any partial function, together with what it finds.
-/

namespace ModLint

open Relation

/-- A relation between the numbers below `n`. -/
def Within (n : Nat) (r : Nat → Nat → Prop) : Prop :=
  ∀ a b, r a b → a < n ∧ b < n

/-- No number leads back to itself. -/
def Acyclic (r : Nat → Nat → Prop) : Prop :=
  ∀ a, ¬ TransGen r a a

/-- The relation, turned around, has a circle only if it has one itself. -/
theorem Acyclic.swap {r : Nat → Nat → Prop} (h : Acyclic r) : Acyclic fun a b => r b a := by
  intro a ha
  exact h a (transGen_swap.mp ha)

/-- A rank that drops with every step: the number of items that a number leads to. -/
theorem exists_rank {n : Nat} {r : Nat → Nat → Prop} (hin : Within n r) (hac : Acyclic r) :
    ∃ rank : Nat → Nat, (∀ a b, r a b → rank b < rank a) ∧ ∀ a, a < n → rank a < n := by
  classical
  let below (a : Nat) : Finset Nat := (Finset.range n).filter fun b => TransGen r a b
  refine ⟨fun a => (below a).card, fun a b hr => ?_, fun a ha => ?_⟩
  · apply Finset.card_lt_card
    rw [Finset.ssubset_iff_of_subset]
    · refine ⟨b, ?_, ?_⟩
      · simp only [below, Finset.mem_filter, Finset.mem_range]
        exact ⟨(hin a b hr).2, TransGen.single hr⟩
      · simp only [below, Finset.mem_filter, not_and]
        exact fun _ => hac b
    · intro c hc
      simp only [below, Finset.mem_filter] at hc ⊢
      exact ⟨hc.1, TransGen.head hr hc.2⟩
  · have hlt : (below a).card < (Finset.range n).card := by
      apply Finset.card_lt_card
      rw [Finset.ssubset_iff_of_subset (Finset.filter_subset _ _)]
      refine ⟨a, Finset.mem_range.mpr ha, ?_⟩
      simp only [Finset.mem_filter, not_and]
      exact fun _ => hac a
    simpa using hlt

/-- Where there is one step at most, what comes to an end does not go in a circle. -/
theorem not_transGen_of_ends {α : Type} {r : α → α → Prop} (hunique : Relator.RightUnique r)
    {a last : α} (hreach : ReflTransGen r a last) (hlast : ∀ b, ¬ r last b) :
    ¬ TransGen r a a := by
  induction hreach using ReflTransGen.head_induction_on with
  | refl =>
    intro hcircle
    obtain ⟨b, hb, -⟩ := TransGen.head'_iff.mp hcircle
    exact hlast b hb
  | head hstep hrest ih =>
    intro hcircle
    obtain ⟨b, hb, hback⟩ := TransGen.head'_iff.mp hcircle
    -- the circle starts with the only step there is, so it is also one around the next item
    obtain rfl := hunique hstep hb
    exact ih (TransGen.tail' hback hstep)

/-- A rank that drops with every step on the way to an end, even if there are circles elsewhere. -/
theorem exists_rank_to {n : Nat} {arena : Arena} {r : ItemId arena → ItemId arena → Prop}
    (hin : ∀ a b, r a b → a.index < n ∧ b.index < n) (hunique : Relator.RightUnique r)
    {last : ItemId arena} (hlast : ∀ b, ¬ r last b) :
    ∃ rank : ItemId arena → Nat, (∀ a b, r a b → ReflTransGen r b last → rank b < rank a) ∧
      ∀ a, a.index < n → rank a < n := by
  let toLast (i j : Nat) : Prop := r ⟨i⟩ ⟨j⟩ ∧ ReflTransGen r ⟨j⟩ last
  have hac : Acyclic toLast := by
    intro i hcircle
    obtain ⟨j, -, -, hreach⟩ := TransGen.tail'_iff.mp hcircle
    have hcircle' : TransGen r ⟨i⟩ ⟨i⟩ := TransGen.lift ItemId.mk (fun _ _ hij => hij.1) _ _ hcircle
    exact not_transGen_of_ends hunique hreach hlast hcircle'
  obtain ⟨rank, hrank, hbound⟩ := exists_rank (fun i j hij => hin ⟨i⟩ ⟨j⟩ hij.1) hac
  refine ⟨fun a => rank a.index, fun a b hr hreach => ?_, fun a ha => hbound a.index ha⟩
  exact hrank a.index b.index ⟨hr, hreach⟩

/-! ## Ways into a circle -/

/-- A way from `a` leads into a circle; it may be empty, so that `a` is on the circle itself. -/
def EntersCircle {α : Type} (r : α → α → Prop) (a : α) : Prop :=
  ∃ b, ReflTransGen r a b ∧ TransGen r b b

namespace EntersCircle

variable {α β : Type} {r : α → α → Prop} {a b : α}

theorem of_transGen (h : TransGen r a a) : EntersCircle r a :=
  ⟨a, .refl, h⟩

theorem head (hab : r a b) (h : EntersCircle r b) : EntersCircle r a := by
  obtain ⟨c, hreach, hcircle⟩ := h
  exact ⟨c, .head hab hreach, hcircle⟩

/-- The way into a circle, and then around it, never ends. -/
theorem exists_step (h : EntersCircle r a) : ∃ b, r a b ∧ EntersCircle r b := by
  obtain ⟨c, hreach, hcircle⟩ := h
  rcases hreach.cases_head with rfl | ⟨b, hab, hrest⟩
  · obtain ⟨b, hab, hback⟩ := TransGen.head'_iff.mp hcircle
    exact ⟨b, hab, a, hback, hcircle⟩
  · exact ⟨b, hab, c, hrest, hcircle⟩

theorem lift {s : β → β → Prop} (f : α → β) (hf : ∀ a b, r a b → s (f a) (f b))
    (h : EntersCircle r a) : EntersCircle s (f a) := by
  obtain ⟨b, hreach, hcircle⟩ := h
  exact ⟨f b, hreach.lift f hf, hcircle.lift f hf⟩

end EntersCircle

/-! ## The walk that looks for a circle -/

/-- Whether following `next` from `current` comes to `start`, or does not end within `steps`
steps. -/
def chainReturns (next : Nat → Option Nat) (start : Nat) : Nat → Option Nat → Bool
  | _, none => false
  | 0, some _ => true
  | steps + 1, some i => i == start || chainReturns next start steps (next i)

/-- On the way into a circle the walk never comes to an end, whatever its bound. -/
theorem chainReturns_of_entersCircle {next : Nat → Option Nat} {i : Nat}
    (h : EntersCircle (fun a b => next a = some b) i) (start steps : Nat) :
    chainReturns next start steps (some i) = true := by
  induction steps generalizing i with
  | zero => rfl
  | succ steps ih =>
    obtain ⟨j, hij, hj⟩ := h.exists_step
    rw [chainReturns, Bool.or_eq_true, hij]
    exact Or.inr (ih hj)

/-- Where there is no circle ahead, the walk ends within any bound above the rank of its first
item. -/
theorem chainReturns_eq_false {next : Nat → Option Nat} {rank : Nat → Nat}
    (hrank : ∀ a b, next a = some b → ¬ EntersCircle (fun a b => next a = some b) a →
      rank b < rank a)
    {start i : Nat} {steps : Nat} (hclear : ¬ EntersCircle (fun a b => next a = some b) i)
    (hstart : rank i < rank start) (hi : rank i < steps) :
    chainReturns next start steps (some i) = false := by
  induction steps generalizing i with
  | zero => omega
  | succ steps ih =>
    have hne : i ≠ start := by
      intro heq
      rw [heq] at hstart
      omega
    rw [chainReturns, Bool.or_eq_false_iff, beq_eq_false_iff_ne]
    refine ⟨hne, ?_⟩
    cases hn : next i with
    | none => simp [chainReturns]
    | some j =>
      have hj := hrank i j hn hclear
      exact ih (fun henters => hclear (.head hn henters)) (by omega) (by omega)

/-- The walk from an item comes back to it or takes more than `n` steps exactly if it enters a
circle, which need not be one around the item. -/
theorem chainReturns_iff_entersCircle {next : Nat → Option Nat} {n : Nat}
    (hin : Within n fun a b => next a = some b) {i : Nat} (hi : i < n) :
    chainReturns next i n (next i) = true ↔ EntersCircle (fun a b => next a = some b) i := by
  constructor
  · intro hreturns
    by_contra hclear
    -- away from the circles the steps have a rank, and the walk stays away from them
    let away (a b : Nat) : Prop :=
      next a = some b ∧ ¬ EntersCircle (fun a b => next a = some b) a
    have hac : Acyclic away := by
      intro a hcircle
      obtain ⟨b, hab, -⟩ := TransGen.head'_iff.mp hcircle
      exact hab.2 (.of_transGen (TransGen.mono (fun _ _ hstep => hstep.1) _ _ hcircle))
    obtain ⟨rank, hrank, hbound⟩ := exists_rank (fun a b hab => hin a b hab.1) hac
    have hfalse : chainReturns next i n (next i) = false := by
      cases hn : next i with
      | none => simp [chainReturns]
      | some j =>
        have hj := hrank i j ⟨hn, hclear⟩
        have hlt := hbound i hi
        exact chainReturns_eq_false (fun a b hab ha => hrank a b ⟨hab, ha⟩)
          (fun henters => hclear (.head hn henters)) hj (by omega)
    rw [hfalse] at hreturns
    exact Bool.false_ne_true hreturns
  · intro henters
    obtain ⟨j, hij, hj⟩ := henters.exists_step
    rw [hij]
    exact chainReturns_of_entersCircle hj i n

/-- No walk from an item comes back or takes more than `n` steps exactly if there is no circle. -/
theorem chainReturns_iff_acyclic {next : Nat → Option Nat} {n : Nat}
    (hin : Within n fun a b => next a = some b) :
    (∀ i, i < n → chainReturns next i n (next i) = false) ↔
      Acyclic fun a b => next a = some b := by
  constructor
  · intro h a ha
    obtain ⟨b, hab, -⟩ := TransGen.head'_iff.mp ha
    have hi := (hin a b hab).1
    have htrue := (chainReturns_iff_entersCircle hin hi).mpr (.of_transGen ha)
    rw [h a hi] at htrue
    exact Bool.false_ne_true htrue
  · intro hac i hi
    rw [← Bool.not_eq_true, chainReturns_iff_entersCircle hin hi]
    rintro ⟨b, -, hcircle⟩
    exact hac b hcircle

end ModLint
