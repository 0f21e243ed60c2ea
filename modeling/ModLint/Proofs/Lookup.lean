import ModLint.Program.Item

/-!
# Questions that have an answer

`Answers x P` says that the look-up `x` meets no fault and that `P` holds of its answer. The rules
here follow the ways in which look-ups are put together, so that a proof about a function takes its
steps in the order of the function.
-/

namespace ModLint

theorem except_bind_eq_ok {ε α β : Type} {x : Except ε α} {f : α → Except ε β} {b : β} :
    x >>= f = .ok b ↔ ∃ a, x = .ok a ∧ f a = .ok b := by
  constructor
  · intro h
    cases x with
    | error error => cases h
    | ok a => exact ⟨a, rfl, h⟩
  · rintro ⟨a, rfl, h⟩
    exact h

theorem lookup_bind_eq_ok {α β : Type} {x : Lookup α} {f : α → Lookup β} {b : β} :
    x >>= f = .ok b ↔ ∃ a, x = .ok a ∧ f a = .ok b :=
  except_bind_eq_ok

theorem lookup_bind_eq_error {α β : Type} {x : Lookup α} {f : α → Lookup β} {fault : Fault}
    (h : x >>= f = .error fault) : x = .error fault ∨ ∃ a, x = .ok a ∧ f a = .error fault := by
  cases x with
  | error other =>
    cases h
    exact Or.inl rfl
  | ok a => exact Or.inr ⟨a, rfl, h⟩

theorem lookup_unique {α : Type} {x : Lookup α} {a b : α} (ha : x = .ok a) (hb : x = .ok b) :
    a = b :=
  Except.ok.inj (ha.symm.trans hb)

/-- A look-up without fault whose answer satisfies `P`. -/
def Answers {α : Type} (x : Lookup α) (P : α → Prop) : Prop :=
  ∃ a, x = .ok a ∧ P a

namespace Answers

variable {α β : Type} {P : α → Prop} {Q : β → Prop}

theorem ok {a : α} (h : P a) : Answers (.ok a) P :=
  ⟨a, rfl, h⟩

theorem pure {a : α} (h : P a) : Answers (Pure.pure a) P :=
  ⟨a, rfl, h⟩

theorem bind {x : Lookup α} {f : α → Lookup β} (hx : Answers x P)
    (hf : ∀ a, P a → Answers (f a) Q) : Answers (x >>= f) Q := by
  obtain ⟨a, rfl, ha⟩ := hx
  exact hf a ha

theorem mono {x : Lookup α} {P' : α → Prop} (hx : Answers x P) (h : ∀ a, P a → P' a) :
    Answers x P' := by
  obtain ⟨a, ha, hP⟩ := hx
  exact ⟨a, ha, h a hP⟩

/-- `bind` for a step that also needs to know which look-up gave the answer. -/
theorem bind_eq {x : Lookup α} {f : α → Lookup β} (hx : Answers x P)
    (hf : ∀ a, x = .ok a → P a → Answers (f a) Q) : Answers (x >>= f) Q := by
  obtain ⟨a, rfl, ha⟩ := hx
  exact hf a rfl ha

theorem exists_ok {x : Lookup α} (hx : Answers x P) : ∃ a, x = .ok a := by
  obtain ⟨a, ha, _⟩ := hx
  exact ⟨a, ha⟩

/-! ## Lists -/

theorem mapM {xs : List α} {f : α → Lookup β} (h : ∀ a ∈ xs, Answers (f a) Q) :
    Answers (xs.mapM f) fun ys => ∀ y ∈ ys, Q y := by
  induction xs with
  | nil => exact pure (by simp)
  | cons a xs ih =>
    rw [List.mapM_cons]
    refine bind (h a (by simp)) fun b hb => ?_
    refine bind (ih fun a' ha' => h a' (by simp [ha'])) fun ys hys => ?_
    refine pure fun y hy => ?_
    rcases List.mem_cons.mp hy with rfl | hy
    · exact hb
    · exact hys y hy

theorem filterMapM {xs : List α} {f : α → Lookup (Option β)}
    (h : ∀ a ∈ xs, Answers (f a) fun b? => ∀ b, b? = some b → Q b) :
    Answers (xs.filterMapM f) fun ys => ∀ y ∈ ys, Q y := by
  induction xs with
  | nil => exact pure (by simp)
  | cons a xs ih =>
    have hrest := ih fun a' ha' => h a' (by simp [ha'])
    rw [List.filterMapM_cons]
    refine bind (h a (by simp)) fun b? hb => ?_
    cases b? with
    | none => exact hrest
    | some b =>
      refine bind hrest fun ys hys => ?_
      refine pure fun y hy => ?_
      rcases List.mem_cons.mp hy with rfl | hy
      · exact hb _ rfl
      · exact hys y hy

theorem anyM_iff {P : α → Prop} {xs : List α} {f : α → Lookup Bool}
    (h : ∀ a ∈ xs, Answers (f a) fun b => b = true ↔ P a) :
    Answers (xs.anyM f) fun b => b = true ↔ ∃ a ∈ xs, P a := by
  induction xs with
  | nil => exact pure (by simp)
  | cons a xs ih =>
    rw [List.anyM]
    refine bind (h a (by simp)) fun b hb => ?_
    cases b with
    | true => exact pure ⟨fun _ => ⟨a, by simp, hb.mp rfl⟩, fun _ => rfl⟩
    | false =>
      have hnot : ¬ P a := fun ha => Bool.false_ne_true (hb.mpr ha)
      refine mono (ih fun a' ha' => h a' (by simp [ha'])) fun b' hb' => ?_
      rw [hb']
      simp [hnot]

theorem anyM {xs : List α} {f : α → Lookup Bool} (h : ∀ a ∈ xs, Answers (f a) fun _ => True) :
    Answers (xs.anyM f) fun _ => True := by
  refine mono (anyM_iff (P := fun a => f a = .ok true) fun a ha => ?_) fun _ _ => trivial
  obtain ⟨b, hb, -⟩ := h a ha
  exact ⟨b, hb, by rw [hb, Except.ok.injEq]⟩

theorem allM_iff {P : α → Prop} {xs : List α} {f : α → Lookup Bool}
    (h : ∀ a ∈ xs, Answers (f a) fun b => b = true ↔ P a) :
    Answers (xs.allM f) fun b => b = true ↔ ∀ a ∈ xs, P a := by
  induction xs with
  | nil => exact pure (by simp)
  | cons a xs ih =>
    rw [List.allM]
    refine bind (h a (by simp)) fun b hb => ?_
    cases b with
    | true =>
      have hyes : P a := hb.mp rfl
      refine mono (ih fun a' ha' => h a' (by simp [ha'])) fun b' hb' => ?_
      rw [hb']
      simp [hyes]
    | false =>
      have hnot : ¬ P a := fun ha => Bool.false_ne_true (hb.mpr ha)
      exact pure ⟨fun hfalse => absurd hfalse Bool.false_ne_true,
        fun hall => absurd (hall a (by simp)) hnot⟩

theorem allM {xs : List α} {f : α → Lookup Bool} (h : ∀ a ∈ xs, Answers (f a) fun _ => True) :
    Answers (xs.allM f) fun _ => True := by
  refine mono (allM_iff (P := fun a => f a = .ok true) fun a ha => ?_) fun _ _ => trivial
  obtain ⟨b, hb, -⟩ := h a ha
  exact ⟨b, hb, by rw [hb, Except.ok.injEq]⟩

/-- The first item with a property. -/
theorem findM?_iff {P : α → Prop} {xs : List α} {f : α → Lookup Bool}
    (h : ∀ a ∈ xs, Answers (f a) fun b => b = true ↔ P a) :
    Answers (xs.findM? f) fun a? => ∀ a, a? = some a ↔
      ∃ before after, xs = before ++ a :: after ∧ P a ∧ ∀ b ∈ before, ¬ P b := by
  induction xs with
  | nil => exact pure (by simp)
  | cons x xs ih =>
    rw [List.findM?]
    refine bind (h x (by simp)) fun b hb => ?_
    cases b with
    | true =>
      have hyes : P x := hb.mp rfl
      refine pure fun a => ⟨?_, ?_⟩
      · intro heq
        cases heq
        exact ⟨[], xs, rfl, hyes, by simp⟩
      · rintro ⟨before, after, hsplit, -, hbefore⟩
        cases before with
        | nil => rw [(List.cons.inj hsplit).1]
        | cons y before =>
          obtain ⟨rfl, -⟩ := List.cons.inj hsplit
          exact absurd hyes (hbefore x (by simp))
    | false =>
      have hnot : ¬ P x := fun hx => Bool.false_ne_true (hb.mpr hx)
      refine mono (ih fun a' ha' => h a' (by simp [ha'])) fun a? ha? a => (ha? a).trans ⟨?_, ?_⟩
      · rintro ⟨before, after, rfl, ha, hbefore⟩
        refine ⟨x :: before, after, rfl, ha, ?_⟩
        intro y hy
        rcases List.mem_cons.mp hy with rfl | hy
        · exact hnot
        · exact hbefore y hy
      · rintro ⟨before, after, hsplit, ha, hbefore⟩
        cases before with
        | nil =>
          obtain ⟨rfl, -⟩ := List.cons.inj hsplit
          exact absurd ha hnot
        | cons y before =>
          obtain ⟨-, rfl⟩ := List.cons.inj hsplit
          exact ⟨before, after, rfl, ha, fun z hz => hbefore z (by simp [hz])⟩

theorem findM? {xs : List α} {f : α → Lookup Bool} (h : ∀ a ∈ xs, Answers (f a) fun _ => True) :
    Answers (xs.findM? f) fun a? => ∀ a, a? = some a → a ∈ xs := by
  refine mono (findM?_iff (P := fun a => f a = .ok true) fun a ha => ?_) fun a? ha? a ha => ?_
  · obtain ⟨b, hb, -⟩ := h a ha
    exact ⟨b, hb, by rw [hb, Except.ok.injEq]⟩
  · obtain ⟨before, after, rfl, -⟩ := (ha? a).mp ha
    simp

theorem filterM_iff {P : α → Prop} {xs : List α} {f : α → Lookup Bool}
    (h : ∀ a ∈ xs, Answers (f a) fun b => b = true ↔ P a) :
    Answers (xs.filterM f) fun ys => ys.Sublist xs ∧ ∀ a, a ∈ ys ↔ a ∈ xs ∧ P a := by
  -- the loop collects in reverse, so the claim is made for any accumulator
  have hloop : ∀ zs acc : List α, (∀ a ∈ zs, a ∈ xs) →
      Answers (zs.filterAuxM f acc) fun ys => ∃ kept : List α, ys = kept.reverse ++ acc ∧
        kept.Sublist zs ∧ ∀ a, a ∈ kept ↔ a ∈ zs ∧ P a := by
    intro zs
    induction zs with
    | nil =>
      intro acc _
      exact pure ⟨[], rfl, .slnil, by simp⟩
    | cons a zs ih =>
      intro acc hzs
      rw [List.filterAuxM]
      refine bind (h a (hzs a (by simp))) fun b hb => ?_
      refine mono (ih _ fun a' ha' => hzs a' (by simp [ha'])) fun ys hys => ?_
      obtain ⟨kept, rfl, hsub, hmem⟩ := hys
      cases b with
      | false =>
        have hnot : ¬ P a := fun ha => Bool.false_ne_true (hb.mpr ha)
        refine ⟨kept, rfl, hsub.cons a, fun a' => ?_⟩
        rw [hmem]
        constructor
        · rintro ⟨ha', hP⟩
          exact ⟨by simp [ha'], hP⟩
        · rintro ⟨ha', hP⟩
          rcases List.mem_cons.mp ha' with rfl | ha'
          · exact absurd hP hnot
          · exact ⟨ha', hP⟩
      | true =>
        refine ⟨a :: kept, by simp, hsub.cons_cons a, fun a' => ?_⟩
        rw [List.mem_cons, List.mem_cons, hmem, or_and_right]
        constructor
        · rintro (rfl | hrest)
          · exact Or.inl ⟨rfl, hb.mp rfl⟩
          · exact Or.inr hrest
        · rintro (⟨heq, -⟩ | hrest)
          · exact Or.inl heq
          · exact Or.inr hrest
  rw [List.filterM]
  refine bind (hloop xs [] fun _ ha => ha) fun ys hys => ?_
  obtain ⟨kept, rfl, hsub, hmem⟩ := hys
  refine pure ?_
  rw [List.append_nil, List.reverse_reverse]
  exact ⟨hsub, hmem⟩

theorem filterM {xs : List α} {f : α → Lookup Bool} (h : ∀ a ∈ xs, Answers (f a) fun _ => True) :
    Answers (xs.filterM f) fun ys => ∀ y ∈ ys, y ∈ xs := by
  refine mono (filterM_iff (P := fun a => f a = .ok true) fun a ha => ?_)
    fun ys hys y hy => hys.1.subset hy
  obtain ⟨b, hb, -⟩ := h a ha
  exact ⟨b, hb, by rw [hb, Except.ok.injEq]⟩

end Answers

end ModLint
