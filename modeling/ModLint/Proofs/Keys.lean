import ModLint.Proofs.Canonical

/-!
# Keys of diagnostics

A canonical list loses no key. Its diagnostics increase strictly in their order, so that it is
determined by what it contains. Where no path contains the sign that separates the parts of a key,
a key tells the whole place, and the canonical list contains the first report of every place: to
compare two canonical lists it is then enough to compare first reports.
-/

namespace ModLint.Diagnostic

/-! ## No key is lost -/

theorem mem_keys_go (kept : Diagnostic) (xs : List Diagnostic) (key : String) :
    key ∈ kept.key :: (dropRepeats.go kept xs).map Diagnostic.key ↔
      key ∈ kept.key :: xs.map Diagnostic.key := by
  induction xs generalizing kept with
  | nil => rfl
  | cons x xs ih =>
    rw [dropRepeats.go]
    split
    · rename_i heq
      rw [beq_iff_eq] at heq
      rw [ih kept, List.map_cons, heq]
      simp
    · rw [List.map_cons, List.map_cons, List.mem_cons, ih x, ← List.mem_cons]

theorem mem_keys_canonical {xs : List Diagnostic} {key : String} :
    key ∈ (canonical xs).map Diagnostic.key ↔ key ∈ xs.map Diagnostic.key := by
  have hdrop : ∀ ys : List Diagnostic,
      key ∈ (dropRepeats ys).map Diagnostic.key ↔ key ∈ ys.map Diagnostic.key := by
    intro ys
    cases ys with
    | nil => rfl
    | cons y ys => exact mem_keys_go y ys key
  rw [canonical, hdrop]
  exact ((sorted_perm xs).map Diagnostic.key).mem_iff

/-! ## Strictly increasing -/

/-- Whether a diagnostic stands strictly before another one. -/
def Before (a b : Diagnostic) : Prop :=
  order a b = .lt

theorem Before.of_le {a b : Diagnostic} (hle : le a b) (hne : a.place ≠ b.place) : a.Before b := by
  rw [ne_eq, ← order_eq_eq_iff] at hne
  rw [le] at hle
  rw [Before]
  cases hab : order a b with
  | lt => rfl
  | eq => exact absurd hab hne
  | gt => rw [hab] at hle; cases hle

theorem Before.asymm {a b : Diagnostic} (hab : a.Before b) : ¬ b.Before a := by
  intro hba
  have hswap : order b a = (order a b).swap := Std.OrientedCmp.eq_swap
  rw [Before, hswap, hab] at hba
  cases hba

theorem before_go {kept : Diagnostic} {xs : List Diagnostic}
    (hsorted : (kept :: xs).Pairwise fun a b => le a b) :
    (kept :: dropRepeats.go kept xs).Pairwise Before := by
  have hkept : ∀ a ∈ dropRepeats.go kept xs, kept.Before a := by
    intro a ha
    have hle := (List.pairwise_cons.mp hsorted).1 a ((go_sublist kept xs).mem ha)
    exact .of_le hle (place_ne_of_mem_go hsorted rfl ha).symm
  refine List.pairwise_cons.mpr ⟨hkept, ?_⟩
  clear hkept
  induction xs generalizing kept with
  | nil => exact List.Pairwise.nil
  | cons x xs ih =>
    have hxs := (List.pairwise_cons.mp hsorted).2
    rw [dropRepeats.go]
    split
    · exact ih (hsorted.sublist (by simp))
    · refine List.pairwise_cons.mpr ⟨fun a ha => ?_, ih hxs⟩
      have hle := (List.pairwise_cons.mp hxs).1 a ((go_sublist x xs).mem ha)
      exact .of_le hle (place_ne_of_mem_go hxs rfl ha).symm

theorem canonical_pairwise (xs : List Diagnostic) : (canonical xs).Pairwise Before := by
  have hsorted := sorted_pairwise xs
  rw [canonical]
  cases hs : sorted xs with
  | nil => exact List.Pairwise.nil
  | cons y ys => exact before_go (hs ▸ hsorted)

theorem nodup_of_pairwise_before {xs : List Diagnostic} (h : xs.Pairwise Before) : xs.Nodup := by
  refine h.imp fun {a b} hab heq => ?_
  subst heq
  exact hab.asymm hab

/-- Strictly increasing lists with the same diagnostics are equal. -/
theorem eq_of_pairwise_before {xs ys : List Diagnostic} (hx : xs.Pairwise Before)
    (hy : ys.Pairwise Before) (h : ∀ a, a ∈ xs ↔ a ∈ ys) : xs = ys := by
  have hperm : xs.Perm ys := (List.perm_ext_iff_of_nodup (nodup_of_pairwise_before hx)
    (nodup_of_pairwise_before hy)).mpr h
  exact hperm.eq_of_pairwise (fun a b _ _ hab hba => absurd hba hab.asymm) hx hy

/-! ## Keys that tell places -/

theorem append_separator_inj {c : Char} {xs ys xs' ys' : List Char} (hx : c ∉ xs) (hy : c ∉ ys)
    (h : xs ++ c :: xs' = ys ++ c :: ys') : xs = ys ∧ xs' = ys' := by
  induction xs generalizing ys with
  | nil =>
    cases ys with
    | nil => exact ⟨rfl, (List.cons.inj h).2⟩
    | cons y ys => exact absurd (by simp [(List.cons.inj h).1]) hy
  | cons x xs ih =>
    cases ys with
    | nil => exact absurd (by simp [(List.cons.inj h).1]) hx
    | cons y ys =>
      obtain ⟨rfl, hrest⟩ := List.cons.inj h
      obtain ⟨rfl, hxy⟩ := ih (fun hc => hx (by simp [hc])) (fun hc => hy (by simp [hc])) hrest
      exact ⟨rfl, hxy⟩

/-- A diagnostic in a file whose path does not contain the separator of keys. -/
def PlainPath (diagnostic : Diagnostic) : Prop :=
  '|' ∉ diagnostic.file.toList

theorem place_eq_of_key_eq {a b : Diagnostic} (ha : a.PlainPath) (hb : b.PlainPath)
    (h : a.key = b.key) : a.place = b.place := by
  have hcode : ∀ id : DiagnosticId, '|' ∉ id.code.toList := by
    intro id
    cases id <;> decide +kernel
  have hdigits : ∀ n : Nat, '|' ∉ (toString n).toList := by
    intro n hn
    rw [Nat.toString_eq_ofList_toDigits, String.toList_ofList] at hn
    exact absurd (Nat.isDigit_of_mem_toDigits (by decide) (by decide) hn) (by decide)
  have hchars := congrArg String.toList h
  simp only [key, String.toList_append, List.append_assoc] at hchars
  obtain ⟨hcodes, hrest⟩ := append_separator_inj (hcode _) (hcode _) hchars
  obtain ⟨hfiles, hrest⟩ := append_separator_inj ha hb hrest
  obtain ⟨hstarts, hmessages⟩ := append_separator_inj (hdigits _) (hdigits _) hrest
  simp only [place, Prod.mk.injEq]
  refine ⟨String.toList_inj.mp hfiles, ?_, String.toList_inj.mp hcodes,
    String.toList_inj.mp hmessages⟩
  have hvalues := congrArg (fun digits => Nat.ofDigitChars 10 digits 0) hstarts
  simpa only [Nat.toString_eq_ofList_toDigits, String.toList_ofList,
    Nat.ofDigitChars_ten_toDigits] using hvalues

/-- A canonical list contains exactly the first reports of all places. -/
theorem mem_canonical_iff {xs : List Diagnostic} (hplain : ∀ a ∈ xs, a.PlainPath)
    {a : Diagnostic} : a ∈ canonical xs ↔ xs.find? (fun b => b.place = a.place) = some a := by
  constructor
  · exact find?_of_mem_canonical
  · intro hfirst
    have ha := List.mem_of_find?_eq_some hfirst
    obtain ⟨b, hb, hkey⟩ := List.mem_map.mp
      (mem_keys_canonical.mpr (List.mem_map_of_mem (f := Diagnostic.key) ha))
    have hplace := place_eq_of_key_eq (hplain b (mem_of_mem_canonical hb)) (hplain a ha) hkey
    have hfirst' := find?_of_mem_canonical hb
    rw [hplace, hfirst] at hfirst'
    cases hfirst'
    exact hb

/-- If the first reports of one list are those first reports of another one that satisfy a
predicate, the same holds of the canonical lists. -/
theorem canonical_eq_filter {xs ys : List Diagnostic} (hxs : ∀ a ∈ xs, a.PlainPath)
    (hys : ∀ a ∈ ys, a.PlainPath) {P : Diagnostic → Bool}
    (h : ∀ a, xs.find? (fun b => b.place = a.place) = some a ↔
      ys.find? (fun b => b.place = a.place) = some a ∧ P a = true) :
    canonical xs = (canonical ys).filter P := by
  refine eq_of_pairwise_before (canonical_pairwise xs) ((canonical_pairwise ys).filter P) ?_
  intro a
  rw [mem_canonical_iff hxs, h, List.mem_filter, mem_canonical_iff hys]

/-- What the place tells may be filtered before or after the reports are listed. -/
theorem canonical_filter {xs : List Diagnostic} (hxs : ∀ a ∈ xs, a.PlainPath)
    {P : Diagnostic → Bool} (hP : ∀ a b : Diagnostic, a.place = b.place → P a = P b) :
    canonical (xs.filter P) = (canonical xs).filter P := by
  refine canonical_eq_filter (fun a ha => hxs a (List.mem_filter.mp ha).1) hxs fun a => ?_
  rw [List.find?_filter]
  cases hPa : P a with
  | true =>
    have hsame : (fun b : Diagnostic =>
        decide (P b = true ∧ decide (b.place = a.place) = true)) =
        fun b => decide (b.place = a.place) := by
      funext b
      by_cases hb : b.place = a.place
      · simp [hb, hP b a hb, hPa]
      · simp [hb]
    rw [hsame]
    exact ⟨fun hfirst => ⟨hfirst, rfl⟩, fun hfirst => hfirst.1⟩
  | false =>
    refine ⟨fun hfirst => ?_, fun hfirst => Bool.noConfusion hfirst.2⟩
    have hfound := List.find?_some hfirst
    rw [decide_eq_true_eq, hPa] at hfound
    cases hfound.1

end ModLint.Diagnostic
