import ModLint.Diagnostic.Basic

/-!
# Canonical lists of diagnostics

Diagnostics are sorted by their *places* (file, start, code and message) and thinned out by their
keys, which are functions of the places. All else that a diagnostic carries plays no part in
either step. What follows from this: the places in a canonical list do not depend on the order in
which the diagnostics arrived, and of several diagnostics with one place the first one that arrived
is kept.
-/

namespace ModLint.Diagnostic

/-- What diagnostics are sorted by. -/
def place (diagnostic : Diagnostic) : String × Nat × String × String :=
  (diagnostic.file, diagnostic.location.span.startByte, diagnostic.id.code, diagnostic.message)

/-! ## The order -/

theorem order_eq_compareLex : order =
    compareLex (compareOn file) (compareLex (compareOn fun d => d.location.span.startByte)
      (compareLex (compareOn fun d => d.id.code) (compareOn message))) := by
  rfl

instance : Std.TransCmp order := by
  rw [order_eq_compareLex]
  infer_instance

theorem order_eq_eq_iff {a b : Diagnostic} : order a b = .eq ↔ a.place = b.place := by
  simp only [order, Ordering.then_eq_eq, Std.LawfulEqCmp.compare_eq_iff_eq, place, Prod.mk.injEq]

theorem le_trans (a b c : Diagnostic) (hab : le a b) (hbc : le b c) : le a c :=
  Std.TransCmp.isLE_trans hab hbc

theorem le_total (a b : Diagnostic) : le a b || le b a := by
  rw [Bool.or_eq_true]
  cases hab : order a b with
  | lt => exact Or.inl (by rw [le, hab]; rfl)
  | eq => exact Or.inl (by rw [le, hab]; rfl)
  | gt =>
    right
    rw [le, Std.OrientedCmp.lt_of_gt hab]
    rfl

/-- Two diagnostics that may stand in either order have the same place. -/
theorem place_eq_of_le {a b : Diagnostic} (hab : le a b) (hba : le b a) : a.place = b.place :=
  order_eq_eq_iff.mp (Std.OrientedCmp.isLE_antisymm hab hba)

theorem le_of_place_eq {a b : Diagnostic} (h : a.place = b.place) : le a b := by
  rw [le, order_eq_eq_iff.mpr h]
  rfl

theorem key_eq_of_place_eq {a b : Diagnostic} (h : a.place = b.place) : a.key = b.key := by
  simp only [place, Prod.mk.injEq] at h
  obtain ⟨hfile, hstart, hcode, hmessage⟩ := h
  rw [key, key, hfile, hstart, hcode, hmessage]

/-! ## Sorting -/

theorem sorted_pairwise (diagnostics : List Diagnostic) :
    (sorted diagnostics).Pairwise fun a b => le a b :=
  List.pairwise_mergeSort le_trans le_total diagnostics

theorem sorted_perm (diagnostics : List Diagnostic) : (sorted diagnostics).Perm diagnostics :=
  List.mergeSort_perm diagnostics le

/-- The places of a sorted list do not depend on the order of arrival. -/
theorem map_place_sorted {xs ys : List Diagnostic} (h : xs.Perm ys) :
    (sorted xs).map place = (sorted ys).map place := by
  have hperm : (sorted xs).Perm (sorted ys) :=
    (sorted_perm xs).trans (h.trans (sorted_perm ys).symm)
  have hpairwise : ∀ zs : List Diagnostic, zs.Pairwise (fun a b => le a b) →
      (zs.map place).Pairwise fun s t => ∃ a b, a.place = s ∧ b.place = t ∧ le a b := by
    intro zs hzs
    rw [List.pairwise_map]
    exact hzs.imp fun {a b} hab => ⟨a, b, rfl, rfl, hab⟩
  refine (hperm.map place).eq_of_pairwise ?_ (hpairwise _ (sorted_pairwise xs))
    (hpairwise _ (sorted_pairwise ys))
  rintro s t - - ⟨a, b, rfl, rfl, hab⟩ ⟨b', a', hb', ha', hba⟩
  refine place_eq_of_le hab (le_trans b b' a (le_of_place_eq hb'.symm) ?_)
  exact le_trans b' a' a hba (le_of_place_eq ha')

/-- Diagnostics with one place keep their order. -/
theorem filter_sorted (diagnostics : List Diagnostic) (at? : String × Nat × String × String) :
    (sorted diagnostics).filter (fun d => d.place = at?) =
      diagnostics.filter fun d => d.place = at? := by
  have hpairwise : (diagnostics.filter fun d => d.place = at?).Pairwise fun a b => le a b := by
    rw [List.pairwise_filter]
    refine List.pairwise_of_forall fun a b ha hb => le_of_place_eq ?_
    rw [of_decide_eq_true ha, of_decide_eq_true hb]
  have hsub : (diagnostics.filter fun d => d.place = at?).Sublist (sorted diagnostics) :=
    List.sublist_mergeSort le_trans le_total hpairwise List.filter_sublist
  have hsub' := hsub.filter fun d => d.place = at?
  rw [List.filter_filter] at hsub'
  simp only [Bool.and_self] at hsub'
  exact (hsub'.eq_of_length ((sorted_perm diagnostics).filter _).length_eq.symm).symm

theorem find?_sorted (diagnostics : List Diagnostic) (at? : String × Nat × String × String) :
    (sorted diagnostics).find? (fun d => d.place = at?) =
      diagnostics.find? fun d => d.place = at? := by
  rw [← List.head?_filter, filter_sorted, List.head?_filter]

/-! ## Dropping repetitions -/

theorem go_sublist (kept : Diagnostic) (xs : List Diagnostic) :
    (dropRepeats.go kept xs).Sublist xs := by
  induction xs generalizing kept with
  | nil => exact List.Sublist.slnil
  | cons x xs ih =>
    rw [dropRepeats.go]
    split
    · exact (ih kept).cons x
    · exact (ih x).cons_cons x

theorem dropRepeats_sublist (xs : List Diagnostic) : (dropRepeats xs).Sublist xs := by
  cases xs with
  | nil => exact List.Sublist.slnil
  | cons x xs => exact (go_sublist x xs).cons_cons x

theorem map_place_go {kept kept' : Diagnostic} (hkept : kept.place = kept'.place)
    {xs ys : List Diagnostic} (h : xs.map place = ys.map place) :
    (dropRepeats.go kept xs).map place = (dropRepeats.go kept' ys).map place := by
  induction xs generalizing kept kept' ys with
  | nil =>
    cases ys with
    | nil => rfl
    | cons y ys => simp at h
  | cons x xs ih =>
    cases ys with
    | nil => simp at h
    | cons y ys =>
      simp only [List.map_cons, List.cons.injEq] at h
      obtain ⟨hxy, hrest⟩ := h
      rw [dropRepeats.go, dropRepeats.go, key_eq_of_place_eq hxy, key_eq_of_place_eq hkept]
      split
      · exact ih hkept hrest
      · rw [List.map_cons, List.map_cons, hxy, ih hxy hrest]

/-- Which places are kept depends on the places only. -/
theorem map_place_dropRepeats {xs ys : List Diagnostic} (h : xs.map place = ys.map place) :
    (dropRepeats xs).map place = (dropRepeats ys).map place := by
  cases xs with
  | nil =>
    cases ys with
    | nil => rfl
    | cons y ys => simp at h
  | cons x xs =>
    cases ys with
    | nil => simp at h
    | cons y ys =>
      simp only [List.map_cons, List.cons.injEq] at h
      rw [dropRepeats, dropRepeats, List.map_cons, List.map_cons, h.1, map_place_go h.1 h.2]

/-- Nothing is kept behind `kept` that has the place of an earlier diagnostic with its key. -/
theorem place_ne_of_mem_go {kept x : Diagnostic} {xs : List Diagnostic}
    (hsorted : (x :: xs).Pairwise fun a b => le a b) (hkey : x.key = kept.key) {a : Diagnostic}
    (ha : a ∈ dropRepeats.go kept xs) : a.place ≠ x.place := by
  induction xs with
  | nil => simp [dropRepeats.go] at ha
  | cons y ys ih =>
    obtain ⟨hx, hys⟩ := List.pairwise_cons.mp hsorted
    rw [dropRepeats.go] at ha
    split at ha
    · exact ih (hsorted.sublist (by simp)) ha
    · rename_i hne
      have hyx : y.place ≠ x.place := fun e =>
        hne (by rw [beq_iff_eq, key_eq_of_place_eq e, hkey])
      rcases List.mem_cons.mp ha with rfl | ha
      · exact hyx
      · -- `x`, `y` and `a` stand in this order, so with `a` also `y` has the place of `x`
        intro e
        have hya : le y a := (List.pairwise_cons.mp hys).1 a ((go_sublist y ys).mem ha)
        have hyx' : le y x := le_trans y a x hya (le_of_place_eq e)
        exact hyx (place_eq_of_le hyx' (hx y (by simp)))

theorem find?_of_mem_go {kept : Diagnostic} {xs : List Diagnostic}
    (hsorted : (kept :: xs).Pairwise fun a b => le a b) {a : Diagnostic}
    (ha : a ∈ dropRepeats.go kept xs) : xs.find? (fun d => d.place = a.place) = some a := by
  induction xs generalizing kept with
  | nil => simp [dropRepeats.go] at ha
  | cons x xs ih =>
    have hxs : (x :: xs).Pairwise fun a b => le a b := (List.pairwise_cons.mp hsorted).2
    rw [dropRepeats.go] at ha
    split at ha
    · rename_i heq
      have hne := place_ne_of_mem_go hxs (by simpa using heq) ha
      rw [List.find?_cons_of_neg (by simpa using hne.symm)]
      exact ih (hsorted.sublist (by simp)) ha
    · rcases List.mem_cons.mp ha with rfl | ha
      · exact List.find?_cons_of_pos (by simp)
      · have hne := place_ne_of_mem_go hxs rfl ha
        rw [List.find?_cons_of_neg (by simpa using hne.symm)]
        exact ih hxs ha

/-- What is kept of a sorted list is the first with its place. -/
theorem find?_of_mem_dropRepeats {xs : List Diagnostic}
    (hsorted : xs.Pairwise fun a b => le a b) {a : Diagnostic} (ha : a ∈ dropRepeats xs) :
    xs.find? (fun d => d.place = a.place) = some a := by
  cases xs with
  | nil => simp [dropRepeats] at ha
  | cons x xs =>
    rw [dropRepeats] at ha
    rcases List.mem_cons.mp ha with rfl | ha
    · exact List.find?_cons_of_pos (by simp)
    · have hne := place_ne_of_mem_go hsorted rfl ha
      rw [List.find?_cons_of_neg (by simpa using hne.symm)]
      exact find?_of_mem_go hsorted ha

/-! ## Canonical lists -/

theorem mem_of_mem_canonical {diagnostics : List Diagnostic} {a : Diagnostic}
    (ha : a ∈ canonical diagnostics) : a ∈ diagnostics :=
  (sorted_perm diagnostics).mem_iff.mp ((dropRepeats_sublist _).mem ha)

/-- The places of a canonical list do not depend on the order of arrival. -/
theorem map_place_canonical {xs ys : List Diagnostic} (h : xs.Perm ys) :
    (canonical xs).map place = (canonical ys).map place :=
  map_place_dropRepeats (map_place_sorted h)

/-- Of several diagnostics with one place, the first that arrived is kept. -/
theorem find?_of_mem_canonical {diagnostics : List Diagnostic} {a : Diagnostic}
    (ha : a ∈ canonical diagnostics) :
    diagnostics.find? (fun d => d.place = a.place) = some a := by
  rw [← find?_sorted]
  exact find?_of_mem_dropRepeats (sorted_pairwise diagnostics) ha

theorem canonical_of_pairwise {diagnostics : List Diagnostic}
    (h : diagnostics.Pairwise fun a b => le a b) :
    canonical diagnostics = dropRepeats diagnostics := by
  rw [canonical, sorted, List.mergeSort_of_pairwise h]

theorem canonical_pair {a b : Diagnostic} (h : a.place = b.place) : canonical [a, b] = [a] := by
  have hkey : (b.key == a.key) = true := by rw [beq_iff_eq, key_eq_of_place_eq h]
  rw [canonical_of_pairwise (by simpa using le_of_place_eq h), dropRepeats, dropRepeats.go,
    if_pos hkey, dropRepeats.go]

/-- What the kept diagnostics have in common with all others at their places is listed the same
for every order of arrival. -/
theorem map_canonical_of_perm {β : Type} {f : Diagnostic → β} {arrived reports : List Diagnostic}
    (hperm : arrived.Perm reports)
    (hf : ∀ a ∈ canonical reports, ∀ b ∈ reports, a.place = b.place → f a = f b) :
    (canonical arrived).map f = (canonical reports).map f := by
  have hplaces := map_place_canonical hperm
  have hlength : (canonical arrived).length = (canonical reports).length := by
    simpa using congrArg List.length hplaces
  refine List.ext_getElem (by simpa using hlength) fun i h₁ h₂ => ?_
  rw [List.length_map] at h₁ h₂
  have hplace : (canonical arrived)[i].place = (canonical reports)[i].place := by
    have := List.getElem_of_eq hplaces (by simpa using h₁)
    simpa using this
  have hmem : (canonical arrived)[i] ∈ reports :=
    hperm.mem_iff.mp (mem_of_mem_canonical (List.getElem_mem h₁))
  rw [List.getElem_map, List.getElem_map]
  exact (hf _ (List.getElem_mem h₂) _ hmem hplace.symm).symm

/-- The canonical list is the same for every order of arrival exactly if no diagnostic that it
keeps has the place of another one. -/
theorem canonical_eq_of_perm_iff (reports : List Diagnostic) :
    (∀ arrived, arrived.Perm reports → canonical arrived = canonical reports) ↔
      ∀ a ∈ canonical reports, ∀ b ∈ reports, a.place = b.place → a = b := by
  constructor
  · intro h a ha b hb hplace
    -- let `b` arrive first
    have hperm : (b :: reports.erase b).Perm reports := (List.perm_cons_erase hb).symm
    rw [← h _ hperm] at ha
    have hfirst := find?_of_mem_canonical ha
    rw [List.find?_cons_of_pos (by simpa using hplace.symm)] at hfirst
    exact (Option.some.inj hfirst).symm
  · intro h arrived hperm
    simpa using map_canonical_of_perm (f := fun a => a) hperm h

end ModLint.Diagnostic
