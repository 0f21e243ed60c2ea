import ModLint.Proofs.Keys

/-!
# The order of a report

A canonical list is sorted by place and thinned out by key. Each of these two steps would be
harmless by itself; together they are right because equal places end up side by side and because, in
files whose paths do not contain the separator of keys, a key tells the whole place. So a canonical
list contains every reported place once, in strictly increasing order, and it is its own canonical
list. Which places it contains depends on the set of the reported places only.
-/

namespace ModLint.Diagnostic

/-! ## The strict order -/

/-- A diagnostic stands strictly before another one: by file, start, code and message, of which the
first difference counts. -/
theorem before_iff {a b : Diagnostic} : a.Before b ↔
    a.file < b.file ∨ a.file = b.file ∧
      (a.location.span.startByte < b.location.span.startByte ∨
        a.location.span.startByte = b.location.span.startByte ∧
          (a.id.code < b.id.code ∨ a.id.code = b.id.code ∧ a.message < b.message)) := by
  have hstring : ∀ s t : String, compare s t = .lt ↔ s < t := fun s t => compareOfLessAndEq_eq_lt
  simp only [Before, order, Ordering.then_eq_lt, Std.LawfulEqCmp.compare_eq_iff_eq,
    Std.compare_eq_lt, hstring]

/-- In files with plain paths a key stands for code, file, start and message together. -/
theorem key_eq_iff {a b : Diagnostic} (ha : a.PlainPath) (hb : b.PlainPath) :
    a.key = b.key ↔ a.id.code = b.id.code ∧ a.file = b.file ∧
      a.location.span.startByte = b.location.span.startByte ∧ a.message = b.message := by
  constructor
  · intro hkey
    have hplace := place_eq_of_key_eq ha hb hkey
    simp only [place, Prod.mk.injEq] at hplace
    obtain ⟨hfile, hstart, hcode, hmessage⟩ := hplace
    exact ⟨hcode, hfile, hstart, hmessage⟩
  · rintro ⟨hcode, hfile, hstart, hmessage⟩
    apply key_eq_of_place_eq
    rw [place, place, hcode, hfile, hstart, hmessage]

/-- In files with plain paths no place is lost. -/
theorem mem_places_canonical {reports : List Diagnostic}
    (hplain : ∀ report ∈ reports, report.PlainPath) {at? : String × Nat × String × String} :
    at? ∈ (canonical reports).map place ↔ at? ∈ reports.map place := by
  constructor
  · intro hlisted
    obtain ⟨a, ha, rfl⟩ := List.mem_map.mp hlisted
    exact List.mem_map_of_mem (mem_of_mem_canonical ha)
  · intro hreported
    obtain ⟨a, ha, rfl⟩ := List.mem_map.mp hreported
    have hkey : a.key ∈ (canonical reports).map key :=
      mem_keys_canonical.mpr (List.mem_map_of_mem ha)
    obtain ⟨b, hb, hsame⟩ := List.mem_map.mp hkey
    have hplace := place_eq_of_key_eq (hplain b (mem_of_mem_canonical hb)) (hplain a ha) hsame
    rw [← hplace]
    exact List.mem_map_of_mem hb

/-! ## Canonical lists are canonical -/

/-- What was kept behind a diagnostic is kept again. -/
theorem go_go (kept : Diagnostic) (xs : List Diagnostic) :
    dropRepeats.go kept (dropRepeats.go kept xs) = dropRepeats.go kept xs := by
  induction xs generalizing kept with
  | nil => rfl
  | cons x xs ih =>
    by_cases hkey : (x.key == kept.key) = true
    · have hdrop : dropRepeats.go kept (x :: xs) = dropRepeats.go kept xs := by
        rw [dropRepeats.go, if_pos hkey]
      rw [hdrop, ih]
    · have hkeep : ∀ ys, dropRepeats.go kept (x :: ys) = x :: dropRepeats.go x ys := by
        intro ys
        rw [dropRepeats.go, if_neg hkey]
      rw [hkeep, hkeep, ih]

theorem dropRepeats_dropRepeats (xs : List Diagnostic) :
    dropRepeats (dropRepeats xs) = dropRepeats xs := by
  cases xs with
  | nil => rfl
  | cons x xs => rw [dropRepeats, dropRepeats, go_go]

theorem canonical_canonical (xs : List Diagnostic) : canonical (canonical xs) = canonical xs := by
  have hsorted : (canonical xs).Pairwise fun a b => le a b :=
    (sorted_pairwise xs).sublist (dropRepeats_sublist (sorted xs))
  rw [canonical_of_pairwise hsorted, canonical, dropRepeats_dropRepeats]

/-! ## Repeated places -/

/-- A repetition next to the first report of its place changes nothing. -/
theorem go_repeat {x y : Diagnostic} (hxy : x.place = y.place) (kept : Diagnostic)
    (before after : List Diagnostic) :
    dropRepeats.go kept (before ++ y :: x :: after) =
      dropRepeats.go kept (before ++ y :: after) := by
  have hkeys : x.key = y.key := key_eq_of_place_eq hxy
  induction before generalizing kept with
  | nil =>
    by_cases hkey : y.key = kept.key
    · simp [dropRepeats.go, hkeys, hkey]
    · simp [dropRepeats.go, hkeys, hkey]
  | cons z before ih => simp only [List.cons_append, dropRepeats.go, ih]

theorem dropRepeats_repeat {x y : Diagnostic} (hxy : x.place = y.place)
    (before after : List Diagnostic) :
    dropRepeats (before ++ y :: x :: after) = dropRepeats (before ++ y :: after) := by
  cases before with
  | nil => simp [dropRepeats, dropRepeats.go, key_eq_of_place_eq hxy]
  | cons z before => simp only [List.cons_append, dropRepeats, go_repeat hxy]

/-- A sorted list stays sorted if a report is repeated next to another one at its place. -/
theorem pairwise_repeat {x y : Diagnostic} (hxy : x.place = y.place)
    {before after : List Diagnostic} (h : (before ++ y :: after).Pairwise fun a b => le a b) :
    (before ++ y :: x :: after).Pairwise fun a b => le a b := by
  obtain ⟨hbefore, hrest, hacross⟩ := List.pairwise_append.mp h
  obtain ⟨hy, hafter⟩ := List.pairwise_cons.mp hrest
  have hx : ∀ b ∈ after, le x b := fun b hb => le_trans x y b (le_of_place_eq hxy) (hy b hb)
  have hyx : ∀ b ∈ x :: after, le y b := by
    intro b hb
    rcases List.mem_cons.mp hb with rfl | hb
    · exact le_of_place_eq hxy.symm
    · exact hy b hb
  refine List.pairwise_append.mpr ⟨hbefore, List.pairwise_cons.mpr ⟨hyx, ?_⟩, fun a ha b hb => ?_⟩
  · exact List.pairwise_cons.mpr ⟨hx, hafter⟩
  · have hay : le a y := hacross a ha y (by simp)
    rcases List.mem_cons.mp hb with rfl | hb
    · exact hay
    · exact le_trans a y b hay (hyx b hb)

/-- One more report of a place that is reported already changes no listed place. -/
theorem map_place_canonical_cons {x : Diagnostic} {xs : List Diagnostic}
    (h : x.place ∈ xs.map place) : (canonical (x :: xs)).map place = (canonical xs).map place := by
  have hsorted : x.place ∈ (sorted xs).map place := ((sorted_perm xs).map place).mem_iff.mpr h
  obtain ⟨y, hy, hplace⟩ := List.mem_map.mp hsorted
  obtain ⟨before, after, hsplit⟩ := List.append_of_mem hy
  -- put the repetition behind the report that is there already
  have hperm : (before ++ y :: x :: after).Perm (x :: xs) := by
    have hxs : (before ++ y :: after).Perm xs := hsplit ▸ sorted_perm xs
    have hmove : (before ++ [y] ++ x :: after).Perm (x :: (before ++ [y] ++ after)) :=
      List.perm_middle
    simp only [List.append_assoc, List.singleton_append] at hmove
    exact hmove.trans (hxs.cons x)
  have hle := pairwise_repeat hplace.symm (hsplit ▸ sorted_pairwise xs)
  rw [← map_place_canonical hperm, canonical_of_pairwise hle, dropRepeats_repeat hplace.symm,
    ← hsplit, canonical]

theorem map_place_canonical_append {xs ys : List Diagnostic}
    (h : ∀ y ∈ ys, y.place ∈ xs.map place) :
    (canonical (ys ++ xs)).map place = (canonical xs).map place := by
  induction ys with
  | nil => rfl
  | cons y ys ih =>
    have hy : y.place ∈ (ys ++ xs).map place := by
      rw [List.map_append]
      exact List.mem_append_right _ (h y (by simp))
    rw [List.cons_append, map_place_canonical_cons hy, ih fun z hz => h z (by simp [hz])]

/-- Which places are listed depends on the set of the reported places only. -/
theorem map_place_canonical_of_mem_iff {xs ys : List Diagnostic}
    (h : ∀ at?, at? ∈ xs.map place ↔ at? ∈ ys.map place) :
    (canonical xs).map place = (canonical ys).map place := by
  have hys : ∀ y ∈ ys, y.place ∈ xs.map place := fun y hy => (h _).mpr (List.mem_map_of_mem hy)
  have hxs : ∀ x ∈ xs, x.place ∈ ys.map place := fun x hx => (h _).mp (List.mem_map_of_mem hx)
  rw [← map_place_canonical_append hys, ← map_place_canonical_append hxs]
  exact map_place_canonical List.perm_append_comm

/-! ## The whole report -/

/-- In files with plain paths a canonical list consists of reports, increases strictly in file,
start, code and message, and contains all places that are reported; a key stands for these four
together; and a canonical list is its own canonical list. -/
theorem canonical_list_is_sorted_and_complete {reports : List Diagnostic}
    (hplain : ∀ report ∈ reports, report.PlainPath) :
    (∀ report ∈ canonical reports, report ∈ reports) ∧
    ((canonical reports).Pairwise fun a b => a.file < b.file ∨ a.file = b.file ∧
      (a.location.span.startByte < b.location.span.startByte ∨
        a.location.span.startByte = b.location.span.startByte ∧
          (a.id.code < b.id.code ∨ a.id.code = b.id.code ∧ a.message < b.message))) ∧
    (∀ at?, at? ∈ (canonical reports).map place ↔ at? ∈ reports.map place) ∧
    (∀ a b : Diagnostic, a.PlainPath → b.PlainPath →
      (a.key = b.key ↔ a.id.code = b.id.code ∧ a.file = b.file ∧
        a.location.span.startByte = b.location.span.startByte ∧ a.message = b.message)) ∧
    canonical (canonical reports) = canonical reports := by
  refine ⟨fun report => mem_of_mem_canonical, ?_, fun at? => mem_places_canonical hplain,
    fun a b ha hb => key_eq_iff ha hb, canonical_canonical reports⟩
  exact (canonical_pairwise reports).imp fun hbefore => before_iff.mp hbefore

/-- A report with a message that contains the separator of keys. -/
def separatedReport (start finish : Nat) : Diagnostic :=
  { id := .customEntityNoIDs
    severity := .warning
    location := {
      file := "Spinner.cs"
      span := { startByte := start, endByte := finish, startLine := 1, startColumn := 1 } }
    message := "|" ++ toString start ++ "|" }

theorem separatedReports_sorted_and_complete :
    let reports := [separatedReport 10 12, separatedReport 9 20, separatedReport 10 11]
    (∀ report ∈ reports, report.PlainPath) ∧
      (∀ report ∈ canonical reports, report ∈ reports) ∧
      (separatedReport 9 30).place ∈ (canonical reports).map place ∧
      (separatedReport 10 12).key ≠ (separatedReport 9 20).key ∧
      canonical (canonical reports) = canonical reports := by
  intro reports
  have hplain : ∀ report ∈ reports, report.PlainPath := by
    unfold PlainPath
    decide +kernel
  obtain ⟨hmem, -, hplaces, hkeys, hagain⟩ := canonical_list_is_sorted_and_complete hplain
  refine ⟨hplain, hmem, (hplaces _).mpr (by decide +kernel), fun hkey => ?_, hagain⟩
  have hstart := ((hkeys _ _ (hplain _ (by simp [reports])) (hplain _ (by simp [reports]))).mp
    hkey).2.2.1
  exact absurd hstart (by decide)

end ModLint.Diagnostic
