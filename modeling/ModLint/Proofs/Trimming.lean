import ModLint.Text.Blank

/-!
# Trimming

Trimming at one end commutes with trimming at the other one, is idempotent and stops at a character
that is not blank.
-/

namespace ModLint.Text

theorem trimStart_cons_blank {c : Char} (hc : isBlank c = true) (cs : List Char) :
    trimStart (c :: cs) = trimStart cs :=
  List.dropWhile_cons_of_pos hc

theorem trimStart_cons_sign {c : Char} (hc : isBlank c = false) (cs : List Char) :
    trimStart (c :: cs) = c :: cs :=
  List.dropWhile_cons_of_neg (by simp [hc])

theorem trimStart_trimStart (cs : List Char) : trimStart (trimStart cs) = trimStart cs := by
  induction cs with
  | nil => rfl
  | cons c cs ih =>
    by_cases hc : isBlank c = true
    · rw [trimStart_cons_blank hc, ih]
    · rw [trimStart_cons_sign (by simpa using hc), trimStart_cons_sign (by simpa using hc)]

theorem isBlank_of_trimStart_eq_cons {c : Char} {cs rest : List Char}
    (h : trimStart cs = c :: rest) : isBlank c = false := by
  induction cs with
  | nil => cases h
  | cons d cs ih =>
    by_cases hd : isBlank d = true
    · exact ih (by rwa [trimStart_cons_blank hd] at h)
    · have hsign : isBlank d = false := by simpa using hd
      rw [trimStart_cons_sign hsign] at h
      rwa [(List.cons.inj h).1] at hsign

theorem not_mem_trimStart {c : Char} {cs : List Char} (h : c ∉ cs) : c ∉ trimStart cs :=
  fun hmem => h ((List.dropWhile_sublist isBlank).subset hmem)

theorem trimEnd_cons (c : Char) (cs : List Char) :
    trimEnd (c :: cs) = if trimEnd cs = [] ∧ isBlank c = true then [] else c :: trimEnd cs := by
  rw [trimEnd]
  cases trimEnd cs with
  | nil => by_cases hc : isBlank c = true <;> simp [hc]
  | cons d ds => simp

theorem trimEnd_append_cons {c : Char} (hc : isBlank c = false) (before after : List Char) :
    trimEnd (before ++ c :: after) = before ++ c :: trimEnd after := by
  induction before with
  | nil => rw [List.nil_append, trimEnd_cons, if_neg (by simp [hc]), List.nil_append]
  | cons d before ih =>
    rw [List.cons_append, trimEnd_cons, ih, if_neg (by simp), List.cons_append]

theorem trimStart_append_cons {c : Char} (hc : isBlank c = false) (before after : List Char) :
    trimStart (before ++ c :: after) = trimStart before ++ c :: after := by
  unfold trimStart
  rw [List.dropWhile_append]
  split
  · rename_i hempty
    rw [List.isEmpty_iff.mp hempty, List.dropWhile_cons_of_neg (by simp [hc]), List.nil_append]
  · rfl

theorem trimEnd_trimEnd (cs : List Char) : trimEnd (trimEnd cs) = trimEnd cs := by
  induction cs with
  | nil => rfl
  | cons c cs ih =>
    rw [trimEnd_cons]
    split
    · rfl
    · rename_i hkept
      rw [trimEnd_cons, ih, if_neg hkept]

theorem trimStart_trimEnd (cs : List Char) : trimStart (trimEnd cs) = trimEnd (trimStart cs) := by
  induction cs with
  | nil => rfl
  | cons c cs ih =>
    by_cases hc : isBlank c = true
    · rw [trimStart_cons_blank hc, ← ih, trimEnd_cons]
      split
      · rename_i hempty
        rw [hempty.1]
      · exact trimStart_cons_blank hc _
    · have hsign : isBlank c = false := by simpa using hc
      rw [trimStart_cons_sign hsign, trimEnd_cons, if_neg (by simp [hsign]),
        trimStart_cons_sign hsign]

/-- Blanks at the end do not matter to a text without blanks at its ends. -/
theorem trim_trimEnd (cs : List Char) : trim (trimEnd cs) = trim cs := by
  rw [trim, trimStart_trimEnd, trimEnd_trimEnd, trim]

theorem trim_trim (cs : List Char) : trim (trim cs) = trim cs := by
  rw [trim, trim, trimStart_trimEnd, trimStart_trimStart, trimEnd_trimEnd]

theorem trim_trimStart (cs : List Char) : trim (trimStart cs) = trim cs := by
  rw [trim, trimStart_trimStart, trim]

theorem trimStart_append_blank {c : Char} (hc : isBlank c = true) (cs : List Char) :
    trimStart (cs ++ [c]) = if trimStart cs = [] then [] else trimStart cs ++ [c] := by
  unfold trimStart
  rw [List.dropWhile_append, List.dropWhile_cons_of_pos hc]
  simp only [List.isEmpty_iff, List.dropWhile_nil]

theorem takeWhile_sign_append_blank {c : Char} (hc : isBlank c = true) (cs : List Char) :
    (cs ++ [c]).takeWhile (fun d => !isBlank d) = cs.takeWhile fun d => !isBlank d := by
  induction cs with
  | nil => simp [hc]
  | cons d cs ih =>
    rw [List.cons_append, List.takeWhile_cons, List.takeWhile_cons, ih]

theorem dropWhile_sign_append_blank {c : Char} (hc : isBlank c = true) (cs : List Char) :
    (cs ++ [c]).dropWhile (fun d => !isBlank d) = cs.dropWhile (fun d => !isBlank d) ++ [c] := by
  induction cs with
  | nil => simp [hc]
  | cons d cs ih =>
    rw [List.cons_append, List.dropWhile_cons, List.dropWhile_cons, ih]
    split <;> rfl

theorem trimEnd_append_blank {c : Char} (hc : isBlank c = true) (cs : List Char) :
    trimEnd (cs ++ [c]) = trimEnd cs := by
  induction cs with
  | nil => rw [List.nil_append, trimEnd_cons, if_pos ⟨rfl, hc⟩]; rfl
  | cons d cs ih => rw [List.cons_append, trimEnd_cons, ih, trimEnd_cons]

theorem trim_append_blank {c : Char} (hc : isBlank c = true) (cs : List Char) :
    trim (cs ++ [c]) = trim cs := by
  rw [trim, trimStart_append_blank hc, trim]
  split
  · rename_i hnil
    rw [hnil]
  · exact trimEnd_append_blank hc _

theorem trimStart_eq_of_trim_eq {cs : List Char} (h : trim cs = cs) : trimStart cs = cs := by
  rw [← h, trim, trimStart_trimEnd, trimStart_trimStart]

theorem trimEnd_eq_of_trim_eq {cs : List Char} (h : trim cs = cs) : trimEnd cs = cs := by
  rw [← h, trim, trimEnd_trimEnd]

theorem trimEnd_eq_nil_of_trimStart {cs : List Char} (h : trimStart cs = []) : trimEnd cs = [] := by
  induction cs with
  | nil => rfl
  | cons c cs ih =>
    by_cases hc : isBlank c = true
    · rw [trimStart_cons_blank hc] at h
      rw [trimEnd_cons, if_pos ⟨ih h, hc⟩]
    · rw [trimStart_cons_sign (by simpa using hc)] at h
      cases h

theorem trimStart_eq_nil_iff {cs : List Char} :
    trimStart cs = [] ↔ ∀ c ∈ cs, isBlank c = true := by
  induction cs with
  | nil => simp [trimStart]
  | cons c cs ih =>
    by_cases hc : isBlank c = true
    · rw [trimStart_cons_blank hc, ih]
      simp [hc]
    · rw [trimStart_cons_sign (by simpa using hc)]
      simp [hc]

theorem trim_eq_nil_iff {cs : List Char} : trim cs = [] ↔ ∀ c ∈ cs, isBlank c = true := by
  rw [← trimStart_eq_nil_iff, trim]
  cases hstart : trimStart cs with
  | nil => simp [trimEnd]
  | cons c rest =>
    have hc := isBlank_of_trimStart_eq_cons hstart
    rw [trimEnd_cons, if_neg (by simp [hc])]
    simp

theorem trimStart_append {cs : List Char} (h : trimStart cs ≠ []) (rest : List Char) :
    trimStart (cs ++ rest) = trimStart cs ++ rest := by
  rw [trimStart, List.dropWhile_append, if_neg (by simpa [trimStart] using h)]
  rfl

theorem trimEnd_subset (cs : List Char) : trimEnd cs ⊆ cs := by
  induction cs with
  | nil => exact List.Subset.refl _
  | cons c cs ih =>
    rw [trimEnd_cons]
    split
    · exact List.nil_subset _
    · exact List.cons_subset_cons c ih

theorem trim_subset (cs : List Char) : trim cs ⊆ cs := by
  intro c hc
  exact (List.dropWhile_sublist isBlank).subset (trimEnd_subset _ hc)

/-! ## Blanks around a text -/

/-- Characters that are all blank. -/
def Blanks (cs : List Char) : Prop :=
  ∀ c ∈ cs, isBlank c = true

theorem Blanks.not_mem {cs : List Char} (h : Blanks cs) {c : Char} (hc : isBlank c = false) :
    c ∉ cs := by
  intro hmem
  rw [h c hmem] at hc
  cases hc

theorem trimEnd_append_blanks {blanks : List Char} (h : Blanks blanks) (cs : List Char) :
    trimEnd (cs ++ blanks) = trimEnd cs := by
  induction blanks generalizing cs with
  | nil => rw [List.append_nil]
  | cons c blanks ih =>
    obtain ⟨hc, hblanks⟩ := List.forall_mem_cons.mp h
    calc trimEnd (cs ++ c :: blanks)
      _ = trimEnd ((cs ++ [c]) ++ blanks) := by rw [List.append_assoc, List.singleton_append]
      _ = trimEnd (cs ++ [c]) := ih hblanks _
      _ = trimEnd cs := trimEnd_append_blank hc cs

theorem trim_blanks_around {first last : List Char} (hfirst : Blanks first) (hlast : Blanks last)
    (cs : List Char) : trim (first ++ cs ++ last) = trim cs := by
  have hstart : trimStart (first ++ cs ++ last) = trimStart (cs ++ last) := by
    rw [List.append_assoc]
    exact List.dropWhile_append_of_pos hfirst
  calc trim (first ++ cs ++ last)
    _ = trim (cs ++ last) := by rw [trim, hstart, ← trim]
    _ = trim (trimEnd (cs ++ last)) := (trim_trimEnd _).symm
    _ = trim cs := by rw [trimEnd_append_blanks hlast, trim_trimEnd]

theorem exists_eq_trimEnd_append (cs : List Char) :
    ∃ last, Blanks last ∧ cs = trimEnd cs ++ last := by
  induction cs with
  | nil => exact ⟨[], by simp [Blanks], rfl⟩
  | cons c cs ih =>
    obtain ⟨last, hlast, hcs⟩ := ih
    rw [trimEnd_cons]
    split
    · rename_i hgone
      rw [hgone.1, List.nil_append] at hcs
      exact ⟨c :: cs, List.forall_mem_cons.mpr ⟨hgone.2, hcs ▸ hlast⟩, rfl⟩
    · exact ⟨last, hlast, congrArg (c :: ·) hcs⟩

/-- A text is what is left of it after trimming, with blanks around. -/
theorem exists_eq_blanks_around (cs : List Char) :
    ∃ first last, Blanks first ∧ Blanks last ∧ cs = first ++ trim cs ++ last := by
  obtain ⟨last, hlast, hstart⟩ := exists_eq_trimEnd_append (trimStart cs)
  refine ⟨cs.takeWhile isBlank, last, List.all_eq_true.mp List.all_takeWhile, hlast, ?_⟩
  calc cs
    _ = cs.takeWhile isBlank ++ trimStart cs := List.takeWhile_append_dropWhile.symm
    _ = cs.takeWhile isBlank ++ (trim cs ++ last) := by rw [hstart, ← trim]
    _ = cs.takeWhile isBlank ++ trim cs ++ last := (List.append_assoc ..).symm

end ModLint.Text
