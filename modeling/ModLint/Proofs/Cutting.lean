import ModLint.Text.Blank

/-!
# Texts cut at a character

What comes out when a text is cut at the first, at the last or at every occurrence of a character.
-/

namespace ModLint.Text

variable {sep : Char}

/-! ## The first occurrence -/

theorem splitFirst?_append {before : List Char} (h : sep ∉ before) (after : List Char) :
    splitFirst? sep (before ++ sep :: after) = some (before, after) := by
  induction before with
  | nil => simp [splitFirst?]
  | cons c before ih =>
    obtain ⟨hc, hbefore⟩ := List.ne_and_not_mem_of_not_mem_cons h
    have hne : c ≠ sep := fun heq => hc heq.symm
    rw [List.cons_append, splitFirst?, if_neg (by simpa using hne), ih hbefore]
    rfl

theorem splitFirst?_eq_none {cs : List Char} (h : sep ∉ cs) : splitFirst? sep cs = none := by
  induction cs with
  | nil => rfl
  | cons c cs ih =>
    obtain ⟨hc, hcs⟩ := List.ne_and_not_mem_of_not_mem_cons h
    have hne : c ≠ sep := fun heq => hc heq.symm
    rw [splitFirst?, if_neg (by simpa using hne), ih hcs]
    rfl

/-! ## The last occurrence -/

theorem splitLast?_of_not_mem {cs : List Char} (h : sep ∉ cs) : splitLast? sep cs = none := by
  induction cs with
  | nil => rfl
  | cons c cs ih =>
    rw [List.mem_cons, not_or] at h
    have hc : (c == sep) = false := by simpa using Ne.symm h.1
    rw [splitLast?, ih h.2]
    simp [hc]

theorem splitLast?_append (before : List Char) {after : List Char} (h : sep ∉ after) :
    splitLast? sep (before ++ sep :: after) = some (before, after) := by
  induction before with
  | nil =>
    rw [List.nil_append, splitLast?, splitLast?_of_not_mem h]
    simp
  | cons c before ih => rw [List.cons_append, splitLast?, ih]

/-- A character that occurs has a last occurrence. -/
theorem exists_last_of_mem {cs : List Char} (h : sep ∈ cs) :
    ∃ before after, cs = before ++ sep :: after ∧ sep ∉ after := by
  obtain ⟨after, before, hcs, hafter⟩ := List.eq_append_cons_of_mem (List.mem_reverse.mpr h)
  refine ⟨before.reverse, after.reverse, ?_, ?_⟩
  · have hreverse := congrArg List.reverse hcs
    rwa [List.reverse_reverse, List.reverse_append, List.reverse_cons, List.append_assoc]
      at hreverse
  · rwa [List.mem_reverse]

/-! ## Every occurrence -/

theorem splitAtEach_eq_splitOn (sep : Char) (text : List Char) :
    splitAtEach sep text = text.splitOn sep := by
  induction text with
  | nil => rfl
  | cons c text ih =>
    rw [splitAtEach, List.splitOn_cons_eq_if_modifyHead, ih]
    split
    · rfl
    · cases hpieces : text.splitOn sep with
      | nil => exact absurd hpieces (List.splitOn_ne_nil _ _)
      | cons piece pieces => rfl

end ModLint.Text
