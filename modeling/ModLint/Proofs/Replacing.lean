import ModLint.Text.Blank

/-!
# Replacing parts of a text

All occurrences of a pattern are replaced from the left, and what is put in is not read again. Seen
more generally, a text is rewritten in one go: a rule says what is put in place of how many
characters. A character that no rule reaches over cuts a text into two that are rewritten for
themselves, so a text can be rewritten piece by piece.
-/

namespace ModLint.Text

/-- Rewrites a text from the left. `hit` says what is put in place of how many characters at the
start of a text; the next `skip` characters belong to a part that is already replaced. -/
def rewrite (hit : List Char → Option (List Char × Nat)) : Nat → List Char → List Char
  | _, [] => []
  | skip + 1, _ :: text => rewrite hit skip text
  | 0, c :: text =>
    match hit (c :: text) with
    | some found => found.1 ++ rewrite hit (found.2 - 1) text
    | none => c :: rewrite hit 0 text

/-- Where a pattern is replaced. -/
def patternHit (pattern replacement text : List Char) : Option (List Char × Nat) :=
  if pattern.isPrefixOf text then some (replacement, pattern.length) else none

theorem replaceAll_eq_rewrite (pattern replacement text : List Char) :
    replaceAll pattern replacement text = rewrite (patternHit pattern replacement) 0 text := by
  have hgo : ∀ skip, replaceAll.go pattern replacement skip text =
      rewrite (patternHit pattern replacement) skip text := by
    induction text with
    | nil =>
      intro skip
      rw [replaceAll.go, rewrite]
    | cons c text ih =>
      intro skip
      cases skip with
      | succ skip => rw [replaceAll.go, rewrite, ih]
      | zero =>
        rw [replaceAll.go, rewrite, patternHit]
        by_cases hstart : pattern.isPrefixOf (c :: text) = true
        · rw [if_pos hstart, if_pos hstart, ih]
        · rw [if_neg hstart, if_neg hstart, ih]
  exact hgo 0

variable {hit : List Char → Option (List Char × Nat)} {c : Char}

theorem rewrite_skip (text : List Char) : rewrite hit text.length text = [] := by
  induction text with
  | nil => rw [rewrite]
  | cons c text ih => rw [List.length_cons, rewrite, ih]

theorem rewrite_whole {text replacement : List Char} (htext : text ≠ [])
    (h : hit text = some (replacement, text.length)) : rewrite hit 0 text = replacement := by
  cases text with
  | nil => exact absurd rfl htext
  | cons c text =>
    rw [rewrite, h]
    change replacement ++ rewrite hit (text.length + 1 - 1) text = replacement
    rw [Nat.add_sub_cancel, rewrite_skip, List.append_nil]

theorem rewrite_eq_self {text : List Char} (h : ∀ rest, rest <:+ text → hit rest = none) :
    rewrite hit 0 text = text := by
  induction text with
  | nil => rw [rewrite]
  | cons c text ih =>
    have hrest : rewrite hit 0 text = text := by
      apply ih
      intro rest hsuffix
      exact h rest (hsuffix.trans (List.suffix_cons c text))
    rw [rewrite, h _ List.suffix_rfl, hrest]

/-- A character that no hit reaches over cuts a text into two that are rewritten for themselves. -/
theorem rewrite_append_cons (hstop : ∀ before after, hit (before ++ c :: after) = hit before)
    (hsize : ∀ text found, hit text = some found → 0 < found.2 ∧ found.2 ≤ text.length)
    (before after : List Char) {skip : Nat} (hskip : skip ≤ before.length) :
    rewrite hit skip (before ++ c :: after) =
      rewrite hit skip before ++ c :: rewrite hit 0 after := by
  induction before generalizing skip with
  | nil =>
    obtain rfl : skip = 0 := by simpa using hskip
    have hnone : hit [] = none := by
      cases hhit : hit [] with
      | none => rfl
      | some found =>
        have hbounds := hsize [] found hhit
        rw [List.length_nil] at hbounds
        omega
    have hcons : hit (c :: after) = none := (hstop [] after).trans hnone
    simp only [List.nil_append, rewrite, hcons]
  | cons d before ih =>
    rw [List.length_cons] at hskip
    cases skip with
    | succ skip => rw [List.cons_append, rewrite, rewrite, ih (by omega)]
    | zero =>
      have hsame : hit (d :: (before ++ c :: after)) = hit (d :: before) :=
        hstop (d :: before) after
      rw [List.cons_append, rewrite, rewrite, hsame]
      cases hhit : hit (d :: before) with
      | none =>
        change d :: rewrite hit 0 (before ++ c :: after) =
          d :: rewrite hit 0 before ++ c :: rewrite hit 0 after
        rw [ih (by omega), List.cons_append]
      | some found =>
        have hbounds := hsize _ found hhit
        rw [List.length_cons] at hbounds
        change found.1 ++ rewrite hit (found.2 - 1) (before ++ c :: after) =
          found.1 ++ rewrite hit (found.2 - 1) before ++ c :: rewrite hit 0 after
        rw [ih (by omega), List.append_assoc]

theorem isPrefixOf_append_cons {pattern : List Char} (h : c ∉ pattern) (before after : List Char) :
    pattern.isPrefixOf (before ++ c :: after) = pattern.isPrefixOf before := by
  rw [Bool.eq_iff_iff, List.isPrefixOf_iff_prefix, List.isPrefixOf_iff_prefix]
  constructor
  · intro hstart
    have hbefore : before ++ [c] <+: before ++ c :: after := by simp
    rcases List.prefix_or_prefix_of_prefix hstart hbefore with hshort | hlong
    · -- the pattern is no longer than `before` and the character, which it does not contain
      rcases List.prefix_concat_iff.mp hshort with heq | hstart
      · exact absurd (by simp [heq]) h
      · exact hstart
    · exact absurd (hlong.subset (by simp)) h
  · intro hstart
    exact hstart.trans (List.prefix_append _ _)

theorem replaceAll_append_cons {pattern : List Char} (hpattern : pattern ≠ []) (h : c ∉ pattern)
    (replacement before after : List Char) :
    replaceAll pattern replacement (before ++ c :: after) =
      replaceAll pattern replacement before ++ c :: replaceAll pattern replacement after := by
  simp only [replaceAll_eq_rewrite]
  refine rewrite_append_cons (fun before after => ?_) (fun text found hfound => ?_) before after
    (Nat.zero_le _)
  · rw [patternHit, patternHit, isPrefixOf_append_cons h]
  · obtain ⟨hstart, heq⟩ := Option.ite_none_right_eq_some.mp hfound
    cases heq
    have hlength := (List.isPrefixOf_iff_prefix.mp hstart).length_le
    exact ⟨List.length_pos_iff.mpr hpattern, hlength⟩

theorem replaceAll_eq_self {pattern text : List Char} (h : ¬ pattern <:+: text)
    (replacement : List Char) : replaceAll pattern replacement text = text := by
  rw [replaceAll_eq_rewrite]
  refine rewrite_eq_self fun rest hsuffix => if_neg fun hstart => h ?_
  exact (List.isPrefixOf_iff_prefix.mp hstart).isInfix.trans hsuffix.isInfix

theorem replaceAll_self {pattern : List Char} (hpattern : pattern ≠ []) (replacement : List Char) :
    replaceAll pattern replacement pattern = replacement := by
  rw [replaceAll_eq_rewrite]
  refine rewrite_whole hpattern (if_pos ?_)
  exact List.isPrefixOf_iff_prefix.mpr List.prefix_rfl

end ModLint.Text
