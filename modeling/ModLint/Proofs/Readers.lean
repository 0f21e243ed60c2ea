import ModLint.Proofs.Directives
import ModLint.Proofs.Trimming

/-!
# Readers of directives

Each reader splits its text: what it leaves is a suffix. Blanks at the start of what a reader leaves
do not matter to the next one, and a blank at the end of a line does not matter to any directive of
the line, because a rule ends at a blank and a reason is trimmed.
-/

namespace ModLint

instance Text.instDecidableNoBlanks (cs : List Char) : Decidable (NoBlanks cs) :=
  decidable_of_iff ((cs.all fun c => !isBlank c) = true) (by simp [NoBlanks])

namespace Directive

open Text

variable {text : List Char}

/-! ## Equations -/

theorem behind?_eq_some_iff {fixed text tail : List Char} :
    behind? fixed text = some tail ↔ text = fixed ++ tail := by
  induction fixed generalizing text with
  | nil => simp [behind?]
  | cons c fixed ih =>
    cases text with
    | nil => simp [behind?]
    | cons d text =>
      rw [behind?, List.cons_append, List.cons.injEq, ← ih]
      by_cases heq : c = d
      · simp [heq]
      · have hne : d ≠ c := fun hdc => heq hdc.symm
        simp [heq, hne]

theorem behind?_blank {c d : Char} (hc : isBlank c = true) (hd : isBlank d = false)
    (fixed tail : List Char) : behind? (d :: fixed) (c :: tail) = none := by
  have hne : d ≠ c := by
    rintro rfl
    rw [hc] at hd
    cases hd
  rw [behind?, if_neg hne]

theorem word?_eq (text : List Char) : word? text =
    (behind? "ignore".toList text).bind fun tail =>
      ((behindBlanks? tail).map (Prod.mk .ignore)).or
        ((((behind? "-next-line".toList tail).bind behindBlanks?).map (Prod.mk .ignoreNextLine)).or
          (((behind? "-file".toList tail).bind behindBlanks?).map (Prod.mk .ignoreFile))) := by
  have hmap : ∀ (word : DirectiveWord) (text? : Option (List Char)),
      (text?.bind fun text => (behindBlanks? text).bind fun tail => some (word, tail)) =
        (text?.bind behindBlanks?).map (Prod.mk word) := by
    intro word text?
    rw [Option.map_bind]
    cases text? with
    | none => rfl
    | some text => cases hblanks : behindBlanks? text <;> simp [hblanks]
  refine Option.bind_congr fun tail _ => ?_
  rw [Option.or_eq_orElse, Option.or_eq_orElse, ← hmap, ← hmap]
  rfl

/-- Only one of the three words can be followed by a blank. -/
theorem word_unique (tail : List Char) :
    (behindBlanks? tail = none ∨ (behind? "-next-line".toList tail).bind behindBlanks? = none ∧
      (behind? "-file".toList tail).bind behindBlanks? = none) ∧
    ((behind? "-next-line".toList tail).bind behindBlanks? = none ∨
      (behind? "-file".toList tail).bind behindBlanks? = none) := by
  constructor
  · cases tail with
    | nil => exact Or.inl rfl
    | cons c tail =>
      by_cases hc : isBlank c = true
      · have hline : "-next-line".toList = '-' :: "next-line".toList := by decide
        have hfile : "-file".toList = '-' :: "file".toList := by decide
        rw [hline, hfile, behind?_blank hc (by decide), behind?_blank hc (by decide)]
        exact Or.inr ⟨rfl, rfl⟩
      · rw [behindBlanks?, if_neg hc]
        exact Or.inl rfl
  · cases hbehind : behind? "-next-line".toList tail with
    | none => exact Or.inl rfl
    | some after =>
      obtain rfl := behind?_eq_some_iff.mp hbehind
      exact Or.inr rfl

/-- The order of the words does not matter to what is done with them. -/
theorem word?_bind {α : Type} (next : DirectiveWord × List Char → Option α) (text : List Char) :
    (word? text).bind next = (behind? "ignore".toList text).bind fun tail =>
      ((behindBlanks? tail).bind fun rest => next (.ignore, rest)).or
        ((((behind? "-next-line".toList tail).bind behindBlanks?).bind fun rest =>
            next (.ignoreNextLine, rest)).or
          (((behind? "-file".toList tail).bind behindBlanks?).bind fun rest =>
            next (.ignoreFile, rest))) := by
  rw [word?_eq, Option.bind_assoc]
  refine Option.bind_congr fun tail _ => ?_
  have hunique := word_unique tail
  generalize behindBlanks? tail = plain at hunique ⊢
  generalize (behind? "-next-line".toList tail).bind behindBlanks? = line at hunique ⊢
  generalize (behind? "-file".toList tail).bind behindBlanks? = file at hunique ⊢
  rcases hunique with ⟨rfl | ⟨rfl, rfl⟩, hnone⟩
  · rcases hnone with rfl | rfl
    · cases file <;> simp
    · cases line <;> simp
  · cases plain <;> simp

theorem blockReason?_eq (text : List Char) : blockReason? text =
    ((behind? ['-'] (trimStart text)).bind fun tail => untilEnd? (trimStart tail)).or
      (if endsComment (trimStart text) then some [] else none) := by
  rw [Option.or_eq_orElse]
  rfl

/-- What a line comment says behind its word. -/
def lineRest? (found : DirectiveWord × List Char) : Option Directive :=
  let rule := found.2.takeWhile fun c => !isBlank c
  let rest := trimStart (found.2.dropWhile fun c => !isBlank c)
  if rule.isEmpty then none
  else some { word := found.1, rule, reason := ((behind? ['-'] rest).map trimStart).getD [] }

theorem lineComment?_eq (text : List Char) :
    lineComment? text = (head? "//".toList text).bind lineRest? := rfl

/-- What a block comment says behind its word. -/
def blockRest? (found : DirectiveWord × List Char) : Option Directive :=
  (blockRule? found.2).map fun read => { word := found.1, rule := read.1, reason := read.2 }

theorem blockComment?_eq (text : List Char) :
    blockComment? text = (head? "/*".toList text).bind blockRest? := by
  refine Option.bind_congr fun found _ => ?_
  rw [blockRest?, Option.map_eq_bind]
  rfl

/-! ## What readers leave -/

theorem suffix_of_behind? {fixed tail : List Char} (h : behind? fixed text = some tail) :
    tail <:+ text :=
  ⟨fixed, (behind?_eq_some_iff.mp h).symm⟩

theorem suffix_of_behindBlanks? {tail : List Char} (h : behindBlanks? text = some tail) :
    tail <:+ text := by
  cases text with
  | nil => cases h
  | cons c text =>
    rw [behindBlanks?] at h
    split at h
    · cases h
      exact (List.dropWhile_suffix isBlank).trans (List.suffix_cons c text)
    · cases h

theorem suffix_of_word? {found : DirectiveWord × List Char} (h : word? text = some found) :
    found.2 <:+ text := by
  rw [word?_eq] at h
  obtain ⟨tail, htail, h⟩ := Option.bind_eq_some_iff.mp h
  refine List.IsSuffix.trans ?_ (suffix_of_behind? htail)
  rcases Option.or_eq_some_iff.mp h with h | ⟨-, h⟩
  · obtain ⟨after, hafter, rfl⟩ := Option.map_eq_some_iff.mp h
    exact suffix_of_behindBlanks? hafter
  · have hlonger : ∀ {word after fixed}, ((behind? fixed tail).bind behindBlanks?).map
        (Prod.mk word) = some after → (after : DirectiveWord × List Char).2 <:+ tail := by
      intro word after fixed h
      obtain ⟨after, hafter, rfl⟩ := Option.map_eq_some_iff.mp h
      obtain ⟨middle, hmiddle, hafter⟩ := Option.bind_eq_some_iff.mp hafter
      exact (suffix_of_behindBlanks? hafter).trans (suffix_of_behind? hmiddle)
    rcases Option.or_eq_some_iff.mp h with h | ⟨-, h⟩
    · exact hlonger h
    · exact hlonger h

theorem suffix_of_head? {sign : List Char} {found : DirectiveWord × List Char}
    (h : head? sign text = some found) : found.2 <:+ text := by
  obtain ⟨tail, htail, h⟩ := Option.bind_eq_some_iff.mp h
  obtain ⟨after, hafter, h⟩ := Option.bind_eq_some_iff.mp h
  exact (suffix_of_word? h).trans ((suffix_of_behind? hafter).trans
    ((List.dropWhile_suffix isBlank).trans (suffix_of_behind? htail)))

/-! ## Blanks at the start -/

theorem endsComment_trimStart (text : List Char) :
    endsComment (trimStart text) = endsComment text := by
  rw [endsComment, endsComment, trimStart_trimStart]

theorem endsComment_eq_false (h : untilEnd? text = none) : endsComment text = false := by
  cases text with
  | nil => rfl
  | cons c text =>
    rw [untilEnd?] at h
    split at h
    · cases h
    · rename_i hend
      simpa using hend

theorem untilEnd?_eq_none_of_trimStart (h : untilEnd? (trimStart text) = none) :
    untilEnd? text = none := by
  induction text with
  | nil => rfl
  | cons c text ih =>
    by_cases hc : isBlank c = true
    · have hend := endsComment_eq_false h
      rw [endsComment_trimStart] at hend
      rw [trimStart_cons_blank hc] at h
      rw [untilEnd?, hend, ih h]
      rfl
    · rwa [trimStart_cons_sign (by simpa using hc)] at h

/-! ## Blanks at the end -/

/-- A directive without blanks around its reason. -/
def trimReason (directive : Directive) : Directive :=
  { directive with reason := trim directive.reason }

section BlankAtEnd

variable {c : Char} (hc : isBlank c = true)

include hc

theorem behind?_append_blank {fixed : List Char} (hfixed : NoBlanks fixed) (text : List Char) :
    behind? fixed (text ++ [c]) = (behind? fixed text).map (· ++ [c]) := by
  induction fixed generalizing text with
  | nil => rfl
  | cons d fixed ih =>
    have hd : isBlank d = false := hfixed d List.mem_cons_self
    cases text with
    | nil =>
      rw [List.nil_append, behind?_blank hc hd]
      rfl
    | cons e text =>
      rw [List.cons_append, behind?, behind?]
      split
      · exact ih (fun d hd => hfixed d (List.mem_cons_of_mem _ hd)) text
      · rfl

/-- What does not see a blank at the end does not see it behind trimmed blanks either. -/
theorem apply_trimStart_append_blank {β : Type} {f : List Char → β}
    (hf : ∀ text, f (text ++ [c]) = f text) (text : List Char) :
    f (trimStart (text ++ [c])) = f (trimStart text) := by
  rw [trimStart_append_blank hc]
  split
  · rename_i hnil
    rw [hnil]
  · exact hf _

theorem endsComment_append_blank (text : List Char) :
    endsComment (text ++ [c]) = endsComment text := by
  have hend : NoBlanks "*/".toList := by decide
  refine apply_trimStart_append_blank hc (f := fun text => (behind? "*/".toList text).isSome)
    (fun text => ?_) text
  rw [behind?_append_blank hc hend, Option.isSome_map]

theorem untilEnd?_append_blank (text : List Char) : untilEnd? (text ++ [c]) = untilEnd? text := by
  induction text with
  | nil =>
    have hend : endsComment [c] = false := endsComment_append_blank hc []
    simp [untilEnd?, hend]
  | cons d text ih =>
    have hend := endsComment_append_blank hc (d :: text)
    rw [List.cons_append] at hend ⊢
    rw [untilEnd?, hend, ih, untilEnd?]

theorem blockReason?_append_blank (text : List Char) :
    blockReason? (text ++ [c]) = blockReason? text := by
  have hdash : NoBlanks ['-'] := by decide
  simp only [blockReason?_eq]
  refine apply_trimStart_append_blank hc
    (f := fun text => ((behind? ['-'] text).bind fun tail => untilEnd? (trimStart tail)).or
      (if endsComment text then some [] else none)) (fun text => ?_) text
  simp only [behind?_append_blank hc hdash, endsComment_append_blank hc, Option.bind_map,
    Function.comp_def, apply_trimStart_append_blank hc (untilEnd?_append_blank hc)]

theorem blockRule?_append_blank (text : List Char) :
    blockRule? (text ++ [c]) = blockRule? text := by
  induction text with
  | nil => simp [blockRule?, hc]
  | cons d text ih =>
    rw [List.cons_append, blockRule?, blockReason?_append_blank hc, ih, blockRule?]

/-- A blank at the end does not matter to a directive that has a rule behind its word. -/
theorem head?_bind_append_blank {α : Type} {next : DirectiveWord × List Char → Option α}
    (hnil : ∀ word, next (word, []) = none)
    (hnext : ∀ word text, next (word, text ++ [c]) = next (word, text)) {sign : List Char}
    (hsign : NoBlanks sign) (text : List Char) :
    (head? sign (text ++ [c])).bind next = (head? sign text).bind next := by
  -- a word at the end of the text has a blank behind it now, but still no rule
  have hblanks : ∀ word text, (behindBlanks? (text ++ [c])).bind (fun tail => next (word, tail)) =
      (behindBlanks? text).bind fun tail => next (word, tail) := by
    intro word text
    cases text with
    | nil => simp [behindBlanks?, hc, trimStart, hnil word]
    | cons d text =>
      rw [List.cons_append, behindBlanks?, behindBlanks?]
      split
      · exact apply_trimStart_append_blank hc (f := fun tail => next (word, tail)) (hnext word) text
      · rfl
  have hbehind : ∀ {sign : List Char}, NoBlanks sign → ∀ word text,
      ((behind? sign (text ++ [c])).bind behindBlanks?).bind (fun tail => next (word, tail)) =
        ((behind? sign text).bind behindBlanks?).bind fun tail => next (word, tail) := by
    intro sign hsign word text
    rw [behind?_append_blank hc hsign]
    cases behind? sign text with
    | none => rfl
    | some tail => exact hblanks word tail
  have hword : ∀ text, (word? (text ++ [c])).bind next = (word? text).bind next := by
    intro text
    have hplain : NoBlanks "ignore".toList := by decide
    have hline : NoBlanks "-next-line".toList := by decide
    have hfile : NoBlanks "-file".toList := by decide
    rw [word?_bind, word?_bind, behind?_append_blank hc hplain]
    cases behind? "ignore".toList text with
    | none => rfl
    | some tail =>
      rw [Option.map_some, Option.bind_some, Option.bind_some, hblanks, hbehind hline,
        hbehind hfile]
  have hmarker : NoBlanks marker := by decide +kernel
  have hafter : ∀ text, (behind? marker (trimStart (text ++ [c]))).bind
      (fun tail => (word? tail).bind next) =
        (behind? marker (trimStart text)).bind fun tail => (word? tail).bind next := by
    refine apply_trimStart_append_blank hc
      (f := fun text => (behind? marker text).bind fun tail => (word? tail).bind next)
      fun text => ?_
    rw [behind?_append_blank hc hmarker, Option.bind_map]
    exact Option.bind_congr fun tail _ => hword tail
  have hhead : ∀ text, (head? sign text).bind next = (behind? sign text).bind fun tail =>
      (behind? marker (trimStart tail)).bind fun tail => (word? tail).bind next := by
    intro text
    rw [head?, Option.bind_eq_bind, Option.bind_assoc]
    exact Option.bind_congr fun tail _ => Option.bind_assoc _ _ _
  rw [hhead, hhead, behind?_append_blank hc hsign, Option.bind_map]
  exact Option.bind_congr fun tail _ => hafter tail

theorem blockComment?_append_blank (text : List Char) :
    blockComment? (text ++ [c]) = blockComment? text := by
  have hsign : NoBlanks "/*".toList := by decide
  rw [blockComment?_eq, blockComment?_eq]
  refine head?_bind_append_blank hc (fun _ => rfl) (fun word text => ?_) hsign text
  rw [blockRest?, blockRest?, blockRule?_append_blank hc]

theorem lineComment?_append_blank (text : List Char) :
    (lineComment? (text ++ [c])).map trimReason = (lineComment? text).map trimReason := by
  have hsign : NoBlanks "//".toList := by decide
  have hdash : NoBlanks ['-'] := by decide
  have hreason : ∀ text : List Char,
      trim (((behind? ['-'] (trimStart (text ++ [c]))).map trimStart).getD []) =
        trim (((behind? ['-'] (trimStart text)).map trimStart).getD []) := by
    refine apply_trimStart_append_blank hc
      (f := fun text => trim (((behind? ['-'] text).map trimStart).getD [])) fun text => ?_
    rw [behind?_append_blank hc hdash]
    cases behind? ['-'] text with
    | none => rfl
    | some tail =>
      change trim (trimStart (tail ++ [c])) = trim (trimStart tail)
      rw [trim_trimStart, trim_trimStart, trim_append_blank hc]
  rw [lineComment?_eq, lineComment?_eq, Option.map_bind, Option.map_bind]
  refine head?_bind_append_blank hc (fun _ => rfl) (fun word text => ?_) hsign text
  rw [Function.comp_apply, Function.comp_apply, lineRest?, lineRest?]
  dsimp only
  rw [takeWhile_sign_append_blank hc, dropWhile_sign_append_blank hc]
  split
  · rfl
  · rw [Option.map_some, Option.map_some, trimReason, hreason]
    rfl

end BlankAtEnd

/-- A blank at the end of a line does not matter to the first directive of a form. -/
theorem first?_append_blank {c : Char} {read : List Char → Option Directive} (hnil : read [] = none)
    (hread : ∀ text, (read (text ++ [c])).map trimReason = (read text).map trimReason)
    (line : List Char) :
    (first? read (line ++ [c])).map trimReason = (first? read line).map trimReason := by
  induction line with
  | nil =>
    have hnone := hread []
    rw [hnil, Option.map_none, Option.map_eq_none_iff, List.nil_append] at hnone
    simp [first?, hnone]
  | cons d line ih =>
    have hhere := hread (d :: line)
    rw [List.cons_append] at hhere ⊢
    have hbefore : ∀ found? : Option Directive,
        (found?.map fun found => { found with before := d :: found.before }).map trimReason =
          (found?.map trimReason).map fun found => { found with before := d :: found.before } := by
      intro found?
      cases found? <;> rfl
    rw [first?, first?]
    cases hold : read (d :: line) with
    | none =>
      rw [hold, Option.map_none, Option.map_eq_none_iff] at hhere
      simp only [hhere, hbefore, ih]
    | some directive =>
      rw [hold, Option.map_some] at hhere
      obtain ⟨directive', hnew, halike⟩ := Option.map_eq_some_iff.mp hhere
      simp only [hnew, Option.map_some, halike]

end Directive

end ModLint
