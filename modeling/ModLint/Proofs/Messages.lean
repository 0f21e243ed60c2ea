import ModLint.Proofs.Keys
import ModLint.Proofs.Replacing

/-!
# Messages and their arguments

A message has numbered places for arguments. What one expects of it is a substitution in one go:
every place that has an argument is replaced by it, and what an argument says is not read again.
The arguments are put in one after the other, however, so that places in the text of an argument
are filled by the arguments behind it. In the messages of the catalog the places are kept apart by
other characters, and filling does the same to every part between them. So a message is the
substitution of arguments that have been filled before, and it is the expected one for all
conditions exactly if the first two arguments are not changed by that.
-/

namespace ModLint

namespace DiagnosticId

/-! ## Places for arguments -/

/-- A character that stands in no place for an argument. -/
def isSolid (c : Char) : Bool :=
  c != '\x7b' && c != '\x7d' && !c.isDigit

theorem placeholder_eq (number : Nat) :
    placeholder number = '\x7b' :: (Nat.toDigits 10 number ++ ['\x7d']) := by
  rw [placeholder, Nat.toString_eq_ofList_toDigits, String.toList_ofList, List.cons_append]

theorem placeholder_ne_nil (number : Nat) : placeholder number ≠ [] := by
  rw [placeholder_eq]
  exact List.cons_ne_nil _ _

theorem isDigit_of_mem_toDigits {number : Nat} {c : Char} (h : c ∈ Nat.toDigits 10 number) :
    c.isDigit = true :=
  Nat.isDigit_of_mem_toDigits (by decide) (by decide) h

theorem not_mem_placeholder {c : Char} (h : isSolid c = true) (number : Nat) :
    c ∉ placeholder number := by
  rw [placeholder_eq]
  intro hmem
  simp only [isSolid, Bool.and_eq_true, bne_iff_ne, Bool.not_eq_true'] at h
  obtain ⟨⟨hopen, hclose⟩, hdigit⟩ := h
  rw [List.mem_cons, List.mem_append, List.mem_singleton] at hmem
  rcases hmem with hmem | hmem | hmem
  · exact hopen hmem
  · rw [isDigit_of_mem_toDigits hmem] at hdigit
    cases hdigit
  · exact hclose hmem

/-- A place contains no other one. -/
theorem eq_of_placeholder_within {a b : Nat} (h : placeholder a <:+: placeholder b) : a = b := by
  have hdigits : ∀ number, '\x7b' ∉ Nat.toDigits 10 number ∧ '\x7d' ∉ Nat.toDigits 10 number := by
    intro number
    constructor <;> exact fun hmem => absurd (isDigit_of_mem_toDigits hmem) (by decide)
  obtain ⟨before, after, heq⟩ := h
  rw [placeholder_eq, placeholder_eq] at heq
  cases before with
  | cons c before =>
    -- a second opening brace would have to stand among the digits
    simp only [List.cons_append, List.cons.injEq] at heq
    have hmem : '\x7b' ∈ Nat.toDigits 10 b ++ ['\x7d'] := by
      rw [← heq.2]
      simp
    rw [List.mem_append, List.mem_singleton] at hmem
    rcases hmem with hmem | hmem
    · exact absurd hmem (hdigits b).1
    · exact absurd hmem (by decide)
  | nil =>
    simp only [List.nil_append, List.cons_append, List.append_assoc, List.cons.injEq,
      true_and] at heq
    obtain ⟨hsame, -⟩ := Diagnostic.append_separator_inj (hdigits a).2 (hdigits b).2 heq
    have hvalues := congrArg (fun digits => Nat.ofDigitChars 10 digits 0) hsame
    simpa only [Nat.ofDigitChars_ten_toDigits] using hvalues

theorem replaceAll_placeholder_ne {a b : Nat} (h : a ≠ b) (replacement : List Char) :
    Text.replaceAll (placeholder a) replacement (placeholder b) = placeholder b :=
  Text.replaceAll_eq_self (fun hwithin => h (eq_of_placeholder_within hwithin)) replacement

/-! ## Substitution -/

/-- The argument whose place a text starts with, if the first argument has the given number, and
the length of the place. -/
def argumentAt? : Nat → List String → List Char → Option (List Char × Nat)
  | _, [], _ => none
  | number, arg :: args, text =>
    if (placeholder number).isPrefixOf text then some (arg.toList, (placeholder number).length)
    else argumentAt? (number + 1) args text

/-- A text with every place that has an argument replaced by it, all in one go. -/
def substitute (args : List String) (text : List Char) : List Char :=
  Text.rewrite (argumentAt? 0 args) 0 text

/-- The message that a substitution of the arguments gives. -/
def substituted (id : DiagnosticId) (args : List String) : String :=
  String.ofList (substitute args id.messageTemplate.toList)

/-- The arguments as messages show them, the first one with the given number: each one is filled
with those behind it. -/
def shown : Nat → List String → List String
  | _, [] => []
  | number, arg :: args =>
    String.ofList (fill (number + 1) args arg.toList) :: shown (number + 1) args

theorem argumentAt?_append_cons {c : Char} (hc : isSolid c = true) (number : Nat)
    (args : List String) (before after : List Char) :
    argumentAt? number args (before ++ c :: after) = argumentAt? number args before := by
  induction args generalizing number with
  | nil => rfl
  | cons arg args ih =>
    rw [argumentAt?, argumentAt?, ih, Text.isPrefixOf_append_cons (not_mem_placeholder hc number)]

theorem size_of_argumentAt? {number : Nat} {args : List String} {text : List Char}
    {found : List Char × Nat} (h : argumentAt? number args text = some found) :
    0 < found.2 ∧ found.2 ≤ text.length := by
  induction args generalizing number with
  | nil => cases h
  | cons arg args ih =>
    rw [argumentAt?] at h
    split at h
    · rename_i hstart
      cases h
      exact ⟨List.length_pos_iff.mpr (placeholder_ne_nil number),
        (List.isPrefixOf_iff_prefix.mp hstart).length_le⟩
    · exact ih h

theorem argumentAt?_eq_none {text : List Char} (h : ∀ number, ¬ placeholder number <+: text)
    (number : Nat) (args : List String) : argumentAt? number args text = none := by
  induction args generalizing number with
  | nil => rfl
  | cons arg args ih =>
    rw [argumentAt?, if_neg fun hstart => h number (List.isPrefixOf_iff_prefix.mp hstart), ih]

theorem argumentAt?_placeholder (number i : Nat) (args : List String) :
    argumentAt? number args (placeholder (number + i)) =
      args[i]?.map fun arg => (arg.toList, (placeholder (number + i)).length) := by
  induction args generalizing number i with
  | nil => rfl
  | cons arg args ih =>
    rw [argumentAt?]
    cases i with
    | zero =>
      rw [Nat.add_zero, if_pos (List.isPrefixOf_iff_prefix.mpr List.prefix_rfl)]
      rfl
    | succ i =>
      have hother : ¬ (placeholder number).isPrefixOf (placeholder (number + (i + 1))) = true := by
        intro hstart
        have heq := eq_of_placeholder_within (List.isPrefixOf_iff_prefix.mp hstart).isInfix
        omega
      have hnumber : number + (i + 1) = number + 1 + i := by omega
      rw [if_neg hother, hnumber, ih, List.getElem?_cons_succ]

section Substitute

variable {args : List String}

theorem substitute_append_cons {c : Char} (hc : isSolid c = true) (before after : List Char) :
    substitute args (before ++ c :: after) = substitute args before ++ c :: substitute args after :=
  Text.rewrite_append_cons (argumentAt?_append_cons hc 0 args) (fun _ _ => size_of_argumentAt?)
    before after (Nat.zero_le _)

theorem substitute_cons {c : Char} (hc : isSolid c = true) (text : List Char) :
    substitute args (c :: text) = c :: substitute args text :=
  substitute_append_cons hc [] text

theorem substitute_eq_self {text : List Char} (h : '\x7b' ∉ text) :
    substitute args text = text := by
  refine Text.rewrite_eq_self fun rest hsuffix =>
    argumentAt?_eq_none (fun number hstart => h ?_) 0 args
  rw [placeholder_eq] at hstart
  exact hsuffix.subset (hstart.subset List.mem_cons_self)

theorem substitute_placeholder (i : Nat) :
    substitute args (placeholder i) = (args[i]?.map String.toList).getD (placeholder i) := by
  have hfound := argumentAt?_placeholder 0 i args
  rw [Nat.zero_add] at hfound
  cases harg : args[i]? with
  | some arg =>
    rw [harg] at hfound
    exact Text.rewrite_whole (placeholder_ne_nil i) hfound
  | none =>
    rw [harg] at hfound
    -- no place starts behind the brace, so nothing is replaced
    refine Text.rewrite_eq_self fun rest hsuffix => ?_
    by_cases hwhole : rest = placeholder i
    · rw [hwhole, hfound]
      rfl
    · refine argumentAt?_eq_none (fun number hstart => hwhole ?_) 0 args
      obtain rfl := eq_of_placeholder_within (hstart.isInfix.trans hsuffix.isInfix)
      exact hsuffix.eq_of_length_le hstart.length_le

end Substitute

/-! ## Filling -/

theorem fill_nil (number : Nat) (args : List String) : fill number args [] = [] := by
  induction args generalizing number with
  | nil => rfl
  | cons arg args ih => rw [fill, Text.replaceAll, Text.replaceAll.go, ih]

theorem fill_append_cons {c : Char} (hc : isSolid c = true) (number : Nat) (args : List String)
    (before after : List Char) :
    fill number args (before ++ c :: after) =
      fill number args before ++ c :: fill number args after := by
  induction args generalizing number before after with
  | nil => rfl
  | cons arg args ih =>
    simp only [fill]
    rw [Text.replaceAll_append_cons (placeholder_ne_nil number) (not_mem_placeholder hc number), ih]

theorem fill_cons {c : Char} (hc : isSolid c = true) (number : Nat) (args : List String)
    (text : List Char) : fill number args (c :: text) = c :: fill number args text := by
  have hsplit := fill_append_cons hc number args [] text
  rwa [fill_nil] at hsplit

theorem fill_placeholder (number i : Nat) (args : List String) :
    fill number args (placeholder (number + i)) =
      ((shown number args)[i]?.map String.toList).getD (placeholder (number + i)) := by
  induction args generalizing number i with
  | nil => rfl
  | cons arg args ih =>
    cases i with
    | zero =>
      have hself := Text.replaceAll_self (placeholder_ne_nil number) arg.toList
      simp [fill, shown, hself]
    | succ i =>
      have hnumber : number + (i + 1) = number + 1 + i := by omega
      rw [fill, replaceAll_placeholder_ne (by omega), hnumber, ih, shown, List.getElem?_cons_succ]

theorem fill_eq_self {number : Nat} {args : List String} {text : List Char}
    (h : ∀ i < args.length, ¬ placeholder (number + i) <:+: text) :
    fill number args text = text := by
  induction args generalizing number with
  | nil => rfl
  | cons arg args ih =>
    have hhead : ¬ placeholder number <:+: text := h 0 (by simp)
    rw [fill, Text.replaceAll_eq_self hhead]
    apply ih
    intro i hi
    have hnumber : number + 1 + i = number + (i + 1) := by omega
    rw [hnumber]
    exact h (i + 1) (by rw [List.length_cons]; omega)

theorem shown_eq_self {number : Nat} {args : List String}
    (h : ∀ i j arg, i < j → j < args.length → args[i]? = some arg →
      ¬ placeholder (number + j) <:+: arg.toList) : shown number args = args := by
  induction args generalizing number with
  | nil => rfl
  | cons arg args ih =>
    have hshift : ∀ j, number + 1 + j = number + (j + 1) := by
      intro j
      omega
    have hhead : fill (number + 1) args arg.toList = arg.toList := by
      apply fill_eq_self
      intro i hi
      rw [hshift]
      exact h 0 (i + 1) arg (by omega) (by rw [List.length_cons]; omega) rfl
    have htail : shown (number + 1) args = args := by
      apply ih
      intro i j other hij hj hother
      rw [hshift]
      exact h (i + 1) (j + 1) other (by omega) (by rw [List.length_cons]; omega) hother
    rw [shown, hhead, htail, String.ofList_toList]

/-! ## Messages of the catalog -/

/-- A text in which places for the first two arguments are kept apart by solid characters. -/
inductive Spaced : List Char → Prop where
  | nil : Spaced []
  | place {i : Nat} (hi : i < 2) : Spaced (placeholder i)
  | solid {c : Char} {rest : List Char} (hc : isSolid c = true) (hrest : Spaced rest) :
    Spaced (c :: rest)
  | placeSolid {i : Nat} {c : Char} {rest : List Char} (hi : i < 2) (hc : isSolid c = true)
    (hrest : Spaced rest) : Spaced (placeholder i ++ c :: rest)

/-- Whether a text is spaced. -/
def isSpaced : List Char → Bool
  | [] => true
  | ['\x7b', d, '\x7d'] => d == '0' || d == '1'
  | '\x7b' :: d :: '\x7d' :: c :: rest => (d == '0' || d == '1') && isSolid c && isSpaced rest
  | c :: rest => isSolid c && isSpaced rest

theorem exists_placeholder_eq {d : Char} (h : (d == '0' || d == '1') = true) :
    ∃ i < 2, placeholder i = ['\x7b', d, '\x7d'] := by
  rw [Bool.or_eq_true, beq_iff_eq, beq_iff_eq] at h
  rcases h with rfl | rfl
  · exact ⟨0, by decide, by decide +kernel⟩
  · exact ⟨1, by decide, by decide +kernel⟩

theorem spaced_of_isSpaced {text : List Char} (h : isSpaced text = true) : Spaced text := by
  fun_induction isSpaced text with
  | case1 => exact .nil
  | case2 d =>
    obtain ⟨i, hi, heq⟩ := exists_placeholder_eq h
    rw [← heq]
    exact .place hi
  | case3 d c rest ih =>
    rw [Bool.and_eq_true, Bool.and_eq_true] at h
    obtain ⟨i, hi, heq⟩ := exists_placeholder_eq h.1.1
    have hspaced : Spaced (placeholder i ++ c :: rest) := .placeSolid hi h.1.2 (ih h.2)
    rwa [heq] at hspaced
  | case4 c rest _ _ ih =>
    rw [Bool.and_eq_true] at h
    exact .solid h.1 (ih h.2)

theorem spaced_of_eq_ofList {text : String} {chars : List Char} (htext : text = String.ofList chars)
    (h : isSpaced chars = true) : Spaced text.toList := by
  rw [htext, String.toList_ofList]
  exact spaced_of_isSpaced h

-- the characters of a literal are taken from it; to compute its list of characters is slow
theorem spaced_messageTemplate (id : DiagnosticId) : Spaced id.messageTemplate.toList := by
  cases id <;> exact spaced_of_eq_ofList rfl (by decide +kernel)

theorem Spaced.fill_eq {text : List Char} (h : Spaced text) (args : List String) :
    fill 0 args text = substitute (shown 0 args) text := by
  have hplace : ∀ i, fill 0 args (placeholder i) = substitute (shown 0 args) (placeholder i) := by
    intro i
    have hfill := fill_placeholder 0 i args
    rw [Nat.zero_add] at hfill
    rw [hfill, substitute_placeholder]
  induction h with
  | nil =>
    rw [fill_nil]
    rfl
  | place _ => exact hplace _
  | solid hc _ ih => rw [fill_cons hc, substitute_cons hc, ih]
  | placeSolid _ hc _ ih => rw [fill_append_cons hc, substitute_append_cons hc, ih, hplace]

theorem Spaced.substitute_congr {text : List Char} (h : Spaced text) {args args' : List String}
    (hargs : ∀ i < 2, args[i]? = args'[i]?) : substitute args text = substitute args' text := by
  have hplace : ∀ i < 2, substitute args (placeholder i) = substitute args' (placeholder i) := by
    intro i hi
    rw [substitute_placeholder, substitute_placeholder, hargs i hi]
  induction h with
  | nil => rfl
  | place hi => exact hplace _ hi
  | solid hc _ ih => rw [substitute_cons hc, substitute_cons hc, ih]
  | placeSolid hi hc _ ih =>
    rw [substitute_append_cons hc, substitute_append_cons hc, ih, hplace _ hi]

/-- An argument between two quotes stands in the message as it is. -/
theorem substitute_quoted {before : List Char} (h : '\x7b' ∉ before) (args : List String) (i : Nat)
    (rest : List Char) :
    substitute args (before ++ '\'' :: (placeholder i ++ '\'' :: rest)) =
      before ++ '\'' :: ((args[i]?.map String.toList).getD (placeholder i) ++
        '\'' :: substitute args rest) := by
  have hquote : isSolid '\'' = true := by decide
  rw [substitute_append_cons hquote, substitute_append_cons hquote, substitute_eq_self h,
    substitute_placeholder]

/-- The messages of all conditions together tell the first two arguments. -/
theorem getElem?_eq_of_substituted_eq {args args' : List String}
    (hlength : args.length = args'.length)
    (h : ∀ id : DiagnosticId, id.substituted args = id.substituted args') :
    ∀ i < 2, args[i]? = args'[i]? := by
  have hmessage : ∀ id : DiagnosticId, substitute args id.messageTemplate.toList =
      substitute args' id.messageTemplate.toList := by
    intro id
    exact String.ofList_injective (h id)
  have hfirst : (args[0]?.map String.toList).getD (placeholder 0) =
      (args'[0]?.map String.toList).getD (placeholder 0) := by
    have hmessage := hmessage .hooksShouldBeStatic
    have htemplate : hooksShouldBeStatic.messageTemplate.toList = "Hook ".toList ++
        '\'' :: (placeholder 0 ++ '\'' :: " should be static".toList) := by
      decide +kernel
    have hrest : '\x7b' ∉ " should be static".toList := by decide
    rw [htemplate, substitute_quoted (by decide), substitute_quoted (by decide),
      substitute_eq_self hrest, substitute_eq_self hrest] at hmessage
    simpa using hmessage
  have hsecond : (args[1]?.map String.toList).getD (placeholder 1) =
      (args'[1]?.map String.toList).getD (placeholder 1) := by
    have hmessage := hmessage .customEntityGeneratorMethodMissing
    have htemplate : customEntityGeneratorMethodMissing.messageTemplate.toList =
        "Generator method ".toList ++ '\'' :: (placeholder 0 ++ '\'' ::
          (" not found on ".toList ++ '\'' :: (placeholder 1 ++ '\'' :: []))) := by
      decide +kernel
    rw [htemplate, substitute_quoted (by decide), substitute_quoted (by decide),
      substitute_quoted (by decide), substitute_quoted (by decide), hfirst,
      substitute_eq_self (by simp), substitute_eq_self (by simp)] at hmessage
    simpa using hmessage
  -- lists of the same length differ only where both have an argument
  have hpresent : ∀ i, (args[i]?.map String.toList).getD (placeholder i) =
      (args'[i]?.map String.toList).getD (placeholder i) → args[i]? = args'[i]? := by
    intro i hvalue
    by_cases hi : i < args.length
    · have hi' : i < args'.length := by omega
      rw [List.getElem?_eq_getElem hi, List.getElem?_eq_getElem hi'] at hvalue ⊢
      exact congrArg some (String.toList_inj.mp hvalue)
    · rw [List.getElem?_eq_none (by omega), List.getElem?_eq_none (by omega)]
  intro i hi
  obtain rfl | rfl : i = 0 ∨ i = 1 := by omega
  · exact hpresent 0 hfirst
  · exact hpresent 1 hsecond

theorem length_shown (number : Nat) (args : List String) :
    (shown number args).length = args.length := by
  induction args generalizing number with
  | nil => rfl
  | cons arg args ih => rw [shown, List.length_cons, List.length_cons, ih]

/-- Messages are substitutions of the arguments that are shown. They substitute the arguments
themselves exactly if the first two are shown as they are; this is so if no argument contains the
place of one behind it. -/
theorem later_arguments_fill_earlier_ones (args : List String) :
    (∀ id : DiagnosticId, id.format args = id.substituted (shown 0 args)) ∧
    ((∀ id : DiagnosticId, id.format args = id.substituted args) ↔
      ∀ i < 2, (shown 0 args)[i]? = args[i]?) ∧
    ((∀ i j arg, i < j → j < args.length → args[i]? = some arg →
        ¬ placeholder j <:+: arg.toList) →
      ∀ id : DiagnosticId, id.format args = id.substituted args) := by
  have hshown : ∀ id : DiagnosticId, id.format args = id.substituted (shown 0 args) := by
    intro id
    rw [format, substituted, (spaced_messageTemplate id).fill_eq]
  refine ⟨hshown, ⟨fun hsame => ?_, fun hsame id => ?_⟩, fun hapart id => ?_⟩
  · apply getElem?_eq_of_substituted_eq (length_shown 0 args)
    intro id
    rw [← hshown id, hsame id]
  · rw [hshown, substituted, substituted, (spaced_messageTemplate id).substitute_congr hsame]
  · have hself : shown 0 args = args := by
      apply shown_eq_self
      intro i j arg hij hj harg
      rw [Nat.zero_add]
      exact hapart i j arg hij hj harg
    rw [hshown, hself]

/-- A generator method with the name of a place is not named by the message about it. -/
theorem missing_generator_is_misnamed :
    customEntityGeneratorMethodMissing.format ["\x7b1\x7d", "Spinner"] =
      "Generator method 'Spinner' not found on 'Spinner'" ∧
    customEntityGeneratorMethodMissing.substituted ["\x7b1\x7d", "Spinner"] =
      "Generator method '\x7b1\x7d' not found on 'Spinner'" := by
  decide +kernel

end DiagnosticId

end ModLint
