import ModLint.Proofs.Cutting
import ModLint.Proofs.Keys

/-!
# Lines of a text

A line stands behind as many line feeds as lines stand above it, and it ends at the next line feed,
at a carriage return in front of one, or at the end of the text. Text that is added behind a line
changes nothing above; only a carriage return at the very end of the text can be taken for a part of
the line end that comes with it.
-/

namespace ModLint.Text

/-! ## Cutting at line feeds -/

theorem lines_append_feed {line : List Char} (h : '\n' ∉ line) (rest : List Char) :
    lines (line ++ '\n' :: rest) = dropCarriageReturn line :: lines rest := by
  rw [lines, lines, splitAtEach_eq_splitOn, splitAtEach_eq_splitOn,
    List.splitOn_append_cons_self_of_not_mem h]
  cases hpieces : rest.splitOn '\n' with
  | nil => exact absurd hpieces (List.splitOn_ne_nil _ _)
  | cons piece pieces => rfl

theorem lines_of_not_mem {line : List Char} (h : '\n' ∉ line) (hne : line ≠ []) :
    lines line = [line] := by
  rw [lines, splitAtEach_eq_splitOn, List.splitOn_eq_singleton h, lines.close,
    if_neg (by simpa using hne)]

/-- A text is empty, a line that nothing ends, or a line with a line feed in front of a text. -/
theorem line_induction {motive : List Char → Prop} (nil : motive [])
    (last : ∀ line, '\n' ∉ line → line ≠ [] → motive line)
    (feed : ∀ line rest, '\n' ∉ line → motive rest → motive (line ++ '\n' :: rest))
    (text : List Char) : motive text := by
  by_cases hmem : '\n' ∈ text
  · obtain ⟨line, rest, htext, hline⟩ := List.eq_append_cons_of_mem hmem
    rw [htext]
    exact feed line rest hline (line_induction nil last feed rest)
  · by_cases hne : text = []
    · rw [hne]
      exact nil
    · exact last text hmem hne
termination_by text.length
decreasing_by
  rw [htext, List.length_append, List.length_cons]
  omega

/-! ## Carriage returns -/

theorem dropCarriageReturn_append (line : List Char) :
    dropCarriageReturn (line ++ ['\r']) = line := by
  induction line with
  | nil => rfl
  | cons c line ih =>
    rw [List.cons_append, dropCarriageReturn, ih]
    rintro rfl hnil
    simp at hnil

theorem dropCarriageReturn_of_getLast? {line : List Char} (h : line.getLast? ≠ some '\r') :
    dropCarriageReturn line = line := by
  induction line with
  | nil => rfl
  | cons c line ih =>
    cases line with
    | nil =>
      rw [dropCarriageReturn]
      · rfl
      · rintro rfl -
        exact h rfl
    | cons d line =>
      rw [List.getLast?_cons_cons] at h
      rw [dropCarriageReturn, ih h]
      rintro - hnil
      cases hnil

/-- A line with a carriage return at its end, or one that keeps all its characters. -/
theorem dropCarriageReturn_cases (line : List Char) :
    line = dropCarriageReturn line ++ ['\r'] ∨
      dropCarriageReturn line = line ∧ line.getLast? ≠ some '\r' := by
  by_cases hlast : line.getLast? = some '\r'
  · obtain ⟨front, rfl⟩ := List.getLast?_eq_some_iff.mp hlast
    rw [dropCarriageReturn_append]
    exact Or.inl rfl
  · exact Or.inr ⟨dropCarriageReturn_of_getLast? hlast, hlast⟩

/-! ## Where lines stand -/

/-- A line can start behind this text. -/
def StartsLine (above : List Char) : Prop :=
  above = [] ∨ above.getLast? = some '\n'

/-- A text starts with the end of a line. -/
def EndsLine (below : List Char) : Prop :=
  ['\n'] <+: below ∨ ['\r', '\n'] <+: below

/-- A line of a text, with what stands above and below it. -/
structure LineAt (text above line below : List Char) : Prop where
  split : text = above ++ (line ++ below)
  starts : StartsLine above
  noFeed : '\n' ∉ line
  ends : below = [] ∧ line ≠ [] ∨ ['\n'] <+: below ∧ line.getLast? ≠ some '\r' ∨
    ['\r', '\n'] <+: below

theorem StartsLine.eq_nil {above : List Char} (h : StartsLine above) (hmem : '\n' ∉ above) :
    above = [] := by
  rcases h with rfl | hlast
  · rfl
  · exact absurd (List.mem_of_getLast? hlast) hmem

theorem StartsLine.append_feed {above : List Char} (h : StartsLine above) (line : List Char) :
    StartsLine (line ++ '\n' :: above) := by
  right
  rcases h with rfl | hlast
  · simp
  · rw [List.getLast?_append, List.getLast?_cons, hlast]
    rfl

theorem StartsLine.of_append_feed {line rest : List Char} (h : StartsLine (line ++ '\n' :: rest)) :
    StartsLine rest := by
  rcases h with hnil | hlast
  · simp at hnil
  · cases rest with
    | nil => exact Or.inl rfl
    | cons c rest =>
      rw [List.getLast?_append, List.getLast?_cons_cons, List.getLast?_cons] at hlast
      right
      rw [List.getLast?_cons]
      simpa using hlast

/-- The first line of a text in front of a line feed. -/
theorem lineAt_nil_iff {first rest line : List Char} (hfirst : '\n' ∉ first) :
    (∃ below, LineAt (first ++ '\n' :: rest) [] line below) ↔ dropCarriageReturn first = line := by
  constructor
  · rintro ⟨below, hsplit, -, hline, hends⟩
    rw [List.nil_append] at hsplit
    rcases hends with ⟨rfl, -⟩ | ⟨⟨tail, rfl⟩, hlast⟩ | ⟨tail, rfl⟩
    · rw [List.append_nil] at hsplit
      exact absurd (hsplit ▸ List.mem_append_right first List.mem_cons_self) hline
    · obtain ⟨rfl, -⟩ := Diagnostic.append_separator_inj hfirst hline hsplit
      exact dropCarriageReturn_of_getLast? hlast
    · have hline' : '\n' ∉ line ++ ['\r'] := by simpa using hline
      have hsplit' : first ++ '\n' :: rest = (line ++ ['\r']) ++ '\n' :: tail := by
        rw [hsplit, List.append_assoc]
        rfl
      obtain ⟨rfl, -⟩ := Diagnostic.append_separator_inj hfirst hline' hsplit'
      exact dropCarriageReturn_append line
  · rintro rfl
    rcases dropCarriageReturn_cases first with hreturn | ⟨hsame, hlast⟩
    · have hline : '\n' ∉ dropCarriageReturn first := by
        intro hmem
        rw [hreturn] at hfirst
        exact hfirst (List.mem_append_left _ hmem)
      refine ⟨'\r' :: '\n' :: rest, ?_, Or.inl rfl, hline, Or.inr (Or.inr ⟨rest, rfl⟩)⟩
      conv => lhs; rw [hreturn]
      simp
    · rw [hsame]
      exact ⟨'\n' :: rest, rfl, Or.inl rfl, hfirst, Or.inr (Or.inl ⟨⟨rest, rfl⟩, hlast⟩)⟩

/-- The further lines of a text with a line feed. -/
theorem lineAt_append_feed_iff {first rest above line below : List Char} (hfirst : '\n' ∉ first) :
    above ≠ [] ∧ LineAt (first ++ '\n' :: rest) above line below ↔
      ∃ above', above = first ++ '\n' :: above' ∧ LineAt rest above' line below := by
  constructor
  · rintro ⟨hne, hsplit, hstarts, hline, hends⟩
    have hmem : '\n' ∈ above := Decidable.by_contra fun hmem => hne (hstarts.eq_nil hmem)
    obtain ⟨front, above', rfl, hfront⟩ := List.eq_append_cons_of_mem hmem
    rw [List.append_assoc, List.cons_append] at hsplit
    obtain ⟨rfl, rfl⟩ := Diagnostic.append_separator_inj hfirst hfront hsplit
    exact ⟨above', rfl, rfl, hstarts.of_append_feed, hline, hends⟩
  · rintro ⟨above', rfl, hsplit, hstarts, hline, hends⟩
    refine ⟨by simp, ?_, hstarts.append_feed first, hline, hends⟩
    rw [hsplit, List.append_assoc, List.cons_append]

/-- The line with index `i` is the one with `i` line feeds above it. -/
theorem getElem?_lines_iff {text line : List Char} {i : Nat} :
    (lines text)[i]? = some line ↔ ∃ above below, LineAt text above line below ∧
      above.count '\n' = i := by
  induction text using line_induction generalizing i with
  | nil =>
    constructor
    · intro h
      cases h
    · rintro ⟨above, below, ⟨hsplit, -, -, hends⟩, -⟩
      simp only [List.nil_eq, List.append_eq_nil_iff] at hsplit
      obtain ⟨-, rfl, rfl⟩ := hsplit
      simp at hends
  | last text htext hne =>
    rw [lines_of_not_mem htext hne]
    constructor
    · intro h
      obtain ⟨rfl, rfl⟩ : i = 0 ∧ text = line := by
        cases i with
        | zero => exact ⟨rfl, Option.some.inj h⟩
        | succ i => cases h
      exact ⟨[], [], ⟨by simp, Or.inl rfl, htext, Or.inl ⟨rfl, hne⟩⟩, rfl⟩
    · rintro ⟨above, below, ⟨hsplit, hstarts, hline, hends⟩, rfl⟩
      -- there is no line feed, so nothing stands above and the line ends with the text
      have habove : above = [] := by
        refine hstarts.eq_nil fun hmem => htext ?_
        rw [hsplit]
        exact List.mem_append_left _ hmem
      have hbelow : '\n' ∉ below := by
        intro hmem
        refine htext ?_
        rw [hsplit]
        exact List.mem_append_right _ (List.mem_append_right _ hmem)
      rcases hends with ⟨rfl, -⟩ | ⟨⟨tail, rfl⟩, -⟩ | ⟨tail, rfl⟩
      · rw [hsplit, habove]
        simp
      · simp at hbelow
      · simp at hbelow
  | feed first rest hfirst ih =>
    rw [lines_append_feed hfirst]
    have hcount : ∀ above, (first ++ '\n' :: above).count '\n' = above.count '\n' + 1 := by
      intro above
      rw [List.count_append, List.count_eq_zero.mpr hfirst, List.count_cons_self, Nat.zero_add]
    cases i with
    | zero =>
      rw [List.getElem?_cons_zero, Option.some.injEq, ← lineAt_nil_iff hfirst]
      constructor
      · rintro ⟨below, h⟩
        exact ⟨[], below, h, rfl⟩
      · rintro ⟨above, below, h, hzero⟩
        obtain rfl := h.starts.eq_nil (List.count_eq_zero.mp hzero)
        exact ⟨below, h⟩
    | succ i =>
      rw [List.getElem?_cons_succ, ih]
      constructor
      · rintro ⟨above, below, h, rfl⟩
        have hline := (lineAt_append_feed_iff hfirst).mpr ⟨above, rfl, h⟩
        exact ⟨_, below, hline.2, hcount above⟩
      · rintro ⟨above, below, h, hsucc⟩
        have hne : above ≠ [] := by
          rintro rfl
          cases hsucc
        obtain ⟨above', rfl, h'⟩ := (lineAt_append_feed_iff hfirst).mp ⟨hne, h⟩
        rw [hcount] at hsucc
        exact ⟨above', below, h', Nat.succ.inj hsucc⟩

theorem not_mem_of_getElem?_lines {text line : List Char} {i : Nat}
    (h : (lines text)[i]? = some line) : '\n' ∉ line := by
  obtain ⟨_, _, hline, -⟩ := getElem?_lines_iff.mp h
  exact hline.noFeed

/-! ## Adding lines -/

/-- Behind the end of a line more lines can be added. The last line can lose a carriage return. -/
theorem lines_append_cases {text more : List Char} (h : StartsLine text ∨ EndsLine more) :
    lines text = [] ∨ ∃ front last last' tail, lines text = front ++ [last] ∧
      lines (text ++ more) = front ++ last' :: tail ∧
        (last' = last ∨ last' = dropCarriageReturn last) := by
  induction text using line_induction with
  | nil => exact Or.inl rfl
  | last text htext hne =>
    right
    have hends : EndsLine more := h.resolve_left fun hstarts => hne (hstarts.eq_nil htext)
    rcases hends with ⟨tail, rfl⟩ | ⟨tail, rfl⟩
    · refine ⟨[], text, _, lines tail, lines_of_not_mem htext hne, ?_, Or.inr rfl⟩
      exact lines_append_feed htext tail
    · refine ⟨[], text, text, lines tail, lines_of_not_mem htext hne, ?_, Or.inl rfl⟩
      have hfeed : '\n' ∉ text ++ ['\r'] := by simpa using htext
      have hlines := lines_append_feed hfeed tail
      rw [dropCarriageReturn_append, List.append_assoc] at hlines
      exact hlines
  | feed first rest hfirst ih =>
    right
    rw [List.append_assoc, List.cons_append, lines_append_feed hfirst, lines_append_feed hfirst]
    rcases ih (h.imp_left StartsLine.of_append_feed) with
      hnil | ⟨front, last, last', tail, hold, hnew, hlast⟩
    · exact ⟨[], _, _, _, by rw [hnil]; rfl, rfl, Or.inl rfl⟩
    · exact ⟨_ :: front, last, last', tail, by rw [hold]; rfl, by rw [hnew]; rfl, hlast⟩

end ModLint.Text
