import ModLint.Fix.Action
import ModLint.Proofs.Lookup

/-!
# The place of the inserted keyword

The keyword gets a place that is summed up from numbers of the dump. Where these are near the end of
the machine words, the sums do not fit: a build without checks goes on with wrapped numbers, one
with checks stops. Nothing else about the fix depends on the build.
-/

namespace ModLint

namespace Word

variable {a b : Nat}

theorem add_of_lt (h : a + b < size) (overflow : Overflow) : add overflow a b = .ok (a + b) := by
  cases overflow with
  | wraps =>
    rw [add, Nat.mod_eq_of_lt h]
    rfl
  | stops =>
    rw [add, if_pos h]
    rfl

theorem add_stops_of_le (h : size ≤ a + b) : add .stops a b = .error .overflow := by
  rw [add, if_neg (Nat.not_lt.mpr h)]
  rfl

theorem sub_of_le (hle : b ≤ a) (ha : a < size) (overflow : Overflow) :
    sub overflow a b = .ok (a - b) := by
  cases overflow with
  | wraps =>
    have hsum : a + (size - b) = a - b + size := by omega
    rw [sub, hsum, Nat.add_mod_right, Nat.mod_eq_of_lt (by omega)]
    rfl
  | stops =>
    rw [sub, if_pos hle]
    rfl

/-- The only fault of a sum is that it does not fit. -/
theorem add_eq_error {overflow : Overflow} {fault : Fault} (h : add overflow a b = .error fault) :
    overflow = .stops ∧ fault = .overflow := by
  cases overflow with
  | wraps => cases h
  | stops =>
    by_cases hfits : a + b < size
    · rw [add_of_lt hfits] at h
      cases h
    · rw [add_stops_of_le (Nat.not_lt.mp hfits)] at h
      cases h
      exact ⟨rfl, rfl⟩

theorem sub_eq_error {overflow : Overflow} {fault : Fault} (h : sub overflow a b = .error fault) :
    overflow = .stops ∧ fault = .overflow := by
  cases overflow with
  | wraps => cases h
  | stops =>
    by_cases hle : b ≤ a
    · rw [sub, if_pos hle] at h
      cases h
    · rw [sub, if_neg hle] at h
      cases h
      exact ⟨rfl, rfl⟩

end Word

namespace MakeStatic

/-- An edit that inserts the keyword and a blank, in one of the two orders. -/
def Inserts (edit : TextEdit) : Prop :=
  edit = .insert edit.start "static " ∨ edit = .insert edit.start " static"

/-- The keyword that an edit inserts ends inside the machine words, both in bytes and in columns. -/
structure KeywordFits (edit : TextEdit) (node : Span) : Prop where
  bytes : edit.start + 7 < Word.size
  columns : node.startColumn + 6 < Word.size

/-- How many bytes of an insertion stand in front of the keyword. -/
def blankWidth (edit : TextEdit) : Nat :=
  edit.replacement.utf8ByteSize -
    (String.ofList (Text.trimStart edit.replacement.toList)).utf8ByteSize

/-- The keyword where an edit inserts it, with sums of any size. -/
def insertedKeyword (edit : TextEdit) (node : Span) : Modifier :=
  let start := edit.start + blankWidth edit
  { text := keyword
    span :=
      { startByte := start, endByte := start + 6, startLine := node.startLine
        startColumn := node.startColumn, endLine := node.startLine
        endColumn := node.startColumn + 6 }
    trailingTrivia := " " }

variable {edit : TextEdit} {span : Span} {overflow : Overflow} {modifier : Modifier}

/-! ## The modifier -/

theorem modifierOf_text (h : modifierOf overflow edit span = .ok modifier) :
    modifier.text = "static" ∧ modifier.leadingTrivia = "" := by
  unfold modifierOf at h
  obtain ⟨stop, -, h⟩ := lookup_bind_eq_ok.mp h
  obtain ⟨start, -, h⟩ := lookup_bind_eq_ok.mp h
  obtain ⟨endByte, -, h⟩ := lookup_bind_eq_ok.mp h
  obtain ⟨endColumn, -, h⟩ := lookup_bind_eq_ok.mp h
  cases h
  exact ⟨rfl, rfl⟩

theorem modifierOf_eq_error {fault : Fault} (h : modifierOf overflow edit span = .error fault) :
    overflow = .stops ∧ fault = .overflow := by
  unfold modifierOf at h
  rcases lookup_bind_eq_error h with h | ⟨stop, -, h⟩
  · exact Word.add_eq_error h
  rcases lookup_bind_eq_error h with h | ⟨start, -, h⟩
  · exact Word.sub_eq_error h
  rcases lookup_bind_eq_error h with h | ⟨endByte, -, h⟩
  · exact Word.add_eq_error h
  rcases lookup_bind_eq_error h with h | ⟨endColumn, -, h⟩
  · exact Word.add_eq_error h
  cases h

section Insertion

variable (hinsert : Inserts edit)

include hinsert

theorem Inserts.replacement : edit.replacement = "static " ∨ edit.replacement = " static" := by
  rcases hinsert with hinsert | hinsert
  · exact Or.inl (congrArg TextEdit.replacement hinsert)
  · exact Or.inr (congrArg TextEdit.replacement hinsert)

theorem Inserts.utf8ByteSize : edit.replacement.utf8ByteSize = 7 := by
  rcases hinsert.replacement with h | h <;> rw [h] <;> decide

theorem Inserts.blankWidth_le : blankWidth edit ≤ 1 ∧
    (String.ofList (Text.trimStart edit.replacement.toList)).utf8ByteSize =
      7 - blankWidth edit := by
  rcases hinsert.replacement with h | h <;> rw [blankWidth, h] <;> decide

/-- The sums that are left once the bytes fit: only the last column may be too large. -/
theorem modifierOf_eq (hbytes : edit.start + 7 < Word.size) :
    modifierOf overflow edit span = (do
      let endColumn ← Word.add overflow span.startColumn 6
      return { insertedKeyword edit span with
        span := { (insertedKeyword edit span).span with endColumn } }) := by
  obtain ⟨hblank, hword⟩ := hinsert.blankWidth_le
  have hsize : keyword.utf8ByteSize = 6 := by decide
  have hstart : edit.start + 7 - (7 - blankWidth edit) = edit.start + blankWidth edit := by omega
  have hstop : edit.start + blankWidth edit + 6 < Word.size := by omega
  unfold modifierOf
  dsimp only
  rw [hinsert.utf8ByteSize, hword, hsize, Word.add_of_lt hbytes]
  change (Word.sub overflow (edit.start + 7) (7 - blankWidth edit) >>= _) = _
  rw [Word.sub_of_le (by omega) hbytes, hstart]
  change (Word.add overflow (edit.start + blankWidth edit) 6 >>= _) = _
  rw [Word.add_of_lt hstop]
  rfl

/-- Where the bytes fit, the keyword stands behind the blanks of the insertion. -/
theorem modifierOf_bytes (hbytes : edit.start + 7 < Word.size)
    (h : modifierOf overflow edit span = .ok modifier) :
    modifier.span.startByte = edit.start + blankWidth edit ∧
      modifier.span.endByte = edit.start + blankWidth edit + 6 := by
  rw [modifierOf_eq hinsert hbytes] at h
  obtain ⟨endColumn, -, h⟩ := lookup_bind_eq_ok.mp h
  cases h
  exact ⟨rfl, rfl⟩

/-- Where the keyword does not fit, a build with checks stops. -/
theorem modifierOf_stops (hfits : ¬ KeywordFits edit span) :
    modifierOf .stops edit span = .error .overflow := by
  by_cases hbytes : edit.start + 7 < Word.size
  · have hcolumns : ¬ span.startColumn + 6 < Word.size := fun h => hfits ⟨hbytes, h⟩
    rw [modifierOf_eq hinsert hbytes, Word.add_stops_of_le (Nat.not_lt.mp hcolumns)]
    rfl
  · unfold modifierOf
    rw [hinsert.utf8ByteSize, Word.add_stops_of_le (Nat.not_lt.mp hbytes)]
    rfl

/-- A build with checks has made sure that the bytes fit. -/
theorem start_lt_of_modifierOf (h : modifierOf overflow edit span = .ok modifier)
    (hwraps : overflow = .wraps → edit.start + 7 < Word.size) : edit.start + 7 < Word.size := by
  cases overflow with
  | wraps => exact hwraps rfl
  | stops =>
    refine Decidable.byContradiction fun hbytes => ?_
    rw [modifierOf_stops hinsert fun hfits => hbytes hfits.bytes] at h
    cases h

end Insertion

/-! ## The node -/

theorem methodEdit_inserts {modifiers : List Modifier} {modifiersStart : Option Nat} {place : Nat}
    (h : methodEdit modifiers modifiersStart = some (place, edit)) : Inserts edit := by
  unfold methodEdit at h
  dsimp only at h
  split at h
  · cases h
    exact Or.inr rfl
  · obtain ⟨start, -, heq⟩ := Option.map_eq_some_iff.mp h
    cases heq
    exact Or.inl rfl

/-- A method has a place for the keyword if it has a modifier or is told where modifiers start. -/
theorem methodEdit_isSome {modifiers : List Modifier} {modifiersStart : Option Nat} :
    (methodEdit modifiers modifiersStart).isSome =
      (modifiersStart.isSome || !modifiers.isEmpty) := by
  unfold methodEdit
  dsimp only
  split
  · rename_i last hlast
    -- there is a modifier before the place
    have hne : modifiers.isEmpty = false := by
      cases modifiers with
      | nil => cases hlast
      | cons => rfl
    rw [hne]
    simp
  · cases modifiers <;> cases modifiersStart <;> rfl

/-- What a function becomes, and the edit that does the same to its source. -/
inductive Fixes (overflow : Overflow) (node : SyntaxNode) : SyntaxNode → TextEdit → Prop where
  | method {name : String} {modifiers : List Modifier} {modifiersStart : Option Nat}
    {symbol : Option MethodId} {parameters : List NodeId} {body : Option NodeId} {place : Nat}
    {edit : TextEdit} {modifier : Modifier}
    (hkind : node.kind = .method name modifiers modifiersStart symbol parameters body)
    (hstatic : isStatic modifiers = false)
    (hedit : methodEdit modifiers modifiersStart = some (place, edit))
    (hmodifier : modifierOf overflow edit node.span = .ok modifier) :
    Fixes overflow node
      { node with
        kind := .method name ((modifiers.insertIdx place modifier).map normalized) modifiersStart
          symbol parameters body }
      edit
  | anonymousFunction {form : FunctionSyntax} {modifiers : List Modifier}
    {parameters : List NodeId} {body : NodeId} {symbol : Option MethodId} {modifier : Modifier}
    (hkind : node.kind = .anonymousFunction form modifiers parameters body symbol)
    (hstatic : isStatic modifiers = false)
    (hmodifier : modifierOf overflow (.insert node.span.startByte "static ") node.span =
      .ok modifier) :
    Fixes overflow node
      { node with
        leadingTrivia := ""
        kind := .anonymousFunction form
          ({ modifier with leadingTrivia := node.leadingTrivia } :: modifiers) parameters body
          symbol }
      (.insert node.span.startByte "static ")

theorem Fixes.inserts {node fixed : SyntaxNode} (h : Fixes overflow node fixed edit) :
    Inserts edit := by
  cases h with
  | method hkind hstatic hedit hmodifier => exact methodEdit_inserts hedit
  | anonymousFunction => exact Or.inl rfl

/-- What is computed at a node that has a place for the keyword: the modifier, which may not fit,
and then a node and an edit that the build has no part in. -/
theorem fixedNode_of_isOpen {node : SyntaxNode} (hopen : CodeAction.isOpen node.kind = true) :
    ∃ (edit : TextEdit) (make : Modifier → SyntaxNode), Inserts edit ∧
      (∀ overflow modifier, modifierOf overflow edit node.span = .ok modifier →
        Fixes overflow node (make modifier) edit) ∧
      ∀ overflow, fixedNode overflow node =
        (do return some (make (← modifierOf overflow edit node.span), edit)) := by
  cases hkind : node.kind with
  | method name modifiers modifiersStart symbol parameters body =>
    rw [hkind, CodeAction.isOpen, ← methodEdit_isSome, Bool.and_eq_true, Bool.not_eq_true'] at hopen
    obtain ⟨⟨place, edit⟩, hedit⟩ := Option.isSome_iff_exists.mp hopen.2
    refine ⟨edit, _, methodEdit_inserts hedit,
      fun overflow modifier hmodifier => .method hkind hopen.1 hedit hmodifier, ?_⟩
    intro overflow
    simp only [fixedNode, hkind, hopen.1, hedit, Bool.false_eq_true, if_false]
  | anonymousFunction form modifiers parameters body symbol =>
    rw [hkind, CodeAction.isOpen, Bool.not_eq_true'] at hopen
    refine ⟨_, _, Or.inl rfl,
      fun overflow modifier hmodifier => .anonymousFunction hkind hopen hmodifier, ?_⟩
    intro overflow
    simp only [fixedNode, hkind, hopen, Bool.false_eq_true, if_false]
  | _ =>
    rw [hkind] at hopen
    cases hopen

theorem fixedNode_of_not_isOpen {node : SyntaxNode} (hclosed : CodeAction.isOpen node.kind = false)
    (overflow : Overflow) : fixedNode overflow node = .ok none := by
  unfold fixedNode
  cases hkind : node.kind with
  | method name modifiers modifiersStart symbol parameters body =>
    rw [hkind, CodeAction.isOpen, ← methodEdit_isSome] at hclosed
    by_cases hstatic : isStatic modifiers = true
    · simp only [hstatic, if_true]
      rfl
    · have hnone : methodEdit modifiers modifiersStart = none := by simpa [hstatic] using hclosed
      simp only [hstatic, hnone]
      rfl
  | anonymousFunction form modifiers parameters body symbol =>
    have hstatic : isStatic modifiers = true := by simpa [hkind, CodeAction.isOpen] using hclosed
    simp only [hstatic, if_true]
    rfl
  | _ => rfl

theorem fixes_of_fixedNode {node fixed : SyntaxNode}
    (h : fixedNode overflow node = .ok (some (fixed, edit))) :
    CodeAction.isOpen node.kind = true ∧ Fixes overflow node fixed edit := by
  by_cases hopen : CodeAction.isOpen node.kind = true
  · obtain ⟨edit', make, -, hfixes, hnode⟩ := fixedNode_of_isOpen hopen
    rw [hnode] at h
    obtain ⟨modifier, hmodifier, h⟩ := lookup_bind_eq_ok.mp h
    cases h
    exact ⟨hopen, hfixes overflow modifier hmodifier⟩
  · rw [fixedNode_of_not_isOpen (by simpa using hopen)] at h
    cases h

/-- The only fault at a node is that the keyword does not fit. -/
theorem fixedNode_eq_error {node : SyntaxNode} {fault : Fault}
    (h : fixedNode overflow node = .error fault) : overflow = .stops ∧ fault = .overflow := by
  by_cases hopen : CodeAction.isOpen node.kind = true
  · obtain ⟨edit, make, -, -, hnode⟩ := fixedNode_of_isOpen hopen
    rw [hnode] at h
    rcases lookup_bind_eq_error h with h | ⟨modifier, -, h⟩
    · exact modifierOf_eq_error h
    · cases h
  · rw [fixedNode_of_not_isOpen (by simpa using hopen)] at h
    cases h

end MakeStatic

end ModLint
