import ModLint.Proofs.SourceEdit
import ModLint.Proofs.StaticFrame

/-!
# The edit and the program agree

Making a function static changes a list of modifiers in the program and a text in the source. The
place in the list is a number of modifiers, the place in the text a number of bytes, which comes
from the end of a modifier, the start of one, or the start of the function. If the modifiers stand
in the text where the program has them, then in the edited text the keyword stands where the program
has it, and all modifiers can be read, from left to right, in the order of the new list.
-/

namespace ModLint

open String (utf8Len)

/-! ## Reading around an insertion -/

namespace Text

/-- Of two ways to cut a text, the one that takes fewer bytes cuts the start of the other. -/
theorem exists_rest_of_utf8Len_le {a b c d : List Char} (h : a ++ b = c ++ d)
    (hle : utf8Len a ≤ utf8Len c) : ∃ rest, c = a ++ rest ∧ b = rest ++ d := by
  rcases List.append_eq_append_iff.mp h with ⟨rest, hc, hb⟩ | ⟨rest, ha, hd⟩
  · exact ⟨rest, hc, hb⟩
  · have hlength := congrArg utf8Len ha
    rw [String.utf8Len_append] at hlength
    have hnil : rest = [] := String.utf8Len_eq_zero.mp (by omega)
    rw [hnil, List.append_nil] at ha
    rw [hnil, List.nil_append] at hd
    exact ⟨[], by rw [ha, List.append_nil], hd.symm⟩

variable {start stop : Nat} {head tail middle : List Char}

theorem slice?_insert_of_le (inserted : List Char)
    (h : slice? start stop (head ++ tail) = some middle) (hstop : stop ≤ utf8Len head) :
    slice? start stop (head ++ inserted ++ tail) = some middle := by
  obtain ⟨before, after, hsplit, hstart, hlength⟩ := slice?_eq_some_iff.mp h
  have hle : utf8Len (before ++ middle) ≤ utf8Len head := by
    rw [String.utf8Len_append]
    omega
  rw [← List.append_assoc] at hsplit
  obtain ⟨rest, rfl, -⟩ := exists_rest_of_utf8Len_le hsplit.symm hle
  exact slice?_eq_some_iff.mpr ⟨before, rest ++ inserted ++ tail, by simp, hstart, hlength⟩

theorem slice?_insert_of_ge (inserted : List Char)
    (h : slice? start stop (head ++ tail) = some middle) (hstart : utf8Len head ≤ start) :
    slice? (start + utf8Len inserted) (stop + utf8Len inserted) (head ++ inserted ++ tail) =
      some middle := by
  obtain ⟨before, after, hsplit, hbefore, hlength⟩ := slice?_eq_some_iff.mp h
  obtain ⟨rest, rfl, rfl⟩ := exists_rest_of_utf8Len_le hsplit (hbefore ▸ hstart)
  rw [String.utf8Len_append] at hbefore hlength
  refine slice?_eq_some_iff.mpr ⟨head ++ inserted ++ rest, after, by simp, ?_, ?_⟩
  · rw [String.utf8Len_append, String.utf8Len_append]
    omega
  · rw [String.utf8Len_append, String.utf8Len_append]
    omega

end Text

/-! ## Modifiers in a text -/

namespace Modifier

/-- What a modifier says and where it stands. -/
def token (modifier : Modifier) : String × Span :=
  (modifier.text, modifier.span)

theorem map_text_of_map_token {xs ys : List Modifier} (h : xs.map token = ys.map token) :
    xs.map text = ys.map text := by
  simpa [token, Function.comp_def] using congrArg (List.map Prod.fst) h

/-- A text has a modifier at its place. -/
def ReadsIn (modifier : Modifier) (text : String) : Prop :=
  Text.slice? modifier.span.startByte modifier.span.endByte text.toList =
    some modifier.text.toList

/-- A modifier at its place after an edit: it stays if it ends before the edit or where that starts,
and else it gives way to the replacement. -/
def movedBy (edit : TextEdit) (modifier : Modifier) : Modifier :=
  if modifier.span.endByte ≤ edit.start then modifier
  else
    { modifier with
      span :=
        { modifier.span with
          startByte := modifier.span.startByte + utf8Len edit.replacement.toList
          endByte := modifier.span.endByte + utf8Len edit.replacement.toList } }

@[simp] theorem text_movedBy (edit : TextEdit) (modifier : Modifier) :
    (modifier.movedBy edit).text = modifier.text := by
  unfold movedBy
  split <;> rfl

/-- The order in which modifiers stand in a text. -/
def startsBy (a b : Modifier) : Bool :=
  a.span.startByte ≤ b.span.startByte

/-- Modifiers that stand one behind the other do so after an edit. -/
theorem movedBy_start_lt (edit : TextEdit) {a b : Modifier}
    (ha : a.span.startByte < a.span.endByte) (hb : b.span.startByte < b.span.endByte)
    (hab : a.span.endByte ≤ b.span.startByte) :
    (a.movedBy edit).span.startByte < (b.movedBy edit).span.startByte := by
  unfold movedBy
  by_cases hkept : b.span.endByte ≤ edit.start
  · rw [if_pos (by omega), if_pos hkept]
    omega
  · rw [if_neg hkept]
    split <;> dsimp only <;> omega

/-- A list in which the modifiers start one after the other is the sorted form of all its
permutations. -/
theorem mergeSort_eq_of_perm {xs ys : List Modifier} (hperm : xs.Perm ys)
    (hys : ys.Pairwise fun a b => a.span.startByte < b.span.startByte) :
    xs.mergeSort startsBy = ys := by
  have hnodup : (ys.map fun m => m.span.startByte).Nodup :=
    (List.pairwise_map.mpr hys).imp fun hlt => Nat.ne_of_lt hlt
  have hsorted : (xs.mergeSort startsBy).Pairwise fun a b => startsBy a b = true := by
    refine List.pairwise_mergeSort ?_ ?_ xs
    · intro a b c hab hbc
      simp only [startsBy, decide_eq_true_eq] at hab hbc ⊢
      omega
    · intro a b
      simp only [startsBy, Bool.or_eq_true, decide_eq_true_eq]
      omega
  have hall : (xs.mergeSort startsBy).Perm ys := (List.mergeSort_perm xs startsBy).trans hperm
  refine List.Perm.eq_of_pairwise ?_ hsorted (hys.imp fun hlt => ?_) hall
  · intro a b ha hb hab hba
    simp only [startsBy, decide_eq_true_eq] at hab hba
    exact List.inj_on_of_nodup_map hnodup (hall.mem_iff.mp ha) hb (by omega)
  · simp only [startsBy, decide_eq_true_eq]
    omega

end Modifier

/-- The modifiers of a node are not empty, stand one behind the other in their order and, in an
anonymous function, not before its start. -/
structure SyntaxNode.Placed (node : SyntaxNode) (modifiers : List Modifier) : Prop where
  nonempty : ∀ modifier ∈ modifiers, modifier.span.startByte < modifier.span.endByte
  inOrder : modifiers.Pairwise fun a b => a.span.endByte ≤ b.span.startByte
  inside : ∀ form own parameters body symbol,
    node.kind = .anonymousFunction form own parameters body symbol →
      ∀ modifier ∈ modifiers, node.span.startByte ≤ modifier.span.startByte

namespace MakeStatic

/-! ## The place of the keyword -/

/-- The place of an edit in a text and a place in a list of modifiers are the same. -/
structure Divides (edit : TextEdit) (before after : List Modifier) : Prop where
  before : ∀ modifier ∈ before, modifier.span.endByte ≤ edit.start
  after : ∀ modifier ∈ after, edit.start ≤ modifier.span.startByte

variable {node fixed : SyntaxNode} {edit : TextEdit} {modifiers : List Modifier}

theorem methodEdit_divides {modifiersStart : Option Nat} {place : Nat}
    (h : methodEdit modifiers modifiersStart = some (place, edit))
    (hplaced : node.Placed modifiers) :
    ∃ before after, modifiers = before ++ after ∧ before.length = place ∧
      Divides edit before after := by
  obtain ⟨before, after, hmodifiers, hlength, -⟩ := accessibilityLength_ends modifiers
  obtain ⟨hnonempty, hinOrder, -⟩ := hplaced
  rw [methodEdit, ← hlength, hmodifiers, List.take_left] at h
  rw [hmodifiers] at hnonempty hinOrder
  split at h
  · rename_i last hlast
    cases h
    obtain ⟨front, rfl⟩ := List.getLast?_eq_some_iff.mp hlast
    refine ⟨front ++ [last], after, hmodifiers, rfl, ?_, ?_⟩
    · intro modifier hmem
      rcases List.mem_append.mp hmem with hfront | hlast
      · have hle := (List.pairwise_append.mp (List.pairwise_append.mp hinOrder).1).2.2 modifier
          hfront last (by simp)
        have hlt := hnonempty last (by simp)
        exact hle.trans hlt.le
      · obtain rfl := List.mem_singleton.mp hlast
        exact Nat.le_refl _
    · intro modifier hmem
      exact (List.pairwise_append.mp hinOrder).2.2 last (by simp) modifier hmem
  · rename_i hnone
    obtain rfl := List.getLast?_eq_none_iff.mp hnone
    obtain ⟨start, hstart, h⟩ := Option.map_eq_some_iff.mp h
    cases h
    refine ⟨[], after, hmodifiers, rfl, by simp, ?_⟩
    intro modifier hmem
    rw [List.nil_append] at hnonempty hinOrder hstart
    cases after with
    | nil => cases hmem
    | cons first rest =>
      cases hstart
      rcases List.mem_cons.mp hmem with rfl | hrest
      · exact Nat.le_refl _
      · have hle := (List.pairwise_cons.mp hinOrder).1 modifier hrest
        have hlt := hnonempty first List.mem_cons_self
        exact hlt.le.trans hle

theorem map_token_normalized (modifiers : List Modifier) :
    (modifiers.map normalized).map Modifier.token = modifiers.map Modifier.token := by
  rw [List.map_map]
  refine List.map_congr_left fun modifier _ => ?_
  have htidied := normalized_tidied modifier
  exact congrArg₂ Prod.mk htidied.text htidied.span

/-- The keyword goes to one place in the list and in the text. -/
theorem Fixes.divides {overflow : Overflow} (h : Fixes overflow node fixed edit)
    (hmodifiers : node.kind.modifiers? = some modifiers) (hplaced : node.Placed modifiers) :
    ∃ before after before' after' keyword modifier, modifiers = before ++ after ∧
      Divides edit before after ∧
      fixed.kind.modifiers? = some (before' ++ keyword :: after') ∧
      before'.map Modifier.token = before.map Modifier.token ∧
      after'.map Modifier.token = after.map Modifier.token ∧
      modifierOf overflow edit node.span = .ok modifier ∧ keyword.token = modifier.token := by
  cases h with
  | @method _ _ _ _ _ _ _ _ modifier hkind hstatic hedit hmodifier =>
    rw [hkind] at hmodifiers
    cases hmodifiers
    obtain ⟨before, after, rfl, rfl, hdivides⟩ := methodEdit_divides hedit hplaced
    have htidied := normalized_tidied modifier
    refine ⟨before, after, before.map normalized, after.map normalized, normalized modifier,
      modifier, rfl, hdivides, ?_, map_token_normalized before, map_token_normalized after,
      hmodifier, congrArg₂ Prod.mk htidied.text htidied.span⟩
    rw [insertIdx_length, List.map_append, List.map_cons]
    rfl
  | anonymousFunction hkind hstatic hmodifier =>
    have hinside := hplaced.inside _ _ _ _ _ hkind
    rw [hkind] at hmodifiers
    cases hmodifiers
    exact ⟨[], modifiers, [], modifiers, _, _, rfl, ⟨by simp, hinside⟩, rfl, rfl, rfl, hmodifier,
      rfl⟩

/-! ## The keyword in the text -/

/-- The insertion of an edit in a text: blanks, the keyword, blanks. -/
theorem exists_around_keyword (hinsert : Inserts edit) {old new : String}
    (hedit : edit.apply old = some new) :
    ∃ head tail, new.toList = head ++ "static".toList ++ tail ∧
      utf8Len head = edit.start + blankWidth edit ∧ edit.start + 7 ≤ utf8Len new.toList := by
  have hlengths : utf8Len "static ".toList = 7 ∧ utf8Len " static".toList = 7 ∧
      utf8Len " ".toList = 1 := by decide
  have hsplits : "static ".toList = "static".toList ++ " ".toList ∧
      " static".toList = " ".toList ++ "static".toList := by decide
  obtain ⟨hfirst, hbehind, hblank⟩ := hlengths
  rcases hinsert with hinsert | hinsert
  · have hreplacement : edit.replacement = "static " := congrArg TextEdit.replacement hinsert
    have hwidth : blankWidth edit = 0 := by
      rw [blankWidth, hreplacement]
      decide
    rw [hinsert] at hedit
    obtain ⟨head, tail, -, hposition, hnew⟩ := TextEdit.apply_insert_eq_some_iff.mp hedit
    refine ⟨head, " ".toList ++ tail, ?_, by rw [hposition, hwidth]; rfl, ?_⟩
    · rw [hnew, hsplits.1]
      simp only [List.append_assoc]
    · rw [hnew, String.utf8Len_append, String.utf8Len_append, hposition, hfirst]
      omega
  · have hreplacement : edit.replacement = " static" := congrArg TextEdit.replacement hinsert
    have hwidth : blankWidth edit = 1 := by
      rw [blankWidth, hreplacement]
      decide
    rw [hinsert] at hedit
    obtain ⟨head, tail, -, hposition, hnew⟩ := TextEdit.apply_insert_eq_some_iff.mp hedit
    refine ⟨head ++ " ".toList, tail, ?_, ?_, ?_⟩
    · rw [hnew, hsplits.2]
      simp only [List.append_assoc]
    · rw [String.utf8Len_append, hposition, hblank, hwidth]
    · rw [hnew, String.utf8Len_append, String.utf8Len_append, hposition, hbehind]
      omega

/-- After the edit the text has the keyword where the program has it. -/
theorem modifierOf_readsIn (hinsert : Inserts edit) {overflow : Overflow} {span : Span}
    {modifier : Modifier} (hbytes : edit.start + 7 < Word.size)
    (hmodifier : modifierOf overflow edit span = .ok modifier) {old new : String}
    (hedit : edit.apply old = some new) : modifier.ReadsIn new := by
  obtain ⟨hstart, hend⟩ := modifierOf_bytes hinsert hbytes hmodifier
  obtain ⟨head, tail, hnew, hhead, -⟩ := exists_around_keyword hinsert hedit
  have hkeyword : utf8Len "static".toList = 6 := by decide
  rw [Modifier.ReadsIn, hstart, hend, hnew, ← hhead, (modifierOf_text hmodifier).1]
  exact Text.slice?_eq_some_iff.mpr ⟨head, tail, by simp, rfl, by rw [hkeyword]⟩

/-- A modifier that stands on one side of the edit can be read after it, where it was or moved. -/
theorem movedBy_readsIn (hinsert : edit = .insert edit.start edit.replacement) {old new : String}
    (hedit : edit.apply old = some new) {modifier : Modifier} (hreads : modifier.ReadsIn old)
    (hside : modifier.span.endByte ≤ edit.start ∨ edit.start ≤ modifier.span.startByte) :
    (modifier.movedBy edit).ReadsIn new := by
  rw [hinsert] at hedit
  obtain ⟨head, tail, hold, hposition, hnew⟩ := TextEdit.apply_insert_eq_some_iff.mp hedit
  unfold Modifier.ReadsIn at hreads ⊢
  rw [hold] at hreads
  rw [hnew]
  by_cases hkept : modifier.span.endByte ≤ edit.start
  · rw [Modifier.movedBy, if_pos hkept]
    exact Text.slice?_insert_of_le _ hreads (by omega)
  · rw [Modifier.movedBy, if_neg hkept]
    exact Text.slice?_insert_of_ge _ hreads (by omega)

/-- The order in the list is the order in the text after the edit. -/
theorem Divides.listing_eq {before after : List Modifier} {keyword : Modifier}
    (h : Divides edit before after) (hplaced : node.Placed (before ++ after))
    (hstart : edit.start ≤ keyword.span.startByte)
    (hstop : keyword.span.startByte < edit.start + utf8Len edit.replacement.toList) :
    (keyword :: (before ++ after).map (Modifier.movedBy edit)).mergeSort Modifier.startsBy =
      before.map (Modifier.movedBy edit) ++ keyword :: after.map (Modifier.movedBy edit) := by
  refine Modifier.mergeSort_eq_of_perm ?_ ?_
  · rw [List.map_append]
    exact List.perm_middle.symm
  · have hmoved : ((before ++ after).map (Modifier.movedBy edit)).Pairwise
        fun a b => a.span.startByte < b.span.startByte := by
      refine List.pairwise_map.mpr (hplaced.inOrder.imp_of_mem fun ha hb hab => ?_)
      exact Modifier.movedBy_start_lt edit (hplaced.nonempty _ ha) (hplaced.nonempty _ hb) hab
    rw [List.map_append] at hmoved
    obtain ⟨hbefore, hafter, hacross⟩ := List.pairwise_append.mp hmoved
    -- the keyword starts behind what stays and before what gives way
    have hleft : ∀ a ∈ before.map (Modifier.movedBy edit),
        a.span.startByte < keyword.span.startByte := by
      intro a ha
      obtain ⟨modifier, hmem, rfl⟩ := List.mem_map.mp ha
      have hkept := h.before modifier hmem
      have hnonempty := hplaced.nonempty modifier (List.mem_append_left _ hmem)
      rw [Modifier.movedBy, if_pos hkept]
      omega
    have hright : ∀ b ∈ after.map (Modifier.movedBy edit),
        keyword.span.startByte < b.span.startByte := by
      intro b hb
      obtain ⟨modifier, hmem, rfl⟩ := List.mem_map.mp hb
      have hbehind := h.after modifier hmem
      have hnonempty := hplaced.nonempty modifier (List.mem_append_right _ hmem)
      rw [Modifier.movedBy, if_neg (by omega)]
      dsimp only
      omega
    refine List.pairwise_append.mpr ⟨hbefore, List.pairwise_cons.mpr ⟨hright, hafter⟩, ?_⟩
    intro a ha b hb
    rcases List.mem_cons.mp hb with rfl | hb
    · exact hleft a ha
    · exact hacross a ha b hb

/-- Whatever function is made static, and whatever text has its modifiers where the program has
them: after the edit the keyword can be read where the new program has it, every old modifier where
it was or moved by what is inserted, and from left to right they are the modifiers of the new
program. A build without checks does not see that a text is longer than its machine words reach, so
there the edited text has to be shorter. -/
theorem static_edit_agrees_with_program {overflow : Overflow} {p : Program} {target : NodeId}
    {fix : AppliedFix} (hfix : apply overflow p target = .ok (some fix)) {node : SyntaxNode}
    (hnode : p.node target = .ok node) {modifiers : List Modifier}
    (hmodifiers : node.kind.modifiers? = some modifiers) (hplaced : node.Placed modifiers)
    {old new : String} (hmatches : Command.sourceMatches node old = true)
    (hedit : fix.edit.apply old = some new)
    (hsize : overflow = .wraps → utf8Len new.toList < Word.size) :
    ∃ fixed before keyword after, fix.program.node target = .ok fixed ∧
      fixed.kind.modifiers? = some (before ++ keyword :: after) ∧
      (before ++ after).map Modifier.token = modifiers.map Modifier.token ∧
      keyword.text = "static" ∧ keyword.ReadsIn new ∧
      (∀ modifier ∈ modifiers, (modifier.movedBy fix.edit).ReadsIn new) ∧
      ((keyword :: modifiers.map (Modifier.movedBy fix.edit)).mergeSort Modifier.startsBy).map
          Modifier.text = (before ++ keyword :: after).map Modifier.text := by
  obtain ⟨fixed, hfixed, hfound⟩ := fixes_of_apply hfix hnode
  obtain ⟨before, after, before', after', keyword, inserted, rfl, hdivides, hnew, hbefore, hafter,
    hinserted, htoken⟩ := hfixed.divides hmodifiers hplaced
  have hinsert := hfixed.inserts
  have hself : fix.edit = .insert fix.edit.start fix.edit.replacement := by
    rcases hinsert with hinsert | hinsert <;> rw [hinsert] <;> rfl
  have hbytes : fix.edit.start + 7 < Word.size := by
    obtain ⟨-, -, -, -, hle⟩ := exists_around_keyword hinsert hedit
    exact start_lt_of_modifierOf hinsert hinserted fun hwraps => hle.trans_lt (hsize hwraps)
  obtain ⟨htext, hspan⟩ : keyword.text = inserted.text ∧ keyword.span = inserted.span :=
    Prod.mk.inj htoken
  refine ⟨fixed, before', keyword, after', hfound, hnew, ?_, ?_, ?_, ?_, ?_⟩
  · rw [List.map_append, List.map_append, hbefore, hafter]
  · exact htext.trans (modifierOf_text hinserted).1
  · have hreads := modifierOf_readsIn hinsert hbytes hinserted hedit
    unfold Modifier.ReadsIn at hreads ⊢
    rw [htext, hspan]
    exact hreads
  · intro modifier hmem
    have hreads : modifier.ReadsIn old := by
      rw [Command.sourceMatches, hmodifiers] at hmatches
      exact eq_of_beq (List.all_eq_true.mp hmatches modifier hmem)
    refine movedBy_readsIn hself hedit hreads ?_
    rcases List.mem_append.mp hmem with hmem | hmem
    · exact Or.inl (hdivides.before modifier hmem)
    · exact Or.inr (hdivides.after modifier hmem)
  · have hlength : utf8Len fix.edit.replacement.toList = 7 := by
      rcases hinsert.replacement with hreplacement | hreplacement <;> rw [hreplacement] <;> decide
    have hwidth := hinsert.blankWidth_le.1
    have hstart := (modifierOf_bytes hinsert hbytes hinserted).1
    rw [← hspan] at hstart
    rw [hdivides.listing_eq hplaced (by omega) (by omega)]
    simp [Function.comp_def, Modifier.map_text_of_map_token hbefore,
      Modifier.map_text_of_map_token hafter]

/-- A method behind a comment, with a modifier about accessibility and one about something else. -/
def commentedMethod : SyntaxNode :=
  let modifier (text : String) (start stop : Nat) : Modifier :=
    { text, span := { startByte := start, endByte := stop, startLine := 1, startColumn := start } }
  { file := ⟨0⟩
    span := { startByte := 9, endByte := 39, startLine := 1, startColumn := 9 }
    parent := some ⟨0⟩
    kind := .method "Tick" [modifier "public" 9 15, modifier "override" 17 25] none none [] none }

/-- A program with `commentedMethod`. -/
def commented : Program :=
  { assembly := "Mod"
    files := #[{ path := "Tick.cs" }]
    nodes := #[
      { file := ⟨0⟩
        span := { startByte := 0, endByte := 39, startLine := 1, startColumn := 1 }
        kind := .compilationUnit [⟨1⟩] },
      commentedMethod] }

/-- The comment has a character of two bytes, and there are two blanks between the modifiers. -/
theorem static_edit_of_commented :
    ∃ fix modifiers, apply .wraps commented ⟨1⟩ = .ok (some fix) ∧
      commented.node ⟨1⟩ = .ok commentedMethod ∧
      commentedMethod.kind.modifiers? = some modifiers ∧ commentedMethod.Placed modifiers ∧
      Command.sourceMatches commentedMethod "/* é */ public  override void Tick() {}" = true ∧
      fix.edit.apply "/* é */ public  override void Tick() {}" =
        some "/* é */ public static  override void Tick() {}" ∧
      utf8Len "/* é */ public static  override void Tick() {}".toList < Word.size ∧
      ∃ fixed before keyword after, fix.program.node ⟨1⟩ = .ok fixed ∧
        fixed.kind.modifiers? = some (before ++ keyword :: after) ∧
        (before ++ after).map Modifier.token = modifiers.map Modifier.token ∧
        keyword.text = "static" ∧
        keyword.ReadsIn "/* é */ public static  override void Tick() {}" ∧
        (∀ modifier ∈ modifiers, (modifier.movedBy fix.edit).ReadsIn
          "/* é */ public static  override void Tick() {}") ∧
        ((keyword :: modifiers.map (Modifier.movedBy fix.edit)).mergeSort Modifier.startsBy).map
            Modifier.text = (before ++ keyword :: after).map Modifier.text := by
  have hnode : commented.node ⟨1⟩ = .ok commentedMethod := rfl
  have hplaced : commentedMethod.Placed (commentedMethod.kind.modifiers?.getD []) := by
    refine ⟨by decide, by decide, ?_⟩
    intro form own parameters body symbol hkind
    cases hkind
  have hmatches : Command.sourceMatches commentedMethod
      "/* é */ public  override void Tick() {}" = true := by decide
  obtain ⟨fix, hfix, hedit⟩ : ∃ fix, apply .wraps commented ⟨1⟩ = .ok (some fix) ∧
      fix.edit.apply "/* é */ public  override void Tick() {}" =
        some "/* é */ public static  override void Tick() {}" := ⟨_, rfl, by decide⟩
  have hsize : utf8Len "/* é */ public static  override void Tick() {}".toList < Word.size := by
    decide
  exact ⟨fix, _, hfix, hnode, rfl, hplaced, hmatches, hedit, hsize,
    static_edit_agrees_with_program hfix hnode rfl hplaced hmatches hedit fun _ => hsize⟩

end MakeStatic

end ModLint
