import ModLint.Proofs.StaticFix

/-!
# What making a function static leaves alone

The fix changes the modifiers of one node and one mark of the method that this node declares. The
place of the keyword is found by counting modifiers up to the last one about accessibility, and all
modifiers of a method are tidied after it is put there, so what happens to the old modifiers is said
for each of them: they stay, in their order, with at most the blanks behind them changed.
-/

namespace ModLint.MakeStatic

/-! ## Modifiers -/

/-- Blanks that stay on their line, at least one. -/
def IsLoose (trivia : String) : Prop :=
  trivia ≠ "" ∧ (∀ c ∈ trivia.toList, Text.isBlank c = true) ∧ '\n' ∉ trivia.toList

/-- Two modifiers that differ only in the blanks behind them: one blank stands for loose ones. -/
structure Tidied (before after : Modifier) : Prop where
  text : after.text = before.text
  span : after.span = before.span
  leadingTrivia : after.leadingTrivia = before.leadingTrivia
  loose : IsLoose before.trailingTrivia → after.trailingTrivia = " "
  kept : ¬ IsLoose before.trailingTrivia → after.trailingTrivia = before.trailingTrivia

theorem isLoose_iff (trivia : String) : IsLoose trivia ↔
    (!trivia.toList.isEmpty && trivia.toList.all Text.isBlank && !trivia.toList.contains '\n') =
      true := by
  rw [IsLoose, Bool.and_eq_true, Bool.and_eq_true, and_assoc]
  simp

theorem normalized_tidied (modifier : Modifier) : Tidied modifier (normalized modifier) := by
  unfold normalized
  by_cases hloose : IsLoose modifier.trailingTrivia
  · rw [if_pos ((isLoose_iff _).mp hloose)]
    exact ⟨rfl, rfl, rfl, fun _ => rfl, fun hnot => absurd hloose hnot⟩
  · rw [if_neg fun htest => hloose ((isLoose_iff _).mpr htest)]
    exact ⟨rfl, rfl, rfl, fun hyes => absurd hyes hloose, fun _ => rfl⟩

theorem map_normalized_tidied (modifiers : List Modifier) :
    List.Forall₂ Tidied modifiers (modifiers.map normalized) := by
  induction modifiers with
  | nil => exact .nil
  | cons modifier modifiers ih => exact .cons (normalized_tidied modifier) ih

/-- A place in the modifiers of a method: the last modifier before it is about accessibility, if
there is one, and no modifier behind it is. -/
structure AccessibilityEnds (before after : List Modifier) : Prop where
  last : ∀ modifier, before.getLast? = some modifier → modifier.isAccessibility = true
  rest : ∀ modifier ∈ after, modifier.isAccessibility = false

theorem accessibilityLength_ends (modifiers : List Modifier) :
    ∃ before after, modifiers = before ++ after ∧
      before.length = accessibilityLength modifiers ∧ AccessibilityEnds before after := by
  induction modifiers with
  | nil => exact ⟨[], [], rfl, rfl, by simp, by simp⟩
  | cons first modifiers ih =>
    obtain ⟨before, after, rfl, hlength, hends⟩ := ih
    rw [accessibilityLength, ← hlength]
    cases before with
    | nil =>
      by_cases hfirst : first.isAccessibility = true
      · refine ⟨[first], after, rfl, by simp [hfirst], ?_, hends.rest⟩
        intro modifier hlast
        cases hlast
        exact hfirst
      · refine ⟨[], first :: after, rfl, by simp [hfirst], by simp, ?_⟩
        intro modifier hmem
        rcases List.mem_cons.mp hmem with rfl | hmem
        · simpa using hfirst
        · exact hends.rest modifier hmem
    | cons second before =>
      refine ⟨first :: second :: before, after, rfl, rfl, ?_, hends.rest⟩
      intro modifier hlast
      rw [List.getLast?_cons_cons] at hlast
      exact hends.last modifier hlast

theorem methodEdit_ends {modifiers : List Modifier} {modifiersStart : Option Nat} {place : Nat}
    {edit : TextEdit} (h : methodEdit modifiers modifiersStart = some (place, edit)) :
    ∃ before after, modifiers = before ++ after ∧ before.length = place ∧
      AccessibilityEnds before after := by
  obtain ⟨before, after, hmodifiers, hlength, hends⟩ := accessibilityLength_ends modifiers
  have htake : modifiers.take (accessibilityLength modifiers) = before := by
    rw [← hlength, hmodifiers, List.take_left]
  unfold methodEdit at h
  dsimp only at h
  rw [htake] at h
  split at h
  · cases h
    exact ⟨before, after, hmodifiers, hlength, hends⟩
  · rename_i hnone
    obtain ⟨start, -, h⟩ := Option.map_eq_some_iff.mp h
    cases h
    -- nothing stands before the place, so the keyword goes first
    have hnil : before = [] := List.getLast?_eq_none_iff.mp hnone
    exact ⟨before, after, hmodifiers, by rw [hnil]; rfl, hends⟩

theorem insertIdx_length {α : Type} (before after : List α) (a : α) :
    (before ++ after).insertIdx before.length a = before ++ a :: after := by
  induction before with
  | nil => rfl
  | cons b before ih =>
    rw [List.cons_append, List.length_cons, List.insertIdx_succ_cons, ih]
    rfl

theorem isStatic_eq_false_iff {modifiers : List Modifier} : isStatic modifiers = false ↔
    ∀ modifier ∈ modifiers, modifier.text ≠ "static" := by
  simp [isStatic, Modifier.is, keyword]

/-! ## The node -/

/-- A function with its keyword. Before the keyword stand the modifiers of a method up to the last
one about accessibility, and nothing in an anonymous function, which hands it the text in front. -/
inductive MadeStatic : SyntaxNode → SyntaxNode → Prop where
  | method {node fixed : SyntaxNode} {name : String} {before after before' after' : List Modifier}
    {keyword : Modifier} {modifiersStart : Option Nat} {symbol : Option MethodId}
    {parameters : List NodeId} {body : Option NodeId}
    (hkind : node.kind =
      .method name (before ++ after) modifiersStart symbol parameters body)
    (hfixed : fixed = { node with
      kind := .method name (before' ++ keyword :: after') modifiersStart symbol parameters body })
    (hkeyword : keyword.text = "static") (hplace : AccessibilityEnds before after)
    (hbefore : List.Forall₂ Tidied before before') (hafter : List.Forall₂ Tidied after after') :
    MadeStatic node fixed
  | anonymousFunction {node fixed : SyntaxNode} {form : FunctionSyntax} {modifiers : List Modifier}
    {keyword : Modifier} {parameters : List NodeId} {body : NodeId} {symbol : Option MethodId}
    (hkind : node.kind = .anonymousFunction form modifiers parameters body symbol)
    (hfixed : fixed = { node with
      leadingTrivia := ""
      kind := .anonymousFunction form (keyword :: modifiers) parameters body symbol })
    (hkeyword : keyword.text = "static") (htrivia : keyword.leadingTrivia = node.leadingTrivia) :
    MadeStatic node fixed

variable {overflow : Overflow} {edit : TextEdit} {node fixed : SyntaxNode}

theorem Fixes.madeStatic (h : Fixes overflow node fixed edit) : MadeStatic node fixed := by
  cases h with
  | @method _ _ _ _ _ _ _ _ modifier hkind hstatic hedit hmodifier =>
    obtain ⟨before, after, rfl, rfl, hends⟩ := methodEdit_ends hedit
    rw [insertIdx_length, List.map_append, List.map_cons]
    have hkeyword : (normalized modifier).text = "static" :=
      (normalized_tidied modifier).text.trans (modifierOf_text hmodifier).1
    exact .method hkind rfl hkeyword hends (map_normalized_tidied before)
      (map_normalized_tidied after)
  | anonymousFunction hkind hstatic hmodifier =>
    exact .anonymousFunction hkind rfl (modifierOf_text hmodifier).1 rfl

theorem Tidied.forall₂_text {before after : List Modifier} (h : List.Forall₂ Tidied before after) :
    after.map Modifier.text = before.map Modifier.text := by
  induction h with
  | nil => rfl
  | cons hhead _ ih => rw [List.map_cons, List.map_cons, hhead.text, ih]

/-- The keyword comes in once, so it is there once if it was not there before. -/
theorem MadeStatic.count_static {node fixed : SyntaxNode} (h : MadeStatic node fixed)
    {modifiers : List Modifier} (hmodifiers : node.kind.modifiers? = some modifiers)
    (hnot : isStatic modifiers = false) :
    ∃ modifiers', fixed.kind.modifiers? = some modifiers' ∧
      (modifiers'.map Modifier.text).count "static" = 1 := by
  have hcount : (modifiers.map Modifier.text).count "static" = 0 := by
    rw [List.count_eq_zero, List.mem_map]
    rintro ⟨modifier, hmem, htext⟩
    exact isStatic_eq_false_iff.mp hnot modifier hmem htext
  cases h with
  | method hkind hfixed hkeyword hplace hbefore hafter =>
    rw [hkind] at hmodifiers
    cases hmodifiers
    refine ⟨_, by rw [hfixed]; rfl, ?_⟩
    rw [List.map_append, List.count_append] at hcount
    rw [List.map_append, List.map_cons, List.count_append, List.count_cons, hkeyword,
      Tidied.forall₂_text hbefore, Tidied.forall₂_text hafter]
    simp only [beq_self_eq_true, if_true]
    omega
  | anonymousFunction hkind hfixed hkeyword htrivia =>
    rw [hkind] at hmodifiers
    cases hmodifiers
    refine ⟨_, by rw [hfixed]; rfl, ?_⟩
    rw [List.map_cons, List.count_cons, hkeyword, hcount]
    rfl

theorem Fixes.not_isStatic (h : Fixes overflow node fixed edit) :
    ∃ modifiers, node.kind.modifiers? = some modifiers ∧ isStatic modifiers = false := by
  cases h with
  | method hkind hstatic hedit hmodifier => exact ⟨_, by rw [hkind]; rfl, hstatic⟩
  | anonymousFunction hkind hstatic hmodifier => exact ⟨_, by rw [hkind]; rfl, hstatic⟩

/-! ## The program -/

variable {p : Program} {target : NodeId} {fix : AppliedFix}

theorem method_of_apply (h : apply overflow p target = .ok (some fix))
    (hnode : p.node target = .ok node) {id : MethodId}
    (hid : node.kind.declaredMethod? = some id) : ∃ method, p.method id = .ok method := by
  unfold apply at h
  obtain ⟨node', hnode', h⟩ := lookup_bind_eq_ok.mp h
  obtain rfl := lookup_unique hnode hnode'
  obtain ⟨fixed?, -, h⟩ := lookup_bind_eq_ok.mp h
  split at h
  · cases h
  · simp only [hid] at h
    obtain ⟨method, hmethod, -⟩ := lookup_bind_eq_ok.mp h
    exact ⟨method, hmethod⟩

theorem fixes_of_apply (h : apply overflow p target = .ok (some fix))
    (hnode : p.node target = .ok node) :
    ∃ fixed, Fixes overflow node fixed fix.edit ∧ fix.program.node target = .ok fixed := by
  obtain ⟨node', fixed, hnode', hfixed, hprogram⟩ := apply_eq_some h
  obtain rfl := lookup_unique hnode hnode'
  refine ⟨fixed, (fixes_of_fixedNode hfixed).2, ?_⟩
  rw [hprogram]
  exact Program.fetch_eq_ok_iff.mpr
    (Array.getElem?_setIfInBounds_self_of_lt (Program.lt_size_of_fetch hnode))

/-- The node that is changed has the keyword afterwards. -/
theorem node_of_apply (h : apply overflow p target = .ok (some fix))
    (hnode : p.node target = .ok node) :
    ∃ fixed, fix.program.node target = .ok fixed ∧ MadeStatic node fixed ∧
      ∃ modifiers, fixed.kind.modifiers? = some modifiers ∧
        (modifiers.map Modifier.text).count "static" = 1 := by
  obtain ⟨fixed, hfixed, hfound⟩ := fixes_of_apply h hnode
  obtain ⟨old, hold, hnot⟩ := hfixed.not_isStatic
  have hmade := hfixed.madeStatic
  exact ⟨fixed, hfound, hmade, hmade.count_static hold hnot⟩

theorem fetch_congr {α : Type} {xs ys : Array α} {arena : Arena} {id : ItemId arena}
    (h : xs[id.index]? = ys[id.index]?) : Program.fetch xs id = Program.fetch ys id := by
  rw [Program.fetch, h, Program.fetch]

/-- Whatever program and node it is applied to, in whatever build, the fix changes nothing but the
modifiers of this node, the text in front of it if it is an anonymous function, and the mark of the
method that it declares. The old modifiers stay, and the keyword is among the new ones once. -/
theorem static_fix_touches_one_declaration {overflow : Overflow} {p : Program} {target : NodeId}
    {fix : AppliedFix} (h : apply overflow p target = .ok (some fix)) :
    ∃ node fixed modifiers, p.node target = .ok node ∧ fix.program.node target = .ok fixed ∧
      MadeStatic node fixed ∧ fixed.kind.modifiers? = some modifiers ∧
      (modifiers.map Modifier.text).count "static" = 1 ∧
      { fix.program with nodes := p.nodes, methods := p.methods } = p ∧
      (∀ id, id ≠ target → fix.program.node id = p.node id) ∧
      (∀ id, node.kind.declaredMethod? ≠ some id → fix.program.method id = p.method id) ∧
      ∀ id, node.kind.declaredMethod? = some id → ∃ method, p.method id = .ok method ∧
        fix.program.method id = .ok { method with isStatic := true } := by
  obtain ⟨node, _, hnode, -, hprogram⟩ := apply_eq_some h
  obtain ⟨fixed, hfixed, hmade, modifiers, hmodifiers, hcount⟩ := node_of_apply h hnode
  refine ⟨node, fixed, modifiers, hnode, hfixed, hmade, hmodifiers, hcount, ?_, ?_, ?_, ?_⟩
  · rw [hprogram]
  · intro id hid
    have hindex : target.index ≠ id.index := fun heq => hid (by
      obtain ⟨i⟩ := id
      obtain ⟨j⟩ := target
      exact congrArg ItemId.mk heq.symm)
    rw [hprogram]
    exact fetch_congr (Array.getElem?_setIfInBounds_ne hindex)
  · intro id hid
    rw [hprogram]
    refine fetch_congr ?_
    cases hdeclared : node.kind.declaredMethod? with
    | none => rfl
    | some declared =>
      have hindex : declared.index ≠ id.index := fun heq => hid (by
        obtain ⟨i⟩ := id
        obtain ⟨j⟩ := declared
        rw [hdeclared]
        exact congrArg (some ∘ ItemId.mk) heq)
      simp only [Option.elim, Array.getElem?_modify, if_neg hindex]
  · intro id hid
    obtain ⟨method, hmethod⟩ := method_of_apply h hnode hid
    refine ⟨method, hmethod, ?_⟩
    rw [hprogram]
    refine Program.fetch_eq_ok_iff.mpr ?_
    simp only [hid, Option.elim, Array.getElem?_modify, if_true]
    rw [Program.fetch_eq_ok_iff.mp hmethod]
    rfl

/-- A method with two modifiers about accessibility and one about something else, with loose blanks
behind the first two and a line end behind the third. -/
def looseModifiers : Program :=
  let modifier (text trailingTrivia : String) (start : Nat) : Modifier :=
    { text
      span := { startByte := start, endByte := start + text.length, startLine := 1
                startColumn := start + 1 }
      trailingTrivia }
  let span : Span := { startByte := 0, endByte := 50, startLine := 1, startColumn := 1 }
  { assembly := "Mod"
    files := #[{ path := "Hook.cs" }]
    methods := #[{ name := "Tick" }, { name := "OnUpdate", declaration := some ⟨1⟩ }]
    nodes := #[
      { file := ⟨0⟩, span, kind := .compilationUnit [⟨1⟩] },
      { file := ⟨0⟩, span, parent := some ⟨0⟩
        kind := .method "OnUpdate"
          [modifier "protected" "\t " 0, modifier "internal" "  " 11, modifier "override" "\n " 21]
          none (some ⟨1⟩) [] none }] }

theorem static_fix_of_looseModifiers :
    ∃ fix node fixed modifiers, apply .wraps looseModifiers ⟨1⟩ = .ok (some fix) ∧
      looseModifiers.node ⟨1⟩ = .ok node ∧ fix.program.node ⟨1⟩ = .ok fixed ∧
      MadeStatic node fixed ∧ fixed.kind.modifiers? = some modifiers ∧
      modifiers.map (fun modifier => (modifier.text, modifier.trailingTrivia)) =
        [("protected", " "), ("internal", " "), ("static", " "), ("override", "\n ")] ∧
      fix.program.node ⟨0⟩ = looseModifiers.node ⟨0⟩ ∧
      fix.program.method ⟨0⟩ = looseModifiers.method ⟨0⟩ ∧
      fix.program.method ⟨1⟩ =
        .ok { name := "OnUpdate", isStatic := true, declaration := some ⟨1⟩ } := by
  obtain ⟨fix, hfix, hshown⟩ : ∃ fix, apply .wraps looseModifiers ⟨1⟩ = .ok (some fix) ∧
      ((fix.program.node ⟨1⟩).toOption.bind fun node => node.kind.modifiers?.map fun modifiers =>
        modifiers.map fun modifier => (modifier.text, modifier.trailingTrivia)) =
      some [("protected", " "), ("internal", " "), ("static", " "), ("override", "\n ")] :=
    ⟨_, rfl, by decide +kernel⟩
  obtain ⟨node, fixed, modifiers, hnode, hfixed, hmade, hmodifiers, -, -, hnodes, hmethods,
    hmethod⟩ := static_fix_touches_one_declaration hfix
  rw [hfixed, Except.toOption, Option.bind_some, hmodifiers, Option.map_some] at hshown
  refine ⟨fix, node, fixed, modifiers, hfix, hnode, hfixed, hmade, hmodifiers,
    Option.some.inj hshown, hnodes ⟨0⟩ (by decide), ?_, ?_⟩
  · cases hnode
    exact hmethods ⟨0⟩ (by decide)
  · cases hnode
    obtain ⟨method, hbefore, hafter⟩ := hmethod ⟨1⟩ rfl
    cases hbefore
    exact hafter

end ModLint.MakeStatic
