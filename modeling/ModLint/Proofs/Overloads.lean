import ModLint.Proofs.EntityJudgement
import ModLint.Proofs.Replacing

/-!
# Faults of custom entities

What the check finds about a declared type is put together in one predicate, with a case for each
condition. The members of the type enter it in two ways. Whether there is a usable constructor is
asked of all members, so their order does not count. The generator with a name is the first member
that has it, and only this one is judged; overloads behind it are passed over. So if the members are
permuted, the faults of overloads are the only ones that may change.
-/

namespace ModLint

namespace Check.Entity

open Program

variable {p : Program} {names : FrameworkNames} {id : TypeId} {symbol : TypeSymbol}
  {declaration : NodeId} {data : AttributeData} {name : String} {finding : Finding}

/-! ## What is wrong with a custom entity -/

/-- A type is declared in the source and marked as a custom entity. -/
structure Marked (p : Program) (names : FrameworkNames) (symbol : TypeSymbol)
    (declaration : NodeId) (data : AttributeData) : Prop where
  declared : symbol.declaration = some declaration
  marks : p.Marks names.customEntityAttribute symbol data

/-- An id of a custom entity names a generator. -/
def NamesGenerator (p : Program) (names : FrameworkNames) (id : TypeId) (symbol : TypeSymbol)
    (declaration : NodeId) (name : String) : Prop :=
  ∃ data, Marked p names symbol declaration data ∧ p.Extends names.entity id ∧
    ∃ text ∈ idTexts data.arguments, '=' ∈ text.toList ∧ EntityId.generatorName text = name

/-- What is found about a declared type. -/
inductive EntityFault (p : Program) (names : FrameworkNames) (id : TypeId) (symbol : TypeSymbol) :
    Finding → Prop where
  | notEntity {declaration : NodeId} {data : AttributeData}
    (hmarked : Marked p names symbol declaration data) (hnot : ¬ p.Extends names.entity id) :
    EntityFault p names id symbol ⟨.customEntityNotExtendingEntity, declaration, [symbol.name]⟩
  | noIds {declaration : NodeId} {data : AttributeData}
    (hmarked : Marked p names symbol declaration data) (hextends : p.Extends names.entity id)
    (hnone : idTexts data.arguments = []) :
    EntityFault p names id symbol
      ⟨.customEntityNoIDs, data.site.getD declaration, [symbol.name]⟩
  | generator {declaration : NodeId} {name : String} {finding : Finding}
    (hnames : NamesGenerator p names id symbol declaration name)
    (hfault : GeneratorFault p names symbol declaration name finding) :
    EntityFault p names id symbol finding
  | noConstructor {declaration : NodeId} {data : AttributeData}
    (hmarked : Marked p names symbol declaration data) (hextends : p.Extends names.entity id)
    (hplain : ∃ text ∈ idTexts data.arguments, '=' ∉ text.toList)
    (hnone : ¬ HasUsableConstructor p names symbol) :
    EntityFault p names id symbol ⟨.customEntityWithNoValidCtor, declaration, [symbol.name]⟩

/-- What is wrong with an overload of a generator. -/
inductive OverloadFault (p : Program) (names : FrameworkNames) (declaration : NodeId)
    (name : String) (member : MethodId) : Finding → Prop where
  | invalid {method : MethodSymbol} (hmethod : p.method member = .ok method)
    (hinvalid : ¬ (method.isStatic = true ∧ ReturnsEntity p names method)) :
    OverloadFault p names declaration name member
      ⟨.customEntityGeneratorInvalid, method.declaration.getD declaration, [name]⟩
  | invalidParams {method : MethodSymbol} (hmethod : p.method member = .ok method)
    (hparams : ¬ Callable p names true method) :
    OverloadFault p names declaration name member
      ⟨.customEntityGeneratorInvalidParams, method.declaration.getD declaration, [name]⟩

/-- What is wrong with the generators of a custom entity, of which the first overload is judged. -/
def FirstOverloadFault (p : Program) (names : FrameworkNames) (id : TypeId) (symbol : TypeSymbol)
    (members : List MethodId) (finding : Finding) : Prop :=
  ∃ declaration name member, NamesGenerator p names id symbol declaration name ∧
    IsFirst (HasName p name) members member ∧
    OverloadFault p names declaration name member finding

/-- The conditions that an overload may meet. -/
def overloadConditions : List DiagnosticId :=
  [.customEntityGeneratorInvalid, .customEntityGeneratorInvalidParams]

theorem OverloadFault.id_mem {member : MethodId}
    (h : OverloadFault p names declaration name member finding) :
    finding.id ∈ overloadConditions := by
  cases h <;> simp [overloadConditions]

theorem OverloadFault.args_eq {member : MethodId}
    (h : OverloadFault p names declaration name member finding) : finding.args = [name] := by
  cases h <;> rfl

/-- The message about an overload has one place, which is for its name and stands in quotes. -/
theorem exists_format_eq {id : DiagnosticId} (h : id ∈ overloadConditions) :
    ∃ before after : List Char, ∀ name : String,
      id.format [name] = String.ofList (before ++ (name.toList ++ after)) := by
  have hsplit : ∃ before after : List Char, '\x7b' ∉ before ∧ '\x7b' ∉ after ∧
      id.messageTemplate.toList =
        before ++ '\x27' :: (DiagnosticId.placeholder 0 ++ '\x27' :: after) := by
    simp only [overloadConditions, List.mem_cons, List.not_mem_nil, or_false] at h
    rcases h with rfl | rfl
    · exact ⟨"Generator method ".toList, " must be static and return an Entity".toList,
        by decide +kernel⟩
    · exact ⟨"Generator method ".toList, " has parameters Everest cannot supply".toList,
        by decide +kernel⟩
  obtain ⟨before, after, hbefore, hafter, htemplate⟩ := hsplit
  have hopen : ∀ text, '\x7b' ∉ text → ¬ DiagnosticId.placeholder 0 <:+: text := by
    intro text hnone hwithin
    exact hnone (hwithin.subset (by decide))
  have hplace : DiagnosticId.placeholder 0 ≠ [] := by decide
  have hquote : '\x27' ∉ DiagnosticId.placeholder 0 := by decide
  refine ⟨before ++ ['\x27'], '\x27' :: after, fun name => ?_⟩
  rw [DiagnosticId.format, htemplate, DiagnosticId.fill, Text.replaceAll_append_cons hplace hquote,
    Text.replaceAll_append_cons hplace hquote, Text.replaceAll_self hplace,
    Text.replaceAll_eq_self (hopen before hbefore), Text.replaceAll_eq_self (hopen after hafter),
    List.append_assoc]
  rfl

theorem format_inj {id : DiagnosticId} (h : id ∈ overloadConditions) {name name' : String}
    (hformat : id.format [name] = id.format [name']) : name = name' := by
  obtain ⟨before, after, heq⟩ := exists_format_eq h
  rw [heq, heq] at hformat
  have hlists := String.ofList_injective hformat
  rw [List.append_cancel_left_eq, List.append_cancel_right_eq] at hlists
  exact String.toList_injective hlists

/-- A generator is missing, or its first overload is judged. -/
theorem generatorFault_iff : GeneratorFault p names symbol declaration name finding ↔
    ((∀ member ∈ symbol.members, ¬ HasName p name member) ∧
      finding = ⟨.customEntityGeneratorMethodMissing, declaration, [name, symbol.name]⟩) ∨
    ∃ member, IsFirst (HasName p name) symbol.members member ∧
      OverloadFault p names declaration name member finding := by
  constructor
  · intro h
    cases h with
    | missing hnone => exact Or.inl ⟨hnone, rfl⟩
    | invalid hfirst hmethod hinvalid => exact Or.inr ⟨_, hfirst, .invalid hmethod hinvalid⟩
    | invalidParams hfirst hmethod hparams =>
      exact Or.inr ⟨_, hfirst, .invalidParams hmethod hparams⟩
  · rintro (⟨hnone, rfl⟩ | ⟨member, hfirst, hfault⟩)
    · exact .missing hnone
    · cases hfault with
      | invalid hmethod hinvalid => exact .invalid hfirst hmethod hinvalid
      | invalidParams hmethod hparams => exact .invalidParams hfirst hmethod hparams

theorem IdsJudged.mem_iff {findings : List Finding}
    (h : IdsJudged p names symbol declaration data findings) : finding ∈ findings ↔
      (idTexts data.arguments = [] ∧
        finding = ⟨.customEntityNoIDs, data.site.getD declaration, [symbol.name]⟩) ∨
      (∃ text ∈ idTexts data.arguments, '=' ∈ text.toList ∧
        GeneratorFault p names symbol declaration (EntityId.generatorName text) finding) ∨
      ((∃ text ∈ idTexts data.arguments, '=' ∉ text.toList) ∧
        ¬ HasUsableConstructor p names symbol ∧
        finding = ⟨.customEntityWithNoValidCtor, declaration, [symbol.name]⟩) := by
  obtain ⟨texts, noIds, faults, noConstructor, htexts, rfl, hnoIds, hfaults, hnoConstructor⟩ := h
  obtain rfl := idTexts_eq_iff.mpr htexts
  have hgenerators : finding ∈ faults.flatten ↔ ∃ text ∈ idTexts data.arguments,
      '=' ∈ text.toList ∧
        GeneratorFault p names symbol declaration (EntityId.generatorName text) finding := by
    have hmem : ∀ {texts : List String} {faults : List (List Finding)},
        List.Forall₂ (fun text found => Exactly found
          (GeneratorFault p names symbol declaration (EntityId.generatorName text))) texts faults →
        (finding ∈ faults.flatten ↔ ∃ text ∈ texts,
          GeneratorFault p names symbol declaration (EntityId.generatorName text) finding) := by
      intro texts faults hall
      induction hall with
      | nil => simp
      | cons hfound _ ih => simp [hfound.mem_iff, ih]
    rw [hmem hfaults]
    simp only [List.mem_filter, decide_eq_true_eq, and_assoc]
  rw [List.mem_append, List.mem_append, hnoIds.mem_iff, hgenerators, hnoConstructor.mem_iff,
    or_assoc]

theorem EntityFault.exists_marked (h : EntityFault p names id symbol finding) :
    ∃ declaration data, Marked p names symbol declaration data := by
  cases h with
  | notEntity hmarked => exact ⟨_, _, hmarked⟩
  | noIds hmarked => exact ⟨_, _, hmarked⟩
  | generator hnames =>
    obtain ⟨data, hmarked, -⟩ := hnames
    exact ⟨_, data, hmarked⟩
  | noConstructor hmarked => exact ⟨_, _, hmarked⟩

theorem Marked.unique {declaration' : NodeId} {data' : AttributeData}
    (h : Marked p names symbol declaration data) (h' : Marked p names symbol declaration' data') :
    declaration = declaration' ∧ data = data' := by
  have hdeclared := h.declared.symm.trans h'.declared
  exact ⟨Option.some.inj hdeclared, h.marks.unique h'.marks⟩

theorem Marked.entityFault_iff_of_not (h : Marked p names symbol declaration data)
    (hnot : ¬ p.Extends names.entity id) : EntityFault p names id symbol finding ↔
      finding = ⟨.customEntityNotExtendingEntity, declaration, [symbol.name]⟩ := by
  constructor
  · intro hfault
    cases hfault with
    | notEntity hmarked =>
      obtain ⟨rfl, rfl⟩ := h.unique hmarked
      rfl
    | noIds _ hextends => exact absurd hextends hnot
    | generator hnames =>
      obtain ⟨-, -, hextends, -⟩ := hnames
      exact absurd hextends hnot
    | noConstructor _ hextends => exact absurd hextends hnot
  · rintro rfl
    exact .notEntity h hnot

theorem Marked.entityFault_iff (h : Marked p names symbol declaration data)
    (hextends : p.Extends names.entity id) {findings : List Finding}
    (hjudged : IdsJudged p names symbol declaration data findings) :
    EntityFault p names id symbol finding ↔ finding ∈ findings := by
  rw [hjudged.mem_iff]
  constructor
  · intro hfault
    cases hfault with
    | notEntity _ hnot => exact absurd hextends hnot
    | noIds hmarked _ hnone =>
      obtain ⟨rfl, rfl⟩ := h.unique hmarked
      exact Or.inl ⟨hnone, rfl⟩
    | generator hnames hfault =>
      obtain ⟨data', hmarked, -, text, htext, hmem, rfl⟩ := hnames
      obtain ⟨rfl, rfl⟩ := h.unique hmarked
      exact Or.inr (Or.inl ⟨text, htext, hmem, hfault⟩)
    | noConstructor hmarked _ hplain hnone =>
      obtain ⟨rfl, rfl⟩ := h.unique hmarked
      exact Or.inr (Or.inr ⟨hplain, hnone, rfl⟩)
  · rintro (⟨hnone, rfl⟩ | ⟨text, htext, hmem, hfault⟩ | ⟨hplain, hnone, rfl⟩)
    · exact .noIds h hextends hnone
    · exact .generator ⟨data, h, hextends, text, htext, hmem, rfl⟩ hfault
    · exact .noConstructor h hextends hplain hnone

/-- If the members of a type are permuted, only what is found about overloads may change: the first
overload of each generator in the new order is judged. -/
theorem entityFault_perm {members : List MethodId} (hperm : symbol.members.Perm members) :
    EntityFault p names id { symbol with members } finding ↔
      (EntityFault p names id symbol finding ∧ finding.id ∉ overloadConditions) ∨
      FirstOverloadFault p names id symbol members finding := by
  have hmarked : ∀ {declaration data}, Marked p names { symbol with members } declaration data ↔
      Marked p names symbol declaration data :=
    ⟨fun h => ⟨h.declared, h.marks⟩, fun h => ⟨h.declared, h.marks⟩⟩
  have hnames : ∀ {declaration name},
      NamesGenerator p names id { symbol with members } declaration name ↔
        NamesGenerator p names id symbol declaration name := by
    simp only [NamesGenerator, hmarked, implies_true]
  have husable : HasUsableConstructor p names { symbol with members } ↔
      HasUsableConstructor p names symbol := by
    simp only [HasUsableConstructor, hperm.mem_iff]
  have hmissing : ∀ name, (∀ member ∈ members, ¬ HasName p name member) ↔
      ∀ member ∈ symbol.members, ¬ HasName p name member := by
    intro name
    simp only [hperm.mem_iff]
  constructor
  · intro hfault
    cases hfault with
    | notEntity h hnot =>
      exact Or.inl ⟨.notEntity (hmarked.mp h) hnot, by simp [overloadConditions]⟩
    | noIds h hextends hnone =>
      exact Or.inl ⟨.noIds (hmarked.mp h) hextends hnone, by simp [overloadConditions]⟩
    | noConstructor h hextends hplain hnone =>
      have hnone' : ¬ HasUsableConstructor p names symbol := fun hsome => hnone (husable.mpr hsome)
      refine Or.inl ⟨.noConstructor (hmarked.mp h) hextends hplain hnone', ?_⟩
      simp [overloadConditions]
    | generator h hfault =>
      rcases generatorFault_iff.mp hfault with ⟨hnone, rfl⟩ | ⟨member, hfirst, hoverload⟩
      · refine Or.inl ⟨.generator (hnames.mp h) (.missing ((hmissing _).mp hnone)), ?_⟩
        simp [overloadConditions]
      · exact Or.inr ⟨_, _, member, hnames.mp h, hfirst, hoverload⟩
  · rintro (⟨hfault, hid⟩ | ⟨declaration, name, member, h, hfirst, hoverload⟩)
    · cases hfault with
      | notEntity h hnot => exact .notEntity (hmarked.mpr h) hnot
      | noIds h hextends hnone => exact .noIds (hmarked.mpr h) hextends hnone
      | noConstructor h hextends hplain hnone =>
        exact .noConstructor (hmarked.mpr h) hextends hplain fun hsome => hnone (husable.mp hsome)
      | generator h hfault =>
        rcases generatorFault_iff.mp hfault with ⟨hnone, rfl⟩ | ⟨member, hfirst, hoverload⟩
        · exact .generator (hnames.mpr h) (.missing ((hmissing _).mpr hnone))
        · exact absurd hoverload.id_mem hid
    · exact .generator (hnames.mpr h)
        (generatorFault_iff.mpr (Or.inr ⟨member, hfirst, hoverload⟩))

end Check.Entity

end ModLint
