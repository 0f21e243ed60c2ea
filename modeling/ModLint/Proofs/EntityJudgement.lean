import ModLint.Proofs.EntityFindings
import ModLint.Proofs.HookJudgement

/-!
# Custom entities are judged exactly

Every declared type comes up as one event. For a type that is marked as a custom entity the check
says either that it is no entity, or what is wrong with its ids: that there are none, what is wrong
with the generator of each of them, and that an id without a generator has no constructor to fall
back on. The generators are judged id by id, so that an id that is listed twice is judged twice.
-/

namespace ModLint

/-! ## Marked types -/

namespace Program

variable {p : Program} {id : TypeId} {symbol : TypeSymbol}

/-- The first attribute of a type whose class has a full name. -/
def Marks (p : Program) (className : String) (symbol : TypeSymbol) (data : AttributeData) : Prop :=
  IsFirst (fun data => p.fullTypeName data.attributeClass = .ok className) symbol.attributes data

theorem InRange.hasClassNamed_iff (h : p.InRange) {data : AttributeData}
    (hdata : data.IdsBelow p.size) (className : String) :
    Answers (do return (← p.fullTypeName data.attributeClass) == className) fun b =>
      b = true ↔ p.fullTypeName data.attributeClass = .ok className := by
  refine (h.fullTypeName hdata.attributeClass).bind_eq fun full hfull _ => Answers.pure ?_
  rw [beq_iff_eq, hfull, Except.ok.injEq]

theorem InRange.findAttribute_iff (h : p.InRange) (hsymbol : p.type id = .ok symbol)
    (className : String) : Answers (p.findAttribute id className) fun data? =>
      ∀ data, data? = some data ↔ p.Marks className symbol data := by
  obtain ⟨symbol', hsymbol', hbelow⟩ := h.type (lt_size_of_fetch hsymbol)
  obtain rfl := lookup_unique hsymbol hsymbol'
  rw [Program.findAttribute, hsymbol]
  exact Answers.findM?_iff fun data hdata =>
    h.hasClassNamed_iff (hbelow.attributes data hdata) className

theorem InRange.findAttribute_eq (h : p.InRange) (hsymbol : p.type id = .ok symbol)
    {className : String} {data : AttributeData} (hmarks : p.Marks className symbol data) :
    p.findAttribute id className = .ok (some data) := by
  obtain ⟨data?, hfind, hfirst⟩ := h.findAttribute_iff hsymbol className
  rw [hfind, (hfirst data).mpr hmarks]

/-- A declared type comes up as an event, and only once. -/
theorem Loaded.count_namedType (h : p.Loaded) (hsymbol : p.type id = .ok symbol)
    {declaration : NodeId} (hdeclaration : symbol.declaration = some declaration) :
    (Lookup.items p.raisedEvents).count (.namedType id) = 1 := by
  refine List.count_eq_one_of_mem h.nodup_raisedEvents ?_
  rw [h.items_raisedEvents]
  refine List.mem_append_left _ (List.mem_filterMap.mpr ⟨id, ?_, ?_⟩)
  · exact List.mem_map.mpr ⟨id.index, List.mem_range.mpr (lt_size_of_fetch hsymbol), rfl⟩
  · have hevent : p.typeEventOf id = .ok (some (.namedType id)) := by
      simp only [Program.typeEventOf, hsymbol, hdeclaration, bind, Except.bind, Option.isSome_some,
        if_true]
      rfl
    rw [declaredAt?, hevent]
    rfl

end Program

namespace Check.Entity

open Program

variable {p : Program} {names : FrameworkNames} {symbol : TypeSymbol} {declaration : NodeId}
  {data : AttributeData}

/-! ## Ids -/

/-- A constant in an array is read as an id if it is a string or is given as text otherwise. -/
inductive ItemText : AttributeArgument → String → Prop where
  | string (text : String) : ItemText (.string text) text
  | other (text : String) : ItemText (.other text) text

/-- An argument of its own is read as an id only if it is a string. -/
inductive ArgumentText : AttributeArgument → String → Prop where
  | string (text : String) : ArgumentText (.string text) text

/-- What the items of a list are read as, in their order, without those that are read as nothing. -/
inductive ReadsAs {α β : Type} (R : α → β → Prop) : List α → List β → Prop where
  | nil : ReadsAs R [] []
  | kept {a : α} {b : β} {as : List α} {bs : List β} (h : R a b) (hrest : ReadsAs R as bs) :
    ReadsAs R (a :: as) (b :: bs)
  | skipped {a : α} {as : List α} {bs : List β} (h : ∀ b, ¬ R a b) (hrest : ReadsAs R as bs) :
    ReadsAs R (a :: as) bs

/-- The texts of the ids that the arguments of an attribute list: those in an array if the first
argument is one, else those among the arguments themselves. -/
inductive ListsIds : List AttributeArgument → List String → Prop where
  | array {items rest : List AttributeArgument} {texts : List String}
    (h : ReadsAs ItemText items texts) : ListsIds (.array items :: rest) texts
  | flat {arguments : List AttributeArgument} {texts : List String}
    (hflat : ∀ items, arguments.head? ≠ some (.array items))
    (h : ReadsAs ArgumentText arguments texts) : ListsIds arguments texts

theorem filterMap_eq_iff_readsAs {α β : Type} {R : α → β → Prop} {f : α → Option β}
    (hf : ∀ a b, f a = some b ↔ R a b) {as : List α} {bs : List β} :
    as.filterMap f = bs ↔ ReadsAs R as bs := by
  constructor
  · rintro rfl
    induction as with
    | nil => exact .nil
    | cons a as ih =>
      cases ha : f a with
      | none =>
        rw [List.filterMap_cons_none ha]
        refine .skipped (fun b hb => ?_) ih
        rw [(hf a b).mpr hb] at ha
        cases ha
      | some b =>
        rw [List.filterMap_cons_some ha]
        exact .kept ((hf a b).mp ha) ih
  · intro h
    induction h with
    | nil => rfl
    | kept hab _ ih => rw [List.filterMap_cons_some ((hf _ _).mpr hab), ih]
    | @skipped a _ _ hnone _ ih =>
      have ha : f a = none :=
        Option.eq_none_iff_forall_not_mem.mpr fun b hb => hnone b ((hf a b).mp hb)
      rw [List.filterMap_cons_none ha, ih]

theorem text?_eq_some_iff {argument : AttributeArgument} {text : String} :
    argument.text? = some text ↔ ItemText argument text := by
  constructor
  · intro h
    cases argument with
    | string value =>
      cases h
      exact .string text
    | other value =>
      cases h
      exact .other text
    | type _ => cases h
    | array _ => cases h
    | bool _ => cases h
  · rintro (_ | _) <;> rfl

theorem idTexts_eq_iff {arguments : List AttributeArgument} {texts : List String} :
    idTexts arguments = texts ↔ ListsIds arguments texts := by
  unfold idTexts
  split
  · rename_i items rest
    rw [filterMap_eq_iff_readsAs fun _ _ => text?_eq_some_iff]
    constructor
    · exact .array
    · rintro (h | ⟨hflat, -⟩)
      · exact h
      · exact absurd rfl (hflat items)
  · rename_i hflat
    rw [filterMap_eq_iff_readsAs (R := ArgumentText)]
    · constructor
      · intro h
        refine .flat (fun items hhead => ?_) h
        obtain ⟨rest, rfl⟩ := List.head?_eq_some_iff.mp hhead
        exact hflat items rest rfl
      · rintro (_ | ⟨-, h⟩)
        · exact absurd rfl (hflat _ _)
        · exact h
    · intro argument text
      constructor
      · intro h
        cases argument with
        | string value =>
          cases h
          exact .string text
        | other _ => cases h
        | type _ => cases h
        | array _ => cases h
        | bool _ => cases h
      · rintro ⟨⟩
        rfl

/-- What is found about a custom entity that is an entity: first that it has no ids, then the faults
of the generators in the order of the ids, then that an id without a generator has no
constructor. -/
def IdsJudged (p : Program) (names : FrameworkNames) (symbol : TypeSymbol) (declaration : NodeId)
    (data : AttributeData) (findings : List Finding) : Prop :=
  ∃ texts noIds faults noConstructor, ListsIds data.arguments texts ∧
    findings = noIds ++ faults.flatten ++ noConstructor ∧
    Exactly noIds (fun finding => texts = [] ∧
      finding = ⟨.customEntityNoIDs, data.site.getD declaration, [symbol.name]⟩) ∧
    List.Forall₂ (fun text found =>
        Exactly found (GeneratorFault p names symbol declaration (EntityId.generatorName text)))
      (texts.filter fun text => '=' ∈ text.toList) faults ∧
    Exactly noConstructor fun finding =>
      (∃ text ∈ texts, '=' ∉ text.toList) ∧ ¬ HasUsableConstructor p names symbol ∧
      finding = ⟨.customEntityWithNoValidCtor, declaration, [symbol.name]⟩

theorem filterMap_generator?_parse (texts : List String) :
    (texts.map EntityId.parse).filterMap EntityId.generator? =
      (texts.filter fun text => '=' ∈ text.toList).map EntityId.generatorName := by
  induction texts with
  | nil => rfl
  | cons text texts ih =>
    rw [List.map_cons, List.filterMap_cons, EntityId.generator?_parse, ih]
    by_cases hmem : '=' ∈ text.toList <;> simp [hmem]

theorem isConstructible_iff (h : p.InRange) (hsymbol : symbol.IdsBelow p.size)
    (texts : List String) :
    Answers (isConstructible p names symbol (texts.map EntityId.parse)) fun b => b = true ↔
      ¬ ((∃ text ∈ texts, '=' ∉ text.toList) ∧ ¬ HasUsableConstructor p names symbol) := by
  have hall : ((texts.map EntityId.parse).all fun id => id.generator?.isSome) = true ↔
      ∀ text ∈ texts, '=' ∈ text.toList := by
    simp [List.all_eq_true, EntityId.generator?_parse]
  unfold isConstructible
  split
  · rename_i hgenerators
    refine Answers.pure ⟨fun _ => ?_, fun _ => rfl⟩
    rintro ⟨⟨text, htext, hplain⟩, -⟩
    exact hplain (hall.mp hgenerators text htext)
  · rename_i hgenerators
    have hplain : ∃ text ∈ texts, '=' ∉ text.toList := by
      rw [hall] at hgenerators
      push Not at hgenerators
      exact hgenerators
    refine Answers.mono (Answers.anyM_iff fun member hmember =>
      isUsableConstructor_iff h (hsymbol.members member hmember)) fun b hb => ?_
    rw [hb, not_and_not_right]
    constructor
    · intro husable _
      exact husable
    · intro husable
      exact husable hplain

theorem idFindings_judged (h : p.InRange) (hsymbol : symbol.IdsBelow p.size)
    (declaration : NodeId) (data : AttributeData) :
    Answers (idFindings p names symbol declaration data)
      (IdsJudged p names symbol declaration data) := by
  unfold idFindings
  refine (Answers.mapM_forall₂ fun name _ =>
    generatorFindings_exactly h hsymbol declaration name).bind fun faults hfaults => ?_
  refine (isConstructible_iff h hsymbol _).bind fun constructible hconstructible => Answers.pure ?_
  refine ⟨_, _, faults, _, idTexts_eq_iff.mp rfl, rfl, ?_, ?_,
    (Exactly.ite_nil hconstructible _).congr fun finding => ?_⟩
  · split
    · rename_i hempty
      have hnil : idTexts data.arguments = [] := by simpa using hempty
      exact Exactly.single fun finding => and_iff_right hnil
    · rename_i hsome
      refine Exactly.nil fun finding hfinding => hsome ?_
      simp [hfinding.1]
  · rwa [filterMap_generator?_parse, List.forall₂_map_left_iff] at hfaults
  · rw [not_not, and_assoc]

/-! ## What is reported -/

theorem typeFindings_judged (hp : p.Loaded) {id : TypeId} (hsymbol : p.type id = .ok symbol)
    (hdeclaration : symbol.declaration = some declaration)
    (hmarks : p.Marks names.customEntityAttribute symbol data) :
    Answers (typeFindings p names id) fun findings =>
      (¬ p.Extends names.entity id → findings =
        [⟨.customEntityNotExtendingEntity, declaration, [symbol.name]⟩]) ∧
      (p.Extends names.entity id → IdsJudged p names symbol declaration data findings) := by
  have hid : p.Has id := lt_size_of_fetch hsymbol
  obtain ⟨symbol', hsymbol', hbelow⟩ := hp.inRange.type hid
  obtain rfl := lookup_unique hsymbol hsymbol'
  simp only [typeFindings, hp.inRange.findAttribute_eq hsymbol hmarks, hsymbol, hdeclaration, bind,
    Except.bind]
  refine Answers.bind (hp.inRange.extendsType_iff hid names.entity) fun isEntity hentity => ?_
  split
  · rename_i hyes
    refine Answers.mono (idFindings_judged hp.inRange hbelow declaration data) fun findings hf => ?_
    exact ⟨fun hnot => absurd (hentity.mp hyes) hnot, fun _ => hf⟩
  · rename_i hno
    exact Answers.pure ⟨fun _ => rfl, fun hextends => absurd (hentity.mpr hextends) hno⟩

/-- In every loaded program every declared type that is marked as a custom entity comes up as one
event, which the check of entities wants to see. If the conditions of the check are enabled, a type
that has no entity among its base classes is reported for that alone, and an entity for exactly what
is wrong with its ids, its generators and its constructors. -/
theorem custom_entities_are_judged_exactly {p q : Program} (hcheck : p.check = .ok ())
    (hlink : p.link = .ok q) (analyzer : Analyzer)
    (henabled : ∀ id ∈ conditions, (analyzer.catalog.setting id).enabled = true)
    {id : TypeId} {symbol : TypeSymbol} {declaration : NodeId} {data : AttributeData}
    (hsymbol : q.type id = .ok symbol) (hdeclaration : symbol.declaration = some declaration)
    (hmarks : q.Marks analyzer.config.framework.customEntityAttribute symbol data) :
    (∃ events, q.raisedEvents = .ok events ∧ events.count (.namedType id) = 1) ∧
      .namedType ∈ eventKinds ∧
      ∃ findings reports, inspect q analyzer.config.framework (.namedType id) = .ok findings ∧
        (¬ q.Extends analyzer.config.framework.entity id → findings =
          [⟨.customEntityNotExtendingEntity, declaration, [symbol.name]⟩]) ∧
        (q.Extends analyzer.config.framework.entity id →
          IdsJudged q analyzer.config.framework symbol declaration data findings) ∧
        analyzer.reportsOf q (.namedType id) .entity = .ok reports ∧
        List.Forall₂ (fun finding report => finding.ReportedAs q report) findings reports := by
  have hq : q.Loaded := loaded_of_link hcheck hlink
  obtain ⟨findings, hfindings, hnone, hjudged⟩ :=
    typeFindings_judged hq hsymbol hdeclaration hmarks
  have hconditions : ∀ finding ∈ findings,
      (analyzer.catalog.setting finding.id).enabled = true := by
    intro finding hfinding
    exact henabled _ (inspect_only q _ (.namedType id) findings hfindings finding hfinding)
  have hin : Event.InRange q (.namedType id) := lt_size_of_fetch hsymbol
  obtain ⟨reports, hreports, hmatch⟩ :=
    hq.reportsOf_findings analyzer .entity hin hfindings hconditions
  exact ⟨⟨_, hq.raisedEvents_eq, hq.count_namedType hsymbol hdeclaration⟩, by decide, findings,
    reports, hfindings, hnone, hjudged, hreports, hmatch⟩

/-- The mark of `spinner`. Its ids name a generator that can be used, two that cannot and one that
is missing, and the last id is left to the constructors. The truth value among them is no id. -/
def spinnerMark : AttributeData :=
  { attributeClass := ⟨1⟩
    arguments := [.array [.string " mod/a = Make ", .other "mod/b=Spawn", .string "mod/c=Clone",
      .bool true, .string "mod/d=Other=x", .string "mod/e"]]
    site := some ⟨2⟩ }

/-- The type of `spinner`. -/
def spinnerType : TypeSymbol :=
  { name := "Spinner", base := some ⟨2⟩, assembly := "Mod", attributes := [spinnerMark]
    members := [⟨0⟩, ⟨1⟩, ⟨2⟩, ⟨3⟩], declaration := some ⟨1⟩ }

/-- A custom entity by way of `Hazard`. `Make` takes the level, the data of the level, the position
and the data of the entity; `Spawn` needs an instance and takes the data alone; `Clone` takes
nothing and is the compiler's. The constructor takes the data and the position in the wrong order.
-/
def spinner : Program :=
  let nodes : List (Option NodeId × NodeKind) :=
    [(none, .compilationUnit [⟨1⟩]),
      (some ⟨0⟩, .typeDeclaration "Spinner" (some ⟨3⟩) [⟨2⟩] [⟨3⟩, ⟨4⟩]),
      (some ⟨1⟩, .attributeNode "CustomEntity" []),
      (some ⟨1⟩, .method "Make" [] none (some ⟨1⟩) [] none),
      (some ⟨1⟩, .method "Spawn" [] none (some ⟨2⟩) [] none)]
  { assembly := "Mod"
    files := #[{ path := "Spinner.cs" }]
    namespaces := #[{ name := "Monocle" }, { name := "Celeste" },
      { name := "Mod", parent := some ⟨1⟩ }, { name := "Entities", parent := some ⟨2⟩ },
      { name := "Microsoft" }, { name := "Xna", parent := some ⟨4⟩ },
      { name := "Framework", parent := some ⟨5⟩ }]
    types := #[{ name := "Entity", nameSpace := some ⟨0⟩, assembly := "Game" },
      { name := "CustomEntityAttribute", nameSpace := some ⟨3⟩, assembly := "Game" },
      { name := "Hazard", base := some ⟨0⟩, assembly := "Mod" }, spinnerType,
      { name := "Vector2", nameSpace := some ⟨6⟩, assembly := "Game" },
      { name := "EntityData", nameSpace := some ⟨1⟩, assembly := "Game" },
      { name := "Level", nameSpace := some ⟨1⟩, assembly := "Game" },
      { name := "LevelData", nameSpace := some ⟨1⟩, assembly := "Game" }]
    methods := #[
      { name := ".ctor", kind := .constructor
        parameters := [⟨"offset", some ⟨4⟩⟩, ⟨"data", some ⟨5⟩⟩] },
      { name := "Make", isStatic := true, returnType := some ⟨2⟩, declaration := some ⟨3⟩
        parameters := [⟨"level", some ⟨6⟩⟩, ⟨"room", some ⟨7⟩⟩, ⟨"offset", some ⟨4⟩⟩,
          ⟨"data", some ⟨5⟩⟩] },
      { name := "Spawn", returnType := some ⟨2⟩, declaration := some ⟨4⟩
        parameters := [⟨"data", some ⟨5⟩⟩] },
      { name := "Clone", isStatic := true, isImplicit := true, returnType := some ⟨2⟩ }]
    nodes := (nodes.mapIdx fun i entry =>
      { file := ⟨0⟩
        span := { startByte := i, endByte := i + 1, startLine := 1, startColumn := i + 1 }
        parent := entry.1
        kind := entry.2 }).toArray }

theorem spinner_is_judged : spinner.check = .ok () ∧ spinner.link = .ok spinner ∧
    spinner.type ⟨3⟩ = .ok spinnerType ∧
    spinner.Marks "Celeste.Mod.Entities.CustomEntityAttribute" spinnerType spinnerMark ∧
    spinner.Extends "Monocle.Entity" ⟨3⟩ ∧
    ∃ findings reports, findings = [⟨.customEntityGeneratorInvalid, ⟨4⟩, ["Spawn"]⟩,
        ⟨.customEntityGeneratorInvalidParams, ⟨4⟩, ["Spawn"]⟩,
        ⟨.customEntityGeneratorInvalidParams, ⟨1⟩, ["Clone"]⟩,
        ⟨.customEntityGeneratorMethodMissing, ⟨1⟩, ["Other=x", "Spinner"]⟩,
        ⟨.customEntityWithNoValidCtor, ⟨1⟩, ["Spinner"]⟩] ∧
      IdsJudged spinner {} spinnerType ⟨1⟩ spinnerMark findings ∧
      plainAnalyzer.reportsOf spinner (.namedType ⟨3⟩) .entity = .ok reports ∧
      List.Forall₂ (fun finding report => finding.ReportedAs spinner report) findings reports := by
  have hcheck : spinner.check = .ok () := by decide +kernel
  have hlink : spinner.link = .ok spinner := by decide +kernel
  have hsymbol : spinner.type ⟨3⟩ = .ok spinnerType := rfl
  have hclass : spinner.fullTypeName ⟨1⟩ = .ok "Celeste.Mod.Entities.CustomEntityAttribute" := by
    decide +kernel
  have hmarks : spinner.Marks "Celeste.Mod.Entities.CustomEntityAttribute" spinnerType
      spinnerMark := ⟨[], [], rfl, hclass, by simp⟩
  have hentity : spinner.fullTypeName ⟨0⟩ = .ok "Monocle.Entity" := by decide +kernel
  have hextends : spinner.Extends "Monocle.Entity" ⟨3⟩ :=
    ⟨⟨0⟩, .head ⟨_, rfl, rfl⟩ (.head ⟨_, rfl, rfl⟩ .refl), hentity⟩
  obtain ⟨-, -, findings, reports, hfindings, -, hjudged, hreports, hmatch⟩ :=
    custom_entities_are_judged_exactly hcheck hlink plainAnalyzer (by decide) hsymbol rfl hmarks
  have hfound : inspect spinner {} (.namedType ⟨3⟩) =
      .ok [⟨.customEntityGeneratorInvalid, ⟨4⟩, ["Spawn"]⟩,
        ⟨.customEntityGeneratorInvalidParams, ⟨4⟩, ["Spawn"]⟩,
        ⟨.customEntityGeneratorInvalidParams, ⟨1⟩, ["Clone"]⟩,
        ⟨.customEntityGeneratorMethodMissing, ⟨1⟩, ["Other=x", "Spinner"]⟩,
        ⟨.customEntityWithNoValidCtor, ⟨1⟩, ["Spinner"]⟩] := by
    decide +kernel
  exact ⟨hcheck, hlink, hsymbol, hmarks, hextends, findings, reports,
    lookup_unique hfindings hfound, hjudged hextends, hreports, hmatch⟩

end Check.Entity

end ModLint
