import ModLint.Diagnostic.Catalog

/-!
# Overrides of settings

What a configuration says about a condition is spread over all keys that denote it. The catalog
goes through the keys in their order, so that of the keys that set a part of the setting the last
one wins. A condition is therefore disabled by a configuration exactly if the last of its overrides
that says anything about reporting says that it is not reported.
-/

namespace ModLint

theorem DiagnosticId.parse?_code (id : DiagnosticId) : parse? id.code = some id := by
  cases id <;> decide +kernel

theorem DiagnosticId.code_injective {a b : DiagnosticId} (h : a.code = b.code) : a = b := by
  have hparse := parse?_code a
  rw [h, parse?_code b] at hparse
  exact (Option.some.inj hparse).symm

/-- The overrides for a condition, in the order of their keys. -/
def overridesFor (rules : List (String × RuleOverride)) (id : DiagnosticId) : List RuleOverride :=
  (rules.filter fun entry => DiagnosticId.parse? entry.1 = some id).map Prod.snd

/-- Of several overrides the last one that sets a part of the setting decides about it. -/
theorem RuleSetting.foldl_override {α : Type} {part : RuleOverride → Option α}
    {field : RuleSetting → α}
    (hpart : ∀ setting rule, field (setting.override rule) = (part rule).getD (field setting))
    (rules : List RuleOverride) (setting : RuleSetting) :
    field (rules.foldl RuleSetting.override setting) =
      (rules.filterMap part).getLast?.getD (field setting) := by
  induction rules generalizing setting with
  | nil => rfl
  | cons rule rules ih =>
    rw [List.foldl_cons, ih, hpart]
    cases hrule : part rule with
    | none => rw [List.filterMap_cons_none hrule, Option.getD_none]
    | some value =>
      rw [List.filterMap_cons_some hrule, List.getLast?_cons, Option.getD_some, Option.getD_some]

theorem RuleSetting.enabled_foldl (rules : List RuleOverride) (setting : RuleSetting) :
    (rules.foldl RuleSetting.override setting).enabled =
      (rules.filterMap RuleOverride.enabled).getLast?.getD setting.enabled :=
  foldl_override (fun _ _ => rfl) rules setting

theorem RuleSetting.severity_foldl (rules : List RuleOverride) (setting : RuleSetting) :
    (rules.foldl RuleSetting.override setting).severity =
      (rules.filterMap RuleOverride.severity).getLast?.getD setting.severity :=
  foldl_override (fun _ _ => rfl) rules setting

/-! ## The catalog of a configuration -/

namespace Catalog

theorem setting_adjust (catalog : Catalog) (key : DiagnosticId) (rule : RuleOverride)
    (id : DiagnosticId) :
    (catalog.adjust key rule).setting id =
      if id = key then (catalog.setting id).override rule else catalog.setting id := by
  unfold adjust
  dsimp only
  split
  · rename_i heq
    rw [heq]
  · rfl

/-- Every override applies to the condition that its key denotes, and to no other one. -/
theorem setting_withOverrides {catalog result : Catalog} {rules : List (String × RuleOverride)}
    (h : catalog.withOverrides rules = .ok result) (id : DiagnosticId) :
    result.setting id =
      (overridesFor rules id).foldl RuleSetting.override (catalog.setting id) := by
  induction rules generalizing catalog with
  | nil =>
    cases h
    rfl
  | cons entry rules ih =>
    obtain ⟨key, rule⟩ := entry
    rw [withOverrides] at h
    cases hkey : DiagnosticId.parse? key with
    | none =>
      rw [hkey] at h
      cases h
    | some known =>
      rw [hkey] at h
      rw [ih h, setting_adjust]
      by_cases hid : id = known
      · subst hid
        simp [overridesFor, hkey]
      · have hne : ¬ known = id := fun heq => hid heq.symm
        simp [overridesFor, hkey, hid, hne]

/-- Overrides are accepted exactly if every key denotes a condition. -/
theorem withOverrides_eq_ok_iff (catalog : Catalog) (rules : List (String × RuleOverride)) :
    (∃ result, catalog.withOverrides rules = .ok result) ↔
      ∀ entry ∈ rules, (DiagnosticId.parse? entry.1).isSome := by
  induction rules generalizing catalog with
  | nil => simp [withOverrides]
  | cons entry rules ih =>
    obtain ⟨key, rule⟩ := entry
    rw [withOverrides, List.forall_mem_cons]
    cases hkey : DiagnosticId.parse? key with
    | none => simp
    | some known =>
      rw [ih]
      simp

end Catalog

/-! ## Disabling conditions -/

/-- An entry is put between two parts of a list, in place of one with its key if there is one. -/
theorem exists_insertByKey_eq {α : Type} (key : String) (value : α) (entries : List (String × α)) :
    ∃ before after, insertByKey key value entries = before ++ (key, value) :: after ∧
      (entries = before ++ after ∨ ∃ old, entries = before ++ (key, old) :: after) := by
  induction entries with
  | nil => exact ⟨[], [], rfl, Or.inl rfl⟩
  | cons entry rest ih =>
    obtain ⟨other, kept⟩ := entry
    rw [insertByKey]
    split
    · exact ⟨[], (other, kept) :: rest, rfl, Or.inl rfl⟩
    · split
      · rename_i heq
        subst heq
        exact ⟨[], rest, rfl, Or.inr ⟨kept, rfl⟩⟩
      · obtain ⟨before, after, heq, hrest⟩ := ih
        refine ⟨(other, kept) :: before, after, by rw [heq]; rfl, ?_⟩
        rcases hrest with rfl | ⟨old, rfl⟩
        · exact Or.inl rfl
        · exact Or.inr ⟨old, rfl⟩

theorem mem_insertByKey {α : Type} {key : String} {value : α} {entries : List (String × α)}
    {entry : String × α} (h : entry ∈ insertByKey key value entries) :
    entry = (key, value) ∨ entry ∈ entries := by
  obtain ⟨before, after, heq, hentries⟩ := exists_insertByKey_eq key value entries
  have hkept : entry ∈ before ++ after → entry ∈ entries := by
    intro hmem
    rw [List.mem_append] at hmem
    rcases hentries with rfl | ⟨old, rfl⟩
    · exact List.mem_append.mpr hmem
    · exact List.mem_append.mpr (hmem.imp_right (List.mem_cons_of_mem _))
  rw [heq, List.mem_append, List.mem_cons] at h
  rcases h with h | h | h
  · exact Or.inr (hkept (List.mem_append_left _ h))
  · exact Or.inl h
  · exact Or.inr (hkept (List.mem_append_right _ h))

/-- An entry does not matter to the conditions that its key does not denote. -/
theorem overridesFor_insertByKey_ne {key : String} {id : DiagnosticId}
    (h : DiagnosticId.parse? key ≠ some id) (value : RuleOverride)
    (rules : List (String × RuleOverride)) :
    overridesFor (insertByKey key value rules) id = overridesFor rules id := by
  obtain ⟨before, after, heq, hrules⟩ := exists_insertByKey_eq key value rules
  rw [heq]
  rcases hrules with rfl | ⟨old, rfl⟩ <;> simp [overridesFor, h]

theorem overridesFor_insertByKey_self {key : String} {id : DiagnosticId}
    (h : DiagnosticId.parse? key = some id) (value : RuleOverride)
    {rules : List (String × RuleOverride)} (hnone : overridesFor rules id = []) :
    overridesFor (insertByKey key value rules) id = [value] := by
  obtain ⟨before, after, heq, hrules⟩ := exists_insertByKey_eq key value rules
  rw [heq]
  rcases hrules with rfl | ⟨old, rfl⟩
  · simp only [overridesFor, List.filter_append, List.map_append, List.append_eq_nil_iff] at hnone
    simp [overridesFor, h, hnone]
  · simp [overridesFor, h] at hnone

namespace Config

/-- A configuration that differs from another one in its overrides only: some conditions are
disabled, and the overrides of the other ones stay as they are. -/
structure Disabling (config : Config) (off : List DiagnosticId) (config' : Config) : Prop where
  framework : config'.framework = config.framework
  known : ∀ entry ∈ config'.rules, (DiagnosticId.parse? entry.1).isSome
  kept : ∀ id, id ∉ off → overridesFor config'.rules id = overridesFor config.rules id
  disabled : ∀ id ∈ off,
    ((overridesFor config'.rules id).filterMap RuleOverride.enabled).getLast? = some false

theorem Disabling.catalog {config config' : Config} {off : List DiagnosticId}
    (h : config.Disabling off config') {catalog : Catalog}
    (hcatalog : Catalog.ofConfig config = .ok catalog) :
    ∃ catalog', Catalog.ofConfig config' = .ok catalog' ∧
      (∀ id, id ∉ off → catalog'.setting id = catalog.setting id) ∧
      ∀ id ∈ off, (catalog'.setting id).enabled = false := by
  obtain ⟨catalog', hcatalog'⟩ := (Catalog.builtin.withOverrides_eq_ok_iff _).mpr h.known
  refine ⟨catalog', hcatalog', fun id hid => ?_, fun id hid => ?_⟩
  · rw [Catalog.setting_withOverrides hcatalog', Catalog.setting_withOverrides hcatalog,
      h.kept id hid]
  · rw [Catalog.setting_withOverrides hcatalog', RuleSetting.enabled_foldl, h.disabled id hid,
      Option.getD_some]

/-- The configuration with one condition disabled under its code, in place of all that was said
about it. -/
def disable (config : Config) (id : DiagnosticId) : Config :=
  { config with
    rules := insertByKey id.code { enabled := some false }
      (config.rules.filter fun entry => DiagnosticId.parse? entry.1 ≠ some id) }

/-- The configuration with some conditions disabled. -/
def disableAll (config : Config) (off : List DiagnosticId) : Config :=
  off.foldr (fun id config => config.disable id) config

theorem overridesFor_disable (config : Config) (id other : DiagnosticId) :
    overridesFor (config.disable id).rules other =
      if other = id then [{ enabled := some false }] else overridesFor config.rules other := by
  split
  · rename_i heq
    subst heq
    refine overridesFor_insertByKey_self (DiagnosticId.parse?_code other) _ ?_
    simp [overridesFor, List.filter_filter]
  · rename_i hne
    have hcode : DiagnosticId.parse? id.code ≠ some other := by
      rw [DiagnosticId.parse?_code]
      exact fun heq => hne (Option.some.inj heq).symm
    rw [disable, overridesFor_insertByKey_ne hcode, overridesFor, overridesFor, List.filter_filter]
    congr 1
    refine List.filter_congr fun entry _ => ?_
    by_cases hentry : DiagnosticId.parse? entry.1 = some other
    · simp [hentry, hne]
    · simp [hentry]

/-- Every list of conditions can be disabled. -/
theorem disabling_disableAll {config : Config}
    (hknown : ∀ entry ∈ config.rules, (DiagnosticId.parse? entry.1).isSome)
    (off : List DiagnosticId) : config.Disabling off (config.disableAll off) := by
  induction off with
  | nil => exact ⟨rfl, hknown, fun _ _ => rfl, by simp⟩
  | cons id off ih =>
    have hstep : ∀ other, overridesFor (config.disableAll (id :: off)).rules other =
        if other = id then [{ enabled := some false }]
        else overridesFor (config.disableAll off).rules other :=
      overridesFor_disable (config.disableAll off) id
    refine ⟨ih.framework, fun entry hentry => ?_, fun other hother => ?_, fun other hother => ?_⟩
    · rcases mem_insertByKey hentry with rfl | hold
      · rw [DiagnosticId.parse?_code]
        rfl
      · exact ih.known entry (List.mem_filter.mp hold).1
    · rw [List.mem_cons, not_or] at hother
      rw [hstep, if_neg hother.1, ih.kept other hother.2]
    · rw [hstep]
      by_cases heq : other = id
      · rw [if_pos heq]
        rfl
      · rw [if_neg heq]
        exact ih.disabled other ((List.mem_cons.mp hother).resolve_left heq)

end Config

end ModLint
