import ModLint.EntityId
import ModLint.Proofs.Cutting
import ModLint.Proofs.Trimming

/-!
# Ids of entities in normal form

An id is written in many ways, with blanks at its ends and around its equals sign. Reading takes it
to a normal form: a trimmed name, or a trimmed name without an equals sign and a trimmed method.
Every such pair is read from exactly those texts that spell it, and a normal form that is written
out is read back as it is.
-/

namespace ModLint.EntityId

open Text (Blanks trim trimmed)

/-- A text that is a name, an equals sign and a method, with any blanks around these. -/
def Spells (text id method : String) : Prop :=
  ∃ first second third fourth : String,
    (∀ blanks ∈ [first, second, third, fourth], Blanks blanks.toList) ∧
      text = first ++ id ++ second ++ "=" ++ third ++ method ++ fourth

theorem isBlank_equals : Text.isBlank '=' = false := by
  decide

theorem trimmed_eq_self_iff {text : String} :
    trimmed text = text ↔ trim text.toList = text.toList := by
  rw [trimmed, ← String.toList_inj, String.toList_ofList]

theorem trimmed_trimmed (text : String) : trimmed (trimmed text) = trimmed text := by
  rw [trimmed_eq_self_iff, trimmed, String.toList_ofList, Text.trim_trim]

theorem parse_of_not_mem {text : String} (h : '=' ∉ text.toList) :
    parse text = .plain (trimmed text) := by
  have hnone := Text.splitFirst?_eq_none fun hmem => h (Text.trim_subset _ hmem)
  rw [parse, hnone]
  rfl

/-- The first equals sign divides a text, and each part is trimmed by itself. -/
theorem parse_of_append {text : String} {before after : List Char}
    (htext : text.toList = before ++ '=' :: after) (h : '=' ∉ before) :
    parse text = .generator (String.ofList (trim before)) (String.ofList (trim after)) := by
  have htrim : trim text.toList = Text.trimStart before ++ '=' :: Text.trimEnd after := by
    rw [trim, htext, Text.trimStart_append_cons isBlank_equals,
      Text.trimEnd_append_cons isBlank_equals]
  rw [parse, htrim, Text.splitFirst?_append (Text.not_mem_trimStart h),
    ← Text.trim_trimStart before, ← Text.trim_trimEnd after]

theorem parse_eq_plain_iff {text id : String} :
    parse text = .plain id ↔ id = trimmed text ∧ '=' ∉ id.toList := by
  by_cases hmem : '=' ∈ text.toList
  · obtain ⟨before, after, htext, hbefore⟩ := List.eq_append_cons_of_mem hmem
    rw [parse_of_append htext hbefore]
    constructor
    · intro h
      cases h
    · rintro ⟨rfl, hnot⟩
      rw [trimmed, String.toList_ofList, trim, htext, Text.trimStart_append_cons isBlank_equals,
        Text.trimEnd_append_cons isBlank_equals] at hnot
      simp at hnot
  · have hnot : '=' ∉ (trimmed text).toList := by
      rw [trimmed, String.toList_ofList]
      exact fun hin => hmem (Text.trim_subset _ hin)
    rw [parse_of_not_mem hmem, EntityId.plain.injEq]
    constructor
    · rintro rfl
      exact ⟨rfl, hnot⟩
    · exact fun h => h.1.symm

/-- What is cut off a text at its first equals sign and by trimming is the sign and blanks. -/
theorem spells_of_parse {text id method : String} (h : parse text = .generator id method) :
    '=' ∉ id.toList ∧ trimmed id = id ∧ trimmed method = method ∧ Spells text id method := by
  by_cases hmem : '=' ∈ text.toList
  · obtain ⟨before, after, htext, hbefore⟩ := List.eq_append_cons_of_mem hmem
    rw [parse_of_append htext hbefore] at h
    obtain ⟨rfl, rfl⟩ := EntityId.generator.inj h
    obtain ⟨first, second, hfirst, hsecond, hid⟩ := Text.exists_eq_blanks_around before
    obtain ⟨third, fourth, hthird, hfourth, hmethod⟩ := Text.exists_eq_blanks_around after
    refine ⟨?_, ?_, ?_, .ofList first, .ofList second, .ofList third, .ofList fourth, ?_, ?_⟩
    · rw [String.toList_ofList]
      exact fun hin => hbefore (Text.trim_subset _ hin)
    · rw [trimmed, String.toList_ofList, Text.trim_trim]
    · rw [trimmed, String.toList_ofList, Text.trim_trim]
    · simp [hfirst, hsecond, hthird, hfourth]
    · rw [← String.toList_inj, htext]
      calc before ++ '=' :: after
        _ = (first ++ trim before ++ second) ++ '=' :: (third ++ trim after ++ fourth) := by
          rw [← hid, ← hmethod]
        _ = _ := by simp
  · rw [parse_of_not_mem hmem] at h
    cases h

theorem parse_of_spells {text id method : String} (hequals : '=' ∉ id.toList)
    (hid : trimmed id = id) (hmethod : trimmed method = method) (h : Spells text id method) :
    parse text = .generator id method := by
  obtain ⟨first, second, third, fourth, hblanks, rfl⟩ := h
  simp only [List.forall_mem_cons] at hblanks
  obtain ⟨hfirst, hsecond, hthird, hfourth, -⟩ := hblanks
  have hbefore : '=' ∉ first.toList ++ id.toList ++ second.toList := by
    simp only [List.mem_append, not_or]
    exact ⟨⟨hfirst.not_mem isBlank_equals, hequals⟩, hsecond.not_mem isBlank_equals⟩
  have htext : (first ++ id ++ second ++ "=" ++ third ++ method ++ fourth).toList =
      (first.toList ++ id.toList ++ second.toList) ++
        '=' :: (third.toList ++ method.toList ++ fourth.toList) := by
    simp
  rw [parse_of_append htext hbefore, Text.trim_blanks_around hfirst hsecond,
    Text.trim_blanks_around hthird hfourth, trimmed_eq_self_iff.mp hid,
    trimmed_eq_self_iff.mp hmethod, String.ofList_toList, String.ofList_toList]

theorem parse_eq_generator_iff {text id method : String} :
    parse text = .generator id method ↔
      '=' ∉ id.toList ∧ trimmed id = id ∧ trimmed method = method ∧ Spells text id method :=
  ⟨spells_of_parse, fun h => parse_of_spells h.1 h.2.1 h.2.2.1 h.2.2.2⟩

/-- The way in which a pair is written out is one of its spellings. -/
theorem spells_display (id method : String) :
    Spells (display (.generator id method)) id method := by
  have hempty : Blanks "".toList := by simp [Blanks]
  have hblank : Blanks " ".toList := by
    have hone : Text.isBlank ' ' = true := by decide
    simpa [Blanks] using hone
  refine ⟨"", " ", " ", "", ?_, ?_⟩
  · simp only [List.forall_mem_cons]
    exact ⟨hempty, hblank, hblank, hempty, List.forall_mem_nil _⟩
  · rw [← String.toList_inj]
    simp [display]

theorem parse_display_parse (text : String) : parse (parse text).display = parse text := by
  cases hid : parse text with
  | plain id =>
    obtain ⟨rfl, hequals⟩ := parse_eq_plain_iff.mp hid
    exact parse_eq_plain_iff.mpr ⟨(trimmed_trimmed text).symm, hequals⟩
  | generator id method =>
    obtain ⟨hequals, htrimmed, hmethod, -⟩ := spells_of_parse hid
    exact parse_of_spells hequals htrimmed hmethod (spells_display id method)

/-- Reading brings an id to its normal form. What is read and written out is read back unchanged. A
text with an equals sign, and no other, is a pair. A text is read as a plain name exactly if the
name is the trimmed text and has no equals sign. It is read as a pair exactly if the parts are
trimmed, the first one has no equals sign, and the text spells the pair, with any blanks at the ends
and around the sign. -/
theorem parsed_ids_are_normal_forms (text : String) :
    parse (parse text).display = parse text ∧
    ((∃ id method, parse text = .generator id method) ↔ '=' ∈ text.toList) ∧
    (∀ id, parse text = .plain id ↔ id = trimmed text ∧ '=' ∉ id.toList) ∧
    ∀ id method, parse text = .generator id method ↔
      '=' ∉ id.toList ∧ trimmed id = id ∧ trimmed method = method ∧ Spells text id method := by
  refine ⟨parse_display_parse text, ⟨?_, fun hmem => ?_⟩, fun id => parse_eq_plain_iff,
    fun id method => parse_eq_generator_iff⟩
  · rintro ⟨id, method, h⟩
    obtain ⟨-, -, -, first, second, third, fourth, -, rfl⟩ := spells_of_parse h
    simp
  · obtain ⟨before, after, htext, hbefore⟩ := List.eq_append_cons_of_mem hmem
    exact ⟨_, _, parse_of_append htext hbefore⟩

-- Only the first equals sign divides, and wide blanks are blanks.
example : parse "　Example/Spinner\t= = Load " = .generator "Example/Spinner" "= Load" := by
  decide +kernel

end ModLint.EntityId
