import Mathlib.Tactic.IntervalCases
import ModLint.Json.Basic
import ModLint.Json.Reader

/-!
# Reading written documents

The reader takes the text of a written document back to its content. The proof follows the machine:
`Reads` says which states it goes through on a piece of text, and there is one lemma for each kind
of piece, up to the containers, whose items and members are read with the container's frame on the
stack.
-/

namespace ModLint

/-- Documents built from documents about which something is known already. -/
@[elab_as_elim]
theorem Json.induction {motive : Json → Prop} (null : motive .null)
    (bool : ∀ value, motive (.bool value)) (nat : ∀ value, motive (.nat value))
    (str : ∀ value, motive (.str value))
    (arr : ∀ items, (∀ item ∈ items, motive item) → motive (.arr items))
    (obj : ∀ members, (∀ member ∈ members, motive member.2) → motive (.obj members))
    (document : Json) : motive document :=
  @Json.rec motive (fun items => ∀ item ∈ items, motive item)
    (fun members => ∀ member ∈ members, motive member.2) (fun member => motive member.2)
    null bool nat str arr obj
    (List.forall_mem_nil _) (fun _ _ hhead htail => List.forall_mem_cons.mpr ⟨hhead, htail⟩)
    (List.forall_mem_nil _) (fun _ _ hhead htail => List.forall_mem_cons.mpr ⟨hhead, htail⟩)
    (fun _ _ hvalue => hvalue) document

namespace Json

mutual

/-- What a document says. -/
def datum : Json → Datum
  | .null => .null
  | .bool b => .bool b
  | .nat n => .number (.natural n)
  | .str s => .text s
  | .arr items => .list (datumItems items)
  | .obj members => .fields (datumMembers members)

/-- What the items of an array say. -/
def datumItems : List Json → List Datum
  | [] => []
  | item :: items => datum item :: datumItems items

/-- What the members of an object say. -/
def datumMembers : List (String × Json) → List (Datum × Datum)
  | [] => []
  | (key, value) :: members => (.text key, datum value) :: datumMembers members

end

end Json

namespace Json.Reader

/-- The reader goes from one state to another over a piece of text. -/
def Reads (state : State) (text : List Char) (state' : State) : Prop :=
  text.foldlM step state = some state'

namespace Reads

theorem nil (state : State) : Reads state [] state :=
  rfl

theorem trans {a b c : State} {s t : List Char} (hab : Reads a s b) (hbc : Reads b t c) :
    Reads a (s ++ t) c := by
  rw [Reads, List.foldlM_append, hab]
  exact hbc

theorem cons {a b c : State} {char : Char} {t : List Char} (hab : step a char = some b)
    (hbc : Reads b t c) : Reads a (char :: t) c := by
  rw [Reads, List.foldlM_cons, hab]
  exact hbc

theorem single {a b : State} {char : Char} (hab : step a char = some b) : Reads a [char] b :=
  cons hab (nil b)

end Reads

/-! ## Blanks -/

/-- Where blanks may stand. -/
def Mode.SkipsBlanks (mode : Mode) : Prop :=
  mode = .value ∨ mode = .firstItem ∨ mode = .firstKey ∨ mode = .key ∨ mode = .colon ∨
    mode = .after

theorem step_blank {frames : List Frame} {mode : Mode} (hmode : mode.SkipsBlanks) {c : Char}
    (hc : isSpace c = true) : step ⟨frames, mode⟩ c = some ⟨frames, mode⟩ := by
  rcases hmode with rfl | rfl | rfl | rfl | rfl | rfl <;> simp [step, afterValue?, hc]

theorem reads_blanks {frames : List Frame} {mode : Mode} (hmode : mode.SkipsBlanks) (n : Nat) :
    Reads ⟨frames, mode⟩ (List.replicate n ' ') ⟨frames, mode⟩ := by
  induction n with
  | zero => exact Reads.nil _
  | succ n ih => exact Reads.cons (step_blank hmode rfl) ih

theorem toList_newline (level : Nat) :
    (newline level).toList = '\n' :: List.replicate (2 * level) ' ' := by
  simp [newline]

theorem reads_newline {frames : List Frame} {mode : Mode} (hmode : mode.SkipsBlanks)
    (level : Nat) : Reads ⟨frames, mode⟩ (newline level).toList ⟨frames, mode⟩ := by
  rw [toList_newline]
  exact Reads.cons (step_blank hmode rfl) (reads_blanks hmode _)

/-! ## Strings -/

theorem reads_escapedChar (frames : List Frame) (chars : List Char) (c : Char) :
    Reads ⟨frames, .string { chars }⟩ (escapedChar c)
      ⟨frames, .string { chars := c :: chars }⟩ := by
  unfold escapedChar
  split
  · rfl
  · rfl
  · rfl
  · rfl
  · rfl
  · rfl
  · rfl
  · split
    · rename_i hcontrol
      -- there are few control characters, so each can be tried
      have hc : c = Char.ofNat c.toNat := (Char.ofNat_toNat c).symm
      generalize c.toNat = n at hc hcontrol
      subst hc
      interval_cases n <;> rfl
    · rename_i hquote hbackslash _ _ _ _ _ hcontrol
      refine Reads.single ?_
      simp only [step, StringScan.step?, if_neg hquote, if_neg hbackslash, if_neg hcontrol]
      rfl

theorem reads_string {frames : List Frame} {mode : Mode} (s : String)
    (hquote : step ⟨frames, mode⟩ '"' = some ⟨frames, .string {}⟩) :
    Reads ⟨frames, mode⟩ (escaped s).toList (deliver frames (.text s)) := by
  have hbody : ∀ text chars : List Char, Reads ⟨frames, .string { chars }⟩
      (text.flatMap escapedChar) ⟨frames, .string { chars := text.reverse ++ chars }⟩ := by
    intro text
    induction text with
    | nil => intro chars; exact Reads.nil _
    | cons c text ih =>
      intro chars
      rw [List.flatMap_cons, List.reverse_cons, List.append_assoc]
      exact (reads_escapedChar frames chars c).trans (ih (c :: chars))
  have hclose : step ⟨frames, .string { chars := s.toList.reverse ++ [] }⟩ '"' =
      some (deliver frames (.text s)) := by
    simp [step, StringScan.finish]
  have htext : (escaped s).toList = '"' :: (s.toList.flatMap escapedChar ++ ['"']) := by
    simp [escaped]
  rw [htext]
  exact Reads.cons hquote ((hbody s.toList []).trans (Reads.single hclose))

/-! ## Numbers -/

theorem digit?_digitChar {d : Nat} (hd : d < 10) : digit? d.digitChar = some d := by
  interval_cases d <;> rfl

/-- The digits of a number leave the reader waiting for more digits, with the number in hand. -/
theorem reads_digits (frames : List Frame) (n : Nat) :
    ∃ scan : NumberScan, Reads ⟨frames, .value⟩ (Nat.toDigits 10 n) ⟨frames, .number scan⟩ ∧
      scan.significand = n ∧ scan.negative = false ∧
      (scan.part = .whole ∨ n = 0 ∧ scan.part = .zero) := by
  induction n using Nat.strongRecOn with
  | ind n ih =>
    by_cases hn : n < 10
    · rw [Nat.toDigits_of_lt_base hn]
      interval_cases n
      · exact ⟨_, Reads.single rfl, rfl, rfl, Or.inr ⟨rfl, rfl⟩⟩
      all_goals exact ⟨_, Reads.single rfl, rfl, rfl, Or.inl rfl⟩
    · obtain ⟨scan, hreads, hvalue, hnegative, hpart⟩ := ih (n / 10) (by omega)
      have hwhole : scan.part = .whole := hpart.resolve_right (by omega)
      have hdigits : Nat.toDigits 10 n = Nat.toDigits 10 (n / 10) ++ [(n % 10).digitChar] :=
        Nat.toDigits_of_base_le (by decide) (by omega)
      refine ⟨scan.addDigit .whole (n % 10), ?_, ?_, hnegative, Or.inl rfl⟩
      · rw [hdigits]
        refine hreads.trans (Reads.single ?_)
        simp only [step, NumberScan.step?, hwhole, digit?_digitChar (Nat.mod_lt n (by decide))]
      · show scan.significand * 10 + n % 10 = n
        omega

/-! ## Complete values -/

/-- A value has been read in full: it has been delivered, or it is a number whose end shows with
the next character. -/
def Completes (frames : List Frame) (value : Datum) (state : State) : Prop :=
  state = deliver frames value ∨
    ∃ scan : NumberScan, state = ⟨frames, .number scan⟩ ∧ scan.negative = false ∧
      (scan.part = .whole ∨ scan.part = .zero) ∧ value = .number (.natural scan.significand)

/-- A number ends in front of a comma and of a line break. -/
theorem step_completes {frames : List Frame} {value : Datum} {state : State}
    (h : Completes frames value state) (hafter : (deliver frames value).mode = .after) {c : Char}
    (hc : c = ',' ∨ c = '\n') : step state c = afterValue? (deliver frames value) c := by
  rcases h with rfl | ⟨scan, rfl, hnegative, hpart, rfl⟩
  · rw [step, hafter]
  · have hstep : scan.step? c = none := by
      rcases hpart with hpart | hpart <;> rcases hc with rfl | rfl <;>
        rw [NumberScan.step?, hpart] <;> rfl
    have hfinish : scan.finish? = some (.natural scan.significand) := by
      rcases hpart with hpart | hpart <;> simp [NumberScan.finish?, hpart, hnegative]
    simp only [step, hstep, hfinish]
    rfl

theorem finish?_completes {value : Datum} {state : State} (h : Completes [] value state) :
    finish? state = some value := by
  rcases h with rfl | ⟨scan, rfl, hnegative, hpart, rfl⟩
  · rfl
  · rcases hpart with hpart | hpart <;> simp [finish?, NumberScan.finish?, hpart, hnegative]

/-- Reading a text as a value. -/
def ReadsValue (text : List Char) (value : Datum) : Prop :=
  ∀ frames, ∃ state, Reads ⟨frames, .value⟩ text state ∧ Completes frames value state

theorem readsValue_nat (n : Nat) : ReadsValue (toString n).toList (.number (.natural n)) := by
  intro frames
  obtain ⟨scan, hreads, hvalue, hnegative, hpart⟩ := reads_digits frames n
  have htext : (toString n).toList = Nat.toDigits 10 n := by
    simp [Nat.repr]
  rw [htext]
  refine ⟨_, hreads, Or.inr ⟨scan, rfl, hnegative, hpart.imp_right And.right, ?_⟩⟩
  rw [hvalue]

theorem readsValue_str (s : String) : ReadsValue (escaped s).toList (.text s) :=
  fun _ => ⟨_, reads_string s rfl, Or.inl rfl⟩

/-! ## Containers -/

theorem mode_ne_value_of_completes {frames : List Frame} {value : Datum} {state : State}
    (h : Completes frames value state) : state.mode ≠ .value := by
  rcases h with rfl | ⟨scan, rfl, -⟩
  · match frames with
    | [] => simp [deliver]
    | .list _ :: _ => simp [deliver]
    | .fields _ :: _ => simp [deliver]
    | .entry _ _ :: _ => simp [deliver]
  · simp

/-- What can be read as a value can be read as the first item of an array. -/
theorem Reads.firstItem {frames : List Frame} {text : List Char} {state : State}
    (h : Reads ⟨frames, .value⟩ text state) (hstate : state.mode ≠ .value) :
    Reads ⟨frames, .firstItem⟩ text state := by
  induction text with
  | nil =>
    cases h
    exact absurd rfl hstate
  | cons c text ih =>
    rw [Reads, List.foldlM_cons] at h ⊢
    by_cases hspace : isSpace c = true
    · rw [step_blank (by simp [Mode.SkipsBlanks]) hspace] at h ⊢
      exact ih h
    · by_cases hclose : c = ']'
      · subst hclose
        cases h
      · have hstep : step ⟨frames, .firstItem⟩ c = step ⟨frames, .value⟩ c := by
          simp only [step, if_neg hspace, if_neg hclose]
        rw [hstep]
        exact h

theorem reads_newline_of_completes {frames : List Frame} {value : Datum} {state : State}
    (h : Completes frames value state) (hafter : (deliver frames value).mode = .after)
    (level : Nat) : Reads state (newline level).toList (deliver frames value) := by
  rw [toList_newline]
  refine Reads.cons (b := deliver frames value) ?_ ?_
  · rw [step_completes h hafter (Or.inr rfl)]
    rfl
  · have hmode : (deliver frames value).mode.SkipsBlanks := by simp [Mode.SkipsBlanks, hafter]
    exact reads_blanks hmode (2 * level)

theorem reads_items {frames : List Frame} {items : List Json} (inner level : Nat)
    (hitems : ∀ item ∈ items, ReadsValue (prettyAt inner item).toList item.datum)
    {before : List Datum} {last : Datum} {state : State}
    (h : Completes (.list before :: frames) last state) :
    Reads state ((prettyItems inner items).toList ++ (newline level).toList ++ [']'])
      (deliver frames (.list ((last :: before).reverse ++ datumItems items))) := by
  induction items generalizing before last state with
  | nil =>
    rw [datumItems, List.append_nil]
    exact (reads_newline_of_completes h rfl level).trans (Reads.single rfl)
  | cons item items ih =>
    obtain ⟨hitem, hrest⟩ := List.forall_mem_cons.mp hitems
    obtain ⟨state', hreads, hcompletes⟩ := hitem (.list (last :: before) :: frames)
    have hcomma : step state ',' = some ⟨.list (last :: before) :: frames, .value⟩ :=
      step_completes h rfl (Or.inl rfl)
    have hnewline : Reads ⟨.list (last :: before) :: frames, .value⟩ (newline inner).toList _ :=
      reads_newline (by simp [Mode.SkipsBlanks]) inner
    have htail := ih hrest hcompletes
    have htext : (prettyItems inner (item :: items)).toList = ',' :: ((newline inner).toList ++
        ((prettyAt inner item).toList ++ (prettyItems inner items).toList)) := by
      simp [prettyItems]
    rw [htext, datumItems]
    have hall := Reads.cons hcomma (hnewline.trans (hreads.trans htail))
    simpa using hall

/-- A member behind a place where a key may stand. -/
theorem reads_member {frames : List Frame} {entries : List (Datum × Datum)} {mode : Mode}
    (hquote : step ⟨.fields entries :: frames, mode⟩ '"' =
      some ⟨.fields entries :: frames, .string {}⟩)
    (key : String) {text : List Char} {value : Datum} (htext : ReadsValue text value) :
    ∃ state, Reads ⟨.fields entries :: frames, mode⟩ ((escaped key).toList ++ ':' :: ' ' :: text)
      state ∧ Completes (.entry entries (.text key) :: frames) value state := by
  obtain ⟨state, hreads, hcompletes⟩ := htext (.entry entries (.text key) :: frames)
  exact ⟨state, (reads_string key hquote).trans (Reads.cons rfl (Reads.cons rfl hreads)),
    hcompletes⟩

theorem reads_members {frames : List Frame} {members : List (String × Json)} (inner level : Nat)
    (hmembers : ∀ member ∈ members,
      ReadsValue (prettyAt inner member.2).toList member.2.datum)
    {before : List (Datum × Datum)} {key last : Datum} {state : State}
    (h : Completes (.entry before key :: frames) last state) :
    Reads state ((prettyMembers inner members).toList ++ (newline level).toList ++ ['\x7d'])
      (deliver frames (.fields (((key, last) :: before).reverse ++ datumMembers members))) := by
  induction members generalizing before key last state with
  | nil =>
    rw [datumMembers, List.append_nil]
    exact (reads_newline_of_completes h rfl level).trans (Reads.single rfl)
  | cons member members ih =>
    obtain ⟨name, value⟩ := member
    obtain ⟨hvalue, hrest⟩ := List.forall_mem_cons.mp hmembers
    have hcomma : step state ',' = some ⟨.fields ((key, last) :: before) :: frames, .key⟩ :=
      step_completes h rfl (Or.inl rfl)
    have hnewline : Reads ⟨.fields ((key, last) :: before) :: frames, .key⟩
        (newline inner).toList _ := reads_newline (by simp [Mode.SkipsBlanks]) inner
    have hquote : step ⟨.fields ((key, last) :: before) :: frames, .key⟩ '"' =
        some ⟨.fields ((key, last) :: before) :: frames, .string {}⟩ := rfl
    obtain ⟨state', hreads, hcompletes⟩ := reads_member hquote name hvalue
    have htail := ih hrest hcompletes
    have htext : (prettyMembers inner ((name, value) :: members)).toList =
        ',' :: ((newline inner).toList ++
          (((escaped name).toList ++ ':' :: ' ' :: (prettyAt inner value).toList) ++
          (prettyMembers inner members).toList)) := by
      simp [prettyMembers]
    rw [htext, datumMembers]
    have hall := Reads.cons hcomma (hnewline.trans (hreads.trans htail))
    simpa using hall

theorem readsValue_arr {items : List Json} (level : Nat)
    (hitems : ∀ item ∈ items, ReadsValue (prettyAt (level + 1) item).toList item.datum) :
    ReadsValue (prettyAt level (.arr items)).toList (Json.arr items).datum := by
  intro frames
  cases items with
  | nil =>
    have htext : (prettyAt level (.arr [])).toList = ['[', ']'] := by simp [prettyAt]
    rw [htext]
    exact ⟨_, Reads.cons rfl (Reads.single rfl), Or.inl rfl⟩
  | cons item items =>
    obtain ⟨hitem, hrest⟩ := List.forall_mem_cons.mp hitems
    obtain ⟨state, hreads, hcompletes⟩ := hitem (.list [] :: frames)
    have hnewline : Reads ⟨.list [] :: frames, .firstItem⟩ (newline (level + 1)).toList _ :=
      reads_newline (by simp [Mode.SkipsBlanks]) (level + 1)
    have hfirst := hreads.firstItem (mode_ne_value_of_completes hcompletes)
    have htail := reads_items (level + 1) level hrest hcompletes
    have htext : (prettyAt level (.arr (item :: items))).toList =
        '[' :: ((newline (level + 1)).toList ++ ((prettyAt (level + 1) item).toList ++
          ((prettyItems (level + 1) items).toList ++ (newline level).toList ++ [']']))) := by
      simp [prettyAt]
    rw [htext]
    exact ⟨_, Reads.cons rfl (hnewline.trans (hfirst.trans htail)), Or.inl rfl⟩

theorem readsValue_obj {members : List (String × Json)} (level : Nat)
    (hmembers : ∀ member ∈ members,
      ReadsValue (prettyAt (level + 1) member.2).toList member.2.datum) :
    ReadsValue (prettyAt level (.obj members)).toList (Json.obj members).datum := by
  intro frames
  cases members with
  | nil =>
    have htext : (prettyAt level (.obj [])).toList = ['\x7b', '\x7d'] := by simp [prettyAt]
    rw [htext]
    exact ⟨_, Reads.cons rfl (Reads.single rfl), Or.inl rfl⟩
  | cons member members =>
    obtain ⟨name, value⟩ := member
    obtain ⟨hvalue, hrest⟩ := List.forall_mem_cons.mp hmembers
    have hnewline : Reads ⟨.fields [] :: frames, .firstKey⟩ (newline (level + 1)).toList _ :=
      reads_newline (by simp [Mode.SkipsBlanks]) (level + 1)
    have hquote : step ⟨.fields [] :: frames, .firstKey⟩ '"' =
        some ⟨.fields [] :: frames, .string {}⟩ := rfl
    obtain ⟨state, hreads, hcompletes⟩ := reads_member hquote name hvalue
    have htail := reads_members (level + 1) level hrest hcompletes
    have htext : (prettyAt level (.obj ((name, value) :: members))).toList =
        '\x7b' :: ((newline (level + 1)).toList ++
          (((escaped name).toList ++ ':' :: ' ' :: (prettyAt (level + 1) value).toList) ++
          ((prettyMembers (level + 1) members).toList ++ (newline level).toList ++ ['\x7d']))) := by
      simp [prettyAt]
    rw [htext]
    exact ⟨_, Reads.cons rfl (hnewline.trans (hreads.trans htail)), Or.inl rfl⟩

theorem readsValue_prettyAt (document : Json) (level : Nat) :
    ReadsValue (prettyAt level document).toList document.datum := by
  induction document using Json.induction generalizing level with
  | null =>
    have htext : (prettyAt level .null).toList = ['n', 'u', 'l', 'l'] := by simp [prettyAt]
    rw [htext]
    exact fun _ => ⟨_, rfl, Or.inl rfl⟩
  | bool value =>
    have htext : (prettyAt level (.bool value)).toList =
        if value then ['t', 'r', 'u', 'e'] else ['f', 'a', 'l', 's', 'e'] := by
      cases value <;> simp [prettyAt]
    rw [htext]
    cases value <;> exact fun _ => ⟨_, rfl, Or.inl rfl⟩
  | nat value => exact readsValue_nat value
  | str value => exact readsValue_str value
  | arr items ih => exact readsValue_arr level fun item hitem => ih item hitem (level + 1)
  | obj members ih => exact readsValue_obj level fun member hmember => ih member hmember (level + 1)

end Json.Reader

/-- The text of a document reads as what the document says. -/
theorem Json.ofJson?_pretty (document : Json) :
    Datum.ofJson? document.pretty = some document.datum := by
  obtain ⟨state, hreads, hcompletes⟩ := Reader.readsValue_prettyAt document 0 []
  rw [Datum.ofJson?, Json.pretty, Reader.State.start, hreads]
  exact Reader.finish?_completes hcompletes

end ModLint
