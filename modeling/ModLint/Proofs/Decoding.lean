import ModLint.Datum.Decode
import ModLint.Proofs.JsonText

/-!
# Decoding written documents

A decoder *inverts* a way of writing values as documents if it takes back what was written, in any
place with enough room for the containers of the document. The decoders for texts, numbers, truth
values, optional values and lists do so, and for records there is one lemma that opens the record
and one for each way in which a field can be read. What holds of everything that a decoder *gives*,
whatever was written, is carried through lists and fields in the same way.
-/

namespace ModLint

namespace Json

mutual

/-- How many containers of a document are open at a time. -/
def depth : Json → Nat
  | .arr items => depthItems items + 1
  | .obj members => depthMembers members + 1
  | _ => 0

/-- The depth of the deepest item. -/
def depthItems : List Json → Nat
  | [] => 0
  | item :: items => max (depth item) (depthItems items)

/-- The depth of the deepest member. -/
def depthMembers : List (String × Json) → Nat
  | [] => 0
  | (_, value) :: members => max (depth value) (depthMembers members)

end

mutual

/-- The numbers in a document. -/
def numbers : Json → List Nat
  | .nat n => [n]
  | .arr items => numbersOfItems items
  | .obj members => numbersOfMembers members
  | _ => []

/-- The numbers in the items of an array. -/
def numbersOfItems : List Json → List Nat
  | [] => []
  | item :: items => numbers item ++ numbersOfItems items

/-- The numbers in the members of an object. -/
def numbersOfMembers : List (String × Json) → List Nat
  | [] => []
  | (_, value) :: members => numbers value ++ numbersOfMembers members

end

theorem datumItems_eq_map (items : List Json) : datumItems items = items.map datum := by
  induction items with
  | nil => rfl
  | cons item items ih => rw [datumItems, ih, List.map_cons]

theorem datumMembers_eq_map (members : List (String × Json)) :
    datumMembers members = members.map fun member => (.text member.1, member.2.datum) := by
  induction members with
  | nil => rfl
  | cons member members ih => rw [datumMembers, ih, List.map_cons]

/-! ## Documents that fit -/

/-- A document that can be read where `room` more containers may be opened: it is not deeper than
that, and its numbers have at most 64 bits. -/
structure Fits (room : Nat) (document : Json) : Prop where
  depth_le : document.depth ≤ room
  numbers_lt : ∀ n ∈ document.numbers, n < 2 ^ 64

theorem Fits.item {room : Nat} {items : List Json} (h : Fits (room + 1) (.arr items)) {item : Json}
    (hitem : item ∈ items) : item.Fits room := by
  obtain ⟨hdepth, hnumbers⟩ := h
  rw [depth] at hdepth
  rw [numbers] at hnumbers
  induction items with
  | nil => simp at hitem
  | cons first items ih =>
    simp only [depthItems] at hdepth
    simp only [numbersOfItems, List.mem_append] at hnumbers
    rcases List.mem_cons.mp hitem with rfl | hitem
    · exact ⟨by omega, fun n hn => hnumbers n (Or.inl hn)⟩
    · exact ih hitem (by omega) fun n hn => hnumbers n (Or.inr hn)

theorem Fits.member {room : Nat} {members : List (String × Json)}
    (h : Fits (room + 1) (.obj members)) {member : String × Json} (hmember : member ∈ members) :
    member.2.Fits room := by
  obtain ⟨hdepth, hnumbers⟩ := h
  rw [depth] at hdepth
  rw [numbers] at hnumbers
  induction members with
  | nil => simp at hmember
  | cons first members ih =>
    simp only [depthMembers] at hdepth
    simp only [numbersOfMembers, List.mem_append] at hnumbers
    rcases List.mem_cons.mp hmember with rfl | hmember
    · exact ⟨by omega, fun n hn => hnumbers n (Or.inl hn)⟩
    · exact ih hmember (by omega) fun n hn => hnumbers n (Or.inr hn)

theorem Fits.room_pos {room : Nat} {document : Json} (h : document.Fits room)
    (hdepth : 0 < document.depth) : ∃ inner, room = inner + 1 :=
  ⟨room - 1, by have := h.depth_le; omega⟩

/-- A number of 64 bits fits a double. -/
theorem lt_overflow {n : Nat} (h : n < 2 ^ 64) : n < Numeral.overflow :=
  Nat.lt_of_lt_of_le h (by decide +kernel)

theorem settleItems_datumItems {room : Nat} {items : List Json}
    (h : ∀ item ∈ items, item.datum.settle room = some item.datum) :
    Datum.settleItems room (datumItems items) = some (datumItems items) := by
  induction items with
  | nil => rfl
  | cons item items ih =>
    obtain ⟨hitem, hrest⟩ := List.forall_mem_cons.mp h
    rw [datumItems, Datum.settleItems, hitem, ih hrest]
    rfl

theorem settleEntries_datumMembers {room : Nat} {members : List (String × Json)}
    (h : ∀ member ∈ members, member.2.datum.settle room = some member.2.datum) :
    Datum.settleEntries room (datumMembers members) = some (datumMembers members) := by
  induction members with
  | nil => rfl
  | cons member members ih =>
    obtain ⟨hmember, hrest⟩ := List.forall_mem_cons.mp h
    rw [datumMembers, Datum.settleEntries, hmember, ih hrest]
    rfl

/-- What a fitting document says is not changed by settling it. -/
theorem settle_datum {document : Json} {room : Nat} (h : document.Fits room) :
    document.datum.settle room = some document.datum := by
  induction document using Json.induction generalizing room with
  | null => rfl
  | bool value => rfl
  | nat value =>
    have hvalue : value < Numeral.overflow := lt_overflow (h.numbers_lt value (by simp [numbers]))
    rw [datum, Datum.settle, if_pos hvalue]
  | str value => rfl
  | arr items ih =>
    obtain ⟨inner, rfl⟩ := h.room_pos (by rw [depth]; omega)
    rw [datum, Datum.settle, settleItems_datumItems fun item hitem => ih item hitem (h.item hitem)]
    rfl
  | obj members ih =>
    obtain ⟨inner, rfl⟩ := h.room_pos (by rw [depth]; omega)
    have hmembers := settleEntries_datumMembers fun member hmember =>
      ih member hmember (h.member hmember)
    rw [datum, Datum.settle, hmembers]
    rfl

end Json

/-! ## Decoders that invert a way of writing -/

/-- The decoder takes back those values with `P` that were written by `write`. -/
def Decoder.Inverts {α : Type} (decode : Decoder α) (write : α → Json) (P : α → Prop) : Prop :=
  ∀ rules a, P a → (write a).Fits rules.room → decode rules (write a).datum = some a

namespace Decoder

theorem inverts_string : Inverts string Json.str fun _ => True :=
  fun _ _ _ _ => rfl

theorem inverts_bool : Inverts bool Json.bool fun _ => True :=
  fun _ _ _ _ => rfl

theorem inverts_nat : Inverts nat Json.nat fun _ => True := by
  intro rules n _ hfits
  have hn : n < 2 ^ 64 := hfits.numbers_lt n (by simp [Json.numbers])
  rw [Json.datum, nat, natBelow]
  exact if_pos hn

/-- Words that are listed with their meanings. -/
theorem inverts_oneOf {α : Type} {word : α → String} {cases : List α}
    (h : ∀ a, (cases.map fun a => (word a, a)).lookup (word a) = some a) :
    Inverts (oneOf (cases.map fun a => (word a, a))) (fun a => .str (word a)) fun _ => True :=
  fun _ a _ _ => h a

theorem list_eq {α : Type} {decode : Decoder α} {write : α → Json} {rules : Rules} {items : List α}
    (hfits : (Json.ofList write items).Fits rules.room)
    (hitems : ∀ inner : Rules, rules.room = inner.room + 1 → ∀ a ∈ items,
      (write a).Fits inner.room → decode inner (write a).datum = some a) :
    list decode rules (Json.ofList write items).datum = some items := by
  obtain ⟨room, hroom⟩ := hfits.room_pos (by rw [Json.ofList, Json.depth]; omega)
  have henter : rules.enter = some { rules with room } := by rw [Rules.enter, hroom]
  rw [hroom] at hfits
  have hmapM : (items.map fun a => (write a).datum).mapM (decode { rules with room }) =
      some items := by
    have hitem : ∀ a ∈ items, decode { rules with room } (write a).datum = some a :=
      fun a ha => hitems _ hroom a ha (hfits.item (List.mem_map_of_mem ha))
    clear hfits hitems
    induction items with
    | nil => rfl
    | cons a items ih =>
      rw [List.map_cons, List.mapM_cons, hitem a (by simp),
        ih fun b hb => hitem b (by simp [hb])]
      rfl
  rw [Json.ofList, Json.datum, Json.datumItems_eq_map, List.map_map]
  simp only [list, henter]
  exact hmapM

namespace Inverts

variable {α : Type} {decode : Decoder α} {write : α → Json} {P : α → Prop}

theorem option (h : Inverts decode write P) (hnull : ∀ a, (write a).datum.isNull = false) :
    Inverts decode.option (Json.ofOption write) fun a? => ∀ a, a? = some a → P a := by
  intro rules a? ha hfits
  cases a? with
  | none => rfl
  | some a =>
    have hdecode : decode rules (write a).datum = some a := h rules a (ha a rfl) hfits
    simp [Decoder.option, Json.ofOption, hnull, hdecode]

theorem list (h : Inverts decode write P) :
    Inverts (Decoder.list decode) (Json.ofList write) fun items => ∀ a ∈ items, P a :=
  fun _ _ hitems hfits => list_eq hfits fun inner _ a ha hfit => h inner a (hitems a ha) hfit

theorem array (h : Inverts decode write P) :
    Inverts (Decoder.array decode) (fun items => Json.ofList write items.toList)
      fun items => ∀ a ∈ items, P a := by
  intro rules items hitems hfits
  have hlist := h.list rules items.toList (fun a ha => hitems a (Array.mem_def.mpr ha)) hfits
  rw [Decoder.array, hlist]
  rfl

end Inverts

end Decoder

/-! ## Records -/

namespace Record

/-- The entries of a record that was written with the given members. -/
def entriesOf (members : List (String × Json)) : List (String × Datum) :=
  members.map fun member => (member.1, member.2.datum)

theorem lookup_entriesOf_of_not_mem {name : String} {members : List (String × Json)}
    (h : name ∉ members.map Prod.fst) : (entriesOf members).lookup name = none := by
  rw [List.lookup_eq_none_iff]
  simp only [entriesOf, List.mem_map, forall_exists_index, and_imp]
  rintro _ member hmember rfl
  simp only [bne_iff_ne]
  rintro rfl
  exact h (List.mem_map_of_mem hmember)

theorem lookup_entriesOf {members : List (String × Json)} (hnodup : (members.map Prod.fst).Nodup)
    {name : String} {value : Json} (hmember : (name, value) ∈ members) :
    (entriesOf members).lookup name = some value.datum := by
  induction members with
  | nil => simp at hmember
  | cons member members ih =>
    obtain ⟨hfirst, hrest⟩ := List.nodup_cons.mp hnodup
    rw [entriesOf, List.map_cons]
    rcases List.mem_cons.mp hmember with rfl | hmember
    · exact List.lookup_cons_self
    · have hne : name ≠ member.1 := by
        rintro rfl
        exact hfirst (List.mem_map.mpr ⟨_, hmember, rfl⟩)
      rw [List.lookup_cons, beq_false_of_ne hne]
      exact ih hrest hmember

/-- Members with different names are found as they are, those with unknown names apart. -/
theorem known_datumMembers (names : List String) {members : List (String × Json)}
    (hnodup : (members.map Prod.fst).Nodup) :
    known names (Json.datumMembers members) =
      some (entriesOf (members.filter fun member => names.contains member.1)) := by
  induction members with
  | nil => rfl
  | cons member members ih =>
    obtain ⟨hfirst, hrest⟩ := List.nodup_cons.mp hnodup
    have hfresh : ((entriesOf (members.filter fun member => names.contains member.1)).lookup
        member.1).isSome = false := by
      rw [lookup_entriesOf_of_not_mem]
      · rfl
      · exact fun hmem => hfirst ((List.filter_sublist.map Prod.fst).mem hmem)
    simp only [Json.datumMembers, known, Datum.text?, ih hrest, Option.bind_eq_bind,
      Option.bind_some, List.filter_cons]
    by_cases hknown : names.contains member.1 = true
    · rw [if_pos hknown, if_pos hknown, hfresh]
      rfl
    · rw [if_neg hknown, if_neg hknown]
      rfl

theorem known_of_sublist {names : List String} (hnames : names.Nodup)
    {members : List (String × Json)} (hkeys : (members.map Prod.fst).Sublist names) :
    known names (Json.datumMembers members) = some (entriesOf members) := by
  have hall : ∀ member ∈ members, names.contains member.1 = true := by
    intro member hmember
    rw [List.contains_iff_mem]
    exact hkeys.mem (List.mem_map_of_mem hmember)
  rw [known_datumMembers names (hnames.sublist hkeys), List.filter_eq_self.mpr hall]

/-- A field that holds a fitting document. -/
structure Holds (fields : Record) (name : String) (document : Json) : Prop where
  found : fields.find? name = some document.datum
  fits : document.Fits fields.rules.room

/-- The fields of a record are those that were written. -/
structure Written (fields : Record) (members : List (String × Json)) : Prop where
  holds : ∀ name document, (name, document) ∈ members → fields.Holds name document
  missing : ∀ name, name ∉ members.map Prod.fst → fields.find? name = none

theorem written_entriesOf {rules : Rules} {members : List (String × Json)}
    (hnodup : (members.map Prod.fst).Nodup) (hfits : ∀ member ∈ members, member.2.Fits rules.room) :
    Written { rules, entries := entriesOf members } members where
  holds _ _ hmember := ⟨lookup_entriesOf hnodup hmember, hfits _ hmember⟩
  missing _ hname := lookup_entriesOf_of_not_mem hname

/-- The rules inside a fitting object. -/
theorem enter_of_fits {rules : Rules} {members : List (String × Json)}
    (hfits : (Json.obj members).Fits rules.room) :
    ∃ inner : Rules, rules.enter = some inner ∧ ∀ member ∈ members, member.2.Fits inner.room := by
  obtain ⟨room, hroom⟩ := hfits.room_pos (by rw [Json.depth]; omega)
  rw [hroom] at hfits
  have henter : rules.enter = some { rules with room } := by rw [Rules.enter, hroom]
  exact ⟨{ rules with room }, henter, fun member hmember => hfits.member hmember⟩

/-- A fitting object can be read as a record if its keys are names of the record in their order. -/
theorem read_bind {β : Type} {names : List String} (hnames : names.Nodup)
    {members : List (String × Json)} (hkeys : (members.map Prod.fst).Sublist names) {rules : Rules}
    (hfits : (Json.obj members).Fits rules.room) {next : Record → Option β} {b : β}
    (hnext : ∀ fields, Written fields members → next fields = some b) :
    (read names rules (Json.obj members).datum >>= next) = some b := by
  obtain ⟨inner, henter, hmembers⟩ := enter_of_fits hfits
  have hread : read names rules (Json.obj members).datum =
      some { rules := inner, entries := entriesOf members } := by
    simp only [Json.datum, read, henter, known_of_sublist hnames hkeys]
    rfl
  rw [hread]
  exact hnext _ (written_entriesOf (hnames.sublist hkeys) hmembers)

end Record

namespace Decoder.Inverts

variable {α : Type} {decode : Decoder α} {write : α → Json} {P : α → Prop} {fields : Record}
  {name : String}

theorem required (h : Inverts decode write P) {a : α} (hfield : fields.Holds name (write a))
    (ha : P a) : fields.required name decode = some a := by
  rw [Record.required, hfield.found]
  exact h _ a ha hfield.fits

theorem getD (h : Inverts decode write P) {a default : α} (hfield : fields.Holds name (write a))
    (ha : P a) : fields.getD name decode default = some a := by
  rw [Record.getD, hfield.found]
  exact h _ a ha hfield.fits

theorem optional (h : Inverts decode write P) (hnull : ∀ a, (write a).datum.isNull = false)
    {a? : Option α} (hfield : fields.Holds name (Json.ofOption write a?))
    (ha : ∀ a, a? = some a → P a) : fields.optional name decode = some a? :=
  (h.option hnull).getD hfield ha

end Decoder.Inverts

/-- A tagged union that was written with its tag in front is decoded by its tag. -/
theorem Decoder.tagged_eq {α β : Type} {tag content word : String} {cases : List (String × α)}
    {decode : α → Decoder β} {a : α} {b : β} {value : Json} {rules : Rules} (hne : content ≠ tag)
    (hcase : cases.lookup word = some a)
    (hfits : (Json.obj [(tag, .str word), (content, value)]).Fits rules.room)
    (hvalue : ∀ inner : Rules, rules.room = inner.room + 1 → value.Fits inner.room →
      decode a inner value.datum = some b) :
    tagged tag content cases decode rules (Json.obj [(tag, .str word), (content, value)]).datum =
      some b := by
  obtain ⟨room, hroom⟩ := hfits.room_pos (by rw [Json.depth]; omega)
  have henter : rules.enter = some { rules with room } := by rw [Rules.enter, hroom]
  rw [hroom] at hfits
  have hdecode := hvalue { rules with room } hroom
    (hfits.member (List.mem_cons_of_mem _ (List.mem_singleton_self _)))
  have hoff : (content == tag) = false := beq_false_of_ne hne
  simp [tagged, Json.datum, Json.datumMembers, henter, Datum.text?, hoff, oneOf, hcase, hdecode]

theorem Record.getD_missing {α : Type} {fields : Record} {name : String} {decode : Decoder α}
    {default : α} (h : fields.find? name = none) :
    fields.getD name decode default = some default := by
  rw [getD, h]

/-! ## What decoders give -/

/-- A decoder gives only values with a property. -/
def Decoder.Gives {α : Type} (decode : Decoder α) (P : α → Prop) : Prop :=
  ∀ rules datum a, decode rules datum = some a → P a

namespace Decoder.Gives

variable {α : Type} {decode : Decoder α} {P : α → Prop}

theorem nat : Decoder.Gives Decoder.nat (· < Nat.pow 2 64) := by
  intro rules datum n h
  unfold Decoder.nat natBelow at h
  split at h
  · split at h
    · rename_i hlt
      cases h
      exact hlt
    · cases h
  · obtain ⟨value, -, h⟩ := Option.bind_eq_some_iff.mp h
    split at h
    · rename_i hlt
      cases h
      exact hlt
    · cases h
  · cases h

theorem required (h : Decoder.Gives decode P) {fields : Record} {name : String} {a : α}
    (ha : fields.required name decode = some a) : P a := by
  obtain ⟨datum, -, hdatum⟩ := Option.bind_eq_some_iff.mp ha
  exact h _ datum a hdatum

theorem mapM (h : Decoder.Gives decode P) {rules : Rules} {items : List Datum} {values : List α}
    (hvalues : items.mapM (decode rules) = some values) : ∀ a ∈ values, P a := by
  induction items generalizing values with
  | nil =>
    cases hvalues
    simp
  | cons item items ih =>
    rw [List.mapM_cons] at hvalues
    obtain ⟨value, hvalue, hvalues⟩ := Option.bind_eq_some_iff.mp hvalues
    obtain ⟨rest, hrest, hvalues⟩ := Option.bind_eq_some_iff.mp hvalues
    cases hvalues
    intro a ha
    rcases List.mem_cons.mp ha with rfl | ha
    · exact h rules item a hvalue
    · exact ih hrest a ha

theorem array (h : Decoder.Gives decode P) :
    Decoder.Gives (Decoder.array decode) fun items => ∀ a ∈ items, P a := by
  intro rules datum items hitems
  obtain ⟨values, hvalues, rfl⟩ := Option.map_eq_some_iff.mp hitems
  intro a ha
  rw [List.mem_toArray] at ha
  unfold Decoder.list at hvalues
  split at hvalues
  · obtain ⟨inner, -, hvalues⟩ := Option.bind_eq_some_iff.mp hvalues
    exact h.mapM hvalues a ha
  · split at hvalues <;> cases hvalues
    cases ha
  · cases hvalues

theorem getD (h : Decoder.Gives decode P) {fields : Record} {name : String} {default a : α}
    (hdefault : P default) (ha : fields.getD name decode default = some a) : P a := by
  unfold Record.getD at ha
  split at ha
  · cases ha
    exact hdefault
  · rename_i datum _
    exact h _ datum a ha

end Decoder.Gives

end ModLint
