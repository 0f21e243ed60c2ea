import ModLint.Program.Load
import ModLint.Proofs.Decoding
import ModLint.Proofs.References

/-!
# Symbols in dumps

The files, namespaces, types, methods, properties and events of a program are taken back from a
dump as they were written, if their ids have at most 32 bits.
-/

namespace ModLint

/-- The ids that a dump can hold. -/
def idLimit (_ : Arena) : Nat :=
  ItemId.bound

namespace ItemId

variable {arena : Arena}

theorem inverts :
    Decoder.Inverts (ItemId.decode : Decoder (ItemId arena)) toJson (Below idLimit) := by
  intro rules id hid _
  have hindex : id.index < ItemId.bound := hid
  simp only [ItemId.decode, toJson, Json.datum, Decoder.natBelow, if_pos hindex]
  rfl

theorem optional_eq {fields : Record} {name : String} {id? : Option (ItemId arena)}
    (hfield : fields.Holds name (optionJson id?)) (hid : ∀ id, id? = some id → id.Below idLimit) :
    fields.optional name ItemId.decode = some id? :=
  inverts.optional (fun _ => rfl) hfield hid

theorem getD_list_eq {fields : Record} {name : String} {ids : List (ItemId arena)}
    (hfield : fields.Holds name (arrayJson ids)) (hids : ∀ id ∈ ids, id.Below idLimit) :
    fields.getD name (Decoder.list ItemId.decode) [] = some ids :=
  inverts.list.getD hfield hids

end ItemId

theorem Span.inverts : Decoder.Inverts Span.decode Span.toJson fun _ => True := by
  intro rules span _ hfits
  unfold Span.decode
  refine Record.read_bind (by decide) (by exact List.Sublist.refl _) hfits fun fields hfields => ?_
  have hstart : fields.required "start_byte" Decoder.nat = some span.startByte :=
    Decoder.inverts_nat.required (hfields.holds _ _ (by simp)) trivial
  have hend : fields.required "end_byte" Decoder.nat = some span.endByte :=
    Decoder.inverts_nat.required (hfields.holds _ _ (by simp)) trivial
  have hline : fields.required "start_line" Decoder.nat = some span.startLine :=
    Decoder.inverts_nat.required (hfields.holds _ _ (by simp)) trivial
  have hcolumn : fields.required "start_col" Decoder.nat = some span.startColumn :=
    Decoder.inverts_nat.required (hfields.holds _ _ (by simp)) trivial
  have hendLine : fields.getD "end_line" Decoder.nat 0 = some span.endLine :=
    Decoder.inverts_nat.getD (hfields.holds _ _ (by simp)) trivial
  have hendColumn : fields.getD "end_col" Decoder.nat 0 = some span.endColumn :=
    Decoder.inverts_nat.getD (hfields.holds _ _ (by simp)) trivial
  rw [hstart, hend, hline, hcolumn, hendLine, hendColumn]
  rfl

theorem SourceFile.inverts : Decoder.Inverts SourceFile.decode SourceFile.toJson fun _ => True := by
  rintro rules ⟨path, text⟩ _ hfits
  unfold SourceFile.decode
  cases text with
  | none =>
    refine Record.read_bind (by decide) (by simp) hfits fun fields hfields => ?_
    have hpath : fields.required "path" Decoder.string = some path :=
      Decoder.inverts_string.required (hfields.holds _ _ (by simp)) trivial
    have htext : fields.optional "text" Decoder.string = some none :=
      Record.getD_missing (hfields.missing _ (by simp))
    rw [hpath, htext]
    rfl
  | some text =>
    refine Record.read_bind (by decide) (by exact List.Sublist.refl _) hfits
      fun fields hfields => ?_
    have hpath : fields.required "path" Decoder.string = some path :=
      Decoder.inverts_string.required (hfields.holds _ _ (by simp)) trivial
    have htext : fields.optional "text" Decoder.string = some (some text) :=
      Decoder.inverts_string.optional (fun _ => rfl)
        (hfields.holds _ _ (by simp [Json.ofOption])) (fun _ _ => trivial)
    rw [hpath, htext]
    rfl

theorem Namespace.inverts : Decoder.Inverts Namespace.decode Namespace.toJson fun space =>
    ∀ id, space.parent = some id → id.Below idLimit := by
  intro rules space hparent hfits
  unfold Namespace.decode
  refine Record.read_bind (by decide) (by exact List.Sublist.refl _) hfits fun fields hfields => ?_
  have hname : fields.required "name" Decoder.string = some space.name :=
    Decoder.inverts_string.required (hfields.holds _ _ (by simp)) trivial
  have hid : fields.optional "parent" ItemId.decode = some space.parent :=
    ItemId.optional_eq (hfields.holds _ _ (by simp)) hparent
  rw [hname, hid]
  rfl

/-! ## Attributes -/

namespace AttributeArgument

theorem toJsonItems_eq_map (items : List AttributeArgument) :
    toJsonItems items = items.map toJson := by
  induction items with
  | nil => rfl
  | cons item items ih => rw [toJsonItems, ih, List.map_cons]

/-- The bound on the depth of arrays is not met before the room is used up. -/
theorem decodeTo_toJson {argument : AttributeArgument}
    (hids : ∀ id ∈ argument.types, id.Below idLimit) {bound : Nat} {rules : Rules}
    (hbound : rules.room ≤ bound) (hfits : argument.toJson.Fits rules.room) :
    decodeTo (bound + 1) rules argument.toJson.datum = some argument := by
  induction argument using AttributeArgument.induction generalizing bound rules with
  | string value | bool value | other value =>
    exact Decoder.tagged_eq (by decide) (by rfl) hfits fun inner _ _ => rfl
  | type value =>
    refine Decoder.tagged_eq (by decide) (by rfl) hfits fun inner _ hvalue => ?_
    have hid := ItemId.inverts inner value (hids value (by simp [types])) hvalue
    show (ItemId.decode inner value.toJson.datum).map _ = _
    rw [hid]
    rfl
  | array items ih =>
    refine Decoder.tagged_eq (by decide) (by rfl) hfits fun inner hinner hvalue => ?_
    rw [toJsonItems_eq_map] at hvalue ⊢
    have hitems : Decoder.list (decodeTo bound) inner (Json.ofList toJson items).datum =
        some items := by
      refine Decoder.list_eq hvalue fun inmost hinmost item hitem hfit => ?_
      -- two containers have been opened, so that the bound leaves one more step
      obtain ⟨below, rfl⟩ : ∃ below, bound = below + 1 := ⟨bound - 1, by omega⟩
      refine ih item hitem (fun id hid => hids id ?_) (by omega) hfit
      rw [types, mem_typesOfItems]
      exact ⟨item, hitem, hid⟩
    show (Decoder.list (decodeTo bound) inner (Json.ofList toJson items).datum).map _ = _
    rw [hitems]
    rfl

theorem inverts : Decoder.Inverts AttributeArgument.decode toJson fun argument =>
    ∀ id ∈ argument.types, id.Below idLimit :=
  fun _ _ hids hfits => decodeTo_toJson hids le_rfl hfits

end AttributeArgument

theorem AttributeData.inverts :
    Decoder.Inverts AttributeData.decode AttributeData.toJson (AttributeData.IdsBelow idLimit) := by
  intro rules data hids hfits
  unfold AttributeData.decode
  refine Record.read_bind (by decide) (by exact List.Sublist.refl _) hfits fun fields hfields => ?_
  have hclass : fields.required "class" ItemId.decode = some data.attributeClass :=
    ItemId.inverts.required (hfields.holds _ _ (by simp)) hids.attributeClass
  have harguments : fields.getD "arguments" (Decoder.list AttributeArgument.decode) [] =
      some data.arguments := by
    refine AttributeArgument.inverts.list.getD (hfields.holds _ _ ?_) fun argument hargument => ?_
    · simp [Json.ofList, AttributeArgument.toJsonItems_eq_map]
    · exact fun id hid =>
        hids.types id (AttributeArgument.mem_typesOfItems.mpr ⟨argument, hargument, hid⟩)
  have hsite : fields.optional "syntax" ItemId.decode = some data.site :=
    ItemId.optional_eq (hfields.holds _ _ (by simp)) hids.site
  rw [hclass, harguments, hsite]
  rfl

/-! ## Types and members -/

theorem TypeKind.inverts :
    Decoder.Inverts TypeKind.decode (fun kind => .str kind.word) fun _ => True :=
  Decoder.inverts_oneOf fun kind => by cases kind <;> rfl

theorem TypeSymbol.inverts :
    Decoder.Inverts TypeSymbol.decode TypeSymbol.toJson (TypeSymbol.IdsBelow idLimit) := by
  intro rules symbol hids hfits
  unfold TypeSymbol.decode
  refine Record.read_bind (by decide) (by exact List.Sublist.refl _) hfits fun fields hfields => ?_
  have hname : fields.required "name" Decoder.string = some symbol.name :=
    Decoder.inverts_string.required (hfields.holds _ _ (by simp)) trivial
  have hspace : fields.optional "namespace" ItemId.decode = some symbol.nameSpace :=
    ItemId.optional_eq (hfields.holds _ _ (by simp)) hids.nameSpace
  have hcontaining : fields.optional "containing_type" ItemId.decode = some symbol.containingType :=
    ItemId.optional_eq (hfields.holds _ _ (by simp)) hids.containingType
  have hbase : fields.optional "base" ItemId.decode = some symbol.base :=
    ItemId.optional_eq (hfields.holds _ _ (by simp)) hids.base
  have hkind : fields.getD "kind" TypeKind.decode .classType = some symbol.kind :=
    TypeKind.inverts.getD (hfields.holds _ _ (by simp)) trivial
  have hassembly : fields.required "assembly" Decoder.string = some symbol.assembly :=
    Decoder.inverts_string.required (hfields.holds _ _ (by simp)) trivial
  have hattributes : fields.getD "attributes" (Decoder.list AttributeData.decode) [] =
      some symbol.attributes :=
    AttributeData.inverts.list.getD (hfields.holds _ _ (by simp)) hids.attributes
  have hmembers : fields.getD "members" (Decoder.list ItemId.decode) [] = some symbol.members :=
    ItemId.getD_list_eq (hfields.holds _ _ (by simp)) hids.members
  have hdeclaration : fields.optional "declaration" ItemId.decode = some symbol.declaration :=
    ItemId.optional_eq (hfields.holds _ _ (by simp)) hids.declaration
  rw [hname, hspace, hcontaining, hbase, hkind, hassembly, hattributes, hmembers, hdeclaration]
  rfl

theorem MethodKind.inverts :
    Decoder.Inverts MethodKind.decode (fun kind => .str kind.word) fun _ => True :=
  Decoder.inverts_oneOf fun kind => by cases kind <;> rfl

theorem ParameterSymbol.inverts : Decoder.Inverts ParameterSymbol.decode ParameterSymbol.toJson
    fun parameter => ∀ id, parameter.type = some id → id.Below idLimit := by
  intro rules parameter htype hfits
  unfold ParameterSymbol.decode
  refine Record.read_bind (by decide) (by exact List.Sublist.refl _) hfits fun fields hfields => ?_
  have hname : fields.required "name" Decoder.string = some parameter.name :=
    Decoder.inverts_string.required (hfields.holds _ _ (by simp)) trivial
  have hid : fields.optional "ty" ItemId.decode = some parameter.type :=
    ItemId.optional_eq (hfields.holds _ _ (by simp)) htype
  rw [hname, hid]
  rfl

theorem MethodSymbol.inverts :
    Decoder.Inverts MethodSymbol.decode MethodSymbol.toJson (MethodSymbol.IdsBelow idLimit) := by
  intro rules symbol hids hfits
  unfold MethodSymbol.decode
  refine Record.read_bind (by decide) (by exact List.Sublist.refl _) hfits fun fields hfields => ?_
  have hname : fields.required "name" Decoder.string = some symbol.name :=
    Decoder.inverts_string.required (hfields.holds _ _ (by simp)) trivial
  have hkind : fields.getD "kind" MethodKind.decode .ordinary = some symbol.kind :=
    MethodKind.inverts.getD (hfields.holds _ _ (by simp)) trivial
  have hcontaining : fields.optional "containing_type" ItemId.decode = some symbol.containingType :=
    ItemId.optional_eq (hfields.holds _ _ (by simp)) hids.containingType
  have hstatic : fields.getD "is_static" Decoder.bool false = some symbol.isStatic :=
    Decoder.inverts_bool.getD (hfields.holds _ _ (by simp)) trivial
  have himplicit : fields.getD "is_implicitly_declared" Decoder.bool false =
      some symbol.isImplicit :=
    Decoder.inverts_bool.getD (hfields.holds _ _ (by simp)) trivial
  have hparameters : fields.getD "parameters" (Decoder.list ParameterSymbol.decode) [] =
      some symbol.parameters :=
    ParameterSymbol.inverts.list.getD (hfields.holds _ _ (by simp)) hids.parameters
  have hreturn : fields.optional "return_type" ItemId.decode = some symbol.returnType :=
    ItemId.optional_eq (hfields.holds _ _ (by simp)) hids.returnType
  have hdeclaration : fields.optional "declaration" ItemId.decode = some symbol.declaration :=
    ItemId.optional_eq (hfields.holds _ _ (by simp)) hids.declaration
  rw [hname, hkind, hcontaining, hstatic, himplicit, hparameters, hreturn, hdeclaration]
  rfl

theorem PropertySymbol.inverts : Decoder.Inverts PropertySymbol.decode PropertySymbol.toJson
    fun symbol => symbol.containingType.Below idLimit := by
  intro rules symbol howner hfits
  unfold PropertySymbol.decode
  refine Record.read_bind (by decide) (by exact List.Sublist.refl _) hfits fun fields hfields => ?_
  have hname : fields.required "name" Decoder.string = some symbol.name :=
    Decoder.inverts_string.required (hfields.holds _ _ (by simp)) trivial
  have hcontaining : fields.required "containing_type" ItemId.decode = some symbol.containingType :=
    ItemId.inverts.required (hfields.holds _ _ (by simp)) howner
  have hstatic : fields.getD "is_static" Decoder.bool false = some symbol.isStatic :=
    Decoder.inverts_bool.getD (hfields.holds _ _ (by simp)) trivial
  rw [hname, hcontaining, hstatic]
  rfl

theorem EventSymbol.inverts : Decoder.Inverts EventSymbol.decode EventSymbol.toJson
    fun symbol => symbol.containingType.Below idLimit := by
  intro rules symbol howner hfits
  unfold EventSymbol.decode
  refine Record.read_bind (by decide) (by exact List.Sublist.refl _) hfits fun fields hfields => ?_
  have hname : fields.required "name" Decoder.string = some symbol.name :=
    Decoder.inverts_string.required (hfields.holds _ _ (by simp)) trivial
  have hcontaining : fields.required "containing_type" ItemId.decode = some symbol.containingType :=
    ItemId.inverts.required (hfields.holds _ _ (by simp)) howner
  rw [hname, hcontaining]
  rfl

end ModLint
