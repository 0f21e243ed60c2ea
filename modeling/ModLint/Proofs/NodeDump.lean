import ModLint.Proofs.Forest
import ModLint.Proofs.SymbolDump

/-!
# Nodes in dumps

A node is written as one object for its position and its kind, and without its parent. The kind
decides over its fields, so the reader first puts the position aside and settles the other members.
-/

namespace ModLint

/-! ## Parts of nodes -/

theorem SymbolRef.inverts :
    Decoder.Inverts SymbolRef.decode SymbolRef.toJson (SymbolRef.Below idLimit) := by
  intro rules symbol hsymbol hfits
  cases symbol with
  | type id | method id | property id | event id =>
    refine Decoder.tagged_eq (by decide) (by rfl) hfits fun inner _ hid => ?_
    exact congrArg (Option.map _) (ItemId.inverts inner id hsymbol hid)

theorem FunctionSyntax.inverts :
    Decoder.Inverts FunctionSyntax.decode (fun form => .str form.word) fun _ => True :=
  Decoder.inverts_oneOf fun form => by cases form <;> rfl

theorem AssignmentOperator.inverts :
    Decoder.Inverts AssignmentOperator.decode (fun operator => .str operator.word) fun _ => True :=
  Decoder.inverts_oneOf fun operator => by cases operator <;> rfl

theorem Json.keys_triviaMember_sublist (name text : String) :
    ((Json.triviaMember name text).map Prod.fst).Sublist [name] := by
  rw [Json.triviaMember]
  split <;> simp

theorem Json.mem_keys_triviaMember {key name text : String} :
    key ∈ (Json.triviaMember name text).map Prod.fst ↔ key = name ∧ text ≠ "" := by
  rw [Json.triviaMember]
  split <;> simp_all

/-- Trivia that were left out are read as empty ones. -/
theorem Record.Written.getD_trivia {fields : Record} {members : List (String × Json)}
    (h : fields.Written members) {name text : String}
    (hwritten : ∀ member ∈ Json.triviaMember name text, member ∈ members)
    (hmissing : text = "" → name ∉ members.map Prod.fst) :
    fields.getD name Decoder.string "" = some text := by
  by_cases htext : text = ""
  · rw [Record.getD_missing (h.missing name (hmissing htext)), htext]
  · have hmember : (name, Json.str text) ∈ members :=
      hwritten _ (by simp [Json.triviaMember, htext])
    exact Decoder.inverts_string.getD (h.holds _ _ hmember) trivial

theorem Modifier.inverts : Decoder.Inverts Modifier.decode Modifier.toJson fun _ => True := by
  intro rules modifier _ hfits
  unfold Modifier.decode
  have hkeys : (([("text", Json.str modifier.text), ("span", modifier.span.toJson)]
      ++ Json.triviaMember "leading_trivia" modifier.leadingTrivia
      ++ Json.triviaMember "trailing_trivia" modifier.trailingTrivia).map Prod.fst).Sublist
      (["text", "span"] ++ ["leading_trivia"] ++ ["trailing_trivia"]) := by
    rw [List.map_append, List.map_append]
    exact ((List.Sublist.refl _).append (Json.keys_triviaMember_sublist _ _)).append
      (Json.keys_triviaMember_sublist _ _)
  refine Record.read_bind (by decide) hkeys hfits fun fields hfields => ?_
  have htext : fields.required "text" Decoder.string = some modifier.text :=
    Decoder.inverts_string.required (hfields.holds _ _ (by simp)) trivial
  have hspan : fields.required "span" Span.decode = some modifier.span :=
    Span.inverts.required (hfields.holds _ _ (by simp)) trivial
  have hleading : fields.getD "leading_trivia" Decoder.string "" = some modifier.leadingTrivia := by
    refine hfields.getD_trivia (fun member hmember => by simp [hmember]) fun hempty => ?_
    simp only [List.map_append, List.mem_append, Json.mem_keys_triviaMember]
    simp [hempty]
  have htrailing : fields.getD "trailing_trivia" Decoder.string "" =
      some modifier.trailingTrivia := by
    refine hfields.getD_trivia (fun member hmember => by simp [hmember]) fun hempty => ?_
    simp only [List.map_append, List.mem_append, Json.mem_keys_triviaMember]
    simp [hempty]
  rw [htext, hspan, hleading, htrailing]
  rfl

/-! ## Kinds of nodes -/

namespace NodeKind

section

variable {fields : Record} {members : List (String × Json)} {arena : Arena} {name : String}

theorem decodeText_eq (h : fields.Written members) {text : String}
    (hmember : (name, Json.str text) ∈ members) : decodeText fields name = some text :=
  Decoder.inverts_string.required (h.holds _ _ hmember) trivial

theorem decodeId_eq (h : fields.Written members) {id : ItemId arena}
    (hmember : (name, id.toJson) ∈ members) (hid : id.Below idLimit) :
    decodeId fields name = some id :=
  ItemId.inverts.required (h.holds _ _ hmember) hid

theorem decodeId?_eq (h : fields.Written members) {id? : Option (ItemId arena)}
    (hmember : (name, ItemId.optionJson id?) ∈ members)
    (hid : ∀ id, id? = some id → id.Below idLimit) : decodeId? fields name = some id? :=
  ItemId.optional_eq (h.holds _ _ hmember) hid

theorem decodeIds_eq (h : fields.Written members) {ids : List (ItemId arena)}
    (hmember : (name, ItemId.arrayJson ids) ∈ members) (hids : ∀ id ∈ ids, id.Below idLimit) :
    decodeIds fields name = some ids :=
  ItemId.getD_list_eq (h.holds _ _ hmember) hids

theorem decodeModifiers_eq (h : fields.Written members) {modifiers : List Modifier}
    (hmember : ("modifiers", Json.ofList Modifier.toJson modifiers) ∈ members) :
    decodeModifiers fields = some modifiers :=
  Modifier.inverts.list.getD (h.holds _ _ hmember) fun _ _ => trivial

/-- A child that may be missing. -/
theorem decodeChild?_eq (h : fields.Written members) {child? : Option NodeId}
    (hmember : (name, ItemId.optionJson child?) ∈ members)
    (hchild : ∀ id ∈ child?.toList, id.Below idLimit) : decodeId? fields name = some child? :=
  decodeId?_eq h hmember fun id hid => hchild id (Option.mem_toList.mpr hid)

/-- What methods, constructors and local functions have in common. -/
theorem decodeFunction_eq (h : fields.Written members) (modifiers : List Modifier)
    (symbol : Option MethodId) (parameters : List NodeId) (body : Option NodeId)
    (hmembers : [("modifiers", Json.ofList Modifier.toJson modifiers),
      ("symbol", ItemId.optionJson symbol), ("parameters", ItemId.arrayJson parameters),
      ("body", ItemId.optionJson body)] ⊆ members)
    (hsymbol : ∀ id, symbol = some id → id.Below idLimit)
    (hchildren : ∀ id ∈ parameters ++ body.toList, id.Below idLimit) :
    decodeModifiers fields = some modifiers ∧ decodeId? fields "symbol" = some symbol ∧
      decodeIds fields "parameters" = some parameters ∧ decodeId? fields "body" = some body := by
  refine ⟨?_, ?_, ?_, ?_⟩
  · exact decodeModifiers_eq h (hmembers (by simp))
  · exact decodeId?_eq h (hmembers (by simp)) hsymbol
  · exact decodeIds_eq h (hmembers (by simp)) fun id hid =>
      hchildren id (List.mem_append_left _ hid)
  · exact decodeChild?_eq h (hmembers (by simp)) fun id hid =>
      hchildren id (List.mem_append_right _ hid)

theorem optional_symbol_eq (h : fields.Written members) {symbol? : Option SymbolRef}
    (hmember : (name, Json.ofOption SymbolRef.toJson symbol?) ∈ members)
    (hsymbol : ∀ symbol, symbol? = some symbol → symbol.Below idLimit) :
    fields.optional name SymbolRef.decode = some symbol? :=
  SymbolRef.inverts.optional (fun symbol => by cases symbol <;> rfl) (h.holds _ _ hmember) hsymbol

end

/-- The schema of a kind of nodes lists the keys of its members and reads them back. -/
def HasSchema (kind : NodeKind) : Prop :=
  ∃ schema, schemas.lookup kind.name = some schema ∧ kind.members.map Prod.fst = schema.1 ∧
    ∀ fields, Record.Written fields kind.members → schema.2 fields = some kind

section

variable {modifiers : List Modifier} {symbol : Option MethodId} {parameters : List NodeId}

theorem hasSchema_method (name : String) (modifiersStart : Option Nat) {body : Option NodeId}
    (hsymbol : ∀ id, symbol = some id → id.Below idLimit)
    (hchildren : ∀ id ∈ parameters ++ body.toList, id.Below idLimit) :
    (method name modifiers modifiersStart symbol parameters body).HasSchema := by
  refine ⟨_, rfl, rfl, fun fields h => ?_⟩
  have hname : decodeText fields "name" = some name :=
    decodeText_eq h (by simp [NodeKind.members])
  have hmodifiersStart : fields.optional "modifiers_start" Decoder.nat = some modifiersStart :=
    Decoder.inverts_nat.optional (fun _ => rfl) (h.holds _ _ (by simp [NodeKind.members]))
      fun _ _ => trivial
  obtain ⟨hmodifiers, hsymbol, hparameters, hbody⟩ :=
    decodeFunction_eq h modifiers symbol parameters body (by simp [NodeKind.members])
      hsymbol hchildren
  simp only [hname, hmodifiers, hmodifiersStart, hsymbol, hparameters, hbody]
  rfl

theorem hasSchema_constructor {body : Option NodeId}
    (hsymbol : ∀ id, symbol = some id → id.Below idLimit)
    (hchildren : ∀ id ∈ parameters ++ body.toList, id.Below idLimit) :
    (constructor modifiers symbol parameters body).HasSchema := by
  refine ⟨_, rfl, rfl, fun fields h => ?_⟩
  obtain ⟨hmodifiers, hsymbol, hparameters, hbody⟩ :=
    decodeFunction_eq h modifiers symbol parameters body (by simp [NodeKind.members])
      hsymbol hchildren
  simp only [hmodifiers, hsymbol, hparameters, hbody]
  rfl

theorem hasSchema_localFunction (name : String) {body : Option NodeId}
    (hsymbol : ∀ id, symbol = some id → id.Below idLimit)
    (hchildren : ∀ id ∈ parameters ++ body.toList, id.Below idLimit) :
    (localFunction name modifiers symbol parameters body).HasSchema := by
  refine ⟨_, rfl, rfl, fun fields h => ?_⟩
  have hname : decodeText fields "name" = some name :=
    decodeText_eq h (by simp [NodeKind.members])
  obtain ⟨hmodifiers, hsymbol, hparameters, hbody⟩ :=
    decodeFunction_eq h modifiers symbol parameters body (by simp [NodeKind.members])
      hsymbol hchildren
  simp only [hname, hmodifiers, hsymbol, hparameters, hbody]
  rfl

theorem hasSchema_anonymousFunction (form : FunctionSyntax) {body : NodeId}
    (hsymbol : ∀ id, symbol = some id → id.Below idLimit)
    (hchildren : ∀ id ∈ parameters ++ [body], id.Below idLimit) :
    (anonymousFunction form modifiers parameters body symbol).HasSchema := by
  refine ⟨_, rfl, rfl, fun fields h => ?_⟩
  have hform : fields.required "syntax" FunctionSyntax.decode = some form :=
    FunctionSyntax.inverts.required (h.holds _ _ (by simp [NodeKind.members])) trivial
  have hmodifiers : decodeModifiers fields = some modifiers :=
    decodeModifiers_eq h (by simp [NodeKind.members])
  have hparameters : decodeIds fields "parameters" = some parameters :=
    decodeIds_eq h (by simp [NodeKind.members])
      (fun id hid => hchildren id (List.mem_append_left _ hid))
  have hbody : decodeId fields "body" = some body :=
    decodeId_eq h (by simp [NodeKind.members])
      (hchildren _ (List.mem_append_right _ List.mem_cons_self))
  have hsymbol : decodeId? fields "symbol" = some symbol :=
    decodeId?_eq h (by simp [NodeKind.members]) hsymbol
  simp only [hform, hmodifiers, hparameters, hbody, hsymbol]
  rfl

end

theorem hasSchema_typeDeclaration (name : String) {symbol : Option TypeId}
    {attributes members : List NodeId} (hdeclared : ∀ id, symbol = some id → id.Below idLimit)
    (hchildren : ∀ id ∈ attributes ++ members, id.Below idLimit) :
    (typeDeclaration name symbol attributes members).HasSchema := by
  refine ⟨_, rfl, rfl, fun fields h => ?_⟩
  have hname : decodeText fields "name" = some name :=
    decodeText_eq h (by simp [NodeKind.members])
  have hsymbol : decodeId? fields "symbol" = some symbol :=
    decodeId?_eq h (by simp [NodeKind.members]) hdeclared
  have hattributes : decodeIds fields "attributes" = some attributes :=
    decodeIds_eq h (by simp [NodeKind.members])
      (fun id hid => hchildren id (List.mem_append_left _ hid))
  have hmembers : decodeIds fields "members" = some members :=
    decodeIds_eq h (by simp [NodeKind.members])
      (fun id hid => hchildren id (List.mem_append_right _ hid))
  simp only [hname, hsymbol, hattributes, hmembers]
  rfl

theorem hasSchema_invocation {callee : NodeId} {arguments : List NodeId} {target : Option MethodId}
    {typeArguments : List TypeId} (hchildren : ∀ id ∈ callee :: arguments, id.Below idLimit)
    (hcalled : ∀ id, target = some id → id.Below idLimit)
    (htypes : ∀ id ∈ typeArguments, id.Below idLimit) :
    (invocation callee arguments target typeArguments).HasSchema := by
  refine ⟨_, rfl, rfl, fun fields h => ?_⟩
  have hcallee : decodeId fields "callee" = some callee :=
    decodeId_eq h (by simp [NodeKind.members]) (hchildren _ List.mem_cons_self)
  have harguments : decodeIds fields "arguments" = some arguments :=
    decodeIds_eq h (by simp [NodeKind.members])
      (fun id hid => hchildren id (List.mem_cons_of_mem _ hid))
  have htarget : decodeId? fields "target" = some target :=
    decodeId?_eq h (by simp [NodeKind.members]) hcalled
  have htypeArguments : decodeIds fields "type_arguments" = some typeArguments :=
    decodeIds_eq h (by simp [NodeKind.members]) htypes
  simp only [hcallee, harguments, htarget, htypeArguments]
  rfl

/-- Every kind of node has a schema. -/
theorem hasSchema {node : SyntaxNode} (hids : node.IdsBelow idLimit) : node.kind.HasSchema := by
  obtain ⟨file, span, leadingTrivia, parent, kind⟩ := node
  cases kind with
  | compilationUnit members =>
    refine ⟨_, rfl, rfl, fun fields h => ?_⟩
    have hmembers : decodeIds fields "members" = some members :=
      decodeIds_eq h (by simp [NodeKind.members]) hids.children
    simp only [hmembers]
    rfl
  | namespaceDeclaration name members =>
    refine ⟨_, rfl, rfl, fun fields h => ?_⟩
    have hname : decodeText fields "name" = some name :=
      decodeText_eq h (by simp [NodeKind.members])
    have hmembers : decodeIds fields "members" = some members :=
      decodeIds_eq h (by simp [NodeKind.members]) hids.children
    simp only [hname, hmembers]
    rfl
  | typeDeclaration name symbol attributes members =>
    exact hasSchema_typeDeclaration name
      (fun id hid => hids.declaredType name id attributes members (by rw [hid])) hids.children
  | attributeNode name arguments =>
    refine ⟨_, rfl, rfl, fun fields h => ?_⟩
    have hname : decodeText fields "name" = some name :=
      decodeText_eq h (by simp [NodeKind.members])
    have harguments : decodeIds fields "arguments" = some arguments :=
      decodeIds_eq h (by simp [NodeKind.members]) hids.children
    simp only [hname, harguments]
    rfl
  | method name modifiers modifiersStart symbol parameters body =>
    exact hasSchema_method name modifiersStart hids.declaredMethod hids.children
  | constructor modifiers symbol parameters body =>
    exact hasSchema_constructor hids.declaredMethod hids.children
  | localFunction name modifiers symbol parameters body =>
    exact hasSchema_localFunction name hids.declaredMethod hids.children
  | property name symbol accessors =>
    refine ⟨_, rfl, rfl, fun fields h => ?_⟩
    have hname : decodeText fields "name" = some name :=
      decodeText_eq h (by simp [NodeKind.members])
    have hsymbol : decodeId? fields "symbol" = some symbol :=
      decodeId?_eq h (by simp [NodeKind.members])
        (fun id hid => hids.declaredProperty name id accessors (by rw [hid]))
    have haccessors : decodeIds fields "accessors" = some accessors :=
      decodeIds_eq h (by simp [NodeKind.members]) hids.children
    simp only [hname, hsymbol, haccessors]
    rfl
  | field name initializer =>
    refine ⟨_, rfl, rfl, fun fields h => ?_⟩
    have hname : decodeText fields "name" = some name :=
      decodeText_eq h (by simp [NodeKind.members])
    have hinitializer : decodeId? fields "initializer" = some initializer :=
      decodeChild?_eq h (by simp [NodeKind.members]) hids.children
    simp only [hname, hinitializer]
    rfl
  | parameter name =>
    refine ⟨_, rfl, rfl, fun fields h => ?_⟩
    have hname : decodeText fields "name" = some name :=
      decodeText_eq h (by simp [NodeKind.members])
    simp only [hname]
    rfl
  | block statements =>
    refine ⟨_, rfl, rfl, fun fields h => ?_⟩
    have hstatements : decodeIds fields "statements" = some statements :=
      decodeIds_eq h (by simp [NodeKind.members]) hids.children
    simp only [hstatements]
    rfl
  | expressionStatement operand =>
    refine ⟨_, rfl, rfl, fun fields h => ?_⟩
    have hoperand : decodeId fields "expression" = some operand :=
      decodeId_eq h (by simp [NodeKind.members]) (hids.children _ List.mem_cons_self)
    simp only [hoperand]
    rfl
  | localDeclaration name initializer =>
    refine ⟨_, rfl, rfl, fun fields h => ?_⟩
    have hname : decodeText fields "name" = some name :=
      decodeText_eq h (by simp [NodeKind.members])
    have hinitializer : decodeId? fields "initializer" = some initializer :=
      decodeChild?_eq h (by simp [NodeKind.members]) hids.children
    simp only [hname, hinitializer]
    rfl
  | returnStatement operand =>
    refine ⟨_, rfl, rfl, fun fields h => ?_⟩
    have hoperand : decodeId? fields "expression" = some operand :=
      decodeChild?_eq h (by simp [NodeKind.members]) hids.children
    simp only [hoperand]
    rfl
  | yieldReturn operand =>
    refine ⟨_, rfl, rfl, fun fields h => ?_⟩
    have hoperand : decodeId fields "expression" = some operand :=
      decodeId_eq h (by simp [NodeKind.members]) (hids.children _ List.mem_cons_self)
    simp only [hoperand]
    rfl
  | yieldBreak =>
    exact ⟨_, rfl, rfl, fun _ _ => rfl⟩
  | statement keyword children =>
    refine ⟨_, rfl, rfl, fun fields h => ?_⟩
    have hkeyword : decodeText fields "keyword" = some keyword :=
      decodeText_eq h (by simp [NodeKind.members])
    have hchildren : decodeIds fields "children" = some children :=
      decodeIds_eq h (by simp [NodeKind.members]) hids.children
    simp only [hkeyword, hchildren]
    rfl
  | invocation callee arguments target typeArguments =>
    exact hasSchema_invocation hids.children
      (fun id hid => hids.target callee arguments id typeArguments (by rw [hid]))
      (hids.typeArguments callee arguments target typeArguments rfl)
  | objectCreation typeName arguments created =>
    refine ⟨_, rfl, rfl, fun fields h => ?_⟩
    have htypeName : decodeText fields "type_name" = some typeName :=
      decodeText_eq h (by simp [NodeKind.members])
    have harguments : decodeIds fields "arguments" = some arguments :=
      decodeIds_eq h (by simp [NodeKind.members]) hids.children
    have hcreated : decodeId? fields "created" = some created :=
      decodeId?_eq h (by simp [NodeKind.members])
        (fun id hid => hids.created typeName arguments id (by rw [hid]))
    simp only [htypeName, harguments, hcreated]
    rfl
  | anonymousFunction form modifiers parameters body symbol =>
    exact hasSchema_anonymousFunction form hids.declaredMethod hids.children
  | identifier name symbol =>
    refine ⟨_, rfl, rfl, fun fields h => ?_⟩
    have hname : decodeText fields "name" = some name :=
      decodeText_eq h (by simp [NodeKind.members])
    have hsymbol : fields.optional "symbol" SymbolRef.decode = some symbol :=
      optional_symbol_eq h (by simp [NodeKind.members]) hids.symbol
    simp only [hname, hsymbol]
    rfl
  | memberAccess operand name symbol =>
    refine ⟨_, rfl, rfl, fun fields h => ?_⟩
    have hoperand : decodeId fields "expression" = some operand :=
      decodeId_eq h (by simp [NodeKind.members]) (hids.children _ List.mem_cons_self)
    have hname : decodeText fields "name" = some name :=
      decodeText_eq h (by simp [NodeKind.members])
    have hsymbol : fields.optional "symbol" SymbolRef.decode = some symbol :=
      optional_symbol_eq h (by simp [NodeKind.members]) hids.symbol
    simp only [hoperand, hname, hsymbol]
    rfl
  | assignment operator left right =>
    refine ⟨_, rfl, rfl, fun fields h => ?_⟩
    have hoperator : fields.required "operator" AssignmentOperator.decode = some operator :=
      AssignmentOperator.inverts.required (h.holds _ _ (by simp [NodeKind.members])) trivial
    have hleft : decodeId fields "left" = some left :=
      decodeId_eq h (by simp [NodeKind.members]) (hids.children _ List.mem_cons_self)
    have hright : decodeId fields "right" = some right :=
      decodeId_eq h (by simp [NodeKind.members])
        (hids.children _ (List.mem_cons_of_mem _ List.mem_cons_self))
    simp only [hoperator, hleft, hright]
    rfl
  | await operand =>
    refine ⟨_, rfl, rfl, fun fields h => ?_⟩
    have hoperand : decodeId fields "expression" = some operand :=
      decodeId_eq h (by simp [NodeKind.members]) (hids.children _ List.mem_cons_self)
    simp only [hoperand]
    rfl
  | parenthesized operand =>
    refine ⟨_, rfl, rfl, fun fields h => ?_⟩
    have hoperand : decodeId fields "expression" = some operand :=
      decodeId_eq h (by simp [NodeKind.members]) (hids.children _ List.mem_cons_self)
    simp only [hoperand]
    rfl
  | literal text =>
    refine ⟨_, rfl, rfl, fun fields h => ?_⟩
    have htext : decodeText fields "text" = some text :=
      decodeText_eq h (by simp [NodeKind.members])
    simp only [htext]
    rfl
  | expression text children =>
    refine ⟨_, rfl, rfl, fun fields h => ?_⟩
    have htext : fields.getD "text" Decoder.string "" = some text :=
      Decoder.inverts_string.getD (h.holds _ _ (by simp [NodeKind.members])) trivial
    have hchildren : decodeIds fields "children" = some children :=
      decodeIds_eq h (by simp [NodeKind.members]) hids.children
    simp only [htext, hchildren]
    rfl

/-- No schema has a field that could be taken for the kind or for a part of the position. -/
theorem schemas_nodup : ∀ schema ∈ schemas,
    (["file", "span", "leading_trivia"] ++ "kind" :: schema.2.1).Nodup := by
  decide

theorem schema_nodup {name : String} {schema : List String × (Record → Option NodeKind)}
    (h : schemas.lookup name = some schema) :
    (["file", "span", "leading_trivia"] ++ "kind" :: schema.1).Nodup := by
  obtain ⟨before, after, hsplit, -⟩ := List.lookup_eq_some_iff.mp h
  exact schemas_nodup (name, schema) (by rw [hsplit]; simp)

/-- The kind and its fields are read back from the members that hold them. -/
theorem decode_members {node : SyntaxNode} (hids : node.IdsBelow idLimit) {rules : Rules}
    (hfits : ∀ member ∈ node.kind.members, member.2.Fits rules.room) :
    decode rules (Json.datumMembers (("kind", .str node.kind.name) :: node.kind.members)) =
      some node.kind := by
  obtain ⟨schema, hschema, hkeys, hread⟩ := hasSchema hids
  have hnodup : ("kind" :: schema.1).Nodup :=
    (schema_nodup hschema).sublist (List.sublist_append_right _ _)
  obtain ⟨hkind, hnames⟩ := List.nodup_cons.mp hnodup
  have hmembers :
      ((("kind", Json.str node.kind.name) :: node.kind.members).map Prod.fst).Nodup := by
    rw [List.map_cons, hkeys]
    exact hnodup
  have hname : Record.known ["kind"]
      (Json.datumMembers (("kind", .str node.kind.name) :: node.kind.members)) =
        some [("kind", .text node.kind.name)] := by
    have hothers : node.kind.members.filter (fun member => ["kind"].contains member.1) = [] := by
      rw [List.filter_eq_nil_iff]
      intro member hmember hcontains
      have hmem : member.1 ∈ schema.1 := hkeys ▸ List.mem_map_of_mem hmember
      rw [List.contains_iff_mem, List.mem_singleton] at hcontains
      exact hkind (hcontains ▸ hmem)
    rw [Record.known_datumMembers _ hmembers, List.filter_cons_of_pos (by simp), hothers]
    rfl
  have hfields : Record.known schema.1
      (Json.datumMembers (("kind", .str node.kind.name) :: node.kind.members)) =
        some (Record.entriesOf node.kind.members) := by
    have hown : node.kind.members.filter (fun member => schema.1.contains member.1) =
        node.kind.members := by
      rw [List.filter_eq_self]
      intro member hmember
      rw [List.contains_iff_mem, ← hkeys]
      exact List.mem_map_of_mem hmember
    rw [Record.known_datumMembers _ hmembers,
      List.filter_cons_of_neg (by simpa using hkind), hown]
  have hwritten : Record.Written
      { rules := { rules with positional := true }, entries := Record.entriesOf node.kind.members }
      node.kind.members := Record.written_entriesOf (hkeys ▸ hnames) hfits
  have hlookup : schema? (.text node.kind.name) = some schema := hschema
  simp only [decode, hname, Option.bind_eq_bind, Option.bind_some, List.lookup_cons_self, hlookup,
    hfields]
  exact hread _ hwritten

end NodeKind

/-! ## Nodes -/

namespace SyntaxNode

/-- The members for the position of a node. -/
def ownMembers (node : SyntaxNode) : List (String × Json) :=
  [("file", node.file.toJson), ("span", node.span.toJson)]
    ++ Json.triviaMember "leading_trivia" node.leadingTrivia

/-- The members for the kind of a node. -/
def kindMembers (node : SyntaxNode) : List (String × Json) :=
  ("kind", .str node.kind.name) :: node.kind.members

theorem toJson_eq (node : SyntaxNode) :
    node.toJson = .obj (node.ownMembers ++ node.kindMembers) :=
  rfl

theorem keys_ownMembers_sublist (node : SyntaxNode) :
    (node.ownMembers.map Prod.fst).Sublist ["file", "span", "leading_trivia"] := by
  rw [ownMembers, List.map_append]
  exact (List.Sublist.refl ["file", "span"]).append (Json.keys_triviaMember_sublist _ _)

/-- The members for the position and those for the kind have different keys. -/
theorem keys_nodup {node : SyntaxNode} (hids : node.IdsBelow idLimit) :
    ((node.ownMembers ++ node.kindMembers).map Prod.fst).Nodup ∧
      ∀ member ∈ node.kindMembers, member.1 ∉ ["file", "span", "leading_trivia"] := by
  obtain ⟨schema, hschema, hkeys, -⟩ := NodeKind.hasSchema hids
  have hnodup := NodeKind.schema_nodup hschema
  have hkind : node.kindMembers.map Prod.fst = "kind" :: schema.1 := by
    rw [kindMembers, List.map_cons, hkeys]
  constructor
  · rw [List.map_append, hkind]
    exact hnodup.sublist (node.keys_ownMembers_sublist.append (List.Sublist.refl _))
  · intro member hmember hown
    have hmem : member.1 ∈ "kind" :: schema.1 := hkind ▸ List.mem_map_of_mem hmember
    exact (List.nodup_append.mp hnodup).2.2 _ hown _ hmem rfl

theorem known_own {node : SyntaxNode} (hids : node.IdsBelow idLimit) :
    Record.known ["file", "span", "leading_trivia"]
      (Json.datumMembers (node.ownMembers ++ node.kindMembers)) =
        some (Record.entriesOf node.ownMembers) := by
  obtain ⟨hnodup, hother⟩ := keys_nodup hids
  have hown : node.ownMembers.filter
      (fun member => ["file", "span", "leading_trivia"].contains member.1) = node.ownMembers := by
    rw [List.filter_eq_self]
    intro member hmember
    rw [List.contains_iff_mem]
    exact node.keys_ownMembers_sublist.mem (List.mem_map_of_mem hmember)
  have hkind : node.kindMembers.filter
      (fun member => ["file", "span", "leading_trivia"].contains member.1) = [] := by
    rw [List.filter_eq_nil_iff]
    intro member hmember hcontains
    exact hother member hmember (List.contains_iff_mem.mp hcontains)
  rw [Record.known_datumMembers _ hnodup, List.filter_append, hown, hkind, List.append_nil]

theorem filter_kind {node : SyntaxNode} (hids : node.IdsBelow idLimit) :
    (Json.datumMembers (node.ownMembers ++ node.kindMembers)).filter
      (fun entry => !(entry.1.text?.any ["file", "span", "leading_trivia"].contains)) =
        Json.datumMembers node.kindMembers := by
  obtain ⟨-, hother⟩ := keys_nodup hids
  rw [Json.datumMembers_eq_map, List.map_append, List.filter_append, List.filter_eq_nil_iff.mpr,
    List.filter_eq_self.mpr, List.nil_append, Json.datumMembers_eq_map]
  · intro entry hentry
    obtain ⟨member, hmember, rfl⟩ := List.mem_map.mp hentry
    have := hother member hmember
    simpa [Datum.text?] using this
  · intro entry hentry
    obtain ⟨member, hmember, rfl⟩ := List.mem_map.mp hentry
    have hmem : member.1 ∈ ["file", "span", "leading_trivia"] :=
      node.keys_ownMembers_sublist.mem (List.mem_map_of_mem hmember)
    have hown :
        (Datum.text member.1).text?.any ["file", "span", "leading_trivia"].contains = true :=
      List.contains_iff_mem.mpr hmem
    simp only [hown, Bool.not_true, Bool.false_eq_true, not_false_eq_true]

theorem settle_kind {node : SyntaxNode} {room : Nat}
    (hfits : ∀ member ∈ node.kindMembers, member.2.Fits room) :
    (Json.datumMembers node.kindMembers).mapM (fun (key, value) => do
      return (Datum.text (← key.text?), ← value.settle room)) =
        some (Json.datumMembers node.kindMembers) := by
  generalize node.kindMembers = members at hfits
  induction members with
  | nil => rfl
  | cons member members ih =>
    have hvalue : member.2.datum.settle room = some member.2.datum :=
      Json.settle_datum (hfits member (by simp))
    have hrest := ih fun other hother => hfits other (by simp [hother])
    rw [Json.datumMembers, List.mapM_cons, hrest]
    simp only [Datum.text?, hvalue]
    rfl

theorem own_fields {node : SyntaxNode} {fields : Record} (h : fields.Written node.ownMembers)
    (hid : node.file.Below idLimit) :
    fields.required "file" ItemId.decode = some node.file ∧
      fields.required "span" Span.decode = some node.span ∧
      fields.getD "leading_trivia" Decoder.string "" = some node.leadingTrivia := by
  refine ⟨?_, ?_, h.getD_trivia (fun member hmember => ?_) fun hempty => ?_⟩
  · exact ItemId.inverts.required (h.holds _ _ (by simp [ownMembers])) hid
  · exact Span.inverts.required (h.holds _ _ (by simp [ownMembers])) trivial
  · exact List.mem_append_right _ hmember
  · rw [ownMembers, List.map_append, List.mem_append, Json.mem_keys_triviaMember]
    simp [hempty]

/-- A node is read back as it was written, but without its parent. -/
theorem inverts : Decoder.Inverts SyntaxNode.decode SyntaxNode.toJson
    fun node => node.IdsBelow idLimit ∧ node.parent = none := by
  rintro rules node ⟨hids, hparent⟩ hfits
  rw [toJson_eq] at hfits ⊢
  obtain ⟨inner, henter, hmembers⟩ := Record.enter_of_fits hfits
  have hkindFits : ∀ member ∈ node.kindMembers, member.2.Fits inner.room :=
    fun member hmember => hmembers member (List.mem_append_right _ hmember)
  have hwritten : Record.Written { rules := inner, entries := Record.entriesOf node.ownMembers }
      node.ownMembers := by
    refine Record.written_entriesOf ?_ fun member hmember =>
      hmembers member (List.mem_append_left _ hmember)
    exact (by decide : ["file", "span", "leading_trivia"].Nodup).sublist
      node.keys_ownMembers_sublist
  obtain ⟨hfile, hspan, htrivia⟩ := own_fields hwritten hids.file
  have hkind : NodeKind.decode inner (Json.datumMembers node.kindMembers) = some node.kind :=
    NodeKind.decode_members hids fun member hmember =>
      hkindFits member (List.mem_cons_of_mem _ hmember)
  have hbind : ∀ {α β : Type} (a : α) (next : α → Option β), (some a >>= next) = next a :=
    fun _ _ => rfl
  unfold SyntaxNode.decode
  simp only [Json.datum, henter, hbind, known_own hids, filter_kind hids, settle_kind hkindFits,
    hfile, hspan, htrivia, hkind, ← hparent]
  rfl

end SyntaxNode

end ModLint
