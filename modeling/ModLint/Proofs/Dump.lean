import ModLint.Proofs.Loaded
import ModLint.Proofs.NodeDump

/-!
# Dumps of programs

A dump holds all of a program but the links to parents. Loading it reads the program back without
these links, and since neither the check nor the computation of the links looks at them, both do
what they do on the original.
-/

namespace ModLint.Program

/-- A program without links to parents. -/
def bare (p : Program) : Program :=
  { p with nodes := p.nodes.map orphan }

theorem toJson_bare (p : Program) : p.bare.toJson = p.toJson := by
  have hnodes : Json.ofList SyntaxNode.toJson p.bare.nodes.toList =
      Json.ofList SyntaxNode.toJson p.nodes.toList := by
    rw [bare, Array.toList_map, Json.ofList, Json.ofList, List.map_map]
    rfl
  rw [toJson, toJson, hnodes]
  rfl

theorem check_bare (p : Program) : p.bare.check = p.check := by
  refine check_with_nodes ?_
  rw [Array.map_map]
  rfl

theorem link_bare (p : Program) : p.bare.link = p.link := by
  refine link_with_nodes ?_
  rw [Array.map_map]
  rfl

theorem IdsBelow.bare {p : Program} {limit : Arena → Nat} (h : p.IdsBelow limit) :
    p.bare.IdsBelow limit where
  namespaces := h.namespaces
  types := h.types
  methods := h.methods
  properties := h.properties
  events := h.events
  nodes := by
    intro node hnode
    obtain ⟨original, horiginal, rfl⟩ := Array.mem_map.mp hnode
    have hids := h.nodes original horiginal
    exact ⟨hids.file, hids.children, hids.declaredMethod, hids.symbol, hids.declaredType,
      hids.declaredProperty, hids.target, hids.typeArguments, hids.created⟩

theorem inverts : Decoder.Inverts Program.decode Program.toJson
    fun p => p.IdsBelow idLimit ∧ ∀ node ∈ p.nodes, node.parent = none := by
  rintro rules p ⟨hids, hparents⟩ hfits
  unfold Program.decode
  refine Record.read_bind (by decide) (by exact List.Sublist.refl _) hfits fun fields hfields => ?_
  have hassembly : fields.required "assembly" Decoder.string = some p.assembly :=
    Decoder.inverts_string.required (hfields.holds _ _ (by simp)) trivial
  have hfiles : fields.getD "files" (Decoder.array SourceFile.decode) #[] = some p.files :=
    SourceFile.inverts.array.getD (hfields.holds _ _ (by simp)) fun _ _ => trivial
  have hnamespaces : fields.getD "namespaces" (Decoder.array Namespace.decode) #[] =
      some p.namespaces :=
    Namespace.inverts.array.getD (hfields.holds _ _ (by simp)) hids.namespaces
  have htypes : fields.getD "types" (Decoder.array TypeSymbol.decode) #[] = some p.types :=
    TypeSymbol.inverts.array.getD (hfields.holds _ _ (by simp)) hids.types
  have hmethods : fields.getD "methods" (Decoder.array MethodSymbol.decode) #[] = some p.methods :=
    MethodSymbol.inverts.array.getD (hfields.holds _ _ (by simp)) hids.methods
  have hproperties : fields.getD "properties" (Decoder.array PropertySymbol.decode) #[] =
      some p.properties :=
    PropertySymbol.inverts.array.getD (hfields.holds _ _ (by simp)) hids.properties
  have hevents : fields.getD "events" (Decoder.array EventSymbol.decode) #[] = some p.events :=
    EventSymbol.inverts.array.getD (hfields.holds _ _ (by simp)) hids.events
  have hnodes : fields.getD "nodes" (Decoder.array SyntaxNode.decode) #[] = some p.nodes :=
    SyntaxNode.inverts.array.getD (hfields.holds _ _ (by simp)) fun node hnode =>
      ⟨hids.nodes node hnode, hparents node hnode⟩
  rw [hassembly, hfiles, hnamespaces, htypes, hmethods, hproperties, hevents, hnodes]
  rfl

/-- Loading the dump of a program that was checked and linked gives the program, if the dump can be
read at all: no id has more than 32 bits, no number more than 64, and no more containers are open
at a time than the reader has room for. -/
theorem ofJson_dump {p : Program} (hcheck : p.check = .ok ()) (hlink : p.link = .ok p)
    (hids : p.IdsBelow idLimit) (hnumbers : ∀ n ∈ p.toJson.numbers, n < 2 ^ 64)
    (hdepth : p.toJson.depth ≤ Rules.json.room) : ofJson p.dump = .ok p := by
  have hfits : p.bare.toJson.Fits Rules.json.room := by
    rw [toJson_bare]
    exact ⟨hdepth, hnumbers⟩
  have hparents : ∀ node ∈ p.bare.nodes, node.parent = none := by
    intro node hnode
    obtain ⟨original, -, rfl⟩ := Array.mem_map.mp hnode
    rfl
  have hdecode : Program.decode Rules.json p.toJson.datum = some p.bare := by
    rw [← toJson_bare]
    exact inverts Rules.json p.bare ⟨hids.bare, hparents⟩ hfits
  have hfinish : p.bare.finish = .ok p := by
    rw [finish, check_bare, link_bare, hcheck, hlink]
  rw [ofJson, dump, Json.ofJson?_pretty]
  simp only [ofDatum, hdecode, hfinish]

/-- A program with nested attribute arguments, trivia and characters that need an escape. -/
def attributedProgram : Program :=
  let span : Span := { startByte := 3, endByte := 9, startLine := 1, startColumn := 4 }
  { assembly := "Mod"
    files := #[{ path := "src\\Türme \"A\".cs", text := some "\t// \x01 𝛌\r\n" }]
    namespaces := #[{ name := "Mod" }]
    types := #[
      { name := "Tower"
        nameSpace := some ⟨0⟩
        kind := .structType
        assembly := "Mod"
        attributes := [
          { attributeClass := ⟨0⟩
            arguments := [.array [.type ⟨0⟩, .array [.string "", .bool true], .other "1.5"]]
            site := some ⟨2⟩ }]
        members := [⟨0⟩]
        declaration := some ⟨1⟩ }]
    methods := #[{ name := "Build", containingType := some ⟨0⟩, declaration := some ⟨3⟩ }]
    properties := #[{ name := "Height", containingType := ⟨0⟩, isStatic := true }]
    nodes := #[
      { file := ⟨0⟩, span, kind := .compilationUnit [⟨1⟩] },
      { file := ⟨0⟩, span, parent := some ⟨0⟩
        kind := .typeDeclaration "Tower" (some ⟨0⟩) [⟨2⟩] [⟨3⟩] },
      { file := ⟨0⟩, span, parent := some ⟨1⟩, kind := .attributeNode "Tower" [] },
      { file := ⟨0⟩, span, leadingTrivia := "\n", parent := some ⟨1⟩
        kind := .method "Build" [{ text := "static", span, trailingTrivia := " " }]
          (some (2 ^ 64 - 1)) (some ⟨0⟩) [] (some ⟨4⟩) },
      { file := ⟨0⟩, span, parent := some ⟨3⟩, kind := .block [⟨5⟩] },
      { file := ⟨0⟩, span, parent := some ⟨4⟩
        kind := .identifier "Height" (some (.property ⟨0⟩)) }] }

theorem ofJson_dump_attributedProgram :
    attributedProgram.check = .ok () ∧ attributedProgram.link = .ok attributedProgram ∧
      attributedProgram.IdsBelow idLimit ∧ (∀ n ∈ attributedProgram.toJson.numbers, n < 2 ^ 64) ∧
      attributedProgram.toJson.depth = 11 ∧
      ofJson attributedProgram.dump = .ok attributedProgram := by
  have hcheck : attributedProgram.check = .ok () := by decide +kernel
  have hlink : attributedProgram.link = .ok attributedProgram := by decide +kernel
  have hids : attributedProgram.IdsBelow idLimit := by
    rw [idsBelow_iff]
    simp only [AllBelow, idLimit]
    decide +kernel
  have hnumbers : ∀ n ∈ attributedProgram.toJson.numbers, n < 2 ^ 64 := by decide +kernel
  have hdepth : attributedProgram.toJson.depth = 11 := by decide +kernel
  exact ⟨hcheck, hlink, hids, hnumbers, hdepth,
    ofJson_dump hcheck hlink hids hnumbers (by rw [hdepth]; decide)⟩

end ModLint.Program
