import ModLint.Proofs.Canonical
import ModLint.Proofs.Overrides
import ModLint.Proofs.Safety

/-!
# Order of arrival

The events of a program are independent of each other, so their reports may arrive in any order.
The canonical list is meant to hide that order. It does so for conditions, severities, files,
starts and messages. It does not for the rest of a diagnostic (its end, its lines and columns, its
arguments) where two different reports have one place: the one that arrives first is listed and the
other one is dropped.
-/

namespace ModLint

namespace Diagnostic

/-- What a canonical list tells about a diagnostic whatever the order of arrival. -/
def gist (diagnostic : Diagnostic) : DiagnosticId × Severity × String × Nat × String :=
  (diagnostic.id, diagnostic.severity, diagnostic.file, diagnostic.location.span.startByte,
    diagnostic.message)

theorem Follows.gist_eq {catalog : Catalog} {a b : Diagnostic} (ha : a.Follows catalog)
    (hb : b.Follows catalog) (h : a.place = b.place) : a.gist = b.gist := by
  simp only [place, Prod.mk.injEq] at h
  obtain ⟨hfile, hstart, hcode, hmessage⟩ := h
  have hid : a.id = b.id := DiagnosticId.code_injective hcode
  have hseverity : a.severity = b.severity := by rw [ha.severity, hb.severity, hid]
  rw [gist, gist, hid, hseverity, hfile, hstart, hmessage]

end Diagnostic

namespace Program

/-- The analysis of a checked and linked program lists the reports of its events in canonical form.
Whatever the order in which the reports arrive, the lists agree in conditions, severities, files,
starts and messages, and of all reports with one place the first to arrive is listed. The lists
agree in full for all orders of arrival exactly if no listed report has the place of a different
report. -/
theorem analysis_hides_arrival_exactly_without_ties {p q : Program} (hcheck : p.check = .ok ())
    (hlink : p.link = .ok q) (analyzer : Analyzer) :
    ∃ reports, analyzer.collect q = .ok reports ∧
      analyzer.analyze q = .ok (Diagnostic.canonical reports) ∧
      (∀ arrived, arrived.Perm reports →
        (Diagnostic.canonical arrived).map Diagnostic.gist =
          (Diagnostic.canonical reports).map Diagnostic.gist ∧
        ∀ a ∈ Diagnostic.canonical arrived, arrived.find? (fun b => b.place = a.place) = some a) ∧
      ((∀ arrived, arrived.Perm reports →
          Diagnostic.canonical arrived = Diagnostic.canonical reports) ↔
        ∀ a ∈ Diagnostic.canonical reports, ∀ b ∈ reports, a.place = b.place → a = b) := by
  obtain ⟨reports, hreports, hfollow⟩ := (loaded_of_link hcheck hlink).collect analyzer
  have hanalyze : analyzer.analyze q = .ok (Diagnostic.canonical reports) := by
    rw [Analyzer.analyze, hreports]
    rfl
  refine ⟨reports, hreports, hanalyze, fun arrived hperm => ⟨?_, fun a ha => ?_⟩,
    Diagnostic.canonical_eq_of_perm_iff reports⟩
  · refine Diagnostic.map_canonical_of_perm hperm fun a ha b hb hplace => ?_
    exact (hfollow a (Diagnostic.mem_of_mem_canonical ha)).gist_eq (hfollow b hb) hplace
  · exact Diagnostic.find?_of_mem_canonical ha

/-- A program of one statement, `cursor.Remove().Remove();`: both calls start where the statement
does. -/
def chainedRemoval : Program :=
  let nodes : List (Nat × Option NodeId × NodeKind) :=
    [(25, none, .compilationUnit [⟨1⟩]), (25, some ⟨0⟩, .expressionStatement ⟨2⟩),
      (24, some ⟨1⟩, .invocation ⟨3⟩ [] (some ⟨0⟩) []),
      (22, some ⟨2⟩, .memberAccess ⟨4⟩ "Remove" none),
      (15, some ⟨3⟩, .invocation ⟨5⟩ [] (some ⟨0⟩) []),
      (13, some ⟨4⟩, .memberAccess ⟨6⟩ "Remove" none), (6, some ⟨5⟩, .identifier "cursor" none)]
  { assembly := "Mod"
    files := #[{ path := "Patch.cs" }]
    namespaces := #[{ name := "MonoMod" }, { name := "Cil", parent := some ⟨0⟩ }]
    types := #[{ name := "ILCursor", nameSpace := some ⟨1⟩, assembly := "MonoMod" }]
    methods := #[{ name := "Remove", kind := .ordinary, containingType := some ⟨0⟩ }]
    nodes := (nodes.map fun (length, parent, kind) =>
      { file := ⟨0⟩
        span := { startByte := 0, endByte := length, startLine := 1, startColumn := 1 }
        parent
        kind }).toArray }

/-- An analyzer without configuration. -/
def plainAnalyzer : Analyzer :=
  { catalog := .builtin, config := {} }

/-- The report on a call of `Remove` in `chainedRemoval` that ends at an offset. -/
def removalReport (finish : Nat) : Diagnostic :=
  { id := .dontUseCursorRemove
    severity := .warning
    location := {
      file := "Patch.cs"
      span := { startByte := 0, endByte := finish, startLine := 1, startColumn := 1 } }
    message := DiagnosticId.dontUseCursorRemove.format ["Remove"]
    args := ["Remove"] }

/-- The two calls of `chainedRemoval` are reported at one place, so the order of arrival decides
which of them is listed. -/
theorem chainedRemoval_shows_arrival :
    chainedRemoval.check = .ok () ∧ chainedRemoval.link = .ok chainedRemoval ∧
      plainAnalyzer.collect chainedRemoval = .ok [removalReport 24, removalReport 15] ∧
      [removalReport 15, removalReport 24].Perm [removalReport 24, removalReport 15] ∧
      Diagnostic.canonical [removalReport 15, removalReport 24] = [removalReport 15] ∧
      Diagnostic.canonical [removalReport 24, removalReport 15] = [removalReport 24] := by
  refine ⟨by decide +kernel, by decide +kernel, by decide +kernel, List.Perm.swap _ _ _, ?_, ?_⟩
  · exact Diagnostic.canonical_pair rfl
  · exact Diagnostic.canonical_pair rfl

theorem chainedRemoval_gist :
    chainedRemoval.check = .ok () ∧ chainedRemoval.link = .ok chainedRemoval ∧
      ∃ reports, plainAnalyzer.collect chainedRemoval = .ok reports ∧
        ∀ arrived, arrived.Perm reports →
          (Diagnostic.canonical arrived).map Diagnostic.gist =
            (Diagnostic.canonical reports).map Diagnostic.gist := by
  have hcheck : chainedRemoval.check = .ok () := by decide +kernel
  have hlink : chainedRemoval.link = .ok chainedRemoval := by decide +kernel
  obtain ⟨reports, hreports, -, hgist, -⟩ :=
    analysis_hides_arrival_exactly_without_ties hcheck hlink plainAnalyzer
  exact ⟨hcheck, hlink, reports, hreports, fun arrived hperm => (hgist arrived hperm).1⟩

end Program

end ModLint
