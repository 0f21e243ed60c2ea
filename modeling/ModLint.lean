import ModLint.Analysis.Result
import ModLint.Analysis.Run
import ModLint.Build.Builder
import ModLint.Build.Framework
import ModLint.Check.Checker
import ModLint.Check.Cursor
import ModLint.Check.Entity
import ModLint.Check.Event
import ModLint.Check.Hooks
import ModLint.Check.Tracker
import ModLint.Command.Arguments
import ModLint.Command.Fix
import ModLint.Command.Init
import ModLint.Command.Input
import ModLint.Command.Lint
import ModLint.Command.Location
import ModLint.Command.Outcome
import ModLint.Command.Run
import ModLint.Config.Basic
import ModLint.Config.Names
import ModLint.Config.Validate
import ModLint.Datum
import ModLint.Datum.Decode
import ModLint.Diagnostic.Basic
import ModLint.Diagnostic.Catalog
import ModLint.Diagnostic.Id
import ModLint.EntityId
import ModLint.File.System
import ModLint.File.Tree
import ModLint.Fix.Action
import ModLint.Fix.Edit
import ModLint.Fix.MakeStatic
import ModLint.Glob
import ModLint.Json.Basic
import ModLint.Json.Reader
import ModLint.Main
import ModLint.Path
import ModLint.Program.Basic
import ModLint.Program.Check
import ModLint.Program.Dump
import ModLint.Program.Item
import ModLint.Program.Link
import ModLint.Program.Load
import ModLint.Program.Name
import ModLint.Program.Node
import ModLint.Program.Query
import ModLint.Program.Span
import ModLint.Program.Symbol
import ModLint.Program.Walk
import ModLint.Report.Pretty
import ModLint.Report.Sarif
import ModLint.Report.Style
import ModLint.Report.Summary
import ModLint.Severity
import ModLint.Suppression.Basic
import ModLint.Suppression.Directive
import ModLint.Text.Blank
import ModLint.Text.Bytes
import ModLint.Text.Letters
import ModLint.Text.Quoted
import ModLint.Yaml.Plain
import ModLint.Yaml.Reader
import ModLint.Yaml.Token
import ModLint.Proofs.Forest
import ModLint.Proofs.Lookup
import ModLint.Proofs.References
import ModLint.Proofs.Loaded
import ModLint.Proofs.Questions
import ModLint.Proofs.Safety
import ModLint.Proofs.Canonical
import ModLint.Proofs.Arrival
import ModLint.Proofs.JsonText
import ModLint.Proofs.Decoding
import ModLint.Proofs.SymbolDump
import ModLint.Proofs.Dump
import ModLint.Proofs.StoredIds
import ModLint.Proofs.Easing
import ModLint.Proofs.Keys
import ModLint.Proofs.StaticFix
import ModLint.Proofs.Independence
import ModLint.Proofs.Renumbering
import ModLint.Proofs.NumberFree
import ModLint.Proofs.Directives
import ModLint.Proofs.Settling
import ModLint.Proofs.OwnFile
import ModLint.Proofs.Conformance
import ModLint.Proofs.Running
import ModLint.Proofs.SourceEdit
import ModLint.Proofs.Totals
import ModLint.Proofs.Building
import ModLint.Proofs.BuildSteps
import ModLint.Proofs.BuildRuns
import ModLint.Proofs.Descent
import ModLint.Proofs.HookFindings
import ModLint.Proofs.HookJudgement
import ModLint.Proofs.StaticFrame
import ModLint.Proofs.Offering
import ModLint.Proofs.ListedPlaces
import ModLint.Proofs.Preorder
import ModLint.Proofs.SceneReads
import ModLint.Proofs.EntityFindings
import ModLint.Proofs.EntityJudgement
import ModLint.Proofs.EditedModifiers
import ModLint.Proofs.Culprits
import ModLint.Proofs.ReportOrder
import ModLint.Proofs.SymbolWalks
import ModLint.Proofs.Reordering
import ModLint.Proofs.Overloads
import ModLint.Proofs.MemberOrder
import ModLint.Proofs.Messages
import ModLint.Proofs.RuleTable
import ModLint.Proofs.Patterns
import ModLint.Proofs.Trimming
import ModLint.Proofs.Regex
import ModLint.Proofs.Readers
import ModLint.Proofs.Lines
import ModLint.Proofs.DirectiveLines
import ModLint.Proofs.WrittenDirectives
import ModLint.Proofs.Cutting
import ModLint.Proofs.EntityIds
import ModLint.Proofs.BuildChanges
import ModLint.Proofs.NodePlaces
import ModLint.Proofs.Interning
