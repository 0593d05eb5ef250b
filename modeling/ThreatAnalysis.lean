import ThreatAnalysis.Analysis.Basic
import ThreatAnalysis.Analysis.Engine
import ThreatAnalysis.Analysis.Report
import ThreatAnalysis.Analysis.Session
import ThreatAnalysis.Catalog.Basic
import ThreatAnalysis.Catalog.Bundled
import ThreatAnalysis.Catalog.RuleFile
import ThreatAnalysis.Catalog.Settings
import ThreatAnalysis.CommandLine.Action
import ThreatAnalysis.CommandLine.Emoji
import ThreatAnalysis.CommandLine.Invocation
import ThreatAnalysis.CommandLine.Markup
import ThreatAnalysis.CommandLine.Run
import ThreatAnalysis.CommandLine.Scan
import ThreatAnalysis.CommandLine.Similarity
import ThreatAnalysis.CommandLine.Snapshot
import ThreatAnalysis.CommandLine.Style
import ThreatAnalysis.CommandLine.Terminal
import ThreatAnalysis.CommandLine.UsageError
import ThreatAnalysis.CommandLine.Wrapping
import ThreatAnalysis.Diagram.Basic
import ThreatAnalysis.Diagram.Cell
import ThreatAnalysis.Diagram.Finding
import ThreatAnalysis.Diagram.Load
import ThreatAnalysis.Diagram.Severity
import ThreatAnalysis.Diagram.Template
import ThreatAnalysis.Expression.Arguments
import ThreatAnalysis.Expression.Basic
import ThreatAnalysis.Expression.Evaluation
import ThreatAnalysis.Expression.Parse
import ThreatAnalysis.Files.Breakdown
import ThreatAnalysis.Files.Document
import ThreatAnalysis.Files.Path
import ThreatAnalysis.Files.Tree
import ThreatAnalysis.Json.Reader
import ThreatAnalysis.Json.TextForm
import ThreatAnalysis.Json.Value
import ThreatAnalysis.Json.Writer
import ThreatAnalysis.Literal.Expression
import ThreatAnalysis.Literal.Kind
import ThreatAnalysis.Literal.Number
import ThreatAnalysis.Literal.Quoted
import ThreatAnalysis.Literal.Token
import ThreatAnalysis.Main
import ThreatAnalysis.Number.Double
import ThreatAnalysis.Number.Integer
import ThreatAnalysis.Number.Shortest
import ThreatAnalysis.Platform
import ThreatAnalysis.Proofs.Analysis.Copying
import ThreatAnalysis.Proofs.Analysis.Firing
import ThreatAnalysis.Proofs.Analysis.Frame
import ThreatAnalysis.Proofs.Analysis.Held
import ThreatAnalysis.Proofs.Analysis.InputAlone
import ThreatAnalysis.Proofs.Analysis.LoadOnce
import ThreatAnalysis.Proofs.Analysis.Outcome
import ThreatAnalysis.Proofs.Analysis.Reanalysis
import ThreatAnalysis.Proofs.Analysis.Reporting
import ThreatAnalysis.Proofs.Analysis.ReportViews
import ThreatAnalysis.Proofs.Analysis.Run
import ThreatAnalysis.Proofs.Analysis.SeverityCounts
import ThreatAnalysis.Proofs.Analysis.Supplement
import ThreatAnalysis.Proofs.Analysis.Unrelated
import ThreatAnalysis.Proofs.Analysis.Wiring
import ThreatAnalysis.Proofs.Catalog.Entries
import ThreatAnalysis.Proofs.Catalog.Isolation
import ThreatAnalysis.Proofs.Catalog.Loading
import ThreatAnalysis.Proofs.Catalog.Once
import ThreatAnalysis.Proofs.Catalog.Preparing
import ThreatAnalysis.Proofs.CommandLine.Choosing
import ThreatAnalysis.Proofs.CommandLine.Ending
import ThreatAnalysis.Proofs.CommandLine.Escaping
import ThreatAnalysis.Proofs.CommandLine.Legibility
import ThreatAnalysis.Proofs.CommandLine.Listing
import ThreatAnalysis.Proofs.CommandLine.Protocol
import ThreatAnalysis.Proofs.CommandLine.Showing
import ThreatAnalysis.Proofs.CommandLine.Tables
import ThreatAnalysis.Proofs.CommandLine.Wrapping
import ThreatAnalysis.Proofs.Diagram.Acceptance
import ThreatAnalysis.Proofs.Diagram.Lookup
import ThreatAnalysis.Proofs.Diagram.Normalization
import ThreatAnalysis.Proofs.Diagram.RoundTrip
import ThreatAnalysis.Proofs.Diagram.Templates
import ThreatAnalysis.Proofs.Expression.Agreement
import ThreatAnalysis.Proofs.Expression.AttributeTests
import ThreatAnalysis.Proofs.Expression.BlankSlots
import ThreatAnalysis.Proofs.Expression.Composition
import ThreatAnalysis.Proofs.Expression.Cutting
import ThreatAnalysis.Proofs.Expression.Depth
import ThreatAnalysis.Proofs.Expression.Descent
import ThreatAnalysis.Proofs.Expression.Grammar
import ThreatAnalysis.Proofs.Expression.Observation
import ThreatAnalysis.Proofs.Expression.Parsing
import ThreatAnalysis.Proofs.Expression.Polarity
import ThreatAnalysis.Proofs.Expression.Reordering
import ThreatAnalysis.Proofs.Expression.Scanning
import ThreatAnalysis.Proofs.Expression.Size
import ThreatAnalysis.Proofs.Expression.Structure
import ThreatAnalysis.Proofs.Expression.Surroundings
import ThreatAnalysis.Proofs.Files.Directory
import ThreatAnalysis.Proofs.Files.Making
import ThreatAnalysis.Proofs.Files.Spelling
import ThreatAnalysis.Proofs.Record.Fields
import ThreatAnalysis.Proofs.Record.Flags
import ThreatAnalysis.Proofs.Record.Reading
import ThreatAnalysis.Proofs.Record.Renaming
import ThreatAnalysis.Proofs.Record.RoundTrip
import ThreatAnalysis.Proofs.Record.Update
import ThreatAnalysis.Proofs.Text.Balance
import ThreatAnalysis.Proofs.Text.Trimming
import ThreatAnalysis.Proofs.Traversal
import ThreatAnalysis.Record.Issue
import ThreatAnalysis.Record.Readers
import ThreatAnalysis.Record.Schema
import ThreatAnalysis.Rule.Basic
import ThreatAnalysis.Rule.Outline
import ThreatAnalysis.Text.Blank
import ThreatAnalysis.Text.CaseTable
import ThreatAnalysis.Text.CellWidth
import ThreatAnalysis.Text.Lowercase
import ThreatAnalysis.Text.Printable
import ThreatAnalysis.Text.Quoted
import ThreatAnalysis.Text.Range
import ThreatAnalysis.Text.Replace
import ThreatAnalysis.Text.Split
import ThreatAnalysis.Text.WordCharacter
