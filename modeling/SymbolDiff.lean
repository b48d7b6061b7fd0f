import SymbolDiff.CommandLine.Command
import SymbolDiff.CommandLine.Option
import SymbolDiff.CommandLine.Run
import SymbolDiff.CommandLine.Segment
import SymbolDiff.Comparison.Plan
import SymbolDiff.Comparison.Run
import SymbolDiff.Comparison.Summary
import SymbolDiff.Data
import SymbolDiff.Data.Binary
import SymbolDiff.Data.Problem
import SymbolDiff.Data.Reading
import SymbolDiff.Extract.Fault
import SymbolDiff.Extract.Python
import SymbolDiff.Extract.Query
import SymbolDiff.Extract.Source
import SymbolDiff.Extract.TypeScript
import SymbolDiff.Failure
import SymbolDiff.FileSystem
import SymbolDiff.Generator.Basic
import SymbolDiff.Generator.Process
import SymbolDiff.Generator.Scripted
import SymbolDiff.Grammar.Bytes
import SymbolDiff.Grammar.Expression
import SymbolDiff.Grammar.Parsing
import SymbolDiff.Grammar.Python.Statement
import SymbolDiff.Grammar.Python.Token
import SymbolDiff.Grammar.TypeScript.Lexeme
import SymbolDiff.Grammar.TypeScript.Statement
import SymbolDiff.Grammar.TypeScript.Type
import SymbolDiff.Grammar.TypeScript.Value
import SymbolDiff.Listing
import SymbolDiff.Listing.Glob
import SymbolDiff.Listing.Ignore
import SymbolDiff.Main
import SymbolDiff.Output
import SymbolDiff.Path
import SymbolDiff.Reconcile
import SymbolDiff.Report.Json
import SymbolDiff.Report.Lines
import SymbolDiff.Report.Node
import SymbolDiff.Report.Record
import SymbolDiff.Report.Text
import SymbolDiff.Scalar
import SymbolDiff.Settings.Basic
import SymbolDiff.Settings.Fault
import SymbolDiff.Settings.Load
import SymbolDiff.Settings.Record
import SymbolDiff.Symbol.Basic
import SymbolDiff.Symbol.Comparison
import SymbolDiff.Symbol.Record
import SymbolDiff.Text.Blank
import SymbolDiff.Text.Cells
import SymbolDiff.Text.Order
import SymbolDiff.Text.Quoted
import SymbolDiff.Toml.Document
import SymbolDiff.Toml.Scalar
import SymbolDiff.Trace
import SymbolDiff.Tree
import SymbolDiff.Proofs.Reconcile.Occurrence
import SymbolDiff.Proofs.Reconcile.Matching
import SymbolDiff.Proofs.Reconcile.ByKey
import SymbolDiff.Proofs.Reconcile.ByName
import SymbolDiff.Proofs.Symbol.Agreement
import SymbolDiff.Proofs.Reconcile.TwoRuns
import SymbolDiff.Proofs.Symbol.Mirror
import SymbolDiff.Proofs.Symbol.Rearrangement
import SymbolDiff.Proofs.Outcome
import SymbolDiff.Proofs.Tree.DocumentOrder
import SymbolDiff.Proofs.Tree.Resemblance
import SymbolDiff.Proofs.Tree.SeenNodes
import SymbolDiff.Proofs.Extract.SameAnswers
import SymbolDiff.Proofs.Extract.TypeScript.Unseen
import SymbolDiff.Proofs.Extract.Python.Unseen
import SymbolDiff.Proofs.Extract.Invisible
import SymbolDiff.Proofs.Extract.Required
import SymbolDiff.Proofs.Extract.TypeScript.Required
import SymbolDiff.Proofs.Listing.Order
import SymbolDiff.Proofs.Reconcile.Distinct
import SymbolDiff.Proofs.Output.Directories
import SymbolDiff.Proofs.Extract.Python.Chain
import SymbolDiff.Proofs.Extract.Python.Required
import SymbolDiff.Proofs.Extract.Python.ModuleBindings
import SymbolDiff.Proofs.Path.Place
import SymbolDiff.Proofs.Path.Reading
import SymbolDiff.Proofs.Comparison.Locations
import SymbolDiff.Proofs.FileSystem.Way
import SymbolDiff.Proofs.Output.Folder
import SymbolDiff.Proofs.Comparison.Generations
import SymbolDiff.Proofs.Comparison.Baseline
import SymbolDiff.Proofs.FileSystem.Put
import SymbolDiff.Proofs.Comparison.Depositing
import SymbolDiff.Proofs.Report.Shape
import SymbolDiff.Proofs.Comparison.Course
import SymbolDiff.Proofs.Comparison.Summary
import SymbolDiff.Proofs.Comparison.Reports
import SymbolDiff.Proofs.FileSystem.Change
import SymbolDiff.Proofs.Comparison.SideBySide
import SymbolDiff.Proofs.Data.Table
import SymbolDiff.Proofs.Data.Edit
import SymbolDiff.Proofs.Report.Record
import SymbolDiff.Proofs.Report.Lines
import SymbolDiff.Proofs.Symbol.Record
import SymbolDiff.Proofs.Data.Reading
import SymbolDiff.Proofs.Tree.Enclosure
import SymbolDiff.Proofs.Extract.TypeScript.ModuleScope
import SymbolDiff.Proofs.Settings.Loading
import SymbolDiff.Proofs.CommandLine.Verdict
import SymbolDiff.Proofs.Settings.Routes
import SymbolDiff.Proofs.CommandLine.SettingsFile
import SymbolDiff.Proofs.Comparison.FromFile
import SymbolDiff.Proofs.Comparison.Containment
import SymbolDiff.Proofs.Extract.Python.Classes
import SymbolDiff.Proofs.Output.Contents
import SymbolDiff.Proofs.Symbol.ParameterOrder
import SymbolDiff.Proofs.Extract.Ordinals
import SymbolDiff.Proofs.Reconcile.Reordering
import SymbolDiff.Proofs.Symbol.Heritage
import SymbolDiff.Proofs.Extract.SyntaxErrors
import SymbolDiff.Proofs.CommandLine.DebugArguments
import SymbolDiff.Proofs.CommandLine.BesideFile
import SymbolDiff.Proofs.Tree.Positions
import SymbolDiff.Proofs.Comparison.Runnable
