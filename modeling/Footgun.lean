import Footgun.Cli.Arguments
import Footgun.Cli.Rules
import Footgun.Cli.Run
import Footgun.Cli.Scan
import Footgun.Cli.Session
import Footgun.Command.Basic
import Footgun.Command.Bindings
import Footgun.Config.Load
import Footgun.Config.Setting
import Footgun.Disk.Basic
import Footgun.Disk.Glob
import Footgun.Disk.Path
import Footgun.Disk.Write
import Footgun.Environment
import Footgun.ExitCode
import Footgun.Failure
import Footgun.FileKind
import Footgun.Finding
import Footgun.Go.Assignment
import Footgun.Go.Call
import Footgun.Go.Expression
import Footgun.Journal.Event
import Footgun.Journal.Level
import Footgun.Journal.Record
import Footgun.Journal.Sink
import Footgun.Json.Basic
import Footgun.Json.Reader
import Footgun.Json.Real
import Footgun.Json.Writer
import Footgun.Limit
import Footgun.Main
import Footgun.Makefile
import Footgun.Output.Color
import Footgun.Output.Literal
import Footgun.Output.Markup
import Footgun.Output.Pictograph.Basic
import Footgun.Output.Pictograph.NamesA
import Footgun.Output.Pictograph.NamesC
import Footgun.Output.Pictograph.NamesF
import Footgun.Output.Pictograph.NamesG
import Footgun.Output.Pictograph.NamesM
import Footgun.Output.Pictograph.NamesN
import Footgun.Output.Pictograph.NamesP
import Footgun.Output.Pictograph.NamesR
import Footgun.Output.Pictograph.NamesT
import Footgun.Output.Pictograph.NamesW
import Footgun.Output.Report
import Footgun.Output.Style
import Footgun.Output.Table
import Footgun.Proofs.BindingEvents
import Footgun.Proofs.CommaItems
import Footgun.Proofs.CommandSteps
import Footgun.Proofs.ConfigJournal
import Footgun.Proofs.ConfigLoading
import Footgun.Proofs.ConfigMerge
import Footgun.Proofs.ConfigSchema
import Footgun.Proofs.Decoding
import Footgun.Proofs.DirectoryWalk
import Footgun.Proofs.DiskLookup
import Footgun.Proofs.DiskPlaces
import Footgun.Proofs.DiskShape
import Footgun.Proofs.DocumentOrder
import Footgun.Proofs.Encounters
import Footgun.Proofs.ExitStatus
import Footgun.Proofs.ExpandedWord
import Footgun.Proofs.Extraction
import Footgun.Proofs.Failing
import Footgun.Proofs.FileEnding
import Footgun.Proofs.FindingOrder
import Footgun.Proofs.FirstFault
import Footgun.Proofs.FlagSearch
import Footgun.Proofs.GlobSearch
import Footgun.Proofs.GoVariables
import Footgun.Proofs.JsonNames
import Footgun.Proofs.JsonRefusal
import Footgun.Proofs.JsonRoundTrip
import Footgun.Proofs.JsonText
import Footgun.Proofs.LineWords
import Footgun.Proofs.MakefileParts
import Footgun.Proofs.MoreFlags
import Footgun.Proofs.NulFree
import Footgun.Proofs.PathText
import Footgun.Proofs.PathVerdict
import Footgun.Proofs.Peeling
import Footgun.Proofs.Position
import Footgun.Proofs.QuotedSplice
import Footgun.Proofs.RecipeMarks
import Footgun.Proofs.Refinement
import Footgun.Proofs.ReportReading
import Footgun.Proofs.Samples
import Footgun.Proofs.ScanIndependence
import Footgun.Proofs.ScriptVariables
import Footgun.Proofs.SelectionCounts
import Footgun.Proofs.SelectionFilter
import Footgun.Proofs.SelectionOrder
import Footgun.Proofs.SizeLimit
import Footgun.Proofs.UnsafeWords
import Footgun.Proofs.Visits
import Footgun.Proofs.WalkCoverage
import Footgun.Proofs.WiderRules
import Footgun.Proofs.WrapperPrelude
import Footgun.Proofs.WrapperRules
import Footgun.Rule.Basic
import Footgun.Rule.Definition
import Footgun.Rule.Flags
import Footgun.Rule.Paths
import Footgun.Scan.Content
import Footgun.Scan.File
import Footgun.Scan.Policy
import Footgun.Selection.Basic
import Footgun.Selection.Filter
import Footgun.Selection.Statistics
import Footgun.Shell.Script
import Footgun.Shell.Word
import Footgun.Shell.Wrapper
import Footgun.Syntax.Parse
import Footgun.Syntax.Source
import Footgun.Syntax.Stored
import Footgun.Syntax.Tree
import Footgun.Text.Blank
import Footgun.Text.Cased
import Footgun.Text.CommaList
import Footgun.Text.Digit
import Footgun.Text.Integer
import Footgun.Text.Letter
import Footgun.Text.Lines
import Footgun.Text.Lowercase
import Footgun.Text.NameChar
import Footgun.Text.Printable
import Footgun.Text.Quoted
import Footgun.Text.Range
import Footgun.Text.Similarity
import Footgun.Text.Utf8
import Footgun.Text.Width
import Footgun.Text.Wrap
