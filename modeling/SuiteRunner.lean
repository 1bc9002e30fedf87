import SuiteRunner.CommandLine.Arguments
import SuiteRunner.CommandLine.Commands
import SuiteRunner.CommandLine.Grammar
import SuiteRunner.Compare.Comparison
import SuiteRunner.Compare.Filter
import SuiteRunner.Config.Basic
import SuiteRunner.Config.Document
import SuiteRunner.Config.Layers
import SuiteRunner.Config.Settings
import SuiteRunner.CrashLog
import SuiteRunner.Document.Node
import SuiteRunner.Document.Value
import SuiteRunner.Environment
import SuiteRunner.Execution.Course
import SuiteRunner.Execution.Pool
import SuiteRunner.Execution.Rehearsal
import SuiteRunner.Execution.Runner
import SuiteRunner.Execution.Sink
import SuiteRunner.Execution.Skip
import SuiteRunner.Execution.Verdict
import SuiteRunner.FileName
import SuiteRunner.FileTree
import SuiteRunner.Glob
import SuiteRunner.Instant
import SuiteRunner.Json.Printer
import SuiteRunner.Json.Reader
import SuiteRunner.LogLevel
import SuiteRunner.Main
import SuiteRunner.Path
import SuiteRunner.Process.Command
import SuiteRunner.Process.Outcome
import SuiteRunner.Regex.Bracket
import SuiteRunner.Regex.CharClass
import SuiteRunner.Regex.Cursor
import SuiteRunner.Regex.Fault
import SuiteRunner.Regex.Parser
import SuiteRunner.Regex.Pattern
import SuiteRunner.Regex.Primitive
import SuiteRunner.Regex.Program
import SuiteRunner.Regex.Syntax
import SuiteRunner.Report.Format
import SuiteRunner.Report.Junit
import SuiteRunner.Report.Xml
import SuiteRunner.Result.Basic
import SuiteRunner.Result.Document
import SuiteRunner.Result.Summary
import SuiteRunner.Shell.Arithmetic
import SuiteRunner.Shell.Builtin
import SuiteRunner.Shell.Machine
import SuiteRunner.Shell.Printf
import SuiteRunner.Shell.Reader
import SuiteRunner.Shell.Run
import SuiteRunner.Shell.Session
import SuiteRunner.Shell.Syntax
import SuiteRunner.Shell.Token
import SuiteRunner.Shell.Tool
import SuiteRunner.SimulatorConf
import SuiteRunner.Stopwatch
import SuiteRunner.Store
import SuiteRunner.Suite.Basic
import SuiteRunner.Suite.Discovery
import SuiteRunner.Suite.Reader
import SuiteRunner.Text.Double
import SuiteRunner.Text.Line
import SuiteRunner.Text.Numeral
import SuiteRunner.Text.Quoted
import SuiteRunner.Text.Search
import SuiteRunner.Text.Utf8
import SuiteRunner.Unicode.Category
import SuiteRunner.Unicode.CategoryTable
import SuiteRunner.Unicode.FoldTable
import SuiteRunner.Unicode.Property
import SuiteRunner.Unicode.PropertyTable
import SuiteRunner.Unicode.ScriptTable
import SuiteRunner.Yaml.Cursor
import SuiteRunner.Yaml.Layout
import SuiteRunner.Yaml.Printer
import SuiteRunner.Yaml.Reader
import SuiteRunner.Yaml.Scalar
import SuiteRunner.Yaml.Token
import SuiteRunner.Proofs.PoolHistory
import SuiteRunner.Proofs.SinkTable
import SuiteRunner.Proofs.PoolInvariant
import SuiteRunner.Proofs.PoolProgress
import SuiteRunner.Proofs.PoolLaunching
import SuiteRunner.Proofs.PoolResults
import SuiteRunner.Proofs.PoolSettling
import SuiteRunner.Proofs.Courses
import SuiteRunner.Proofs.ShownListings
import SuiteRunner.Proofs.SinkHistory
import SuiteRunner.Proofs.Paths
import SuiteRunner.Proofs.SafeNames
import SuiteRunner.Proofs.SavedRuns
import SuiteRunner.Proofs.ConfigRanges
import SuiteRunner.Proofs.TreeGrowth
import SuiteRunner.Proofs.RunEffects
import SuiteRunner.Proofs.CourseResults
import SuiteRunner.Proofs.CapturePaths
import SuiteRunner.Proofs.XmlGrammar
import SuiteRunner.Proofs.XmlReader
import SuiteRunner.Proofs.JunitReport
import SuiteRunner.Proofs.Differences
import SuiteRunner.Proofs.ComparisonModes
import SuiteRunner.Proofs.FileChanges
import SuiteRunner.Proofs.ReportFiles
import SuiteRunner.Proofs.CaseRuns
import SuiteRunner.Proofs.ConfLines
import SuiteRunner.Proofs.ConfMeaning
import SuiteRunner.Proofs.ConfigLayers
import SuiteRunner.Proofs.SuiteNames
import SuiteRunner.Proofs.SuiteWalk
import SuiteRunner.Proofs.SuiteSelection
import SuiteRunner.Proofs.JsonReading
import SuiteRunner.Proofs.ReportAgain
import SuiteRunner.Proofs.CommandSteps
import SuiteRunner.Proofs.RunStores
import SuiteRunner.Proofs.RunCommands
import SuiteRunner.Proofs.RunRecords
import SuiteRunner.Proofs.SummaryCounts
import SuiteRunner.Proofs.FileMoves
import SuiteRunner.Proofs.CreatedDirectories
import SuiteRunner.Proofs.LogPlaces
import SuiteRunner.Proofs.CrashLogs
import SuiteRunner.Proofs.SearchAgain
import SuiteRunner.Proofs.ListedCases
import SuiteRunner.Proofs.YamlScalars
import SuiteRunner.Proofs.YamlLayout
import SuiteRunner.Proofs.YamlTokens
import SuiteRunner.Proofs.YamlReading
import SuiteRunner.Proofs.ScalarTypes
import SuiteRunner.Proofs.DocumentFormats
import SuiteRunner.Proofs.SavedSettings
import SuiteRunner.Proofs.SkipReasons
import SuiteRunner.Proofs.LoadedSuites
import SuiteRunner.Proofs.TimeLimits
import SuiteRunner.Proofs.TextLines
import SuiteRunner.Proofs.FilteredAgain
import SuiteRunner.Proofs.CaptureTails
import SuiteRunner.Proofs.ConfBlocks
import SuiteRunner.Proofs.RunLists
import SuiteRunner.Proofs.LineEnds
import SuiteRunner.Proofs.RelaxedComparison
import SuiteRunner.Proofs.Placeholders
import SuiteRunner.Proofs.ScenarioLayers
import SuiteRunner.Proofs.CheckedSettings
import SuiteRunner.Proofs.SelectedFiles
import SuiteRunner.Proofs.PaddedVariables
import SuiteRunner.Proofs.LoadedCounts
import SuiteRunner.Proofs.DisplayedCommands
import SuiteRunner.Proofs.ColoredOutput
