import MapLint.Command.Arguments
import MapLint.Command.Run
import MapLint.Command.Usage
import MapLint.Json.Fault
import MapLint.Json.Reader
import MapLint.Lint.Analysis
import MapLint.Lint.Collect
import MapLint.Lint.Directive
import MapLint.Lint.Event
import MapLint.Lint.Evidence
import MapLint.Lint.Finding
import MapLint.Lint.Repair
import MapLint.Lint.Scope
import MapLint.Lint.Shape
import MapLint.Main
import MapLint.Order
import MapLint.Project.Config
import MapLint.Project.FileTree
import MapLint.Project.Glob
import MapLint.Project.Path
import MapLint.Project.Readings
import MapLint.Project.Scan
import MapLint.Project.Survey
import MapLint.Report.Entry
import MapLint.Report.Render
import MapLint.Report.Style
import MapLint.Script.Grammar.Arrows
import MapLint.Script.Grammar.Basic
import MapLint.Script.Grammar.Classes
import MapLint.Script.Grammar.Functions
import MapLint.Script.Grammar.Goal
import MapLint.Script.Grammar.Markup
import MapLint.Script.Grammar.Modules
import MapLint.Script.Grammar.Names
import MapLint.Script.Grammar.Objects
import MapLint.Script.Grammar.Operands
import MapLint.Script.Grammar.Operators
import MapLint.Script.Grammar.Patterns
import MapLint.Script.Grammar.Signature
import MapLint.Script.Grammar.Statements
import MapLint.Script.Grammar.Types
import MapLint.Script.Lexer
import MapLint.Script.Parse
import MapLint.Script.Problem
import MapLint.Script.Token
import MapLint.Script.Tree
import MapLint.Source
import MapLint.Text.Blank
import MapLint.Text.Edit
import MapLint.Text.IdentifierChars
import MapLint.Text.Lines
import MapLint.Text.Quoted
import MapLint.Text.RangeTable
import MapLint.Text.Shortest
import MapLint.Text.Similar
import MapLint.Text.Span
import MapLint.Text.Width
import MapLint.Proofs.Aliases
import MapLint.Proofs.BoundNames
import MapLint.Proofs.CaretPlace
import MapLint.Proofs.ConfigSearch
import MapLint.Proofs.DirectiveWords
import MapLint.Proofs.DisabledCalls
import MapLint.Proofs.DisabledLines
import MapLint.Proofs.DisplayWidth
import MapLint.Proofs.EditBatch
import MapLint.Proofs.EditOffsets
import MapLint.Proofs.EditOrder
import MapLint.Proofs.EditSplicing
import MapLint.Proofs.EventCoverage
import MapLint.Proofs.EventTrails
import MapLint.Proofs.Exchanges
import MapLint.Proofs.ExpressionSlots
import MapLint.Proofs.FileIdentity
import MapLint.Proofs.FilePlaces
import MapLint.Proofs.FindingSpec
import MapLint.Proofs.IgnoredPaths
import MapLint.Proofs.IssueOrder
import MapLint.Proofs.KeptCalls
import MapLint.Proofs.KeptLines
import MapLint.Proofs.KeptPlaces
import MapLint.Proofs.LinePlaces
import MapLint.Proofs.ListedStatements
import MapLint.Proofs.Locations
import MapLint.Proofs.NameChains
import MapLint.Proofs.OutermostEdits
import MapLint.Proofs.ParentPaths
import MapLint.Proofs.PathParts
import MapLint.Proofs.PathWays
import MapLint.Proofs.PatternIncludes
import MapLint.Proofs.PatternPaths
import MapLint.Proofs.PatternWays
import MapLint.Proofs.RepairFixpoint
import MapLint.Proofs.RepairLoop
import MapLint.Proofs.RepeatedArgument
import MapLint.Proofs.Replacement
import MapLint.Proofs.ReportOrder
import MapLint.Proofs.ScannedFiles
import MapLint.Proofs.ScopeLookup
import MapLint.Proofs.ScopeSegments
import MapLint.Proofs.ScopeSteps
import MapLint.Proofs.SelectedFiles
import MapLint.Proofs.Shadowing
import MapLint.Proofs.Sorting
import MapLint.Proofs.StatementSeam
import MapLint.Proofs.StatementStarts
import MapLint.Proofs.Strictness
import MapLint.Proofs.SurveyedFiles
import MapLint.Proofs.TextOrder
import MapLint.Proofs.TreeParts
import MapLint.Proofs.TreeWrites
import MapLint.Proofs.VisitLocality
import MapLint.Proofs.WalkState
import MapLint.Proofs.WrittenFiles
