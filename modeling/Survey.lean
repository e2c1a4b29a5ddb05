import Survey.Text.Basic
import Survey.Syntax.Glyph
import Survey.Syntax.Lexeme
import Survey.Text.Case
import Survey.Text.Word
import Survey.Syntax.Form
import Survey.Syntax.Grammar.Basic
import Survey.Syntax.Grammar.Expressions
import Survey.Syntax.Grammar.Markup
import Survey.Syntax.Grammar.Statements
import Survey.Syntax.Script
import Survey.Facts.Basic
import Survey.Facts.Naming
import Survey.Facts.Roles
import Survey.Facts.Signals
import Survey.Facts.SingleFile
import Survey.Facts.Read
import Survey.Schema.Basic
import Survey.Schema.Block
import Survey.Schema.Builder
import Survey.Graph.Basic
import Survey.Graph.Build
import Survey.Graph.Cycles
import Survey.Graph.Degrees
import Survey.Inspection.CircularImports
import Survey.Inspection.Conventions
import Survey.Inspection.Drift
import Survey.Inspection.Exposure
import Survey.Inspection.Impact
import Survey.Inspection.Orphans
import Survey.Inspection.PageWeight
import Survey.Inspection.Registry
import Survey.Calendar.Date
import Survey.Digest.Hmac
import Survey.Inspection.Run
import Survey.Glob.Basic
import Survey.Glob.Match
import Survey.Glob.Parse
import Survey.Text.Quoted
import Survey.Yaml.Cursor
import Survey.Yaml.Node
import Survey.Settings.Read
import Survey.Settings.Validate
import Survey.Project.Analysis
import Survey.Calendar.Instant
import Survey.Json.Write
import Survey.Snapshot
import Survey.Report.Basic
import Survey.Report.Structured
import Survey.Report.Terminal
import Survey.Command.Arguments
import Survey.Command.Run
import Survey.Main
import Survey.Proofs.Sorted
import Survey.Proofs.Walk
import Survey.Proofs.Cycles.Search
import Survey.Proofs.Cycles.Descent
import Survey.Proofs.Cycles.Kept
import Survey.Proofs.Cycles.Progress
import Survey.Proofs.Cycles.Found
import Survey.Proofs.Graph.ReverseIndex
import Survey.Proofs.Graph.Targets
import Survey.Proofs.Graph.Endpoints
import Survey.Proofs.Graph.Roles
import Survey.Proofs.Schema.Closure
import Survey.Proofs.Schema.Key
import Survey.Proofs.Inspection.Drift
import Survey.Proofs.Inspection.Reach
import Survey.Proofs.Inspection.Exposure
import Survey.Proofs.Inspection.Orphans
import Survey.Proofs.Inspection.Unimported
import Survey.Proofs.Inspection.Unguarded
import Survey.Proofs.Schema.RoundTrip
import Survey.Proofs.Inspection.Run
import Survey.Proofs.Schema.Backing
import Survey.Proofs.Schema.Tables
import Survey.Proofs.Schema.Scripts
import Survey.Proofs.Text.Digits
import Survey.Proofs.Calendar.Date
import Survey.Proofs.License
import Survey.Proofs.Resolve.Index
import Survey.Proofs.Schema.Targets
import Survey.Proofs.Stages
import Survey.Proofs.Project.FileTree
import Survey.Proofs.Project.Path
import Survey.Proofs.Project.Discovery
import Survey.Proofs.Project.Analysis
import Survey.Proofs.Command.Run
import Survey.Proofs.Schema.ManyToMany
import Survey.Proofs.Schema.Bodies
import Survey.Proofs.Resolve.Options
import Survey.Proofs.Resolve.Table
import Survey.Proofs.Resolve.Targets
import Survey.Proofs.Resolve.Detours
import Survey.Proofs.Cycles.Pairs
import Survey.Proofs.Json.Comments
import Survey.Proofs.Resolve.Patterns
import Survey.Proofs.Cycles.Components
import Survey.Proofs.Cycles.Turns
import Survey.Proofs.Graph.Degrees
import Survey.Proofs.Inspection.Impact
import Survey.Proofs.Snapshot
import Survey.Proofs.Facts.Routes
import Survey.Proofs.Facts.Calls
import Survey.Proofs.Facts.Exports
import Survey.Proofs.Facts.TagNames
import Survey.Proofs.Facts.Template
