import SecurityScan.Text.CharClass
import SecurityScan.Text.Printable
import SecurityScan.Text.Word
import SecurityScan.Text.Case
import SecurityScan.Text.Line
import SecurityScan.Text.Quoted
import SecurityScan.Text.Utf8
import SecurityScan.Number.Whole
import SecurityScan.Number.Double
import SecurityScan.Number.Shortest
import SecurityScan.Number.Literal
import SecurityScan.Calendar
import SecurityScan.Value.Basic
import SecurityScan.Value.Display
import SecurityScan.Json.Reader
import SecurityScan.Json.Writer
import SecurityScan.Text.Split
import SecurityScan.Path
import SecurityScan.Ignore.Glob
import SecurityScan.Ignore.Rule
import SecurityScan.Chunk
import SecurityScan.Note
import SecurityScan.Files.Tree
import SecurityScan.Fault
import SecurityScan.Ignore.File
import SecurityScan.Value.Access
import SecurityScan.Value.Convert
import SecurityScan.Report.Combined
import SecurityScan.Report.Count
import SecurityScan.Report.Console
import SecurityScan.Report.Markdown
import SecurityScan.Report.Json
import SecurityScan.Html.Escape
import SecurityScan.Html.Page
import SecurityScan.Yaml.Cursor
import SecurityScan.Yaml.ScalarText
import SecurityScan.Yaml.Property
import SecurityScan.Yaml.Token
import SecurityScan.Yaml.Tag
import SecurityScan.Yaml.Node
import SecurityScan.Text.Base64
import SecurityScan.Yaml.ScalarValue
import SecurityScan.Yaml.Reader
import SecurityScan.Prompt.Risk
import SecurityScan.Prompt.Placeholder
import SecurityScan.Prompt.Basic
import SecurityScan.Config.Basic
import SecurityScan.Config.Freeze
import SecurityScan.Config.Source
import SecurityScan.Config.Issue
import SecurityScan.Config.Build
import SecurityScan.Reply.Schema
import SecurityScan.Reply.Fence
import SecurityScan.Reply.Finding
import SecurityScan.Reply.Reader
import SecurityScan.Backend.Request
import SecurityScan.Backend.Manager
import SecurityScan.Session
import SecurityScan.Command
import SecurityScan.Analyzer.Tool
import SecurityScan.StagedDiff
import SecurityScan.Dispatch
import SecurityScan.Scan.Mode
import SecurityScan.Scan.Collect
import SecurityScan.Scan.Run
import SecurityScan.Template.Token
import SecurityScan.Template.Basic
import SecurityScan.Template.Expression
import SecurityScan.Template.Statement
import SecurityScan.Template.Item
import SecurityScan.Template.Operation
import SecurityScan.Template.Test
import SecurityScan.Template.Filter
import SecurityScan.Template.Render
import SecurityScan.Template.Reader
import SecurityScan.Files.Edit
import SecurityScan.Report.Format
import SecurityScan.Scaffold.Start
import SecurityScan.Scaffold.Workflow
import SecurityScan.CommandLine.Grammar
import SecurityScan.CommandLine.Reader
import SecurityScan.CommandLine.Commands
import SecurityScan.CommandLine.Run
import SecurityScan.Files.Change
import SecurityScan.Main
import SecurityScan.Html.Strip
import SecurityScan.Proofs.Chunk
import SecurityScan.Proofs.Dispatch
import SecurityScan.Proofs.Collect
import SecurityScan.Proofs.Prompt
import SecurityScan.Proofs.Scan
import SecurityScan.Proofs.Ignore
import SecurityScan.Proofs.Reply
import SecurityScan.Proofs.Markdown
import SecurityScan.Proofs.Settings
import SecurityScan.Proofs.Outcome
import SecurityScan.Proofs.Page
import SecurityScan.Proofs.Connection
import SecurityScan.Proofs.Decimal
import SecurityScan.Proofs.Numeral
import SecurityScan.Proofs.Json
import SecurityScan.Proofs.Delivery
import SecurityScan.Proofs.Coverage
import SecurityScan.Proofs.Decoded
import SecurityScan.Proofs.JsonReport
import SecurityScan.Proofs.Rendering
import SecurityScan.Proofs.Freezing
import SecurityScan.Proofs.Validation
import SecurityScan.Proofs.Packing
import SecurityScan.Proofs.Usable
import SecurityScan.Proofs.Path
import SecurityScan.Proofs.Labels
import SecurityScan.Proofs.Stability
import SecurityScan.Proofs.RuleLine
import SecurityScan.Proofs.Subtree
import SecurityScan.Proofs.Relative
import SecurityScan.Proofs.Wildcard
import SecurityScan.Proofs.Fence
import SecurityScan.Proofs.Placeholder
import SecurityScan.Proofs.Substitution
import SecurityScan.Proofs.Parts
import SecurityScan.Proofs.Unknown
import SecurityScan.Proofs.Forwarding
import SecurityScan.Proofs.Decoding
import SecurityScan.Proofs.Availability
import SecurityScan.Proofs.ConfigFile
import SecurityScan.Proofs.Ending
import SecurityScan.Proofs.Keys
import SecurityScan.Proofs.Overlay
import SecurityScan.Proofs.Lossless
import SecurityScan.Proofs.Sections
import SecurityScan.Proofs.TemplateReading
import SecurityScan.Proofs.TemplateCode
import SecurityScan.Proofs.PageTemplate
import SecurityScan.Proofs.Places
import SecurityScan.Proofs.Saving
import SecurityScan.Proofs.Staged
import SecurityScan.Proofs.Analyzer
import SecurityScan.Proofs.Extension
