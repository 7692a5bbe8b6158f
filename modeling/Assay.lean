import Assay.Binary64
import Assay.Calendar
import Assay.Clock
import Assay.CommandLine.Arguments
import Assay.CommandLine.Dialogue
import Assay.CommandLine.Execution
import Assay.CommandLine.Usage
import Assay.Configuration
import Assay.Conversation.Context
import Assay.Conversation.Session
import Assay.Conversation.Store
import Assay.Decimal
import Assay.Deflate.Code
import Assay.Deflate.Stream
import Assay.Detection.Complexity
import Assay.Detection.Detector
import Assay.Detection.Finding
import Assay.Detection.Functions
import Assay.Detection.Performance
import Assay.Detection.Rule
import Assay.Detection.Security
import Assay.Failure
import Assay.Issue
import Assay.Json.Encoded
import Assay.Json.Printer
import Assay.Json.Reader
import Assay.Json.Value
import Assay.Language
import Assay.Main
import Assay.Parallel
import Assay.Path
import Assay.Pattern.Basic
import Assay.Pattern.Build
import Assay.Pattern.Search
import Assay.Pipeline
import Assay.Project.Coverage
import Assay.Project.Documentation
import Assay.Proofs.Analysis.Concurrency
import Assay.Proofs.Analysis.Identity
import Assay.Proofs.Analysis.Local
import Assay.Proofs.Analysis.Origin
import Assay.Proofs.Analysis.Stages
import Assay.Proofs.Binary64
import Assay.Proofs.Configuration
import Assay.Proofs.Conversation.Call
import Assay.Proofs.Conversation.Context
import Assay.Proofs.Conversation.Isolation
import Assay.Proofs.Conversation.Recency
import Assay.Proofs.Conversation.Turns
import Assay.Proofs.Detection.Accounting
import Assay.Proofs.Detection.Braces
import Assay.Proofs.Detection.Extent
import Assay.Proofs.Detection.Indentation
import Assay.Proofs.Detection.LineEnds
import Assay.Proofs.Detection.Loops
import Assay.Proofs.Detection.Nesting
import Assay.Proofs.Detection.Parameters
import Assay.Proofs.Detection.Place
import Assay.Proofs.Detection.Reports
import Assay.Proofs.Detection.Scanning
import Assay.Proofs.Json.Equality
import Assay.Proofs.Json.Kept
import Assay.Proofs.Json.Message
import Assay.Proofs.Json.Number
import Assay.Proofs.Json.RoundTrip
import Assay.Proofs.Json.Text
import Assay.Proofs.Outcome
import Assay.Proofs.Parallel
import Assay.Proofs.Parallel.Pool
import Assay.Proofs.Pattern.Absence
import Assay.Proofs.Pattern.Count
import Assay.Proofs.Pattern.Ending
import Assay.Proofs.Pattern.Preferred
import Assay.Proofs.Pattern.Takes
import Assay.Proofs.Project.Coverage
import Assay.Proofs.Rendering.RoundTrip
import Assay.Proofs.Rendering.Sarif
import Assay.Proofs.Rendering.Table
import Assay.Proofs.Report.Contract
import Assay.Proofs.Report.Exactness
import Assay.Proofs.Report.Identity
import Assay.Proofs.Report.Measure
import Assay.Proofs.Report.Numbering
import Assay.Proofs.Report.Order
import Assay.Proofs.Report.Stability
import Assay.Proofs.Repository.Agreement
import Assay.Proofs.Repository.Failures
import Assay.Proofs.Repository.Forms
import Assay.Proofs.Repository.Items
import Assay.Proofs.Repository.Naming
import Assay.Proofs.Repository.Order
import Assay.Proofs.Repository.Reached
import Assay.Proofs.Repository.Served
import Assay.Proofs.Review.Batches
import Assay.Proofs.Review.Classification
import Assay.Proofs.Review.Problems
import Assay.Proofs.Review.RoundTrip
import Assay.Proofs.Review.Totality
import Assay.Proofs.Selection.Below
import Assay.Proofs.Selection.Role
import Assay.Proofs.Sorted
import Assay.Proofs.Structure.Decisions
import Assay.Proofs.Structure.Repetition
import Assay.Proofs.Text.Length
import Assay.Proofs.Text.LineBreaks
import Assay.Proofs.Text.LineEnds
import Assay.Proofs.Text.Numeral
import Assay.Proofs.Text.Parts
import Assay.Proofs.Text.Trim
import Assay.Proofs.Text.Utf8
import Assay.Proofs.Trail
import Assay.Proofs.Tree.Exactness
import Assay.Proofs.Tree.Files
import Assay.Proofs.Tree.Gather
import Assay.Proofs.Web.Faults
import Assay.Proofs.Web.Request
import Assay.Rendering.Console
import Assay.Rendering.Export
import Assay.Rendering.Markdown
import Assay.Rendering.Sarif
import Assay.Report.Basic
import Assay.Report.Build
import Assay.Report.Measure
import Assay.Report.Priority
import Assay.Repository.Fetch
import Assay.Repository.Name
import Assay.Repository.Server
import Assay.Review.Batch
import Assay.Review.Parsing
import Assay.Review.Prompt
import Assay.Review.Reply
import Assay.Selection.Exclusion
import Assay.Selection.Glob
import Assay.Selection.SourceSet
import Assay.SourceUnit
import Assay.Structure.Duplicates
import Assay.Structure.FileMetrics
import Assay.Structure.Vocabulary
import Assay.Text.Basic
import Assay.Text.Class
import Assay.Text.Encoding.Basic
import Assay.Text.Encoding.Double
import Assay.Text.Encoding.Escaped
import Assay.Text.Encoding.HongKong
import Assay.Text.Encoding.Japanese
import Assay.Text.Encoding.Korean
import Assay.Text.Encoding.Planes
import Assay.Text.Encoding.Simplified
import Assay.Text.Encoding.SingleByte
import Assay.Text.Encoding.Stateful
import Assay.Text.Encoding.Supplement
import Assay.Text.Encoding.Switched
import Assay.Text.Encoding.Traditional
import Assay.Text.Encoding.Unicode
import Assay.Text.Fault
import Assay.Text.Half
import Assay.Text.Lower
import Assay.Text.Numeral
import Assay.Text.Quoted
import Assay.Text.Ranges
import Assay.Text.Similar
import Assay.Tools
import Assay.Trail
import Assay.Tree.Basic
import Assay.Tree.Gather
import Assay.Tree.Settings
import Assay.Vendor.Answer
import Assay.Vendor.Basic
import Assay.Vendor.Client
import Assay.Web.Address
import Assay.Web.Charset
import Assay.Web.Connection
import Assay.Web.Domain.Basic
import Assay.Web.Domain.Composition
import Assay.Web.Domain.Label
import Assay.Web.Domain.Punycode
import Assay.Web.Domain.Ranges
import Assay.Web.Escape
import Assay.Web.Fault
import Assay.Web.MediaType
import Assay.Web.Message
import Assay.Web.Network
import Assay.Web.Status
import Assay.Workplace
import Assay.Yaml.Draft
import Assay.Yaml.Node
import Assay.Yaml.Place
import Assay.Yaml.Plain
import Assay.Yaml.Quoted
import Assay.Yaml.Reader
import Assay.Yaml.Scalar
import Assay.Yaml.Source
import Assay.Yaml.Token
import Assay.Yaml.Value
