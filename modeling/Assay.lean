import Assay.Banner
import Assay.Case.Basic
import Assay.Case.Decode
import Assay.Case.Encode
import Assay.Case.Load
import Assay.Case.Schema
import Assay.Case.Validate
import Assay.Cli.Options
import Assay.Cli.Run
import Assay.Datum
import Assay.Decode.Fault
import Assay.Decode.Format
import Assay.Decode.Reader
import Assay.Host.Fault
import Assay.Host.Invocation
import Assay.Host.Plan
import Assay.Host.Process
import Assay.Json.Basic
import Assay.Json.Printer
import Assay.Json.Reader
import Assay.Layout
import Assay.Machine.Computer
import Assay.Machine.Difference
import Assay.Machine.Disk
import Assay.Machine.Naming
import Assay.Machine.Survey
import Assay.Machine.Tree
import Assay.Main
import Assay.Number.Double
import Assay.Number.Notation
import Assay.Path
import Assay.Placeholder
import Assay.Proofs.Banners
import Assay.Proofs.Binding
import Assay.Proofs.Chores
import Assay.Proofs.Cleanup
import Assay.Proofs.Codec
import Assay.Proofs.Computers
import Assay.Proofs.Course
import Assay.Proofs.Discovery
import Assay.Proofs.Documents
import Assay.Proofs.Encoding
import Assay.Proofs.Expansion
import Assay.Proofs.Outcome
import Assay.Proofs.Output
import Assay.Proofs.Ownership
import Assay.Proofs.Permissions
import Assay.Proofs.Phases
import Assay.Proofs.Quoting
import Assay.Proofs.Registration
import Assay.Proofs.Removal
import Assay.Proofs.Repetition
import Assay.Proofs.Requests
import Assay.Proofs.Results
import Assay.Proofs.Rooted
import Assay.Proofs.Scanning
import Assay.Proofs.Templates
import Assay.Proofs.Totals
import Assay.Proofs.Validity
import Assay.Proofs.Verdict
import Assay.Proofs.Visits
import Assay.Regex.CharSet
import Assay.Regex.Meaning
import Assay.Regex.Parser
import Assay.Regex.Pattern
import Assay.Regex.Program
import Assay.Regex.Search
import Assay.Regex.Space
import Assay.Regex.Syntax
import Assay.Report.Basic
import Assay.Report.Duration
import Assay.Report.Human
import Assay.Report.Json
import Assay.Report.Junit
import Assay.Schema
import Assay.Semver.Requirement
import Assay.Semver.Version
import Assay.Shell.Arithmetic
import Assay.Shell.Builtin.Basic
import Assay.Shell.Builtin.Directory
import Assay.Shell.Builtin.Name
import Assay.Shell.Builtin.Print
import Assay.Shell.Builtin.Read
import Assay.Shell.Builtin.Signal
import Assay.Shell.Builtin.Variable
import Assay.Shell.Condition
import Assay.Shell.Expansion
import Assay.Shell.Job
import Assay.Shell.Option
import Assay.Shell.Parser
import Assay.Shell.Pattern
import Assay.Shell.Print
import Assay.Shell.Process
import Assay.Shell.Program
import Assay.Shell.Redirection
import Assay.Shell.Run
import Assay.Shell.Signal
import Assay.Shell.State
import Assay.Shell.Syntax
import Assay.Suite.Chore
import Assay.Suite.Context
import Assay.Suite.Discovery
import Assay.Suite.Expectation
import Assay.Suite.Failure
import Assay.Suite.Inspection
import Assay.Suite.Run
import Assay.Text.Blank
import Assay.Text.Bytes
import Assay.Text.Digit
import Assay.Text.Quoted
import Assay.Toml.Document
import Assay.Toml.Scalar
import Assay.Unicode.Age
import Assay.Unicode.Category
import Assay.Unicode.Display
import Assay.Unicode.Folding
import Assay.Unicode.Letter
import Assay.Unicode.Property
import Assay.Unicode.Ranges
import Assay.Unicode.Script
import Assay.Unicode.ScriptExtension
import Assay.Unicode.Segmentation
import Assay.Utility.Awk.Parser
import Assay.Utility.Awk.Run
import Assay.Utility.Awk.State
import Assay.Utility.Awk.Syntax
import Assay.Utility.Awk.Table
import Assay.Utility.Awk.Token
import Assay.Utility.Awk.Value
import Assay.Utility.Basic
import Assay.Utility.Batch
import Assay.Utility.Cat
import Assay.Utility.Change
import Assay.Utility.Coding
import Assay.Utility.Compare.Run
import Assay.Utility.Compare.Script
import Assay.Utility.Count
import Assay.Utility.Digest
import Assay.Utility.Dump
import Assay.Utility.Exchange
import Assay.Utility.Expression.Basic
import Assay.Utility.Expression.Match
import Assay.Utility.Expression.Parser
import Assay.Utility.Field
import Assay.Utility.Files
import Assay.Utility.Fold
import Assay.Utility.Formula
import Assay.Utility.Grep
import Assay.Utility.Inspect
import Assay.Utility.Launch
import Assay.Utility.Listing
import Assay.Utility.Make
import Assay.Utility.Merge
import Assay.Utility.Mode
import Assay.Utility.Moment
import Assay.Utility.Name
import Assay.Utility.Numbering
import Assay.Utility.Part
import Assay.Utility.Quote
import Assay.Utility.Resolve
import Assay.Utility.Sed.Run
import Assay.Utility.Sed.Syntax
import Assay.Utility.Seek.Criterion
import Assay.Utility.Seek.Run
import Assay.Utility.Sequence
import Assay.Utility.Sort
import Assay.Utility.Table
import Assay.Utility.Transfer
import Assay.Utility.Unique
import Assay.Workspace.Lifecycle
import Assay.Workspace.Registry
import Assay.Workspace.Template
import Assay.Yaml.CoreSchema
import Assay.Yaml.Cursor
import Assay.Yaml.Document
import Assay.Yaml.Fault
import Assay.Yaml.Scalar
import Assay.Yaml.Token
import Assay.Yaml.Tree
