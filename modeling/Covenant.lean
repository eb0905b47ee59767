import Covenant.Client.Context
import Covenant.Client.Dialect
import Covenant.Client.Dialects.Go
import Covenant.Client.Dialects.Java
import Covenant.Client.Dialects.Python
import Covenant.Client.Dialects.Rust
import Covenant.Client.Dialects.TypeScript
import Covenant.Client.Emit
import Covenant.Client.Method
import Covenant.Client.Stored
import Covenant.Client.Target
import Covenant.Client.Template
import Covenant.Client.Templates.Go
import Covenant.Client.Templates.Java
import Covenant.Client.Templates.Python
import Covenant.Client.Templates.Rust
import Covenant.Client.Templates.TypeScript
import Covenant.Client.TypeNames
import Covenant.Command.Arguments
import Covenant.Command.Basic
import Covenant.Command.Choice
import Covenant.Command.Clients
import Covenant.Command.Invocation
import Covenant.Command.Run
import Covenant.Command.Tasks
import Covenant.Config.Basic
import Covenant.Config.Check
import Covenant.Config.Document
import Covenant.Config.Stored
import Covenant.Contract.ApiType
import Covenant.Contract.Document
import Covenant.Contract.JsonSource
import Covenant.Contract.Load
import Covenant.Contract.Operation
import Covenant.Contract.Reading
import Covenant.Contract.Stored
import Covenant.Contract.Sync
import Covenant.Contract.YamlSource
import Covenant.Decimal.Numeral
import Covenant.Decimal.Shortest
import Covenant.Files.FileTree
import Covenant.Files.Host
import Covenant.Files.Path
import Covenant.Files.Replace
import Covenant.Files.Workspace
import Covenant.Guard.Comment
import Covenant.Guard.Folder
import Covenant.Guard.Language
import Covenant.Guard.Report
import Covenant.Guard.Rule
import Covenant.Guard.Scan
import Covenant.Json.Bytes
import Covenant.Json.Decode
import Covenant.Json.Printer
import Covenant.Json.Raw
import Covenant.Json.Reader
import Covenant.Json.Value
import Covenant.Main
import Covenant.Naming.Identifier
import Covenant.Naming.Inline
import Covenant.Naming.Words
import Covenant.Pattern.Basic
import Covenant.Pattern.Bracket
import Covenant.Pattern.CharSet
import Covenant.Pattern.Escape
import Covenant.Pattern.Property
import Covenant.Pattern.Reader
import Covenant.Plan.Action
import Covenant.Plan.Document
import Covenant.Plan.Ledger
import Covenant.Plan.Match
import Covenant.Plan.Store
import Covenant.Plan.Task
import Covenant.Proofs.Client.Address
import Covenant.Proofs.Client.Alone
import Covenant.Proofs.Client.Apart
import Covenant.Proofs.Client.BaseUrl
import Covenant.Proofs.Client.Callable
import Covenant.Proofs.Client.Capture
import Covenant.Proofs.Client.Compared
import Covenant.Proofs.Client.Complete
import Covenant.Proofs.Client.Confined
import Covenant.Proofs.Client.Contained
import Covenant.Proofs.Client.Context
import Covenant.Proofs.Client.Declared
import Covenant.Proofs.Client.Drift
import Covenant.Proofs.Client.Emitted
import Covenant.Proofs.Client.Entry
import Covenant.Proofs.Client.Layout
import Covenant.Proofs.Client.Listing
import Covenant.Proofs.Client.Named
import Covenant.Proofs.Client.Overrides
import Covenant.Proofs.Client.Placed
import Covenant.Proofs.Client.Setting
import Covenant.Proofs.Client.Signature
import Covenant.Proofs.Client.Size
import Covenant.Proofs.Client.Stored
import Covenant.Proofs.Client.Substituted
import Covenant.Proofs.Client.Summary
import Covenant.Proofs.Client.Taken
import Covenant.Proofs.Client.Woven
import Covenant.Proofs.Command.Check
import Covenant.Proofs.Command.Generate
import Covenant.Proofs.Command.Projects
import Covenant.Proofs.Command.Selection
import Covenant.Proofs.Config.Check
import Covenant.Proofs.Config.Languages
import Covenant.Proofs.Config.Paths
import Covenant.Proofs.Config.Written
import Covenant.Proofs.Contract.Accepted
import Covenant.Proofs.Contract.Catalog
import Covenant.Proofs.Contract.Extract
import Covenant.Proofs.Contract.Fields
import Covenant.Proofs.Contract.Form
import Covenant.Proofs.Contract.Parameters
import Covenant.Proofs.Contract.Reply
import Covenant.Proofs.Files.Ensures
import Covenant.Proofs.Files.Follow
import Covenant.Proofs.Files.Fresh
import Covenant.Proofs.Files.Held
import Covenant.Proofs.Files.Leftover
import Covenant.Proofs.Files.Names
import Covenant.Proofs.Files.Path
import Covenant.Proofs.Files.Reach
import Covenant.Proofs.Files.Replace
import Covenant.Proofs.Files.Tree
import Covenant.Proofs.Files.Vacant
import Covenant.Proofs.Files.Walk
import Covenant.Proofs.Guard.Clean
import Covenant.Proofs.Guard.Closing
import Covenant.Proofs.Guard.Comment
import Covenant.Proofs.Guard.Dropped
import Covenant.Proofs.Guard.Folder
import Covenant.Proofs.Guard.Marker
import Covenant.Proofs.Guard.Project
import Covenant.Proofs.Guard.Report
import Covenant.Proofs.Guard.Scan
import Covenant.Proofs.Guard.Settings
import Covenant.Proofs.Json.Grammar
import Covenant.Proofs.Json.Pretty
import Covenant.Proofs.Json.Spelling
import Covenant.Proofs.Naming.Braced
import Covenant.Proofs.Naming.Collapsed
import Covenant.Proofs.Naming.Ends
import Covenant.Proofs.Naming.Identifier
import Covenant.Proofs.Naming.Inline
import Covenant.Proofs.Naming.Search
import Covenant.Proofs.Naming.Stable
import Covenant.Proofs.Naming.Words
import Covenant.Proofs.Pattern.Search
import Covenant.Proofs.Pattern.Sketch
import Covenant.Proofs.Plan.Document
import Covenant.Proofs.Plan.Ledger
import Covenant.Proofs.Plan.Match
import Covenant.Proofs.Plan.Refinement
import Covenant.Proofs.Plan.Store
import Covenant.Proofs.Plan.Title
import Covenant.Proofs.Result
import Covenant.Proofs.Text.Blank
import Covenant.Proofs.Text.Braces
import Covenant.Proofs.Text.Case
import Covenant.Proofs.Text.Lines
import Covenant.Proofs.Text.Occurrence
import Covenant.Proofs.Text.Ordered
import Covenant.Proofs.Text.Split
import Covenant.Record.Fault
import Covenant.Record.Fields
import Covenant.Text.Case
import Covenant.Text.Category
import Covenant.Text.CategoryTable
import Covenant.Text.Ordered
import Covenant.Text.Property
import Covenant.Text.ScriptTable
import Covenant.Text.TraitTable
import Covenant.Text.Utf8
import Covenant.Text.WordTable
import Covenant.Time.Calendar
import Covenant.Time.Stamp
import Covenant.Toml.Decode
import Covenant.Toml.Node
import Covenant.Toml.Reader
import Covenant.Toml.Scalar
import Covenant.Toml.Text
import Covenant.Web.Address
import Covenant.Web.HostName
import Covenant.Yaml.Chars
import Covenant.Yaml.Cursor
import Covenant.Yaml.Decode
import Covenant.Yaml.Event
import Covenant.Yaml.Lexer
import Covenant.Yaml.Node
import Covenant.Yaml.Property
import Covenant.Yaml.Resolve
import Covenant.Yaml.Scalar
import Covenant.Yaml.Token
