import ScriptDoc.Command.Invocation
import ScriptDoc.Command.Program
import ScriptDoc.Command.Run
import ScriptDoc.Command.Session
import ScriptDoc.Command.Usage
import ScriptDoc.Command.Words
import ScriptDoc.Console.Basic
import ScriptDoc.Console.Markup
import ScriptDoc.Console.Style
import ScriptDoc.Console.Table
import ScriptDoc.Data.Calendar
import ScriptDoc.Data.Value
import ScriptDoc.Document.Address
import ScriptDoc.Document.Categorize
import ScriptDoc.Document.MediaType
import ScriptDoc.Document.Merge
import ScriptDoc.Document.Record
import ScriptDoc.Document.Storage
import ScriptDoc.Document.Wire
import ScriptDoc.Dump.Entry
import ScriptDoc.Dump.Import
import ScriptDoc.Failure
import ScriptDoc.Files.AtomicWrite
import ScriptDoc.Files.Discovery
import ScriptDoc.Files.Ignore
import ScriptDoc.Files.Path
import ScriptDoc.Files.Workspace
import ScriptDoc.Json.Error
import ScriptDoc.Json.Reader
import ScriptDoc.Json.Writer
import ScriptDoc.Main
import ScriptDoc.Notice
import ScriptDoc.Number.Binary64
import ScriptDoc.Number.Shortest
import ScriptDoc.Proofs.Command.Chain
import ScriptDoc.Proofs.Command.Session
import ScriptDoc.Proofs.Command.Stopping
import ScriptDoc.Proofs.Data.Object
import ScriptDoc.Proofs.Data.Overlay
import ScriptDoc.Proofs.Document.Associativity
import ScriptDoc.Proofs.Document.Canonical
import ScriptDoc.Proofs.Document.Categories
import ScriptDoc.Proofs.Document.History
import ScriptDoc.Proofs.Document.Identities
import ScriptDoc.Proofs.Document.Loading
import ScriptDoc.Proofs.Document.MemberOrder
import ScriptDoc.Proofs.Document.Names
import ScriptDoc.Proofs.Document.Reconcile
import ScriptDoc.Proofs.Document.Repetition
import ScriptDoc.Proofs.Document.Retention
import ScriptDoc.Proofs.Document.Spelling
import ScriptDoc.Proofs.Document.Storage
import ScriptDoc.Proofs.Document.Wire
import ScriptDoc.Proofs.Dump.Concatenation
import ScriptDoc.Proofs.Dump.Preservation
import ScriptDoc.Proofs.Files.AtomicWrite
import ScriptDoc.Proofs.Files.Frame
import ScriptDoc.Proofs.Files.Workspace
import ScriptDoc.Proofs.Json.Keys
import ScriptDoc.Proofs.Json.RoundTrip
import ScriptDoc.Proofs.Json.Scalars
import ScriptDoc.Proofs.Json.Steps
import ScriptDoc.Proofs.Settings.Fields
import ScriptDoc.Proofs.Settings.Layers
import ScriptDoc.Proofs.Settings.Precedence
import ScriptDoc.Proofs.Settings.Resolution
import ScriptDoc.Proofs.Source.ArgumentGrammar
import ScriptDoc.Proofs.Source.Attachment
import ScriptDoc.Proofs.Source.Isolation
import ScriptDoc.Proofs.Source.Strictness
import ScriptDoc.Proofs.Text.Blank
import ScriptDoc.Proofs.Text.Utf8
import ScriptDoc.Proofs.Work
import ScriptDoc.Schema.Checked
import ScriptDoc.Schema.Problem
import ScriptDoc.Settings.Basic
import ScriptDoc.Settings.Layers
import ScriptDoc.Source.Arguments
import ScriptDoc.Source.DocBlock
import ScriptDoc.Source.Generation
import ScriptDoc.Source.Reading
import ScriptDoc.Source.Unit
import ScriptDoc.Text.Base64
import ScriptDoc.Text.Blank
import ScriptDoc.Text.Charset
import ScriptDoc.Text.CodeUnit
import ScriptDoc.Text.Lines
import ScriptDoc.Text.Lowercase
import ScriptDoc.Text.Quoted
import ScriptDoc.Text.Utf8
import ScriptDoc.Text.Word
import ScriptDoc.Work
import ScriptDoc.Yaml.Error
import ScriptDoc.Yaml.Graph
import ScriptDoc.Yaml.Lexer
import ScriptDoc.Yaml.Meaning
import ScriptDoc.Yaml.Node
import ScriptDoc.Yaml.Property
import ScriptDoc.Yaml.Reader
import ScriptDoc.Yaml.Scalar.Block
import ScriptDoc.Yaml.Scalar.Number
import ScriptDoc.Yaml.Scalar.Plain
import ScriptDoc.Yaml.Scalar.Quoted
import ScriptDoc.Yaml.Scalar.Timestamp
import ScriptDoc.Yaml.Spot
import ScriptDoc.Yaml.Tag
import ScriptDoc.Yaml.Token
import ScriptDoc.Proofs.Dump.Occurrence
import ScriptDoc.Proofs.Source.Directives
import ScriptDoc.Proofs.Dump.Streams
import ScriptDoc.Proofs.Source.Spacing
import ScriptDoc.Proofs.Data.Buckets
import ScriptDoc.Proofs.Document.Partition
import ScriptDoc.Proofs.Dump.Grouping
import ScriptDoc.Proofs.Files.Tree
import ScriptDoc.Proofs.Files.Discovery
import ScriptDoc.Proofs.Source.Directory
import ScriptDoc.Proofs.Files.AllOrNothing
import ScriptDoc.Proofs.Settings.Storage
import ScriptDoc.Proofs.Source.LineEnds
import ScriptDoc.Proofs.Yaml.Quoted
import ScriptDoc.Proofs.Yaml.Steps
import ScriptDoc.Proofs.Yaml.Tokens
import ScriptDoc.Proofs.Yaml.Nodes
import ScriptDoc.Proofs.Yaml.Meaning
import ScriptDoc.Proofs.Document.YamlStorage
import ScriptDoc.Proofs.Document.MergeLog
import ScriptDoc.Proofs.Data.NestedOverlay
import ScriptDoc.Proofs.Source.WellFormed
