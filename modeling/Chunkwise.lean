import Chunkwise.Bridge.Adapters
import Chunkwise.Bridge.Scripts
import Chunkwise.Code.Names
import Chunkwise.Code.Parse
import Chunkwise.Code.Placement
import Chunkwise.Code.Token
import Chunkwise.Code.Token.Lexer
import Chunkwise.Code.Token.Number
import Chunkwise.Code.Token.Quote
import Chunkwise.Code.Tree
import Chunkwise.Code.Tree.Expression
import Chunkwise.Code.Tree.Reading
import Chunkwise.Code.Tree.Statement
import Chunkwise.Console.Arguments
import Chunkwise.Console.Dialogue
import Chunkwise.Console.Flag
import Chunkwise.Console.Program
import Chunkwise.Console.Terminal
import Chunkwise.Datum.Basic
import Chunkwise.Datum.Compare
import Chunkwise.Datum.HostForm
import Chunkwise.Datum.Iterate
import Chunkwise.Datum.Render
import Chunkwise.Datum.Text
import Chunkwise.Decimal.Arithmetic
import Chunkwise.Decimal.Double
import Chunkwise.Decimal.Shortest
import Chunkwise.Execution.Builtins
import Chunkwise.Execution.Evaluation
import Chunkwise.Execution.Frame
import Chunkwise.Execution.Guard
import Chunkwise.Execution.Imports
import Chunkwise.Execution.Run
import Chunkwise.Execution.Scene
import Chunkwise.Execution.Source
import Chunkwise.Execution.Target
import Chunkwise.Fault.Kind
import Chunkwise.Fault.Own
import Chunkwise.Import.Chunk
import Chunkwise.Import.Line
import Chunkwise.Interpreter.Basic
import Chunkwise.Main
import Chunkwise.Number.Arithmetic
import Chunkwise.Number.Digits
import Chunkwise.Number.Order
import Chunkwise.Output.LineBuffer
import Chunkwise.Output.Receiver
import Chunkwise.Packages.Resolution
import Chunkwise.Parameters
import Chunkwise.Proofs.Bridge.Strategies
import Chunkwise.Proofs.Bridge.Tensors
import Chunkwise.Proofs.Code.Places
import Chunkwise.Proofs.Console.Dialogues
import Chunkwise.Proofs.Datum.HostForm
import Chunkwise.Proofs.Datum.Keys
import Chunkwise.Proofs.Datum.Places
import Chunkwise.Proofs.Execution.Abstention
import Chunkwise.Proofs.Execution.Actions
import Chunkwise.Proofs.Execution.Control
import Chunkwise.Proofs.Execution.Elsewhere
import Chunkwise.Proofs.Execution.Endings
import Chunkwise.Proofs.Execution.Evaluation
import Chunkwise.Proofs.Execution.Flows
import Chunkwise.Proofs.Execution.Keeps
import Chunkwise.Proofs.Execution.Likeness
import Chunkwise.Proofs.Execution.Passages
import Chunkwise.Proofs.Execution.Splits
import Chunkwise.Proofs.Execution.Tracebacks
import Chunkwise.Proofs.Fault.Ordinary
import Chunkwise.Proofs.Import.Concatenation
import Chunkwise.Proofs.Import.Exempt
import Chunkwise.Proofs.Import.Filter
import Chunkwise.Proofs.Import.Parsing
import Chunkwise.Proofs.Import.Roots
import Chunkwise.Proofs.Import.Statements
import Chunkwise.Proofs.Importable
import Chunkwise.Proofs.Interpreter.Splits
import Chunkwise.Proofs.Output.Batches
import Chunkwise.Proofs.Output.Completion
import Chunkwise.Proofs.Output.Episodes
import Chunkwise.Proofs.Output.Streams
import Chunkwise.Proofs.Packages.Resolutions
import Chunkwise.Proofs.Report.Exceptions
import Chunkwise.Proofs.Report.Excerpts
import Chunkwise.Proofs.Report.Layouts
import Chunkwise.Proofs.Session.Alone.Account
import Chunkwise.Proofs.Session.Alone.Attempt
import Chunkwise.Proofs.Session.Alone.Chunk
import Chunkwise.Proofs.Session.Alone.Course
import Chunkwise.Proofs.Session.Alone.Evaluation
import Chunkwise.Proofs.Session.Alone.Failure
import Chunkwise.Proofs.Session.Alone.Printing
import Chunkwise.Proofs.Session.Alone.Quiet
import Chunkwise.Proofs.Session.Alone.Reception
import Chunkwise.Proofs.Session.Alone.Serving
import Chunkwise.Proofs.Session.Alone.Succession
import Chunkwise.Proofs.Session.Attempts
import Chunkwise.Proofs.Session.Bridges
import Chunkwise.Proofs.Session.Causes
import Chunkwise.Proofs.Session.Constructions
import Chunkwise.Proofs.Session.Crossings
import Chunkwise.Proofs.Session.Escapes
import Chunkwise.Proofs.Session.Exclusion
import Chunkwise.Proofs.Session.Executions
import Chunkwise.Proofs.Session.Installs
import Chunkwise.Proofs.Session.Orders
import Chunkwise.Proofs.Session.Provision
import Chunkwise.Proofs.Session.Renewal.Close
import Chunkwise.Proofs.Session.Renewal.Course
import Chunkwise.Proofs.Session.Renewal.Indifference
import Chunkwise.Proofs.Session.Renewal.Past
import Chunkwise.Proofs.Session.Renewal.Rest
import Chunkwise.Proofs.Session.Renewal.Series
import Chunkwise.Proofs.Session.Renewal.Tidy
import Chunkwise.Proofs.Session.Rooms
import Chunkwise.Proofs.Session.Setbacks
import Chunkwise.Proofs.Session.Sought
import Chunkwise.Proofs.Session.Steps
import Chunkwise.Proofs.Session.Tracebacks
import Chunkwise.Proofs.Session.Turns
import Chunkwise.Proofs.Settings.Overrides
import Chunkwise.Proofs.Store.Guards
import Chunkwise.Proofs.Store.Likeness
import Chunkwise.Proofs.Store.Places
import Chunkwise.Proofs.Store.Spares
import Chunkwise.Proofs.Text.Breaks
import Chunkwise.Proofs.Text.Lines
import Chunkwise.Proofs.Text.Pieces
import Chunkwise.Proofs.World.Leaves
import Chunkwise.Proofs.World.Tool
import Chunkwise.Report.Description
import Chunkwise.Report.Excerpt
import Chunkwise.Report.Summary
import Chunkwise.Session.Basic
import Chunkwise.Session.Bootstrap
import Chunkwise.Session.Construct
import Chunkwise.Session.Deed
import Chunkwise.Session.Evaluate
import Chunkwise.Session.Schedule
import Chunkwise.Settings.Basic
import Chunkwise.Settings.File
import Chunkwise.Store.Action
import Chunkwise.Store.Arithmetic
import Chunkwise.Store.Attribute
import Chunkwise.Store.Basic
import Chunkwise.Store.Compare
import Chunkwise.Store.Construct
import Chunkwise.Store.Iterate
import Chunkwise.Store.Load
import Chunkwise.Store.Read
import Chunkwise.Store.Subscript
import Chunkwise.Text.Blank
import Chunkwise.Text.Digit
import Chunkwise.Text.Hex
import Chunkwise.Text.Identifier
import Chunkwise.Text.Lines
import Chunkwise.Text.Printable
import Chunkwise.Text.Quoted
import Chunkwise.Text.Ranges
import Chunkwise.Text.Sorted
import Chunkwise.Text.Utf8
import Chunkwise.Text.Word
import Chunkwise.Value.Basic
import Chunkwise.Value.Bindings
import Chunkwise.Value.Builtins
import Chunkwise.World.Basic
import Chunkwise.World.Host
import Chunkwise.World.Installer
import Chunkwise.World.Journal
import Chunkwise.World.Library
import Chunkwise.World.Modules
import Chunkwise.World.Plan
import Chunkwise.World.Web
import Chunkwise.Yaml.Document
import Chunkwise.Yaml.Node
import Chunkwise.Yaml.Refusal
import Chunkwise.Yaml.Scalar
import Chunkwise.Yaml.Timestamp
import Chunkwise.Yaml.Token
import Chunkwise.Yaml.Token.Lexer
import Chunkwise.Yaml.Token.Position
import Chunkwise.Yaml.Token.Text
