import StructuredSql.Build
import StructuredSql.CallError
import StructuredSql.Clause
import StructuredSql.Column.Item
import StructuredSql.Column.List
import StructuredSql.Command.Basic
import StructuredSql.Command.Datum
import StructuredSql.Condition.Key
import StructuredSql.Condition.Tree
import StructuredSql.Connection.Basic
import StructuredSql.Connection.Calls
import StructuredSql.Database.Basic
import StructuredSql.Database.Commands
import StructuredSql.Database.Describe
import StructuredSql.Database.Statements
import StructuredSql.Database.Transaction
import StructuredSql.Datum.Basic
import StructuredSql.Datum.Json
import StructuredSql.Datum.Reading
import StructuredSql.Dialect
import StructuredSql.Double.Basic
import StructuredSql.Double.Decimal
import StructuredSql.Engine.Basic
import StructuredSql.Engine.Binding
import StructuredSql.Engine.Memory
import StructuredSql.Engine.Result
import StructuredSql.Engine.Scripted
import StructuredSql.Entries
import StructuredSql.Error
import StructuredSql.Failure
import StructuredSql.Fault
import StructuredSql.FileTree
import StructuredSql.Frame
import StructuredSql.Hash.Xxh3
import StructuredSql.Host
import StructuredSql.Host.Scripted
import StructuredSql.Join
import StructuredSql.Json.Basic
import StructuredSql.Json.Parser
import StructuredSql.Json.Printer
import StructuredSql.Link
import StructuredSql.Main
import StructuredSql.Marker
import StructuredSql.Message
import StructuredSql.MessagePack.Decode
import StructuredSql.MessagePack.Encode
import StructuredSql.Name
import StructuredSql.Octets
import StructuredSql.Options.Basic
import StructuredSql.Options.Datum
import StructuredSql.Options.File
import StructuredSql.Options.Fingerprint
import StructuredSql.Output
import StructuredSql.Projection
import StructuredSql.Proofs.Build.Agree
import StructuredSql.Proofs.Build.Basic
import StructuredSql.Proofs.Build.Params
import StructuredSql.Proofs.Build.Results
import StructuredSql.Proofs.Clause.Blank
import StructuredSql.Proofs.Clause.Complete
import StructuredSql.Proofs.Clause.Conjuncts
import StructuredSql.Proofs.Clause.Leaves
import StructuredSql.Proofs.Clause.Prefix
import StructuredSql.Proofs.Clause.Sections
import StructuredSql.Proofs.Column.Distinct
import StructuredSql.Proofs.Column.Listed
import StructuredSql.Proofs.Column.Parts
import StructuredSql.Proofs.Column.Still
import StructuredSql.Proofs.Command.Maps
import StructuredSql.Proofs.Command.ReadBack
import StructuredSql.Proofs.Condition.Blank
import StructuredSql.Proofs.Condition.Formula
import StructuredSql.Proofs.Condition.Grouping
import StructuredSql.Proofs.Condition.Keys
import StructuredSql.Proofs.Condition.Leaves
import StructuredSql.Proofs.Condition.Plain
import StructuredSql.Proofs.Condition.Precedence
import StructuredSql.Proofs.Condition.Signs
import StructuredSql.Proofs.Condition.Wildcard
import StructuredSql.Proofs.Connection.Action
import StructuredSql.Proofs.Connection.Interleaving
import StructuredSql.Proofs.Connection.Places
import StructuredSql.Proofs.Connection.Terminal
import StructuredSql.Proofs.Connection.Transparent
import StructuredSql.Proofs.Database.Aside
import StructuredSql.Proofs.Database.Attribution
import StructuredSql.Proofs.Database.Bracket
import StructuredSql.Proofs.Database.Course
import StructuredSql.Proofs.Database.Lawful
import StructuredSql.Proofs.Database.Log
import StructuredSql.Proofs.Database.Operations
import StructuredSql.Proofs.Database.Reachable
import StructuredSql.Proofs.Database.Rejections
import StructuredSql.Proofs.Database.Serving
import StructuredSql.Proofs.Datum.Within
import StructuredSql.Proofs.Double.Finite
import StructuredSql.Proofs.Double.Nearest
import StructuredSql.Proofs.Engine.Watched
import StructuredSql.Proofs.Entries
import StructuredSql.Proofs.Fragment.Clause
import StructuredSql.Proofs.Fragment.Statement
import StructuredSql.Proofs.Frame.Cuts
import StructuredSql.Proofs.Frame.Pieces
import StructuredSql.Proofs.Host.Exchange
import StructuredSql.Proofs.Join.Written
import StructuredSql.Proofs.Json.Number
import StructuredSql.Proofs.Json.ReadBack
import StructuredSql.Proofs.Link.Interleaving
import StructuredSql.Proofs.Link.SingleFlight
import StructuredSql.Proofs.Link.Standing
import StructuredSql.Proofs.Marker.Expansion
import StructuredSql.Proofs.Marker.Untouched
import StructuredSql.Proofs.Message.Depth
import StructuredSql.Proofs.Message.ReadBack
import StructuredSql.Proofs.MessagePack.Received
import StructuredSql.Proofs.MessagePack.Short
import StructuredSql.Proofs.Name
import StructuredSql.Proofs.Output.ReadBack
import StructuredSql.Proofs.Params
import StructuredSql.Proofs.Placeholder.Numbering
import StructuredSql.Proofs.Placeholder.Reading
import StructuredSql.Proofs.Projection.Agreement
import StructuredSql.Proofs.Projection.Computed
import StructuredSql.Proofs.Projection.Rows
import StructuredSql.Proofs.Projection.Stars
import StructuredSql.Proofs.Quote.Inverse
import StructuredSql.Proofs.Readable.Splitting
import StructuredSql.Proofs.Registry.Lawful
import StructuredSql.Proofs.Registry.Sharing
import StructuredSql.Proofs.Session.Transactions
import StructuredSql.Proofs.Sql.Complete
import StructuredSql.Proofs.Sql.Prefix
import StructuredSql.Proofs.Sql.Text
import StructuredSql.Proofs.Statement.Basic
import StructuredSql.Proofs.Statement.Blank
import StructuredSql.Proofs.Statement.Complete
import StructuredSql.Proofs.Statement.Insert
import StructuredSql.Proofs.Statement.OneCell
import StructuredSql.Proofs.Statement.OneRow
import StructuredSql.Proofs.Statement.Placeholders
import StructuredSql.Proofs.Statement.Prefix
import StructuredSql.Proofs.Statement.Update
import StructuredSql.Proofs.Statement.Writes
import StructuredSql.Proofs.Stored.Json
import StructuredSql.Proofs.Stored.PrefixFree
import StructuredSql.Proofs.Stored.Structured
import StructuredSql.Proofs.Text.Decimal
import StructuredSql.Proofs.Text.Numeral
import StructuredSql.Proofs.Transport.Hosted
import StructuredSql.Proofs.Transport.Watched
import StructuredSql.Proofs.Turns
import StructuredSql.Proofs.Value.Equality
import StructuredSql.Proofs.Value.Everywhere
import StructuredSql.Proofs.Value.Keyed
import StructuredSql.Proofs.Value.ReadBack
import StructuredSql.Query
import StructuredSql.Query.Datum
import StructuredSql.Quote
import StructuredSql.Readable
import StructuredSql.Registry
import StructuredSql.Session
import StructuredSql.Sql
import StructuredSql.Statement.Read
import StructuredSql.Statement.Schema
import StructuredSql.Statement.Template
import StructuredSql.Statement.Write
import StructuredSql.Stored.Cell
import StructuredSql.Stored.Structured
import StructuredSql.Text.Base64
import StructuredSql.Text.Hex
import StructuredSql.Text.Numeral
import StructuredSql.Text.Shown
import StructuredSql.Text.Utf8
import StructuredSql.Toml.Number
import StructuredSql.Toml.Parser
import StructuredSql.Toml.Printer
import StructuredSql.Toml.Quoted
import StructuredSql.Toml.Table
import StructuredSql.Transcript.Error
import StructuredSql.Transcript.Message
import StructuredSql.Transcript.Session
import StructuredSql.Transcript.Value
import StructuredSql.Transport.Basic
import StructuredSql.Transport.Hosted
import StructuredSql.Transport.Start
import StructuredSql.Unicode.Alphabetic
import StructuredSql.Unicode.Class
import StructuredSql.Unicode.Hidden
import StructuredSql.Unicode.Letter
import StructuredSql.Unicode.Number
import StructuredSql.Value.Basic
import StructuredSql.Value.Datum
import StructuredSql.Value.Equality
import StructuredSql.Value.Json
import StructuredSql.Value.View
