import SqlAccess.Calendar.Date
import SqlAccess.Calendar.DateTime
import SqlAccess.Calendar.Time
import SqlAccess.Command.Basic
import SqlAccess.Command.Binding
import SqlAccess.Command.Output
import SqlAccess.Command.Procedure
import SqlAccess.Command.Statement
import SqlAccess.Connection.Address
import SqlAccess.Connection.Basic
import SqlAccess.Connection.Client
import SqlAccess.Connection.Scripted
import SqlAccess.Database.Basic
import SqlAccess.Database.Command
import SqlAccess.Database.Log
import SqlAccess.Database.Query
import SqlAccess.Database.Race
import SqlAccess.Duration
import SqlAccess.Error
import SqlAccess.Json.Basic
import SqlAccess.Json.Parser
import SqlAccess.Json.Printer
import SqlAccess.Json.Token
import SqlAccess.Json.Written
import SqlAccess.Mapping.Declaration
import SqlAccess.Mapping.Naming
import SqlAccess.Mapping.Record
import SqlAccess.Mapping.Row
import SqlAccess.Number.Binary
import SqlAccess.Number.Layout
import SqlAccess.Number.Shortest
import SqlAccess.Parameter.Argument
import SqlAccess.Parameter.Basic
import SqlAccess.Parameter.Source
import SqlAccess.Proofs.Binding.DistinctNames
import SqlAccess.Proofs.Binding.ListText
import SqlAccess.Proofs.Binding.OneList
import SqlAccess.Proofs.Binding.Referent
import SqlAccess.Proofs.Binding.SinglePass
import SqlAccess.Proofs.Binding.Statement
import SqlAccess.Proofs.Command.Display
import SqlAccess.Proofs.Command.Output
import SqlAccess.Proofs.Command.ProcedureCall
import SqlAccess.Proofs.Command.ProcedureName
import SqlAccess.Proofs.Command.ResultColumn
import SqlAccess.Proofs.Command.ShownText
import SqlAccess.Proofs.Database.Bracket
import SqlAccess.Proofs.Database.Effect
import SqlAccess.Proofs.Database.Lifetime
import SqlAccess.Proofs.Database.Operation
import SqlAccess.Proofs.Database.Race
import SqlAccess.Proofs.Database.Refusal
import SqlAccess.Proofs.Database.Run
import SqlAccess.Proofs.Database.Session
import SqlAccess.Proofs.Database.Slot
import SqlAccess.Proofs.Mapping.ByName
import SqlAccess.Proofs.Mapping.Carrier
import SqlAccess.Proofs.Mapping.Declared
import SqlAccess.Proofs.Mapping.RoundTrip
import SqlAccess.Proofs.Number.DecimalText
import SqlAccess.Proofs.Number.Exponent
import SqlAccess.Proofs.Number.Rounding
import SqlAccess.Proofs.Number.Shortest
import SqlAccess.Proofs.Number.Widening
import SqlAccess.Proofs.Number.Word
import SqlAccess.Proofs.SqlText.Complete
import SqlAccess.Proofs.SqlText.DenseNumbers
import SqlAccess.Proofs.SqlText.EscapeString
import SqlAccess.Proofs.SqlText.Expansion
import SqlAccess.Proofs.SqlText.Extent
import SqlAccess.Proofs.SqlText.Inert
import SqlAccess.Proofs.SqlText.Locality
import SqlAccess.Proofs.SqlText.Numbering
import SqlAccess.Proofs.SqlText.QuotedAnswer
import SqlAccess.Proofs.SqlText.Reading
import SqlAccess.Proofs.SqlText.Region
import SqlAccess.Proofs.SqlText.Settled
import SqlAccess.Proofs.SqlText.Span
import SqlAccess.Proofs.SqlText.Splice
import SqlAccess.Proofs.SqlText.Walk
import SqlAccess.Proofs.Table.Chunk
import SqlAccess.Proofs.Table.Column
import SqlAccess.Proofs.Table.Delivery
import SqlAccess.Proofs.Text.Boundary
import SqlAccess.Proofs.Value.Document
import SqlAccess.Proofs.Where.Entry
import SqlAccess.Proofs.Where.Formula
import SqlAccess.Proofs.Where.Group
import SqlAccess.Proofs.Where.Meaning
import SqlAccess.Proofs.Where.Placeholder
import SqlAccess.Proofs.Where.Pruning
import SqlAccess.Proofs.Where.Token
import SqlAccess.Proofs.Wire.IntegerParameter
import SqlAccess.Proofs.Wire.TextColumn
import SqlAccess.Proofs.Wire.TextParameter
import SqlAccess.Settings.Basic
import SqlAccess.Settings.Document
import SqlAccess.Settings.Environment
import SqlAccess.SqlText.Cursor
import SqlAccess.SqlText.Lexeme
import SqlAccess.SqlText.Placeholder
import SqlAccess.SqlText.Rewrite
import SqlAccess.Table.Basic
import SqlAccess.Table.Reader
import SqlAccess.Table.Row
import SqlAccess.Text.Alphabetic
import SqlAccess.Text.Blank
import SqlAccess.Text.CaseClass
import SqlAccess.Text.CaseMap
import SqlAccess.Text.CodePoints
import SqlAccess.Text.Digits
import SqlAccess.Text.Hex
import SqlAccess.Text.Slice
import SqlAccess.Text.Split
import SqlAccess.Text.Truncate
import SqlAccess.Text.Words
import SqlAccess.Transaction
import SqlAccess.Uuid
import SqlAccess.Value.Basic
import SqlAccess.Value.Display
import SqlAccess.Value.Target
import SqlAccess.Where.Clause
import SqlAccess.Where.Step
import SqlAccess.Wire.Bytes
import SqlAccess.Wire.Decode
import SqlAccess.Wire.Encode
import SqlAccess.Wire.ServerType
