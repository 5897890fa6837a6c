import StreamRecords.Client.Config
import StreamRecords.Client.ConfigFile
import StreamRecords.Client.HttpConnection
import StreamRecords.Client.Invoke
import StreamRecords.CommandLine.Connection
import StreamRecords.CommandLine.Execute
import StreamRecords.CommandLine.Invocation
import StreamRecords.CommandLine.Options
import StreamRecords.CommandLine.Printing
import StreamRecords.Dialogue.Basic
import StreamRecords.Dialogue.Event
import StreamRecords.Dialogue.Run
import StreamRecords.Dialogue.Scripted
import StreamRecords.Dict
import StreamRecords.Hex
import StreamRecords.Item
import StreamRecords.Json.Fault
import StreamRecords.Json.Format
import StreamRecords.Json.Format.OfValue
import StreamRecords.Json.Format.Read
import StreamRecords.Json.Numeral
import StreamRecords.Json.Reader
import StreamRecords.Json.Skip
import StreamRecords.Json.StringReader
import StreamRecords.Json.Text
import StreamRecords.Json.Value
import StreamRecords.Json.ValueReader
import StreamRecords.Ledger.Answer
import StreamRecords.Ledger.Basic
import StreamRecords.Main
import StreamRecords.Proofs.Catalog.Basic
import StreamRecords.Proofs.Catalog.Refinement
import StreamRecords.Proofs.Client.ConfigFile
import StreamRecords.Proofs.Codec
import StreamRecords.Proofs.Codec.Stages
import StreamRecords.Proofs.CommandLine.AllOrNothing
import StreamRecords.Proofs.CommandLine.Connection
import StreamRecords.Proofs.CommandLine.Lookups
import StreamRecords.Proofs.CommandLine.Outcome
import StreamRecords.Proofs.CommandLine.Publication
import StreamRecords.Proofs.ConcurrentSaves.Interleaving
import StreamRecords.Proofs.ConcurrentSaves.Outcome
import StreamRecords.Proofs.ConcurrentSaves.Stages
import StreamRecords.Proofs.Dialogue
import StreamRecords.Proofs.Encoding
import StreamRecords.Proofs.Encoding.Texts
import StreamRecords.Proofs.Except
import StreamRecords.Proofs.Hex
import StreamRecords.Proofs.Item
import StreamRecords.Proofs.Item.Canonical
import StreamRecords.Proofs.Json.Accepted
import StreamRecords.Proofs.Json.CheckedText
import StreamRecords.Proofs.Json.FieldValues
import StreamRecords.Proofs.Json.FormatText
import StreamRecords.Proofs.Json.Layout
import StreamRecords.Proofs.Json.LayoutRecord
import StreamRecords.Proofs.Json.LayoutSkip
import StreamRecords.Proofs.Json.LayoutValue
import StreamRecords.Proofs.Json.MemberValues
import StreamRecords.Proofs.Json.NumeralText
import StreamRecords.Proofs.Json.ReaderText
import StreamRecords.Proofs.Json.RoundTrip
import StreamRecords.Proofs.Json.SkipText
import StreamRecords.Proofs.Json.Spelling
import StreamRecords.Proofs.Json.StringText
import StreamRecords.Proofs.Json.TextLines
import StreamRecords.Proofs.Json.Value
import StreamRecords.Proofs.Json.ValueText
import StreamRecords.Proofs.Ledger.Answers
import StreamRecords.Proofs.Ledger.Exchange
import StreamRecords.Proofs.Ledger.Identifiers
import StreamRecords.Proofs.Ledger.Invoke
import StreamRecords.Proofs.Ledger.Isolation
import StreamRecords.Proofs.Ledger.Run
import StreamRecords.Proofs.Ledger.Streams
import StreamRecords.Proofs.Ledger.Transactions
import StreamRecords.Proofs.Ledger.Wire
import StreamRecords.Proofs.Name
import StreamRecords.Proofs.Repository.Kinds
import StreamRecords.Proofs.Repository.NodeErrors
import StreamRecords.Proofs.Repository.Outcome
import StreamRecords.Proofs.Repository.SaveAll
import StreamRecords.Proofs.Repository.Sent
import StreamRecords.Proofs.Repository.Steps
import StreamRecords.Proofs.Rpc.Envelopes
import StreamRecords.Proofs.Rpc.ErrorObjects
import StreamRecords.Proofs.Rpc.RoundTrip
import StreamRecords.Proofs.Rpc.Wire
import StreamRecords.Proofs.Text.Blank
import StreamRecords.Proofs.Text.Utf8
import StreamRecords.Proofs.Text.WellFormed
import StreamRecords.Proofs.Toml.DocumentText
import StreamRecords.Proofs.Toml.StringText
import StreamRecords.Repository.Basic
import StreamRecords.Repository.Entity
import StreamRecords.Repository.Error
import StreamRecords.Repository.Operation
import StreamRecords.Rpc.Request
import StreamRecords.Rpc.Response
import StreamRecords.Samples
import StreamRecords.Text.Blank
import StreamRecords.Text.Decimal
import StreamRecords.Text.Lowercase
import StreamRecords.Text.Quoted
import StreamRecords.Text.Utf8
import StreamRecords.Time.Instant
import StreamRecords.Time.Rfc3339
import StreamRecords.Toml.Document
import StreamRecords.Toml.Numeral
import StreamRecords.Toml.Reader
import StreamRecords.Toml.Value
import StreamRecords.Toml.Writer
