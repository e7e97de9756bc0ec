import SmbExchange.Bytes.Access
import SmbExchange.Bytes.Alignment
import SmbExchange.Bytes.Basic
import SmbExchange.Bytes.LittleEndian
import SmbExchange.Command
import SmbExchange.Config.Basic
import SmbExchange.Config.Document
import SmbExchange.Config.Duration
import SmbExchange.Config.Environment
import SmbExchange.Config.Files
import SmbExchange.Config.Problem
import SmbExchange.Digest.Hmac
import SmbExchange.Digest.Sha256
import SmbExchange.Event
import SmbExchange.Fault
import SmbExchange.Fault.Record
import SmbExchange.Frame.Framing
import SmbExchange.Frame.Header
import SmbExchange.Json.Reader
import SmbExchange.Json.Value
import SmbExchange.Json.Writer
import SmbExchange.Level
import SmbExchange.Logging.Directive
import SmbExchange.Logging.Filter
import SmbExchange.Logging.Logger
import SmbExchange.Logging.Pattern
import SmbExchange.Metrics
import SmbExchange.Packet.Basic
import SmbExchange.Packet.Cursor
import SmbExchange.Packet.Dump
import SmbExchange.Packet.Header
import SmbExchange.Packet.Status
import SmbExchange.Packet.Words
import SmbExchange.Proofs.Bytes.Bounds
import SmbExchange.Proofs.Bytes.Changes
import SmbExchange.Proofs.Bytes.Primitives
import SmbExchange.Proofs.Bytes.Slices
import SmbExchange.Proofs.Config.Reloaded
import SmbExchange.Proofs.Config.Validated
import SmbExchange.Proofs.Frame.Chunks
import SmbExchange.Proofs.Frame.Decoding
import SmbExchange.Proofs.Frame.Grammar
import SmbExchange.Proofs.Frame.RoundTrip
import SmbExchange.Proofs.Frame.Whole
import SmbExchange.Proofs.Packet.Addressing
import SmbExchange.Proofs.Packet.Agreement
import SmbExchange.Proofs.Packet.Assembly
import SmbExchange.Proofs.Packet.BoundedText
import SmbExchange.Proofs.Packet.Described
import SmbExchange.Proofs.Packet.Extent
import SmbExchange.Proofs.Packet.Failure
import SmbExchange.Proofs.Packet.FieldLaws
import SmbExchange.Proofs.Packet.Fields
import SmbExchange.Proofs.Packet.Independence
import SmbExchange.Proofs.Packet.Inspection
import SmbExchange.Proofs.Packet.Items
import SmbExchange.Proofs.Packet.Layout
import SmbExchange.Proofs.Packet.Listing
import SmbExchange.Proofs.Packet.Padding
import SmbExchange.Proofs.Packet.Position
import SmbExchange.Proofs.Packet.Received
import SmbExchange.Proofs.Packet.Reuse
import SmbExchange.Proofs.Packet.TextLimit
import SmbExchange.Proofs.Packet.View
import SmbExchange.Proofs.Packet.Walk
import SmbExchange.Proofs.Routing
import SmbExchange.Proofs.Session.Accounting
import SmbExchange.Proofs.Session.Admission
import SmbExchange.Proofs.Session.Conservation
import SmbExchange.Proofs.Session.Core
import SmbExchange.Proofs.Session.Correlation
import SmbExchange.Proofs.Session.Counters
import SmbExchange.Proofs.Session.EndToEnd
import SmbExchange.Proofs.Session.ExchangeNumbers
import SmbExchange.Proofs.Session.Intake
import SmbExchange.Proofs.Session.LateReplies
import SmbExchange.Proofs.Session.MultiplexIds
import SmbExchange.Proofs.Session.Notices
import SmbExchange.Proofs.Session.Operation
import SmbExchange.Proofs.Session.Parties
import SmbExchange.Proofs.Session.Residue
import SmbExchange.Proofs.Session.Sending
import SmbExchange.Proofs.Session.Sequence
import SmbExchange.Proofs.Session.Stamped
import SmbExchange.Proofs.Session.Waiting
import SmbExchange.Proofs.Session.Wire
import SmbExchange.Proofs.Signing
import SmbExchange.Proofs.Text.Digits
import SmbExchange.Proofs.Text.Extent
import SmbExchange.Proofs.Text.Inverse
import SmbExchange.Proofs.Text.Strings
import SmbExchange.Proofs.Toml.Documents
import SmbExchange.Proofs.Toml.Numbers
import SmbExchange.Proofs.Toml.Strings
import SmbExchange.Proofs.Transport.Delivery
import SmbExchange.Proofs.Transport.Faults
import SmbExchange.Proofs.Transport.InTime
import SmbExchange.Proofs.Transport.Progress
import SmbExchange.Proofs.Transport.Recovery
import SmbExchange.Proofs.Transport.Stream
import SmbExchange.Proofs.Transport.Tape
import SmbExchange.Session.Basic
import SmbExchange.Session.Exchange
import SmbExchange.Signing
import SmbExchange.Sink
import SmbExchange.Status
import SmbExchange.Storage.Files
import SmbExchange.Storage.Path
import SmbExchange.Text.Alphabet
import SmbExchange.Text.Blank
import SmbExchange.Text.CodeRange
import SmbExchange.Text.Decimal
import SmbExchange.Text.Hex
import SmbExchange.Text.Latin
import SmbExchange.Text.Printable
import SmbExchange.Text.Quoted
import SmbExchange.Text.Utf16
import SmbExchange.Toml.Codec
import SmbExchange.Toml.Key
import SmbExchange.Toml.Layout
import SmbExchange.Toml.Moment
import SmbExchange.Toml.Number
import SmbExchange.Toml.Quotation
import SmbExchange.Toml.Reader
import SmbExchange.Toml.Table
import SmbExchange.Toml.Value
import SmbExchange.Toml.Writer
import SmbExchange.Transport.Basic
import SmbExchange.Transport.Block
import SmbExchange.Transport.Connection
import SmbExchange.Transport.Endpoint
import SmbExchange.Transport.FrameReader
import SmbExchange.Transport.Network
import SmbExchange.Transport.Pipe
