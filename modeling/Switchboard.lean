import Switchboard.Call.Context
import Switchboard.Call.Ending
import Switchboard.Chat.Message
import Switchboard.Chat.MessageJson
import Switchboard.Chat.Request
import Switchboard.Chat.Response
import Switchboard.Chat.Tool
import Switchboard.Chat.Usage
import Switchboard.Decimal.Layout
import Switchboard.Decimal.Shortest
import Switchboard.Dialect.Anthropic.Answer
import Switchboard.Dialect.Anthropic.Messages
import Switchboard.Dialect.Anthropic.Payload
import Switchboard.Dialect.Anthropic.Stream
import Switchboard.Dialect.Arguments
import Switchboard.Dialect.Collapse
import Switchboard.Dialect.FunctionName
import Switchboard.Dialect.Google.Answer
import Switchboard.Dialect.Google.Messages
import Switchboard.Dialect.Google.Payload
import Switchboard.Dialect.Google.Schema
import Switchboard.Dialect.Google.Stream
import Switchboard.Dialect.OpenAI.Answer
import Switchboard.Dialect.OpenAI.Messages
import Switchboard.Dialect.OpenAI.Payload
import Switchboard.Dialect.OpenAI.Stream
import Switchboard.Dialect.Status
import Switchboard.Dialect.Turns
import Switchboard.Embedding
import Switchboard.Failure
import Switchboard.Gateway.Chat
import Switchboard.Gateway.Embed
import Switchboard.Json.Basic
import Switchboard.Json.Document
import Switchboard.Json.Fields
import Switchboard.Json.Numeral
import Switchboard.Json.Printer
import Switchboard.Json.Reader
import Switchboard.Log
import Switchboard.Members
import Switchboard.Model.Spec
import Switchboard.Net.Address
import Switchboard.Net.Domain
import Switchboard.Net.Domain.Direction
import Switchboard.Net.Domain.Joiner
import Switchboard.Net.Domain.Mapping
import Switchboard.Net.Punycode
import Switchboard.Net.SocketAddress
import Switchboard.Net.Url
import Switchboard.Provider.Adapter
import Switchboard.Provider.Basic
import Switchboard.Provider.Configuration
import Switchboard.Provider.Endpoint
import Switchboard.Provider.Registry
import Switchboard.Redaction
import Switchboard.Router
import Switchboard.Server.AccessRecord
import Switchboard.Server.App
import Switchboard.Server.Body
import Switchboard.Server.Capture
import Switchboard.Server.MediaType
import Switchboard.Server.Request
import Switchboard.Server.Route
import Switchboard.Server.Secret
import Switchboard.Server.StreamCall
import Switchboard.Settings.Basic
import Switchboard.Settings.Environment
import Switchboard.Settings.Providers
import Switchboard.Settings.Value
import Switchboard.Stream.Assembler
import Switchboard.Stream.Event
import Switchboard.Stream.Pump
import Switchboard.Stream.Sink
import Switchboard.Text.Blank
import Switchboard.Text.CodeTable
import Switchboard.Text.CombiningClass
import Switchboard.Text.Cut
import Switchboard.Text.Decomposition
import Switchboard.Text.Mark
import Switchboard.Text.Normal
import Switchboard.Text.Uppercase
import Switchboard.Text.Utf8
import Switchboard.Wire.Exchange
import Switchboard.Wire.Framing
import Switchboard.Proofs.Outcome
import Switchboard.Proofs.Stream.Delivery
import Switchboard.Proofs.Stream.Sequence
import Switchboard.Proofs.Stream.Transcript
import Switchboard.Proofs.Stream.Agreement
import Switchboard.Proofs.Stream.Refusal
import Switchboard.Proofs.Stream.Cancellation
import Switchboard.Proofs.Json.Start
import Switchboard.Proofs.Json.Members
import Switchboard.Proofs.Json.Written
import Switchboard.Proofs.Json.Fields
import Switchboard.Proofs.Stream.Smooth
import Switchboard.Proofs.Stream.Substance
import Switchboard.Proofs.Dialect.Google.Streaming
import Switchboard.Proofs.Dialect.OpenAI.Streaming
import Switchboard.Proofs.Dialect.Anthropic.Streaming
import Switchboard.Proofs.Gateway.Dispatch
import Switchboard.Proofs.Gateway.Routes
import Switchboard.Proofs.Server.Secret
import Switchboard.Proofs.Server.Capture
import Switchboard.Proofs.Server.Channel
import Switchboard.Proofs.Server.Closing
import Switchboard.Proofs.Redaction
import Switchboard.Proofs.Chat.Messages
import Switchboard.Proofs.Chat.Tools
import Switchboard.Proofs.Chat.Requests
import Switchboard.Proofs.Server.Access
import Switchboard.Proofs.Server.Failures
import Switchboard.Proofs.Dialect.Turns
import Switchboard.Proofs.Dialect.Google.Messages
import Switchboard.Proofs.Dialect.Conversations
import Switchboard.Proofs.Dialect.Google.Rounds
import Switchboard.Proofs.Dialect.OpenAI.Messages
import Switchboard.Proofs.Json.Text
import Switchboard.Proofs.Chat.Images
import Switchboard.Proofs.Dialect.OpenAI.Readback
import Switchboard.Proofs.Dialect.Quotations
import Switchboard.Proofs.Provider.Registry
import Switchboard.Proofs.Settings.Providers
import Switchboard.Proofs.Dialect.Requests
import Switchboard.Proofs.Provider.Sending
import Switchboard.Proofs.Dialect.Collapse
import Switchboard.Proofs.Settings.Environment
import Switchboard.Proofs.Settings.Reading
import Switchboard.Proofs.Settings.Texts
import Switchboard.Proofs.Dialect.Placement
import Switchboard.Proofs.Provider.Declarations
import Switchboard.Proofs.Dialect.FunctionNames
import Switchboard.Proofs.Chat.Schemas
import Switchboard.Proofs.Dialect.Google.Schema
import Switchboard.Proofs.Dialect.OpenAI.Vectors
import Switchboard.Proofs.Json.Objects
import Switchboard.Proofs.Dialect.Anthropic.Contents
import Switchboard.Proofs.Call.Schedule
import Switchboard.Proofs.Chat.Usage
import Switchboard.Proofs.Wire.Alike
import Switchboard.Proofs.Dialect.OpenAI.Nulls
import Switchboard.Proofs.Json.Numerals
import Switchboard.Proofs.Json.Bounds
import Switchboard.Proofs.Dialect.Arguments
import Switchboard.Proofs.Stream.KeepAlive
import Switchboard.Proofs.Dialect.OpenAI.Names
import Switchboard.Proofs.Text.Utf8
import Switchboard.Proofs.Redaction.Twins
import Switchboard.Proofs.Redaction.Cuts
import Switchboard.Proofs.Redaction.Truncation
import Switchboard.Proofs.Text.Lossy
import Switchboard.Proofs.Server.RequestText
import Switchboard.Proofs.Chat.Properties
