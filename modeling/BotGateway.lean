import BotGateway.Action
import BotGateway.Client.Basic
import BotGateway.Client.Line
import BotGateway.Client.Method
import BotGateway.Client.Token
import BotGateway.Echo
import BotGateway.Envelope
import BotGateway.Failure
import BotGateway.Http.Chunked
import BotGateway.Http.Connection
import BotGateway.Http.Fields
import BotGateway.Http.Line
import BotGateway.Http.Percent
import BotGateway.Http.RequestLine
import BotGateway.Journal.Basic
import BotGateway.Journal.Event
import BotGateway.Journal.Line
import BotGateway.Journal.Redaction
import BotGateway.Journal.Severity
import BotGateway.Journal.Sink
import BotGateway.Journal.Timestamp
import BotGateway.Json.Basic
import BotGateway.Json.Reader
import BotGateway.Main
import BotGateway.Number.Binary64
import BotGateway.Number.Conversion
import BotGateway.Number.Digits
import BotGateway.Number.Numeral
import BotGateway.Once
import BotGateway.Record.Kind
import BotGateway.Request.Attachment
import BotGateway.Request.MediaType
import BotGateway.Request.Multipart
import BotGateway.Request.Payload
import BotGateway.Request.Source
import BotGateway.Schema.Conform
import BotGateway.Schema.Issue
import BotGateway.Schema.Scalar
import BotGateway.Schema.Shape
import BotGateway.Settings
import BotGateway.Text.Basic
import BotGateway.Text.Case
import BotGateway.Text.Class
import BotGateway.Text.Hex
import BotGateway.Text.Quoted
import BotGateway.Text.Utf8
import BotGateway.Text.Wide
import BotGateway.Updates.LongPolling
import BotGateway.Updates.Queue
import BotGateway.Updates.Station
import BotGateway.Updates.Webhook
import BotGateway.Value.Basic
import BotGateway.Value.Display
import BotGateway.Value.Document
import BotGateway.Value.Template
import BotGateway.Webhook.Address
import BotGateway.Webhook.Backend
import BotGateway.Webhook.Ingress
import BotGateway.Webhook.Routes
import BotGateway.Webhook.Server
import BotGateway.Webhook.Shared
import BotGateway.Proofs.Action
import BotGateway.Proofs.Schema.Endings
import BotGateway.Proofs.Updates.Queue
import BotGateway.Proofs.Updates.Traffic
import BotGateway.Proofs.Number.Numeral
import BotGateway.Proofs.Value.Places
import BotGateway.Proofs.Request.LocalFiles
import BotGateway.Proofs.Value.Fields
import BotGateway.Proofs.Request.Wire
import BotGateway.Proofs.Request.Prepared
import BotGateway.Proofs.Request.Encoding
import BotGateway.Proofs.Request.PartNames
import BotGateway.Proofs.Request.Parts
import BotGateway.Proofs.Request.FormFields
import BotGateway.Proofs.Request.AddedFile
import BotGateway.Proofs.Request.PlainNames
import BotGateway.Proofs.Text.Utf8
import BotGateway.Proofs.Text.Case
import BotGateway.Proofs.Webhook.Watched
import BotGateway.Proofs.Webhook.Ingress
import BotGateway.Proofs.Except
import BotGateway.Proofs.Json.Spelling
import BotGateway.Proofs.Json.Reading
import BotGateway.Proofs.Json.Written
import BotGateway.Proofs.Updates.Decoding
import BotGateway.Proofs.Schema.Regular
import BotGateway.Proofs.Schema.Gathered
import BotGateway.Proofs.Schema.Fits
import BotGateway.Proofs.Schema.Media
import BotGateway.Proofs.Request.Restored
import BotGateway.Proofs.Request.ReadBack
import BotGateway.Proofs.Request.Positions
import BotGateway.Proofs.Number.Reading
import BotGateway.Proofs.Http.Chunked
import BotGateway.Proofs.Http.Transcript
import BotGateway.Proofs.Http.Message
import BotGateway.Proofs.Http.Answer
import BotGateway.Proofs.Http.Body
import BotGateway.Proofs.Http.Fields
import BotGateway.Proofs.Webhook.Routes
import BotGateway.Proofs.Webhook.Backends
import BotGateway.Proofs.Updates.History
import BotGateway.Proofs.Updates.Polling
import BotGateway.Proofs.Updates.Delivery
import BotGateway.Proofs.Updates.Resumption
import BotGateway.Proofs.Updates.Session
import BotGateway.Proofs.Updates.Retrying
import BotGateway.Proofs.Text.Pieces
import BotGateway.Proofs.Number.Layout
import BotGateway.Proofs.Json.Texts
import BotGateway.Proofs.Journal.Tokens
import BotGateway.Proofs.Journal.Masking
import BotGateway.Proofs.Json.Short
import BotGateway.Proofs.Schema.Untagged
import BotGateway.Proofs.Envelope
import BotGateway.Proofs.Client.Call
import BotGateway.Proofs.Client.Album
import BotGateway.Proofs.Webhook.Shared
import BotGateway.Proofs.Request.Refusal
import BotGateway.Proofs.Request.Contents
import BotGateway.Proofs.Request.Repetition
import BotGateway.Proofs.Echo.Closing
import BotGateway.Proofs.Json.Clear
import BotGateway.Proofs.Schema.Members
import BotGateway.Proofs.Echo.Message
import BotGateway.Proofs.Echo.Answering
import BotGateway.Proofs.Request.Outline
import BotGateway.Proofs.Request.Readers
import BotGateway.Proofs.Request.ReadOnce
import BotGateway.Proofs.Request.PartsRead
import BotGateway.Proofs.Schema.Meetings
import BotGateway.Proofs.Schema.Order
import BotGateway.Proofs.Schema.Variants
import BotGateway.Proofs.Schema.Nested
import BotGateway.Proofs.Schema.Tags
import BotGateway.Proofs.Schema.Registration
import BotGateway.Proofs.Schema.Fullest
import BotGateway.Proofs.Request.Markup
import BotGateway.Proofs.Text.Patching
import BotGateway.Proofs.Text.Orders
import BotGateway.Proofs.Journal.Orders
import BotGateway.Proofs.Client.Token
import BotGateway.Proofs.Journal.Documents
import BotGateway.Proofs.Journal.Frame
import BotGateway.Proofs.Http.Limited
import BotGateway.Proofs.Http.Dropping
import BotGateway.Proofs.Failure
import BotGateway.Proofs.Webhook.Address
