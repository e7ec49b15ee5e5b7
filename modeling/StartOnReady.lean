import StartOnReady.Application.Json
import StartOnReady.Application.Reference
import StartOnReady.Application.Snapshot
import StartOnReady.Application.Status
import StartOnReady.Config.Basic
import StartOnReady.Config.Error
import StartOnReady.Config.Fingerprint
import StartOnReady.Config.Json
import StartOnReady.Config.Load
import StartOnReady.Config.Settings
import StartOnReady.Config.Slots
import StartOnReady.Config.Toml
import StartOnReady.Config.Validation
import StartOnReady.ControlPlane.Basic
import StartOnReady.ControlPlane.Error
import StartOnReady.Decimal.Binary64
import StartOnReady.Decimal.Layout
import StartOnReady.Decimal.Literal
import StartOnReady.Decimal.Shortest
import StartOnReady.Decimal.Whole
import StartOnReady.Digest.Sha256
import StartOnReady.Effects.Program
import StartOnReady.Event.Change
import StartOnReady.Event.Error
import StartOnReady.Event.Json
import StartOnReady.Event.Kind
import StartOnReady.Event.Sample
import StartOnReady.Files.Tree
import StartOnReady.Handler.Basic
import StartOnReady.Handler.Outcome
import StartOnReady.Json.Decode
import StartOnReady.Json.Document
import StartOnReady.Json.Printer
import StartOnReady.Json.Reader
import StartOnReady.Json.Value
import StartOnReady.Keyed
import StartOnReady.Log.Console
import StartOnReady.Log.Directive
import StartOnReady.Log.Filter
import StartOnReady.Log.Layout
import StartOnReady.Log.Pattern
import StartOnReady.Log.Record
import StartOnReady.Main
import StartOnReady.Proofs.Application.Canonical
import StartOnReady.Proofs.Config.Agreement
import StartOnReady.Proofs.Config.Concerned
import StartOnReady.Proofs.Config.Fingerprint
import StartOnReady.Proofs.Config.Layered
import StartOnReady.Proofs.Config.Leaves
import StartOnReady.Proofs.Config.Reading
import StartOnReady.Proofs.Config.TextLeaves
import StartOnReady.Proofs.Digest.Recurrence
import StartOnReady.Proofs.Effects.Ensures
import StartOnReady.Proofs.Event.DirectReading
import StartOnReady.Proofs.Event.Members
import StartOnReady.Proofs.Event.Positions
import StartOnReady.Proofs.Event.ReadEquivalence
import StartOnReady.Proofs.Event.Rewriting
import StartOnReady.Proofs.Handler.CallTrace
import StartOnReady.Proofs.Handler.CanonicalStatuses
import StartOnReady.Proofs.Handler.Handling
import StartOnReady.Proofs.Handler.InvocationRecord
import StartOnReady.Proofs.Handler.Muted
import StartOnReady.Proofs.Handler.Noninterference
import StartOnReady.Proofs.Handler.Whitelist
import StartOnReady.Proofs.Json.Records
import StartOnReady.Proofs.Json.Rendering
import StartOnReady.Proofs.Json.RoundTrip
import StartOnReady.Proofs.Scripted.Calls
import StartOnReady.Proofs.Scripted.Course
import StartOnReady.Proofs.Scripted.History
import StartOnReady.Proofs.Scripted.Injected
import StartOnReady.Proofs.Scripted.Interleaving
import StartOnReady.Proofs.Scripted.Progress
import StartOnReady.Proofs.Scripted.Projection
import StartOnReady.Proofs.Scripted.Race
import StartOnReady.Proofs.Scripted.Statuses
import StartOnReady.Proofs.Scripted.Tally
import StartOnReady.Proofs.Service.Classification
import StartOnReady.Proofs.Service.Regions
import StartOnReady.Proofs.Service.Requests
import StartOnReady.Proofs.Service.Sessions
import StartOnReady.Proofs.Settings.Denotation
import StartOnReady.Proofs.Settings.Grammar
import StartOnReady.Proofs.Settings.Layers
import StartOnReady.Proofs.Settings.Quotation
import StartOnReady.Proofs.Settings.Readable
import StartOnReady.Proofs.Settings.Segments
import StartOnReady.Proofs.Settings.Words
import StartOnReady.Proofs.Startup.Cuts
import StartOnReady.Proofs.Startup.Gate
import StartOnReady.Proofs.Text.Runs
import StartOnReady.Proofs.Toml.Distinct
import StartOnReady.Scripted.Plane
import StartOnReady.Scripted.Session
import StartOnReady.Service.Body
import StartOnReady.Service.Client
import StartOnReady.Service.Endpoint
import StartOnReady.Service.Exchange
import StartOnReady.Service.Failure
import StartOnReady.Service.Item
import StartOnReady.Service.Schema
import StartOnReady.Service.Shape
import StartOnReady.Service.Token
import StartOnReady.Settings.Environment
import StartOnReady.Settings.Extract
import StartOnReady.Settings.Toml
import StartOnReady.Settings.Tree
import StartOnReady.Settings.Value
import StartOnReady.Startup
import StartOnReady.Text.Blank
import StartOnReady.Text.Hex
import StartOnReady.Text.Hidden
import StartOnReady.Text.Letter
import StartOnReady.Text.Quoted
import StartOnReady.Text.Ranges
import StartOnReady.Text.Search
import StartOnReady.Text.Slice
import StartOnReady.Toml.Assembly
import StartOnReady.Toml.Decode
import StartOnReady.Toml.Key
import StartOnReady.Toml.Line
import StartOnReady.Toml.Moment
import StartOnReady.Toml.Number
import StartOnReady.Toml.Quote
import StartOnReady.Toml.Reader
import StartOnReady.Toml.Value
import StartOnReady.Typed.Mismatch
