import DataHarness.Library.Binary64
import DataHarness.Library.Json
import DataHarness.Library.Pool
import DataHarness.Python
import DataHarness.Actions
import DataHarness.Durability.Journal
import DataHarness.Durability.Verify
import DataHarness.Durability.History
import DataHarness.Durability.Soundness
import DataHarness.Durability.Tamper
import DataHarness.Durability.Invariant
import DataHarness.Durability.AuditTrail
import DataHarness.Library.EventLoop
import DataHarness.Gateway.Calls
import DataHarness.Gateway.Programs
import DataHarness.Gateway.Quiet
import DataHarness.Gateway.Outcomes
import DataHarness.Gateway.Dispatch
import DataHarness.Gateway.Success
import DataHarness.Gateway.Crash
import DataHarness.Gateway.Gates
import DataHarness.Library.Component
import DataHarness.Semantic.Assertions
import DataHarness.Semantic.Memory
import DataHarness.Gateway.Exclusive
import DataHarness.Release.Promotion
import DataHarness.Semantic.Governance
import DataHarness.Edge.Delegation
import DataHarness.Edge.Protocol
import DataHarness.Query.Planning
import DataHarness.Library.Feed
import DataHarness.Query.Runtime
import DataHarness.Query.Structured
import DataHarness.Query.Limits
import DataHarness.Query.Confidentiality
import DataHarness.Semantic.Consistency
import DataHarness.Library.Sequential
import DataHarness.Gateway.Effects
import DataHarness.Gateway.Sequence
import DataHarness.Saga.Coordinator
import DataHarness.Saga.Failures
import DataHarness.Saga.Session
import DataHarness.Library.Grouping
import DataHarness.Semantic.Routing
import DataHarness.Semantic.Acceptance
import DataHarness.Semantic.Clusters
import DataHarness.Edge.Authority
import DataHarness.Gateway.Binding
import DataHarness.Saga.Once
import DataHarness.Query.Coordination
import DataHarness.Library.Document
import DataHarness.Release.Packaging
import DataHarness.Release.RoundTrip
import DataHarness.Release.Authentic
import DataHarness.Edge.Catalog
import DataHarness.Gateway.Surroundings
import DataHarness.Gateway.Refinement
import DataHarness.Gateway.Alike
import DataHarness.Gateway.Telemetry
import DataHarness.Gateway.Influence
import DataHarness.Saga.Telemetry
import DataHarness.Saga.Outcome
import DataHarness.Gateway.Durable
import DataHarness.Gateway.Stranded
import DataHarness.Gateway.Reconcile
import DataHarness.Gateway.Replay
import DataHarness.Query.Streaming
import DataHarness.Query.Context
import DataHarness.Edge.Profiles
import DataHarness.Library.Guarded
import DataHarness.Edge.Payload
import DataHarness.Edge.Totality
import DataHarness.Edge.Accepted
import DataHarness.Edge.SendMessage
import DataHarness.Release.Campaign
import DataHarness.Release.Unforged
import DataHarness.Factory.Generator
import DataHarness.Library.Topological
import DataHarness.Factory.Records
import DataHarness.Factory.OrderFree
import DataHarness.Semantic.Routes
import DataHarness.Library.Canonical
import DataHarness.Query.Lineage
import DataHarness.Query.Relationships
import DataHarness.Query.Grants
import DataHarness.Edge.Agreement
import DataHarness.Edge.InputSchema
import DataHarness.Gateway.Approval
import DataHarness.Durability.Contract
import DataHarness.Semantic.Recall
import DataHarness.Semantic.Shared
import DataHarness.Library.JsonReader
import DataHarness.Library.JsonRoundTrip
import DataHarness.Library.JsonLiterals
import DataHarness.Library.Paging
import DataHarness.Library.Reading
import DataHarness.Decode.Loads
import DataHarness.Decode.Text
import DataHarness.Decode.Html
import DataHarness.Library.CsvReader
import DataHarness.Decode.Numbers
import DataHarness.Decode.Records
import DataHarness.Decode.Decoder
import DataHarness.Decode.Documents
import DataHarness.Decode.Lines
import DataHarness.Decode.Finite
import DataHarness.Decode.Tables
import DataHarness.Worker.Reply
import DataHarness.Worker.Bounded
import DataHarness.Live.Connectors
import DataHarness.Live.Pages
import DataHarness.Live.Results
import DataHarness.Live.Service
import DataHarness.Live.Mutation
import DataHarness.Live.Concurrent
import DataHarness.Decode.Written
import DataHarness.Worker.Process
import DataHarness.Worker.Call
import DataHarness.Library.Receiver
import DataHarness.Gateway.Source
import DataHarness.Gateway.Evidence
import DataHarness.Gateway.Deployment
import DataHarness.Gateway.Laboratory
import DataHarness.Library.CsvWriter
import DataHarness.Factory.Rendering
import DataHarness.Factory.Tabular
import DataHarness.Library.Semaphore
import DataHarness.Worker.Parallel
import DataHarness.Query.Parallel
import DataHarness.Library.Register
import DataHarness.Library.EventLog
import DataHarness.Stream.Checkpoints
import DataHarness.Stream.Telemetry
import DataHarness.Stream.Resumption
import DataHarness.Query.WhiteGoods
import DataHarness.Query.CustomerScope
import DataHarness.Query.Documents
import DataHarness.Library.Slices
import DataHarness.Query.Appointments
