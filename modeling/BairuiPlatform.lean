import BairuiPlatform.Foundations.Transaction
import BairuiPlatform.Foundations.Transition
import BairuiPlatform.Foundations.Table
import BairuiPlatform.Foundations.Tickets
import BairuiPlatform.Foundations.Accumulation
import BairuiPlatform.Foundations.Slots
import BairuiPlatform.Foundations.EventChain
import BairuiPlatform.Foundations.Gauge
import BairuiPlatform.Foundations.Codes
import BairuiPlatform.Foundations.HashChain
import BairuiPlatform.Foundations.OrderedMap
import BairuiPlatform.Foundations.Sha256
import BairuiPlatform.Foundations.Base64
import BairuiPlatform.Clock
import BairuiPlatform.Json
import BairuiPlatform.JsonText
import BairuiPlatform.JsonStorage
import BairuiPlatform.JsValue
import BairuiPlatform.Policy
import BairuiPlatform.Payload
import BairuiPlatform.Redaction
import BairuiPlatform.Schema
import BairuiPlatform.Authority.Journal
import BairuiPlatform.Authority.Record
import BairuiPlatform.Authority.Requests
import BairuiPlatform.Authority.Aggregates
import BairuiPlatform.Authority.Commands
import BairuiPlatform.Authority.Receipts
import BairuiPlatform.Authority.Outbox
import BairuiPlatform.Authority.Effects
import BairuiPlatform.Authority.CommandEffects
import BairuiPlatform.Authority.ReceiptEffects
import BairuiPlatform.Authority.Novelty
import BairuiPlatform.Authority.Changes
import BairuiPlatform.Authority.Loops
import BairuiPlatform.Authority.System
import BairuiPlatform.Authority.Execution
import BairuiPlatform.Authority.Fencing
import BairuiPlatform.Authority.Lifecycle
import BairuiPlatform.Authority.Expiry
import BairuiPlatform.Authority.Success
import BairuiPlatform.Authority.Freshness
import BairuiPlatform.Authority.Growth
import BairuiPlatform.Authority.AuditChain
import BairuiPlatform.Authority.Admission
import BairuiPlatform.Authority.Mutations
import BairuiPlatform.Authority.Keys
import BairuiPlatform.Authority.Leasing
import BairuiPlatform.Authority.AuditStorage
import BairuiPlatform.Authority.OutboxDelivery
import BairuiPlatform.Authority.OutboxProgress
import BairuiPlatform.Platform.Requests
import BairuiPlatform.Platform.Delivery
import BairuiPlatform.Platform.System
import BairuiPlatform.Platform.Deadlines
import BairuiPlatform.Platform.Audits
import BairuiPlatform.Operations.Rows
import BairuiPlatform.Operations.Retention
import BairuiPlatform.Platform.Replays
import BairuiPlatform.Channels.Schema
import BairuiPlatform.Channels.Rows
import BairuiPlatform.Channels.Memory
import BairuiPlatform.Channels.Postgres
import BairuiPlatform.Channels.Effects
import BairuiPlatform.Channels.System
import BairuiPlatform.Channels.MemorySystem
import BairuiPlatform.Channels.PostgresSystem
import BairuiPlatform.Channels.Bookkeeping
import BairuiPlatform.Channels.Storage
import BairuiPlatform.Channels.Delivery
import BairuiPlatform.Channels.Health
import BairuiPlatform.Channels.HealthEvidence
import BairuiPlatform.Channels.Worker
import BairuiPlatform.Channels.WorkerDelivery
import BairuiPlatform.Foundations.Scan
import BairuiPlatform.Channels.WechatMessage
import BairuiPlatform.Channels.Replies
import BairuiPlatform.Channels.Callbacks
import BairuiPlatform.Channels.Gateway
import BairuiPlatform.Channels.WorkerRefresh
import BairuiPlatform.Channels.WorkerLifetime
import BairuiPlatform.Machines.Credentials
import BairuiPlatform.Machines.Authentication
import BairuiPlatform.Machines.Mutations
import BairuiPlatform.Runtimes.Heartbeats
import BairuiPlatform.Runtimes.Fleet
import BairuiPlatform.Runtimes.Usage
import BairuiPlatform.Runtimes.Liveness
import BairuiPlatform.Runtimes.Alerts
import BairuiPlatform.Runtimes.AgentRuns
import BairuiPlatform.Notes.Rows
import BairuiPlatform.Notes.Outbox
import BairuiPlatform.Notes.Memory
import BairuiPlatform.Notes.MemoryCalls
import BairuiPlatform.Notes.Postgres
import BairuiPlatform.Notes.PostgresCalls
import BairuiPlatform.Notes.OutboxSystem
import BairuiPlatform.Scenes.Rows
import BairuiPlatform.Scenes.Memory
import BairuiPlatform.Scenes.Postgres
import BairuiPlatform.Scenes.Changes
import BairuiPlatform.Scenes.System
import BairuiPlatform.Scenes.Stream
import BairuiPlatform.Scenes.Client
import BairuiPlatform.Scenes.Live
import BairuiPlatform.Notes.Markdown
import BairuiPlatform.Notes.Projection
import BairuiPlatform.Notes.Coordinator
import BairuiPlatform.Notes.MarkdownBody
import BairuiPlatform.Notes.RoundTrip
import BairuiPlatform.Notes.Capacity
import BairuiPlatform.Notes.Separation
import BairuiPlatform.Notes.Imports
import BairuiPlatform.Notes.Creation
import BairuiPlatform.Accounts.Authorization
import BairuiPlatform.Accounts.Roles
import BairuiPlatform.Accounts.License
import BairuiPlatform.Foundations.Paging
import BairuiPlatform.Authority.Listing
import BairuiPlatform.Operations.Requests
import BairuiPlatform.Operations.Delivery
import BairuiPlatform.Supervisor.Management
import BairuiPlatform.Supervisor.Identity
import BairuiPlatform.Supervisor.Ports
import BairuiPlatform.Supervisor.Envelope
import BairuiPlatform.Supervisor.Apply
import BairuiPlatform.Supervisor.Restore
