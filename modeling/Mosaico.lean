import Mosaico.Relational.Table
import Mosaico.Transition.Writes
import Mosaico.Transition.Programs
import Mosaico.Rust.Core
import Mosaico.Rust.Text
import Mosaico.Codec.RoundTrip
import Mosaico.State.Types
import Mosaico.State.Store
import Mosaico.State.SessionLifecycle
import Mosaico.State.SessionRecovery
import Mosaico.State.SessionRoutes
import Mosaico.State.McpActors
import Mosaico.State.Inbox
import Mosaico.State.Locators
import Mosaico.State.SessionContext
import Mosaico.Lifecycle.RowInvariant
import Mosaico.State.LifecycleFrames
import Mosaico.State.SessionAnnotations
import Mosaico.State.InboxEdges
import Mosaico.Inbox.Delivery
import Mosaico.Recovery.Readiness
import Mosaico.Standing.Fence
import Mosaico.Standing.Rows
import Mosaico.Standing.Compensation
import Mosaico.Lifecycle.IdleEviction
import Mosaico.Fabric.ChannelMetadata
import Mosaico.Fabric.Atomicity
import Mosaico.Fabric.ChannelPaths
import Mosaico.Turn.Requests
import Mosaico.Turn.Failures
import Mosaico.Turn.Selection
import Mosaico.Turn.Windows
import Mosaico.Turn.Ambient
import Mosaico.Turn.Echoes
import Mosaico.Fabric.Statuses
import Mosaico.Fabric.Rosters
import Mosaico.Runtime.Lookups
import Mosaico.State.StopEdges
import Mosaico.State.LeaseFrames
import Mosaico.Leases.Safety
import Mosaico.Leases.Requests
import Mosaico.Leases.PublicHandles
import Mosaico.Leases.Vacancies
import Mosaico.Identity.Selection
import Mosaico.Runtime.Generations
import Mosaico.Runtime.PidLocators
import Mosaico.Concurrent.Tasks
import Mosaico.Concurrent.Windows
import Mosaico.Runtime.Endpoints
import Mosaico.Runtime.Hosting
import Mosaico.Lifecycle.Endings
import Mosaico.Lifecycle.Finality
import Mosaico.Runtime.Starts
import Mosaico.Runtime.Serving
import Mosaico.Concurrent.Crews
import Mosaico.Delivery.NativeTurns
import Mosaico.Delivery.Policy
import Mosaico.Delivery.Doorbell
import Mosaico.Delivery.Overlap
import Mosaico.Delivery.Handover
import Mosaico.Delivery.Scans
import Mosaico.Delivery.Wakeups
import Mosaico.Fabric.Intake
import Mosaico.Fabric.OfflineMentions
import Mosaico.Fabric.LocalDelivery
import Mosaico.Fabric.EchoAgreement
import Mosaico.Fabric.Hydration
import Mosaico.Fabric.HydrationOrder
import Mosaico.Claims.Leases
import Mosaico.Claims.Retention
import Mosaico.Claims.Replays
import Mosaico.Inbox.Tombstones
import Mosaico.Reconcile.Presence
import Mosaico.Diff.Edits
import Mosaico.Reconcile.Subscriptions
import Mosaico.Reconcile.Observations
import Mosaico.Fabric.Readiness
import Mosaico.Fabric.Wire
import Mosaico.Fabric.WireForms
import Mosaico.Lifecycle.Fences
import Mosaico.Lifecycle.TurnAccounting
import Mosaico.Pty.Supervisor
import Mosaico.Recovery.Revocation
import Mosaico.Text.Tokens
import Mosaico.Rust.Slices
import Mosaico.Profile.Mentions
import Mosaico.Profile.Rewriting
import Mosaico.Storage.Files
import Mosaico.Migration.PendingWrites
import Mosaico.Relational.Ordering
import Mosaico.Fabric.CaptureCap
import Mosaico.Delivery.WorkStart
import Mosaico.Fabric.Provisioning
import Mosaico.Forest.Walk
import Mosaico.Text.Segments
import Mosaico.Fabric.ReferencePaths
import Mosaico.Fabric.ReferenceResolution
import Mosaico.Fabric.ChannelBlocks
import Mosaico.Fabric.ChannelTree
import Mosaico.Relational.Catalogue
import Mosaico.Relational.Reshaping
import Mosaico.Migration.Steps
import Mosaico.Migration.SessionInvariants
import Mosaico.Standing.ChannelRequests
import Mosaico.Standing.JoinedChannels
import Mosaico.Standing.ActiveChannel
import Mosaico.Relational.Pages
import Mosaico.Reading.Queries
import Mosaico.Reading.Windows
import Mosaico.Reading.Live
import Mosaico.Relational.Matches
import Mosaico.Identity.Recipients
import Mosaico.Identity.References
import Mosaico.Storage.Parts
import Mosaico.Migration.DrainPasses
import Mosaico.Relational.Conflicts
import Mosaico.Migration.IdentitySteps
import Mosaico.Migration.IdentityFacts
import Mosaico.Delivery.TurnRuntime
import Mosaico.AppServer.TurnProtocol
import Mosaico.AppServer.TurnStart
import Mosaico.AppServer.TurnRouting
import Mosaico.Runtime.Launches
import Mosaico.Markup.Pieces
import Mosaico.View.Xml
import Mosaico.View.Render
import Mosaico.View.Documents
import Mosaico.View.Structure
import Mosaico.Shell.Words
import Mosaico.Pty.Ownership
import Mosaico.Transition.Reordering
import Mosaico.Lifecycle.PresentationOrder
import Mosaico.Delivery.AttemptOutcomes
import Mosaico.Reconcile.Freshness
import Mosaico.Register.Foremost
import Mosaico.Fabric.Replacement
import Mosaico.Fabric.Reactions
import Mosaico.Fabric.ReactionTrust
import Mosaico.Fabric.ReactionCapture
import Mosaico.Cursor.Drains
import Mosaico.Delivery.ChannelWait
import Mosaico.Fabric.Orchestration
import Mosaico.Concurrent.Tickets
import Mosaico.Auth.Login
import Mosaico.Auth.Grants
import Mosaico.Auth.RoundTrip
import Mosaico.Concurrent.Fairness
import Mosaico.Rpc.Requests
import Mosaico.Rpc.Correlation
import Mosaico.Rpc.Phases
import Mosaico.Rpc.Resolution
import Mosaico.Pty.ChangeTimes
import Mosaico.Pty.AttachStream
import Mosaico.Concurrent.Exclusive
import Mosaico.Transition.Progress
import Mosaico.Daemon.Startup
import Mosaico.Daemon.Ownership
import Mosaico.Daemon.BringUp
import Mosaico.Daemon.Agreement
import Mosaico.Daemon.Calls
import Mosaico.Nudge.Offers
import Mosaico.Forest.Preorder
import Mosaico.Fabric.ChannelList
import Mosaico.Text.Patterns
import Mosaico.Secrets.Scrub
