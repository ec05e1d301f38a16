import MessageBus.Proofs.Delivery.WireAttempts
import MessageBus.Rehearsal.Catalogue
import MessageBus.Rehearsal.Scene.Consuming
import MessageBus.Rehearsal.Scene.Pooling
import MessageBus.Rehearsal.Scene.Running
import MessageBus.Rehearsal.Scene.Settling
import MessageBus.Rehearsal.Scene.Stranded
import MessageBus.Proofs.Program.System
import MessageBus.Proofs.Program.Interleaving
import MessageBus.Proofs.Delivery.Alone
import MessageBus.Proofs.Intake.Tasks
import MessageBus.Proofs.Intake.TakingIn
import MessageBus.Proofs.Intake.Tending
import MessageBus.Proofs.Intake.Disposal
import MessageBus.Proofs.Program.Turns
import MessageBus.Proofs.Lifecycle.Ledger
import MessageBus.Proofs.Lifecycle.Calls
import MessageBus.Proofs.Lifecycle.Life
import MessageBus.Proofs.Lifecycle.FailedStart
import MessageBus.Proofs.Message.RoundTrip
import MessageBus.Proofs.Topology.Isolation
import MessageBus.Proofs.Program.Interrupted
import MessageBus.Proofs.Publishing.Receipt
import MessageBus.Proofs.Pool.Holding
import MessageBus.Proofs.Pool.Conservation
import MessageBus.Proofs.Pool.Disposal
import MessageBus.Proofs.Topology.Contents
import MessageBus.Proofs.Topology.Order
import MessageBus.Proofs.Lifecycle.Provisioning
import MessageBus.Proofs.Publishing.Asks
import MessageBus.Proofs.Topology.Agreement
import MessageBus.Proofs.Program.Sharing
import MessageBus.Proofs.Program.Abiding
import MessageBus.Proofs.Publishing.Custody
import MessageBus.Proofs.Publishing.Fetching
import MessageBus.Proofs.Publishing.Conduct
import MessageBus.Proofs.Publishing.Shared
import MessageBus.Proofs.Lifecycle.Conduct
import MessageBus.Proofs.Program.Progress
import MessageBus.Proofs.Publishing.Refusal
import MessageBus.Proofs.Lifecycle.Finality
import MessageBus.Proofs.Delivery.HeaderLimit
import MessageBus.Proofs.Delivery.WireRetries
import MessageBus.Proofs.Intake.Concurrency
import MessageBus.Proofs.Delivery.Reporting
import MessageBus.Proofs.Program.Indifference
import MessageBus.Proofs.Delivery.Indifference
import MessageBus.Proofs.Program.Timed
import MessageBus.Proofs.Delivery.Timing
import MessageBus.Proofs.Publishing.Outcome
import MessageBus.Proofs.Publishing.Replacement
import MessageBus.Proofs.Topology.Limits
import MessageBus.Proofs.Intake.Restart
import MessageBus.Proofs.Text.Lowercase
import MessageBus.Proofs.Publishing.TraceContext
import MessageBus.Proofs.Pool.Handover
import MessageBus.Proofs.Pool.Rotation
import MessageBus.Proofs.Pool.Turn
import MessageBus.Proofs.Settings.Families
import MessageBus.Proofs.Settings.Rules
import MessageBus.Proofs.Settings.Coordinates
import MessageBus.Proofs.Topology.Registration
