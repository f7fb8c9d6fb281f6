import AppOperator.Main
import AppOperator.Probe.Server
import AppOperator.Simulation.AppRun
import AppOperator.Simulation.Folder
import AppOperator.Simulation.TimedQueue
import AppOperator.Proofs.Queue.Consistency
import AppOperator.Proofs.Controller.Exclusion
import AppOperator.Proofs.Controller.Delivery
import AppOperator.Proofs.Cluster.Lookup
import AppOperator.Proofs.Cluster.Calls
import AppOperator.Proofs.Cluster.Failures
import AppOperator.Proofs.Reconcile.Steps
import AppOperator.Proofs.Reconcile.Ensure
import AppOperator.Proofs.Declaration.Reading
import AppOperator.Proofs.Reconcile.Phases
import AppOperator.Proofs.Reconcile.Effects
import AppOperator.Proofs.Reconcile.FixedPoint
import AppOperator.Proofs.Reconcile.Convergence
import AppOperator.Proofs.Controller.Stopping
import AppOperator.Proofs.Cluster.Versions
import AppOperator.Proofs.Dialogue.Positions
import AppOperator.Proofs.Reconcile.Conflicts
import AppOperator.Proofs.Cluster.Records
import AppOperator.Proofs.Reconcile.Interruption
import AppOperator.Proofs.Reconcile.Recovery
import AppOperator.Proofs.Cluster.Assigned
import AppOperator.Proofs.Cluster.Confinement
import AppOperator.Proofs.Reconcile.Independence
import AppOperator.Proofs.Cluster.Kinds
import AppOperator.Proofs.Watch.Lines
import AppOperator.Proofs.Watch.Resumption
import AppOperator.Proofs.Watch.Survival
import AppOperator.Proofs.Reconcile.Writes
import AppOperator.Proofs.Reconcile.Routes
import AppOperator.Proofs.Queue.Failures
import AppOperator.Proofs.Controller.Retries
import AppOperator.Proofs.Schema.Validity
import AppOperator.Proofs.Declaration.Agreement
import AppOperator.Proofs.Json.Paths
import AppOperator.Proofs.Reconcile.Upkeep
import AppOperator.Proofs.Watch.Ownership
import AppOperator.Proofs.Reconcile.Traffic
import AppOperator.Proofs.Cluster.Refusals
import AppOperator.Proofs.Application.Course
import AppOperator.Proofs.Application.Closing
import AppOperator.Proofs.Application.Readiness
import AppOperator.Proofs.Json.Places
import AppOperator.Proofs.Reconcile.Narrowness
import AppOperator.Proofs.Text.Patterns
import AppOperator.Proofs.Schema.Names
import AppOperator.Proofs.Declaration.StatusWrites
import AppOperator.Proofs.Command.Submitting
import AppOperator.Proofs.Queue.Order
import AppOperator.Proofs.Controller.History
import AppOperator.Proofs.Text.Messages
import AppOperator.Proofs.Schema.Reports
import AppOperator.Proofs.Command.Validating
import AppOperator.Proofs.Cluster.Paths
import AppOperator.Proofs.Command.Addressing
