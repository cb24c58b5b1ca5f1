import PlatformOperator.Action.Collect
import PlatformOperator.Action.Deployments
import PlatformOperator.Action.Features
import PlatformOperator.Backend
import PlatformOperator.CommandLine
import PlatformOperator.Event
import PlatformOperator.Feature.Hook
import PlatformOperator.Main
import PlatformOperator.Manifest.FileTree
import PlatformOperator.Reconciler
import PlatformOperator.Tracker.Definition
import PlatformOperator.Proofs.Action.Convergence
import PlatformOperator.Proofs.Action.Features
import PlatformOperator.Proofs.Action.Idempotence
import PlatformOperator.Proofs.Action.Isolation
import PlatformOperator.Proofs.Action.Ownership
import PlatformOperator.Proofs.Action.Tally
import PlatformOperator.Proofs.Catalog.Order
import PlatformOperator.Proofs.Cause
import PlatformOperator.Proofs.Cluster.Removal
import PlatformOperator.Proofs.Collector.Bystanders
import PlatformOperator.Proofs.Collector.Interleaving
import PlatformOperator.Proofs.Condition.Deciding
import PlatformOperator.Proofs.Condition.Nesting
import PlatformOperator.Proofs.Condition.Reset
import PlatformOperator.Proofs.Condition.Transition
import PlatformOperator.Proofs.Digest
import PlatformOperator.Proofs.Event
import PlatformOperator.Proofs.Feature.Data
import PlatformOperator.Proofs.Feature.Reapplication
import PlatformOperator.Proofs.Feature.Separation
import PlatformOperator.Proofs.Feature.Transitions
import PlatformOperator.Proofs.Json.Merge
import PlatformOperator.Proofs.OptOut
import PlatformOperator.Proofs.Poll
import PlatformOperator.Proofs.Reconciler.Backoff
import PlatformOperator.Proofs.Reconciler.Repetition
