import RedisKeeper.Address.Ip
import RedisKeeper.Address.Reader
import RedisKeeper.Address.Writer
import RedisKeeper.Api.Builtin
import RedisKeeper.Api.Change
import RedisKeeper.Api.Error
import RedisKeeper.Api.Event
import RedisKeeper.Api.Pod
import RedisKeeper.Api.Request
import RedisKeeper.Api.Resource
import RedisKeeper.Api.Shape.Basic
import RedisKeeper.Api.Shape.Claim
import RedisKeeper.Api.Shape.Container
import RedisKeeper.Api.Shape.Outcome
import RedisKeeper.Api.Shape.Pod
import RedisKeeper.Api.Shape.Volume
import RedisKeeper.Api.Shape.Workload
import RedisKeeper.Config
import RedisKeeper.Controller.Backoff
import RedisKeeper.Controller.Basic
import RedisKeeper.Controller.Schedule
import RedisKeeper.Controller.Subject
import RedisKeeper.Controller.Watch
import RedisKeeper.Decimal.Rounded
import RedisKeeper.Decimal.Scaled
import RedisKeeper.Decimal.Shortest
import RedisKeeper.Definition.Resource
import RedisKeeper.Definition.Schema
import RedisKeeper.Definition.Yaml
import RedisKeeper.Health
import RedisKeeper.Instant
import RedisKeeper.Json.Basic
import RedisKeeper.Json.Decode
import RedisKeeper.Json.Fault
import RedisKeeper.Json.Format
import RedisKeeper.Json.Patch
import RedisKeeper.Json.Reading
import RedisKeeper.Json.Shape
import RedisKeeper.Json.Writer
import RedisKeeper.Keyed
import RedisKeeper.Main
import RedisKeeper.Manifest.Label
import RedisKeeper.Manifest.Owner
import RedisKeeper.Manifest.Service
import RedisKeeper.Manifest.StatefulSet
import RedisKeeper.Metrics.Basic
import RedisKeeper.Metrics.Exposition
import RedisKeeper.Node.Call
import RedisKeeper.Node.Formation
import RedisKeeper.Node.Inspection
import RedisKeeper.Node.Pass
import RedisKeeper.Node.Reset
import RedisKeeper.Program
import RedisKeeper.Proofs.Node.Log
import RedisKeeper.Proofs.Program.Yields
import RedisKeeper.Reconcile.Cluster
import RedisKeeper.Reconcile.Error
import RedisKeeper.Reconcile.Finalizer
import RedisKeeper.Reconcile.Provision
import RedisKeeper.Reconcile.Settle
import RedisKeeper.Reconcile.Single
import RedisKeeper.Reconcile.Status
import RedisKeeper.Reconcile.Teardown
import RedisKeeper.Reconcile.Tick
import RedisKeeper.Resource.Cluster
import RedisKeeper.Resource.Condition
import RedisKeeper.Resource.Metadata
import RedisKeeper.Resource.Role
import RedisKeeper.Resource.Single
import RedisKeeper.Resource.Spec
import RedisKeeper.Resource.Timestamp
import RedisKeeper.Sandbox.Arrival
import RedisKeeper.Sandbox.Rehearsal
import RedisKeeper.Sandbox.Script
import RedisKeeper.Sandbox.Server
import RedisKeeper.Store.Call
import RedisKeeper.StringMap
import RedisKeeper.Text.Basic
import RedisKeeper.Text.Blank
import RedisKeeper.Text.Query
import RedisKeeper.Text.Quoted
import RedisKeeper.Text.Utf8
import RedisKeeper.Topology.Decision
import RedisKeeper.Topology.Record
import RedisKeeper.Topology.Snapshot
import RedisKeeper.Topology.Target
import RedisKeeper.Proofs.Node.Safety
import RedisKeeper.Proofs.Node.Membership
import RedisKeeper.Proofs.Node.Convergence
import RedisKeeper.Proofs.Node.Calm
import RedisKeeper.Proofs.Api.Sending
import RedisKeeper.Proofs.Reconcile.Provision
import RedisKeeper.Proofs.Reconcile.Gating
import RedisKeeper.Proofs.Reconcile.Serving
import RedisKeeper.Proofs.Reconcile.Guarding
import RedisKeeper.Proofs.Reconcile.Lifetime
import RedisKeeper.Proofs.Text.Searching
import RedisKeeper.Proofs.Topology.Flags
import RedisKeeper.Proofs.Node.Host
import RedisKeeper.Proofs.Program.Matching
import RedisKeeper.Proofs.Node.RowOrder
import RedisKeeper.Proofs.Reconcile.Marking
import RedisKeeper.Proofs.Reconcile.Sharing
import RedisKeeper.Proofs.Manifest.Naming
import RedisKeeper.Proofs.Node.Passage
import RedisKeeper.Proofs.Reconcile.Reporting
import RedisKeeper.Proofs.Node.Sessions
import RedisKeeper.Proofs.Json.Taking
import RedisKeeper.Proofs.Json.Keeping
import RedisKeeper.Proofs.Resource.RoundTrip
import RedisKeeper.Proofs.Api.Addressing
import RedisKeeper.Proofs.Reconcile.Upkeep
import RedisKeeper.Proofs.Topology.Lines
import RedisKeeper.Proofs.Node.Attaching
import RedisKeeper.Proofs.Node.Forming
import RedisKeeper.Proofs.Resource.Transitions
import RedisKeeper.Proofs.Reconcile.Rebuilding
import RedisKeeper.Proofs.Reconcile.Teardown
import RedisKeeper.Proofs.Reconcile.Removal
import RedisKeeper.Proofs.Reconcile.Estate
import RedisKeeper.Proofs.Manifest.Mounting
import RedisKeeper.Proofs.Manifest.Pods
import RedisKeeper.Proofs.Manifest.Selecting
import RedisKeeper.Proofs.Reconcile.Tallying
import RedisKeeper.Proofs.Topology.Names
import RedisKeeper.Proofs.Manifest.Groups
import RedisKeeper.Proofs.Address.RoundTrip
import RedisKeeper.Proofs.Topology.Roles
import RedisKeeper.Proofs.Reconcile.Coverage
import RedisKeeper.Proofs.Metrics.Samples
