import VolumeDrain.Api.Client
import VolumeDrain.Api.Cluster
import VolumeDrain.Api.Request
import VolumeDrain.Api.Server
import VolumeDrain.Drain.MemoryStore
import VolumeDrain.Drain.Objects
import VolumeDrain.Drain.Pass
import VolumeDrain.Drain.Snapshot
import VolumeDrain.Drain.State
import VolumeDrain.Drain.Store
import VolumeDrain.Error
import VolumeDrain.Json
import VolumeDrain.Json.Codec
import VolumeDrain.Json.MergePatch
import VolumeDrain.Json.Pointer
import VolumeDrain.Json.Printer
import VolumeDrain.Json.Reader
import VolumeDrain.Json.Schema
import VolumeDrain.KeyMap
import VolumeDrain.Main
import VolumeDrain.Manifest.Catalog
import VolumeDrain.Manifest.Meta
import VolumeDrain.Manifest.Pod
import VolumeDrain.Manifest.Scheduling
import VolumeDrain.Manifest.Selector
import VolumeDrain.Manifest.Shape
import VolumeDrain.Manifest.Workload
import VolumeDrain.Metrics
import VolumeDrain.Net.SocketAddress
import VolumeDrain.Operator.CommandLine
import VolumeDrain.Operator.Leadership
import VolumeDrain.Operator.Program
import VolumeDrain.Operator.Reconcile
import VolumeDrain.Operator.Report
import VolumeDrain.Operator.View
import VolumeDrain.Operator.Watch
import VolumeDrain.Pool.Basic
import VolumeDrain.Pool.Conditions
import VolumeDrain.Pool.Definition
import VolumeDrain.Pool.Names
import VolumeDrain.Pool.Spec
import VolumeDrain.Pool.Status
import VolumeDrain.Pool.Validation
import VolumeDrain.Proofs.Admission
import VolumeDrain.Proofs.Answers
import VolumeDrain.Proofs.ApiServer
import VolumeDrain.Proofs.Attachment
import VolumeDrain.Proofs.BrokenRules
import VolumeDrain.Proofs.BuildFaults
import VolumeDrain.Proofs.ClaimDocuments
import VolumeDrain.Proofs.ClientSteps
import VolumeDrain.Proofs.Completion
import VolumeDrain.Proofs.ConditionHistory
import VolumeDrain.Proofs.Conformance
import VolumeDrain.Proofs.ContentServer
import VolumeDrain.Proofs.Convergence
import VolumeDrain.Proofs.Defaults
import VolumeDrain.Proofs.Documents
import VolumeDrain.Proofs.DrainPods
import VolumeDrain.Proofs.DrainedPeriods
import VolumeDrain.Proofs.Effect
import VolumeDrain.Proofs.Election
import VolumeDrain.Proofs.Endings
import VolumeDrain.Proofs.Exchange
import VolumeDrain.Proofs.Exclusion
import VolumeDrain.Proofs.ExtraVolumes
import VolumeDrain.Proofs.FailureEpisodes
import VolumeDrain.Proofs.FailureReports
import VolumeDrain.Proofs.FollowUp
import VolumeDrain.Proofs.Gates
import VolumeDrain.Proofs.Idempotence
import VolumeDrain.Proofs.Interference
import VolumeDrain.Proofs.Isolation
import VolumeDrain.Proofs.Justification
import VolumeDrain.Proofs.Leading
import VolumeDrain.Proofs.LeaseCalls
import VolumeDrain.Proofs.LeaseDocuments
import VolumeDrain.Proofs.LeaseTakeover
import VolumeDrain.Proofs.Leftover
import VolumeDrain.Proofs.Locality
import VolumeDrain.Proofs.MarkWrites
import VolumeDrain.Proofs.Members
import VolumeDrain.Proofs.Mounts
import VolumeDrain.Proofs.Names
import VolumeDrain.Proofs.Numerals
import VolumeDrain.Proofs.ObjectDocuments
import VolumeDrain.Proofs.Objects
import VolumeDrain.Proofs.Observation
import VolumeDrain.Proofs.Operation
import VolumeDrain.Proofs.Orderly
import VolumeDrain.Proofs.Ordinals
import VolumeDrain.Proofs.Pass
import VolumeDrain.Proofs.PassOutcomes
import VolumeDrain.Proofs.PassReports
import VolumeDrain.Proofs.Plan
import VolumeDrain.Proofs.PoolPages
import VolumeDrain.Proofs.ReadServer
import VolumeDrain.Proofs.Readiness
import VolumeDrain.Proofs.ReadyRuns
import VolumeDrain.Proofs.Recognition
import VolumeDrain.Proofs.ReconcilePlan
import VolumeDrain.Proofs.Reconciliation
import VolumeDrain.Proofs.Records
import VolumeDrain.Proofs.Relisting
import VolumeDrain.Proofs.Requests
import VolumeDrain.Proofs.Retriability
import VolumeDrain.Proofs.Retry
import VolumeDrain.Proofs.Run
import VolumeDrain.Proofs.ScaleUp
import VolumeDrain.Proofs.Selection
import VolumeDrain.Proofs.Settling
import VolumeDrain.Proofs.Sights
import VolumeDrain.Proofs.StatusWrites
import VolumeDrain.Proofs.Steps
import VolumeDrain.Proofs.Takeover
import VolumeDrain.Proofs.Tidy
import VolumeDrain.Proofs.Turn
import VolumeDrain.Proofs.VolumeNames
import VolumeDrain.Proofs.WorkerSafety
import VolumeDrain.Script
import VolumeDrain.Text.Blank
import VolumeDrain.Text.Hidden
import VolumeDrain.Text.Ordinal
import VolumeDrain.Text.Quoted
import VolumeDrain.Text.Shortest
import VolumeDrain.Text.Unsigned
import VolumeDrain.Time.Delay
import VolumeDrain.Time.Instant
import VolumeDrain.Worker.Container
import VolumeDrain.Worker.ExtraVolume
import VolumeDrain.Worker.StatefulSet
