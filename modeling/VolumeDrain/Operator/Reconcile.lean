import VolumeDrain.Api.Cluster
import VolumeDrain.Drain.Pass
import VolumeDrain.Operator.Report
import VolumeDrain.Pool.Validation

/-!
# Reconciling a pool

One reconcile brings a pool's objects up to date, runs a drain pass and writes the pool's status.
Only the leader changes anything. Nothing is applied of a pool whose specification is not valid,
and no volume is touched while draining is off or the workers could not be applied.
-/
namespace VolumeDrain.Operator

open Api Drain Manifest Pool

/-- How the operator runs: whether it leads, how long it waits when nothing asks for less, and the
one namespace it watches, if it does not watch all. -/
structure Settings where
  isLeader : Bool
  requeue : Delay
  namespaceName : Option String := none

/-- The name under which reconciles are counted. -/
def controllerName : String := "bufferpool"

/-- Makes the service of the workers what it is to be. -/
def applyService (p : BufferPool) : OperatorScript Unit :=
  discard (viaClient (applyObject p.namespaceName p.serviceName (Worker.headlessService p)))

/-- Makes the stateful set of the workers what it is to be. -/
def applyStatefulSet (p : BufferPool) : OperatorScript Unit := do
  match Worker.statefulSet p with
  | .error e => throw (.configuration e.message)
  | .ok set => discard (viaClient (applyObject p.namespaceName p.statefulSetName set))

/-- Writes the status of a pool. -/
def writeStatus (p : BufferPool) (status : Status) : OperatorScript Unit :=
  discard (viaClient (mergeStatus BufferPool p.namespaceName p.name
    (.obj [("status", encode status)])))

/-- The warning about a failed drain. -/
def failureEvent (now : Instant) (p : BufferPool) (e : VolumeError) : Event where
  metadata := { generateName := some (p.name ++ "-event-") }
  involvedObject :=
    { apiVersion := some poolKind.apiVersion
      kind := some poolKind.name
      name := p.metadata.name
      namespaceName := p.metadata.namespaceName
      uid := p.metadata.uid }
  type := some "Warning"
  reason := some "DrainFailed"
  message := some e.message
  count := some 1
  firstTimestamp := some now
  lastTimestamp := some now
  reportingComponent := some managerName

/-- Counts and reports each failed drain. A report that cannot be made is let go. -/
def reportFailures (now : Instant) (p : BufferPool) : List VolumeError → ApiScript Unit
  | [] => return ()
  | e :: rest => do
    tally (.drainFailure p.namespaceName p.name)
    discard (createObject p.namespaceName (failureEvent now p e)).run
    reportFailures now p rest

/-- Counts one thing after another. -/
def tallyAll : List Measurement → ApiScript Unit
  | [] => return ()
  | m :: rest => do
    tally m
    tallyAll rest

/-- Runs a pass against the cluster and counts its actions. -/
def clusterPass (p : BufferPool) : ApiScript (Except OperatorError PassOutcome) := do
  match ← onCluster (drainPass p) with
  | .error e => return .error e
  | .ok outcome =>
    tallyAll (outcome.measurements p)
    return .ok outcome

/-- Whether the pool's last status reports failed drains. -/
def wasFailing (p : BufferPool) : Bool :=
  conditionHolds Condition.drainFailedType (lastConditions p)

/-- What follows a completed pass: failed drains are reported where they are new, the status is
written, and the result is an error if something but drain jobs failed. -/
def concludePass (now : Instant) (settings : Settings) (p : BufferPool) (outcome : PassOutcome) :
    OperatorScript Delay := do
  let counts := outcome.counts
  let errors := outcome.errors
  tally (.volumes p.namespaceName p.name counts)
  if 0 < counts.failed && !wasFailing p then
    reportFailures now p (errors.filter fun e => e.fault.isDrainFailure)
  writeStatus p (statusAfterPass now.fullText p outcome.replicas counts errors)
  if !errors.isEmpty && !VolumeError.allDrainFailures errors then throw (.drain errors)
  return outcome.requeueAfter.getD settings.requeue

/-- Brings a pool up to date. The result is when to come back. -/
def applyPool (now : Instant) (settings : Settings) (p : BufferPool) : OperatorScript Delay := do
  if !settings.isLeader then return settings.requeue
  if !p.spec.isValid then
    let message := "; ".intercalate (p.spec.errors.map SpecError.text)
    writeStatus p (statusOfFailure now.fullText p "InvalidSpec" message)
    throw (.validation message)
  applyService p
  applyStatefulSet p
  if !p.spec.drainEnabled then
    writeStatus p (statusWithoutDraining now.fullText p)
    return settings.requeue
  match ← (liftM (clusterPass p) : OperatorScript (Except OperatorError PassOutcome)) with
  | .error e =>
    writeStatus p (statusOfFailure now.fullText p "ObservationFailed" e.message)
    throw e
  | .ok outcome => concludePass now settings p outcome

/-- One reconcile of a pool: bringing it up to date, with its errors counted. -/
def reconcile (now : Instant) (settings : Settings) (p : BufferPool) :
    ApiScript (Except OperatorError Delay) := do
  let result ← (applyPool now settings p).run
  if let .error e := result then
    tally (.reconcileError controllerName e.metricLabel)
  return result

/-- When to come back to a pool after an error: soon if waiting can clear it. -/
def retryDelay (e : OperatorError) : Delay := if e.isRetriable then .seconds 15 else .seconds 60

end VolumeDrain.Operator
