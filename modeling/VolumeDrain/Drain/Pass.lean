import VolumeDrain.Drain.Snapshot
import VolumeDrain.Metrics

/-!
# Drain passes

A pass takes a snapshot and acts on each listed volume in turn. A volume at which something fails
keeps its error and the pass goes on; the outcome holds what became of every volume.

Each action makes its calls in an order that leaves the cluster safe wherever it stops: a job is
created only once the placeholder holds the ordinal, and a finished job goes last, so that while it
is listed the next pass finishes again.
-/
namespace VolumeDrain.Drain

open Manifest Pool

/-- When to look again after a mark was changed. -/
def recheckDelay : Delay := .seconds 1

/-- When to look again while a cancelled job is being deleted. -/
def cancelDelay : Delay := .seconds 5

/-- A part of an action, which may fail at its volume. -/
abbrev ActionScript := ExceptT VolumeFault StoreScript

/-- A call to the store as a part of an action, named by what it does. -/
def calling {α : Type} (operation : String) (call : StoreScript (Except OperatorError α)) :
    ActionScript α :=
  ExceptT.mk ((Except.mapError (VolumeFault.ofStore operation)) <$> call)

/-- An object built for an action. -/
def building {α : Type} (object : Except BuildError α) : ActionScript α :=
  ExceptT.mk (pure (object.mapError .build))

/-- Carries out the action for a volume. The result is when to look again, if the action asks for
it. -/
def perform (p : BufferPool) (volume : Claim) (job : Option Job) :
    DrainAction → ActionScript (Option Delay)
  | .none => return none
  | .reclaim => do
    calling "removing drained label" (StoreScript.mark volume .unmarked)
    return some recheckDelay
  | .finish => do
    calling "marking volume as drained" (StoreScript.mark volume .drained)
    let placeholder ← building (placeholderPod p volume)
    let delay ← calling "removing placeholder pod" (StoreScript.settlePod placeholder .absent)
    if let some job := job then
      calling "deleting completed drain job" (StoreScript.deleteJob job .background)
    return some (delay.getD recheckDelay)
  | .cancel =>
    match job with
    | none => return none
    | some job => do
      if !job.metadata.isTerminating then
        calling "deleting unneeded drain job" (StoreScript.deleteJob job .foreground)
      return some cancelDelay
  | .release => do
    let placeholder ← building (placeholderPod p volume)
    calling "removing placeholder pod" (StoreScript.settlePod placeholder .absent)
  | .reportFailure attempts => throw (.drainFailed attempts)
  | .start => do
    let placeholder ← building (placeholderPod p volume)
    let job ← building (drainerJob p volume)
    match ← calling "ensuring placeholder pod" (StoreScript.settlePod placeholder .present) with
    | some delay => return some delay
    | none => calling "creating drain job" (StoreScript.settleJob job .present)

/-- What became of one volume in a pass. -/
structure VolumeOutcome where
  volume : String
  state : VolumeState
  action : DrainAction
  requeueAfter : Option Delay
  fault : Option VolumeFault

/-- Deals with one volume of a snapshot. -/
def handleVolume (p : BufferPool) (s : Snapshot) (volume : Claim) : StoreScript VolumeOutcome := do
  let sight := s.sight p volume
  let state := VolumeState.of sight
  let action := state.nextAction sight
  let result ← (perform p volume (s.jobOf? p (nameOf volume)) action).run
  return {
    volume := nameOf volume
    state
    action
    requeueAfter := result.toOption.join
    fault := match result with
      | .ok _ => none
      | .error fault => some fault }

/-- Deals with volumes one after another. -/
def handleVolumes (p : BufferPool) (s : Snapshot) : List Claim → StoreScript (List VolumeOutcome)
  | [] => return []
  | volume :: rest => do
    let outcome ← handleVolume p s volume
    return outcome :: (← handleVolumes p s rest)

/-- What became of a pass. -/
structure PassOutcome where
  replicas : Int32
  volumes : List VolumeOutcome

namespace PassOutcome

/-- The shortest delay that any volume asked for. -/
def requeueAfter (o : PassOutcome) : Option Delay :=
  Delay.shortest? (o.volumes.filterMap VolumeOutcome.requeueAfter)

/-- How many volumes are in a state that satisfies a test. -/
def countOf (o : PassOutcome) (p : VolumeState → Bool) : Int32 :=
  Int32.ofNat (o.volumes.countP fun v => p v.state)

/-- The number of volumes in each state. -/
def counts (o : PassOutcome) : StateCounts where
  inUse := o.countOf fun s => s matches .inUse
  available := o.countOf fun s => s matches .available
  draining := o.countOf fun s => s matches .draining
  drained := o.countOf fun s => s matches .drained
  failed := o.countOf fun s => s matches .failed _

/-- The errors of the volumes at which something failed, in the volumes' order. -/
def errors (o : PassOutcome) : List VolumeError :=
  o.volumes.filterMap fun v => v.fault.map fun fault => .mk v.volume fault

/-- Whether something failed at a volume. -/
def hasErrors (o : PassOutcome) : Bool := o.volumes.any fun v => v.fault.isSome

/-- What is counted of a pass: the actions that were taken. -/
def measurements (o : PassOutcome) (p : BufferPool) : List Measurement :=
  (o.volumes.filter fun v => v.action ≠ .none).map fun v =>
    .drainAction (p.metadata.namespaceName.getD "") p.name v.action.text

/-- The outcome without its errors. -/
def withoutErrors (o : PassOutcome) : PassOutcome :=
  { o with volumes := o.volumes.map fun v => { v with fault := none } }

end PassOutcome

/-- Runs a pass over a pool. It fails only if the snapshot could not be taken. -/
def drainPass (p : BufferPool) : StoreScript (Except OperatorError PassOutcome) := do
  match ← (takeSnapshot p).run with
  | .error e => return .error e
  | .ok s => return .ok { replicas := s.replicas, volumes := ← handleVolumes p s s.volumes }

end VolumeDrain.Drain
