import VolumeDrain.Drain.Store

/-!
# What a pass sees

A pass decides on one snapshot of the cluster, taken before anything is changed. A read that fails
ends the pass, so that nothing is decided on a partial view.
-/
namespace VolumeDrain.Drain

open Manifest

/-- The answers to the reads at the start of a pass. -/
structure Snapshot where
  volumes : List Claim := []
  workers : List Pod := []
  placeholders : List Pod := []
  replicas : Int32 := 0
  jobs : List Job := []

namespace Snapshot

/-- The claims that worker pods bind to the buffer volume. -/
def claimsInUse (s : Snapshot) (p : BufferPool) : List String :=
  s.workers.filterMap fun pod => pod.spec.bind (·.claimOf p.bufferVolumeName)

/-- The claims of the ordinals that the pool is to have, whether or not their pods exist. -/
def reservedClaims (s : Snapshot) (p : BufferPool) : List String :=
  (List.range s.replicas.toInt.toNat).map fun (ordinal : Nat) => p.claimName ordinal

/-- Whether a volume is in use or reserved. -/
def inUse (s : Snapshot) (p : BufferPool) (volume : String) : Bool :=
  (s.claimsInUse p).contains volume || (s.reservedClaims p).contains volume

/-- The ordinals held by placeholders that are not being deleted. -/
def heldOrdinals (s : Snapshot) : List Nat :=
  (s.placeholders.filter fun pod => !pod.metadata.isTerminating).filterMap fun pod =>
    Text.trailingOrdinal? (nameOf pod)

/-- The job of a volume: the last one listed that binds it to the buffer volume. -/
def jobOf? (s : Snapshot) (p : BufferPool) (volume : String) : Option Job :=
  s.jobs.reverse.find? fun job => job.claimOf p.bufferVolumeName == some volume

/-- What the snapshot shows of one volume. -/
def sight (s : Snapshot) (p : BufferPool) (volume : Claim) : Sight where
  mark := .ofLabels volume.metadata.labelMap
  inUse := s.inUse p (nameOf volume)
  job := (s.jobOf? p (nameOf volume)).map JobProgress.of
  placeholder := (Text.trailingOrdinal? (nameOf volume)).any fun o => s.heldOrdinals.contains o

end Snapshot

/-- A read, whose failure is the failed observation of what was to be read. -/
def observing {α : Type} (what : String) (read : StoreScript (Except OperatorError α)) :
    ExceptT OperatorError StoreScript α :=
  ExceptT.mk ((Except.mapError (OperatorError.observation what)) <$> read)

/-- Takes the snapshot of a pool: volumes, worker pods, placeholders, replica count and jobs, read
in this order. -/
def takeSnapshot (p : BufferPool) : ExceptT OperatorError StoreScript Snapshot := do
  let ns := p.namespaceName
  let volumes ← observing "buffer volumes" (StoreScript.listVolumes ns p.drainableSelector)
  let workers ← observing "worker pods" (StoreScript.listPods ns (p.selector .worker))
  let placeholders ←
    observing "placeholder pods" (StoreScript.listPods ns (p.selector .placeholder))
  let replicas ← observing "replica count" (StoreScript.replicaCount p)
  let jobs ← observing "drain jobs" (StoreScript.listJobs ns (p.selector .drainer))
  return { volumes, workers, placeholders, replicas, jobs }

end VolumeDrain.Drain
