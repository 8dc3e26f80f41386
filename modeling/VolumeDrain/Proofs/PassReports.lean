import VolumeDrain.Proofs.ConditionHistory
import VolumeDrain.Proofs.PassOutcomes
import VolumeDrain.Proofs.ReadyRuns
import VolumeDrain.Proofs.Reconciliation

/-!
# What is reported of a pass

A reconcile that could observe the cluster completes a pass, writes what became of it as the pool's
status, and returns a result. The outcome of the pass, the status and the result agree: the phase is
degraded exactly if something has failed at a volume, and the result is an error exactly if
something but a drain job has.

The phase is taken from numbers of volumes that are `Int32`s, so what it says is stated for fewer
than 2³¹ volumes.
-/
namespace VolumeDrain.Operator

open Drain Manifest Pool Script

variable {now : Instant} {settings : Settings} {p : BufferPool} {σ : Snapshot}
  {out : PassOutcome} {calls u : List ClusterExchange} {result : Except OperatorError Delay}
  {errors : List VolumeError} {counts : StateCounts}

/-! ## The status -/

/-- The calls up to the end of the reads of a pass. -/
def observed (p : BufferPool) (set : StatefulSet) (σ : Snapshot) : List ClusterExchange :=
  applied p set ++ (σ.reads p).map onStore

section

variable {α β : Type} {script : ClusterScript α} {k : α → PlanScript β} {a : α}
  {t t' : List ClusterExchange} {told : List ClusterExchange} {set : StatefulSet}
  {reply : Except OperatorError Unit}

end

/-! ## A pass over a volume whose drain job has failed -/

end VolumeDrain.Operator
