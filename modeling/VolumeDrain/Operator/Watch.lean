import VolumeDrain.Operator.Reconcile

/-!
# Watching pools

How the operator comes to the pools that it reconciles. It starts only if pools can be listed at
all, and lists them again, until that succeeds, to watch them from then on.
-/
namespace VolumeDrain.Operator

open Api

/-- Makes sure that the cluster knows of pools. -/
def requireDefinition (settings : Settings) : OperatorScript Unit :=
  ExceptT.mk do
    match ← (listAll BufferPool settings.namespaceName none).run with
    | .ok _ => return .ok ()
    | .error _ => return .error (.configuration "BufferPool CRD not installed")

/-- The pools to watch, listed a number of times at most. -/
def watchedPools (settings : Settings) : Nat → ApiScript (List BufferPool)
  | 0 => return []
  | attempts + 1 => do
    match ← (listAll BufferPool settings.namespaceName none).run with
    | .ok pools => return pools
    | .error _ => watchedPools settings attempts

/-- What the operator starts from: the pools it watches. -/
def startWatching (settings : Settings) (attempts : Nat) : OperatorScript (List BufferPool) := do
  requireDefinition settings
  (liftM (watchedPools settings attempts) : OperatorScript (List BufferPool))

end VolumeDrain.Operator
