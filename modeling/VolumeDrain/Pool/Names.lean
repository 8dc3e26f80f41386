import VolumeDrain.Manifest.Selector
import VolumeDrain.Pool.Basic
import VolumeDrain.Text.Ordinal

/-!
# Names and labels of a pool's objects

The names that the objects of a pool have, and the labels by which they are found again. Worker and
placeholder of one ordinal share their name on purpose: while a placeholder exists, no worker of
that ordinal can be made.
-/
namespace VolumeDrain

open Manifest

/-- The part that an object plays in a pool. -/
inductive Role where
  | worker
  | drainer
  | placeholder
deriving DecidableEq, Repr

/-- The label of a role. -/
def Role.text : Role → String
  | worker => "worker"
  | drainer => "drainer"
  | placeholder => "placeholder"

/-- The operator's name, under which it manages objects and reports events. -/
def managerName : String := "buffer-drain-operator"

/-- The label that takes a volume out of draining when it is set to `no`. -/
def optOutLabel : String := "buffering.dev/drain"

namespace BufferPool

/-- The labels of the objects that play a role in the pool. -/
def labels (p : BufferPool) (role : Role) : Labels :=
  KeyMap.ofList
    [("app.kubernetes.io/component", role.text), ("app.kubernetes.io/instance", p.name),
     ("app.kubernetes.io/managed-by", managerName), ("app.kubernetes.io/name", "buffer-worker")]

/-- The selector of the objects that play a role in the pool. -/
def selector (p : BufferPool) (role : Role) : String :=
  (Selector.ofLabels (p.labels role)).text

/-- The selector of the pool's volumes that are not taken out of draining. -/
def drainableSelector (p : BufferPool) : String :=
  p.selector .worker ++ "," ++ (SelectorTerm.isNot optOutLabel "no").text

/-- The reference by which the pool's objects name their owner. -/
def ownerReference (p : BufferPool) : OwnerReference where
  apiVersion := poolKind.apiVersion
  kind := poolKind.name
  name := p.name
  uid := p.metadata.uid.getD ""
  controller := some true
  blockOwnerDeletion := some true

/-- The name of the stateful set of the workers. -/
def statefulSetName (p : BufferPool) : String := p.name ++ "-buffer"

/-- The name of the service that governs the stateful set. -/
def serviceName (p : BufferPool) : String := p.statefulSetName ++ "-headless"

/-- The name of the buffer volume in pods, which is also that of the claim template. -/
def bufferVolumeName (p : BufferPool) : String :=
  p.name ++ "-" ++ p.spec.bufferStorage.claimName

/-- The name of the claim that the platform makes for an ordinal. -/
def claimName (p : BufferPool) (ordinal : Int) : String :=
  p.bufferVolumeName ++ "-" ++ p.statefulSetName ++ "-" ++ toString ordinal

/-- The name of the job that drains the volume of an ordinal. -/
def drainerName (p : BufferPool) (ordinal : Nat) : String :=
  p.statefulSetName ++ "-" ++ toString ordinal ++ "-drainer"

/-- The name of the placeholder of an ordinal, which is also that of its worker. -/
def placeholderName (p : BufferPool) (ordinal : Nat) : String :=
  p.statefulSetName ++ "-" ++ toString ordinal

/-- The account under which workers and drain jobs run. -/
def serviceAccountName (p : BufferPool) : String :=
  p.spec.security.serviceAccount.getD (p.name ++ "-buffer")

/-- The metadata of an object that the operator makes for the pool. -/
def ownedMeta (p : BufferPool) (name : String) (role : Role) : ObjectMeta where
  name := some name
  namespaceName := p.metadata.namespaceName
  labels := some (p.labels role)
  ownerReferences := some [p.ownerReference]

end BufferPool

end VolumeDrain
