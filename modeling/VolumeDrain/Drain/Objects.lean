import VolumeDrain.Error
import VolumeDrain.Worker.StatefulSet

/-!
# Objects of a drain

The job that drains a volume and the placeholder that holds the volume's ordinal meanwhile. The
job runs the regular worker without log rotation, with the volume at the buffer path, beside a
container that watches the same volume and ends once it is empty. The placeholder has the name of
the ordinal's worker and asks for a node that does not exist.
-/
namespace VolumeDrain.Drain

open Manifest Pool Worker

/-- The name of the container that watches a drain. -/
def watchContainerName : String := "drain-watch"

/-- The label that a node would need to run a placeholder. No node carries it. -/
def unschedulable : String × String := ("buffering.dev/placeholder", "unschedulable")

/-- The ordinal of a volume, at the end of its name. -/
def claimOrdinal (volume : Claim) : Except BuildError Nat :=
  match Text.trailingOrdinal? (nameOf volume) with
  | some ordinal => .ok ordinal
  | none => .error (.noOrdinal (nameOf volume))

/-- The specification of the worker that moves the data out. -/
def moverSpec (spec : Spec) : Spec := { spec with logRotate := none }

/-- The container that ends once the buffer is empty. -/
def watchContainer (drain : Draining) (bufferVolume : String) : Container where
  name := watchContainerName
  image := some drain.image.reference
  imagePullPolicy := drain.image.pullPolicy
  env := some [{ name := "BUFFER_PATH", value := some bufferPath }]
  volumeMounts := some
    [{ name := bufferVolume, mountPath := bufferPath, readOnly := some true }]

/-- The volume of a drain job that binds the claim to be drained. -/
def drainedVolume (p : BufferPool) (volume : Claim) : Volume where
  name := p.bufferVolumeName
  claim := some { claimName := nameOf volume }

/-- The containers of a drain job: the worker that moves the data out, the container that watches
the volume, and the sidecar. -/
def drainerContainers (p : BufferPool) : List Container :=
  [(container (moverSpec p.spec)).addMount { name := p.bufferVolumeName, mountPath := bufferPath },
    watchContainer p.spec.scaling.drain p.bufferVolumeName] ++
      (metricsContainer? p.spec p.bufferVolumeName).toList

/-- The pod of a drain job before extra volumes are added. -/
def drainerBasePod (p : BufferPool) (volume : Claim) : PodSpec where
  containers := drainerContainers p
  volumes := some (baseVolumes (moverSpec p.spec) ++ [drainedVolume p volume])
  serviceAccountName := some p.serviceAccountName
  imagePullSecrets := pullSecrets? p.spec
  nodeSelector := p.spec.nodeSelector
  tolerations := p.spec.tolerations
  affinity := p.spec.affinity
  topologySpreadConstraints := p.spec.topologySpreadConstraints
  priorityClassName := p.spec.priorityClassName
  securityContext := securityContext? p.spec
  restartPolicy := some "Never"

/-- The pod of a drain job. -/
def drainerPod (p : BufferPool) (volume : Claim) : Except BuildError PodSpec :=
  (addExtraVolumes (drainerBasePod p volume) p.spec.extraVolumes).mapError fun e =>
    .extraVolume e.message

/-- The job that drains a volume. -/
def drainerJob (p : BufferPool) (volume : Claim) : Except BuildError Job := do
  if p.spec.bufferStorage.claimName.isEmpty then throw .missingClaimName
  let ordinal ← claimOrdinal volume
  let pod ← drainerPod p volume
  return {
    metadata := p.ownedMeta (p.drainerName ordinal) .drainer
    spec := some
      { backoffLimit := p.spec.scaling.drain.backoffLimit
        template :=
          { metadata := some
              { labels := some (p.labels .drainer)
                annotations := p.spec.scaling.drain.annotations }
            spec := some pod } } }

/-- The pod that holds the ordinal of a volume while it drains. -/
def placeholderPod (p : BufferPool) (volume : Claim) : Except BuildError Pod := do
  let ordinal ← claimOrdinal volume
  let pause := p.spec.scaling.drain.pauseImage
  return {
    metadata := p.ownedMeta (p.placeholderName ordinal) .placeholder
    spec := some
      { containers :=
          [{ name := "pause", image := some pause.reference,
             imagePullPolicy := pause.pullPolicy }]
        imagePullSecrets := pullSecrets? p.spec
        nodeSelector := some (.ofList [unschedulable])
        priorityClassName := p.spec.priorityClassName
        restartPolicy := some "Never"
        terminationGracePeriodSeconds := some 0 } }

end VolumeDrain.Drain
