import VolumeDrain.Manifest.Workload
import VolumeDrain.Worker.Container
import VolumeDrain.Worker.ExtraVolume

/-!
# The workers of a pool

The stateful set that runs the workers, each with a claim for its buffer volume, and the service
that governs it.
-/
namespace VolumeDrain.Worker

open Manifest Pool

/-- The containers of a worker. Without a buffer volume there is no sidecar either. -/
def workerContainers (p : BufferPool) : List Container :=
  if p.spec.disablePvc then [container p.spec]
  else
    (container p.spec).addMount { name := p.bufferVolumeName, mountPath := bufferPath } ::
      (metricsContainer? p.spec p.bufferVolumeName).toList

/-- The worker's pod before extra volumes are added. -/
def workerBasePod (p : BufferPool) : PodSpec where
  containers := workerContainers p
  volumes := nonEmpty (baseVolumes p.spec)
  serviceAccountName := some p.serviceAccountName
  imagePullSecrets := pullSecrets? p.spec
  nodeSelector := p.spec.nodeSelector
  tolerations := p.spec.tolerations
  affinity := p.spec.affinity
  topologySpreadConstraints := p.spec.topologySpreadConstraints
  priorityClassName := p.spec.priorityClassName
  securityContext := securityContext? p.spec

/-- The worker's pod. -/
def workerPod (p : BufferPool) : Except ExtraVolumeError PodSpec :=
  addExtraVolumes (workerBasePod p) p.spec.extraVolumes

/-- The template of the claims for buffer volumes. -/
def claimTemplate (p : BufferPool) : Claim where
  metadata := { name := some p.bufferVolumeName, labels := some (p.labels .worker) }
  spec := some
    { accessModes := some ["ReadWriteOnce"]
      storageClassName := p.spec.bufferStorage.storageClass
      resources := some
        { requests := some (.ofList [("storage", p.spec.bufferStorage.size)]) } }

/-- The stateful set of the workers. An autoscaled pool leaves the number of workers unset. -/
def statefulSet (p : BufferPool) : Except ExtraVolumeError StatefulSet := do
  let pod ← workerPod p
  return {
    metadata := p.ownedMeta p.statefulSetName .worker
    spec := some
      { replicas := if p.spec.autoscaled then none else some p.spec.replicas
        selector := { matchLabels := some (p.labels .worker) }
        serviceName := p.serviceName
        template :=
          { metadata := some { labels := some (p.labels .worker) }, spec := some pod }
        volumeClaimTemplates := if p.spec.disablePvc then none else some [claimTemplate p] } }

/-- The service that gives each worker a name of its own. -/
def headlessService (p : BufferPool) : Service where
  metadata := p.ownedMeta p.serviceName .worker
  spec := some
    { clusterIP := some "None"
      selector := some (p.labels .worker)
      ports := some [{ port := ingestPort, name := some "ingest" }] }

end VolumeDrain.Worker
