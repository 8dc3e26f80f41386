import VolumeDrain.Manifest.Scheduling

/-!
# What a pool is to be

The specification of a buffer pool: its workers, their buffer volumes, and how the volumes of
removed workers are drained. Each record says how it is read and written; an absent field takes the
default that the record's structure declares.
-/
namespace VolumeDrain.Pool

open Manifest

/-- A container image. -/
structure Image where
  repository : String
  tag : String := "latest"
  pullPolicy : Option String := none
  imagePullSecrets : List String := []
deriving DecidableEq

namespace Image

/-- The full reference, `repository:tag`, or the repository alone for an empty tag. -/
def reference (i : Image) : String :=
  if i.tag.isEmpty then i.repository else i.repository ++ ":" ++ i.tag

/-- The default image of the workers. -/
def worker : Image := { repository := "ghcr.io/buffering-dev/buffer-worker", tag := "v0.4.2" }

/-- The default image of the container that watches a drain. -/
def drainWatch : Image := { repository := "ghcr.io/buffering-dev/drain-watch", tag := "v0.4.2" }

/-- The default image of placeholders. -/
def pause : Image := { repository := "registry.k8s.io/pause", tag := "3.9" }

/-- The default image of the metrics sidecar. -/
def metrics : Image := { repository := "prom/node-exporter", tag := "v1.8.2" }

end Image

instance : Encode Image where
  encode i := .record
    [field "repository" i.repository, field "tag" i.tag, field? "pullPolicy" i.pullPolicy,
     fieldUnlessEmpty "imagePullSecrets" i.imagePullSecrets]

instance : Decode Image where
  decode j := do
    let f ← Fields.ofJson 4 j
    return {
      repository := ← f.required 0 "repository"
      tag := ← f.withDefault 1 "tag" "latest"
      pullPolicy := ← f.optional 2 "pullPolicy"
      imagePullSecrets := ← f.withDefault 3 "imagePullSecrets" [] }

/-- Amounts of processor time and memory. -/
structure Amounts where
  cpu : String
  memory : String
deriving DecidableEq

instance : Encode Amounts where
  encode a := .record [field "cpu" a.cpu, field "memory" a.memory]

instance : Decode Amounts where
  decode j := do
    let f ← Fields.ofJson 2 j
    return { cpu := ← f.required 0 "cpu", memory := ← f.required 1 "memory" }

/-- What a worker asks for and may use. -/
structure WorkerResources where
  requests : Amounts := ⟨"100m", "256Mi"⟩
  limits : Amounts := ⟨"1", "1Gi"⟩
deriving DecidableEq

instance : Encode WorkerResources where
  encode r := .record [field "requests" r.requests, field "limits" r.limits]

instance : Decode WorkerResources where
  decode j := do
    let f ← Fields.ofJson 2 j
    return { requests := ← f.required 0 "requests", limits := ← f.required 1 "limits" }

/-- The buffer volume of each worker. The claim's name is qualified with the pool's to give the
volume's name in pods. -/
structure Storage where
  claimName : String := "buffer"
  storageClass : Option String := none
  size : String := "10Gi"
deriving DecidableEq

instance : Encode Storage where
  encode s := .record
    [field "claimName" s.claimName, field? "storageClass" s.storageClass, field "size" s.size]

instance : Decode Storage where
  decode j := do
    let f ← Fields.ofJson 3 j
    return {
      claimName := ← f.withDefault 0 "claimName" "buffer"
      storageClass := ← f.optional 1 "storageClass"
      size := ← f.withDefault 2 "size" "10Gi" }

/-- Rotation of the workers' own output logs. Drain jobs never rotate. -/
structure LogRotation where
  path : String
  maxSize : String := "100M"
  maxFiles : Int32 := 5
deriving DecidableEq

instance : Encode LogRotation where
  encode r := .record
    [field "path" r.path, field "maxSize" r.maxSize, field "maxFiles" r.maxFiles]

instance : Decode LogRotation where
  decode j := do
    let f ← Fields.ofJson 3 j
    return {
      path := ← f.required 0 "path"
      maxSize := ← f.withDefault 1 "maxSize" "100M"
      maxFiles := ← f.withDefault 2 "maxFiles" 5 }

/-- The sidecar that exports the use of the buffer volume. -/
structure VolumeMetrics where
  image : Image := .metrics
  port : Int32 := 9200
deriving DecidableEq

instance : Encode VolumeMetrics where
  encode v := .record [field "image" v.image, field "port" v.port]

instance : Decode VolumeMetrics where
  decode j := do
    let f ← Fields.ofJson 2 j
    return {
      image := ← f.withDefault 0 "image" .metrics
      port := ← f.withDefault 1 "port" 9200 }

/-- Draining of the volumes that a scale-down leaves behind. A failed job is never tried again by
the operator itself. -/
structure Draining where
  enabled : Bool := false
  image : Image := .drainWatch
  pauseImage : Image := .pause
  annotations : Option Labels := none
  backoffLimit : Option Int32 := none
deriving DecidableEq

instance : Encode Draining where
  encode d := .record
    [field "enabled" d.enabled, field "image" d.image, field "pauseImage" d.pauseImage,
     field? "annotations" d.annotations, field? "backoffLimit" d.backoffLimit]

instance : Decode Draining where
  decode j := do
    let f ← Fields.ofJson 5 j
    return {
      enabled := ← f.withDefault 0 "enabled" false
      image := ← f.withDefault 1 "image" .drainWatch
      pauseImage := ← f.withDefault 2 "pauseImage" .pause
      annotations := ← f.optional 3 "annotations"
      backoffLimit := ← f.optional 4 "backoffLimit" }

/-- What happens when the pool is scaled. -/
structure Scaling where
  drain : Draining := {}
deriving DecidableEq

instance : Encode Scaling where
  encode s := .record [field "drain" s.drain]

instance : Decode Scaling where
  decode j := do
    let f ← Fields.ofJson 1 j
    return { drain := ← f.withDefault 0 "drain" {} }

/-- Security settings of the pods. -/
structure PodSecurity where
  runAsNonRoot : Option Bool := none
  runAsUser : Option Int64 := none
  runAsGroup : Option Int64 := none
  fsGroup : Option Int64 := none
deriving DecidableEq

instance : Encode PodSecurity where
  encode s := .record
    [field? "runAsNonRoot" s.runAsNonRoot, field? "runAsUser" s.runAsUser,
     field? "runAsGroup" s.runAsGroup, field? "fsGroup" s.fsGroup]

instance : Decode PodSecurity where
  decode j := do
    let f ← Fields.ofJson 4 j
    return {
      runAsNonRoot := ← f.optional 0 "runAsNonRoot"
      runAsUser := ← f.optional 1 "runAsUser"
      runAsGroup := ← f.optional 2 "runAsGroup"
      fsGroup := ← f.optional 3 "fsGroup" }

/-- The account and the security settings of workers and drain jobs. -/
structure Security where
  serviceAccount : Option String := none
  podSecurityContext : Option PodSecurity := none
deriving DecidableEq

instance : Encode Security where
  encode s := .record
    [field? "serviceAccount" s.serviceAccount, field? "podSecurityContext" s.podSecurityContext]

instance : Decode Security where
  decode j := do
    let f ← Fields.ofJson 2 j
    return {
      serviceAccount := ← f.optional 0 "serviceAccount"
      podSecurityContext := ← f.optional 1 "podSecurityContext" }

/-- Where an extra volume comes from. One of the sources has to be set, and only one. -/
structure VolumeSource where
  persistentVolumeClaim : Option String := none
  configMap : Option String := none
  secret : Option String := none
  hostPath : Option String := none
  emptyDir : Bool := false
deriving DecidableEq

namespace VolumeSource

/-- How many sources are set. -/
def count (s : VolumeSource) : Nat :=
  [s.persistentVolumeClaim.isSome, s.configMap.isSome, s.secret.isSome, s.hostPath.isSome,
   s.emptyDir].count true

end VolumeSource

instance : Encode VolumeSource where
  encode s := .record
    [field? "persistentVolumeClaim" s.persistentVolumeClaim, field? "configMap" s.configMap,
     field? "secret" s.secret, field? "hostPath" s.hostPath, field "emptyDir" s.emptyDir]

instance : Decode VolumeSource where
  decode j := do
    let f ← Fields.ofJson 5 j
    return {
      persistentVolumeClaim := ← f.optional 0 "persistentVolumeClaim"
      configMap := ← f.optional 1 "configMap"
      secret := ← f.optional 2 "secret"
      hostPath := ← f.optional 3 "hostPath"
      emptyDir := ← f.withDefault 4 "emptyDir" false }

/-- A volume mounted into one container of the workers and drain jobs. -/
structure ExtraVolume where
  volumeName : String
  path : String
  containerName : String
  readOnly : Bool := false
  source : VolumeSource
deriving DecidableEq

instance : Encode ExtraVolume where
  encode v := .record
    [field "volumeName" v.volumeName, field "path" v.path, field "containerName" v.containerName,
     field "readOnly" v.readOnly, field "source" v.source]

instance : Decode ExtraVolume where
  decode j := do
    let f ← Fields.ofJson 5 j
    return {
      volumeName := ← f.required 0 "volumeName"
      path := ← f.required 1 "path"
      containerName := ← f.required 2 "containerName"
      readOnly := ← f.withDefault 3 "readOnly" false
      source := ← f.required 4 "source" }

/-- The specification of a pool. -/
structure Spec where
  replicas : Int32 := 1
  autoscaled : Bool := false
  image : Image := .worker
  resources : WorkerResources := {}
  bufferStorage : Storage := {}
  disablePvc : Bool := false
  configMap : Option String := none
  logRotate : Option LogRotation := none
  bufferVolumeMetrics : Option VolumeMetrics := none
  scaling : Scaling := {}
  security : Security := {}
  nodeSelector : Option Labels := none
  tolerations : Option (List Toleration) := none
  affinity : Option Affinity := none
  topologySpreadConstraints : Option (List TopologySpreadConstraint) := none
  priorityClassName : Option String := none
  extraVolumes : List ExtraVolume := []
deriving DecidableEq

namespace Spec

/-- Whether the volumes left behind by a scale-down are drained: draining has to be on and the
workers have to have buffer volumes. -/
def drainEnabled (s : Spec) : Bool := s.scaling.drain.enabled && !s.disablePvc

end Spec

instance : Encode Spec where
  encode s := .record
    [field "replicas" s.replicas, field "autoscaled" s.autoscaled, field "image" s.image,
     field "resources" s.resources, field "bufferStorage" s.bufferStorage,
     field "disablePvc" s.disablePvc, field? "configMap" s.configMap,
     field? "logRotate" s.logRotate, field? "bufferVolumeMetrics" s.bufferVolumeMetrics,
     field "scaling" s.scaling, field "security" s.security,
     field? "nodeSelector" s.nodeSelector, field? "tolerations" s.tolerations,
     field? "affinity" s.affinity,
     field? "topologySpreadConstraints" s.topologySpreadConstraints,
     field? "priorityClassName" s.priorityClassName,
     fieldUnlessEmpty "extraVolumes" s.extraVolumes]

instance : Decode Spec where
  decode j := do
    let f ← Fields.ofJson 17 j
    return {
      replicas := ← f.withDefault 0 "replicas" 1
      autoscaled := ← f.withDefault 1 "autoscaled" false
      image := ← f.withDefault 2 "image" .worker
      resources := ← f.withDefault 3 "resources" {}
      bufferStorage := ← f.withDefault 4 "bufferStorage" {}
      disablePvc := ← f.withDefault 5 "disablePvc" false
      configMap := ← f.optional 6 "configMap"
      logRotate := ← f.optional 7 "logRotate"
      bufferVolumeMetrics := ← f.optional 8 "bufferVolumeMetrics"
      scaling := ← f.withDefault 9 "scaling" {}
      security := ← f.withDefault 10 "security" {}
      nodeSelector := ← f.optional 11 "nodeSelector"
      tolerations := ← f.optional 12 "tolerations"
      affinity := ← f.optional 13 "affinity"
      topologySpreadConstraints := ← f.optional 14 "topologySpreadConstraints"
      priorityClassName := ← f.optional 15 "priorityClassName"
      extraVolumes := ← f.withDefault 16 "extraVolumes" [] }

end VolumeDrain.Pool
