import VolumeDrain.Manifest.Pod
import VolumeDrain.Pool.Names

/-!
# Containers of a worker

The worker's container and its sidecar, and the settings of the pod around them. Workers and drain
jobs share all of these. The buffer volume's own mount in the worker is added by whoever binds the
volume.
-/
namespace VolumeDrain.Worker

open Manifest Pool

/-- Where the buffer volume is mounted. -/
def bufferPath : String := "/buffers"

/-- Where the worker's configuration is mounted. -/
def configPath : String := "/etc/buffer-worker"

/-- The name of the worker's container. -/
def containerName : String := "buffer-worker"

/-- The name of the sidecar's container. -/
def metricsContainerName : String := "buffer-metrics"

/-- The port on which workers take in data. -/
def ingestPort : Int32 := 24240

/-- Amounts of processor time and memory as quantities by resource. -/
def quantities (a : Amounts) : Labels := .ofList [("cpu", a.cpu), ("memory", a.memory)]

/-- The environment of the worker. -/
def environment (spec : Spec) : List EnvVar :=
  { name := "BUFFER_PATH", value := some bufferPath } ::
    match spec.logRotate with
    | none => []
    | some rotation =>
      [{ name := "LOGROTATE_PATH", value := some rotation.path },
       { name := "LOGROTATE_MAX_SIZE", value := some rotation.maxSize },
       { name := "LOGROTATE_MAX_FILES", value := some (toString rotation.maxFiles.toInt) }]

/-- The mounts of the worker besides the buffer volume: its configuration and its output logs. -/
def baseMounts (spec : Spec) : List VolumeMount :=
  (if spec.configMap.isSome then
    [{ name := "config", mountPath := configPath, readOnly := some true }] else []) ++
  (match spec.logRotate with
    | none => []
    | some rotation => [{ name := "output-logs", mountPath := rotation.path }])

/-- A list, unset where it is empty. -/
def nonEmpty {α : Type} (l : List α) : Option (List α) := if l.isEmpty then none else some l

/-- The worker's container, without the mount of the buffer volume. -/
def container (spec : Spec) : Container where
  name := containerName
  image := some spec.image.reference
  imagePullPolicy := spec.image.pullPolicy
  env := some (environment spec)
  ports := some
    [{ containerPort := ingestPort, name := some "ingest", protocol := some "TCP" }]
  resources := some
    { limits := some (quantities spec.resources.limits)
      requests := some (quantities spec.resources.requests) }
  volumeMounts := nonEmpty (baseMounts spec)

/-- The sidecar that exports the use of the buffer volume, if one is configured. -/
def metricsContainer? (spec : Spec) (bufferVolume : String) : Option Container :=
  spec.bufferVolumeMetrics.map fun metrics => {
    name := metricsContainerName
    image := some metrics.image.reference
    imagePullPolicy := metrics.image.pullPolicy
    args := some
      ["--collector.disable-defaults", "--collector.filesystem",
       "--collector.filesystem.mount-points-include=" ++ bufferPath,
       "--web.listen-address=:" ++ toString metrics.port.toInt]
    ports := some
      [{ containerPort := metrics.port, name := some "buffer-metrics", protocol := some "TCP" }]
    volumeMounts := some
      [{ name := bufferVolume, mountPath := bufferPath, readOnly := some true }] }

/-- The volumes of the pod besides the buffer volume. -/
def baseVolumes (spec : Spec) : List Volume :=
  (match spec.configMap with
    | none => []
    | some name =>
      [{ name := "config", configMap := some (.record [field "name" name]) }]) ++
  (if spec.logRotate.isSome then
    [{ name := "output-logs", emptyDir := some (.obj []) }] else [])

/-- The security settings of the pod. -/
def securityContext? (spec : Spec) : Option PodSecurityContext :=
  spec.security.podSecurityContext.map fun s => {
    runAsNonRoot := s.runAsNonRoot
    runAsUser := s.runAsUser
    runAsGroup := s.runAsGroup
    fsGroup := s.fsGroup }

/-- The secrets for pulling the worker's image, unset where there are none. -/
def pullSecrets? (spec : Spec) : Option (List SecretReference) :=
  nonEmpty (spec.image.imagePullSecrets.map fun name => { name := some name })

end VolumeDrain.Worker
