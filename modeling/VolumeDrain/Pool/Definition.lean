import VolumeDrain.Json.Schema
import VolumeDrain.Pool.Basic

/-!
# The definition of the pool resource

The schemas of a pool's records, with the defaults that their readers use, and the document that
tells a cluster of the resource.
-/
namespace VolumeDrain.Pool

open Schema

/-- The schema of a container image. -/
def Image.schema : Schema :=
  .described "Container image reference" <| .object [
    required "repository" (.described
      "Image repository (e.g., \"ghcr.io/buffering-dev/buffer-worker\")" .text),
    withDefault "tag" "latest" (.described "Image tag" .text),
    nullOr "pullPolicy" (.described
      "Kubernetes image pull policy (Always, IfNotPresent, Never)" .text),
    optional "imagePullSecrets" (.described
      "Names of secrets used to pull the image" (.list .text))]

/-- The schema of amounts of processor time and memory. -/
def Amounts.schema : Schema :=
  .described "Resource specification for CPU and memory" <| .object [
    required "cpu" (.described "CPU cores (e.g., \"500m\", \"2\")" .text),
    required "memory" (.described "Memory (e.g., \"1Gi\", \"4Gi\")" .text)]

/-- The schema of what a worker asks for and may use. -/
def WorkerResources.schema : Schema :=
  .described "Resource requirements for a container" <| .object [
    required "requests" (.described "Minimum resources requested" Amounts.schema),
    required "limits" (.described "Maximum resources allowed" Amounts.schema)]

/-- The schema of the buffer volume. -/
def Storage.schema : Schema :=
  .described
    ("The per-ordinal buffer volume, provisioned through the StatefulSet's volume claim " ++
      "template.") <| .object [
    withDefault "claimName" "buffer" (.described
      ("Claim template name. Qualified with the pool name to form the volume name used in " ++
        "pod specs.") .text),
    nullOr "storageClass" (.described "Storage class (empty uses the cluster default)" .text),
    withDefault "size" "10Gi" (.described "Requested size (e.g., \"10Gi\")" .text)]

/-- The schema of log rotation. -/
def LogRotation.schema : Schema :=
  .described
    ("Rotation of the worker's own output log files.\n\nDrain jobs never rotate, so this is " ++
      "stripped from the data-mover container.") <| .object [
    required "path" (.described "Directory holding the output log files" .text),
    withDefault "maxSize" "100M" (.described
      "Rotate once a file exceeds this size (e.g., \"100M\")" .text),
    withDefault "maxFiles" (5 : Int32) (.described "Rotated files to keep" .int32)]

/-- The schema of the metrics sidecar. -/
def VolumeMetrics.schema : Schema :=
  .described "Sidecar exporting buffer volume usage metrics" <| .object [
    withDefault "image" Image.metrics Image.schema,
    withDefault "port" (9200 : Int32) .int32]

/-- The schema of draining. -/
def Draining.schema : Schema :=
  .described "Draining of buffer volumes left behind by scale-down" <| .object [
    withDefault "enabled" false (.described "Enable drain jobs for unused buffer volumes" .boolean),
    withDefault "image" Image.drainWatch (.described
      "Image of the drain-watch container that signals completion" Image.schema),
    withDefault "pauseImage" Image.pause (.described
      "Image of the placeholder pod reserving the ordinal during a drain" Image.schema),
    nullOr "annotations" (.described "Annotations added to drain job pods" (.map .text)),
    nullOr "backoffLimit" (.described
      "Job backoff limit; a failed drain is never retried by the operator itself" .int32)]

/-- The schema of scaling. -/
def Scaling.schema : Schema :=
  .described "Scaling behaviour of the worker pool" <| .object [
    withDefault "drain" ({} : Draining) Draining.schema]

/-- The schema of the pods' security settings. -/
def PodSecurity.schema : Schema :=
  .object [
    nullOr "runAsNonRoot" .boolean,
    nullOr "runAsUser" .int64,
    nullOr "runAsGroup" .int64,
    nullOr "fsGroup" .int64]

/-- The schema of account and security settings. -/
def Security.schema : Schema :=
  .described "Pod security settings" <| .object [
    nullOr "serviceAccount" (.described "Service account for worker and drain pods" .text),
    nullOr "podSecurityContext" PodSecurity.schema]

/-- The schema of the source of an extra volume. -/
def VolumeSource.schema : Schema :=
  .described "Exactly one of the sources must be set" <| .object [
    nullOr "persistentVolumeClaim" .text,
    nullOr "configMap" .text,
    nullOr "secret" .text,
    nullOr "hostPath" .text,
    withDefault "emptyDir" false .boolean]

/-- The schema of an extra volume. -/
def ExtraVolume.schema : Schema :=
  .described "A volume mounted into one container of the worker (and drain) pods" <| .object [
    required "volumeName" (.described "Volume name in the pod spec" .text),
    required "path" (.described "Mount path inside the container" .text),
    required "containerName" (.described "Container receiving the mount" .text),
    withDefault "readOnly" false .boolean,
    required "source" VolumeSource.schema]

/-- The schema of a pool's specification. Scheduling settings are checked by the cluster where they
are used, so that any document is taken for one here. -/
def Spec.schema : Schema :=
  .object [
    withDefault "replicas" (1 : Int32) .int32,
    withDefault "autoscaled" false (.described
      "Leave `spec.replicas` of the StatefulSet to an external autoscaler" .boolean),
    withDefault "image" Image.worker Image.schema,
    withDefault "resources" ({} : WorkerResources) WorkerResources.schema,
    withDefault "bufferStorage" ({} : Storage) Storage.schema,
    withDefault "disablePvc" false (.described
      "Disables the buffer volume claim template (and with it, draining)" .boolean),
    nullOr "configMap" (.described
      "ConfigMap holding the worker configuration, mounted at /etc/buffer-worker" .text),
    nullOr "logRotate" LogRotation.schema,
    nullOr "bufferVolumeMetrics" VolumeMetrics.schema,
    withDefault "scaling" ({} : Scaling) Scaling.schema,
    withDefault "security" ({} : Security) Security.schema,
    nullOr "nodeSelector" (.map .text),
    nullOr "tolerations" (.list .any),
    nullOr "affinity" .any,
    nullOr "topologySpreadConstraints" (.list .any),
    nullOr "priorityClassName" .text,
    optional "extraVolumes" (.list ExtraVolume.schema)]

/-- The schema of the number of volumes in each state. -/
def StateCounts.schema : Schema :=
  .described "Per-state volume counts reported in the BufferPool status" <| .object [
    required "inUse" .int32,
    required "available" .int32,
    required "draining" .int32,
    required "drained" .int32,
    required "failed" .int32]

/-- How a condition is described, with a usage note for client programs. -/
def Condition.words : String :=
  "Condition for status reporting (Kubernetes convention)\n\n# Examples\n\n" ++
    "```rust,no_run use buffer_drain_operator::crd::Condition;\n\n" ++
    "let condition = Condition::ready(true, \"Reconciled\", \"Pool is ready\"); ```"

/-- The schema of a condition. -/
def Condition.schema : Schema :=
  .described Condition.words <| .object [
    required "type" (.described
      "Type of condition (e.g., \"Ready\", \"Draining\", \"DrainFailed\")" .text),
    required "status" (.described
      "Status of the condition: \"True\", \"False\", or \"Unknown\"" .text),
    required "lastTransitionTime" (.described "Last time the condition transitioned" .text),
    required "reason" (.described "Machine-readable reason for the condition" .text),
    required "message" (.described "Human-readable message" .text),
    nullOr "observedGeneration" .int64]

/-- The schema of a pool's status. -/
def Status.schema : Schema :=
  .described "Status subresource for BufferPool" <| .object [
    withDefault "phase" "" .text,
    nullOr "message" .text,
    nullOr "observedGeneration" .int64,
    withDefault "replicas" (0 : Int32) (.described
      "Desired replica count observed during the last drain pass" .int32),
    withDefault "volumes" ({} : StateCounts) StateCounts.schema,
    withDefault "conditions" ([] : List Condition) (.list Condition.schema)]

/-- The schema of a pool. Its metadata is the cluster's own affair. -/
def poolSchema : Schema :=
  .described "Auto-generated derived type for BufferPoolSpec via `CustomResource`" <| .object [
    required "spec" Spec.schema,
    nullOr "status" Status.schema]

/-- A column that listings of pools show. -/
def printedColumn (name type path : String) : Json :=
  .obj [("name", .str name), ("type", .str type), ("jsonPath", .str path)]

/-- The one version of the resource, with its schema and a status of its own. -/
def definitionVersion : Json :=
  .obj [
    ("name", .str poolKind.version),
    ("served", .bool true),
    ("storage", .bool true),
    ("additionalPrinterColumns", .arr [
      printedColumn "Replicas" "integer" ".spec.replicas",
      printedColumn "Draining" "integer" ".status.volumes.draining",
      printedColumn "Drained" "integer" ".status.volumes.drained",
      printedColumn "Phase" "string" ".status.phase",
      printedColumn "Age" "date" ".metadata.creationTimestamp"]),
    ("schema", .obj [("openAPIV3Schema", poolSchema.document.put "title" (.str poolKind.name))]),
    ("subresources", .obj [("status", .obj [])])]

/-- The document that defines the pool resource. -/
def definition : Json :=
  .obj [
    ("apiVersion", .str "apiextensions.k8s.io/v1"),
    ("kind", .str "CustomResourceDefinition"),
    ("metadata", .obj [("name", .str (poolKind.plural ++ "." ++ poolKind.group))]),
    ("spec", .obj [
      ("group", .str poolKind.group),
      ("names", .obj [
        ("kind", .str poolKind.name),
        ("plural", .str poolKind.plural),
        ("singular", .str "bufferpool"),
        ("shortNames", .arr [.str "bp"]),
        ("categories", .arr [])]),
      ("scope", .str "Namespaced"),
      ("versions", .arr [definitionVersion])])]

end VolumeDrain.Pool
