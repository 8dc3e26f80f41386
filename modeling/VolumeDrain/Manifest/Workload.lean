import VolumeDrain.Manifest.Pod

/-!
# Claims, jobs, stateful sets, services, events and leases

The other objects that the operator reads and writes.
-/
namespace VolumeDrain.Manifest

/-- What a claim asks for. -/
structure ClaimSpec where
  accessModes : Option (List String) := none
  storageClassName : Option String := none
  resources : Option Resources := none
  rest : Json.Members := []

instance : Encode ClaimSpec where
  encode s := .recordWith
    [field? "accessModes" s.accessModes, field? "resources" s.resources,
     field? "storageClassName" s.storageClassName] s.rest

instance : Decode ClaimSpec where
  decode j := do
    let m ← j.objectMembers
    return {
      accessModes := ← Json.member? m "accessModes"
      storageClassName := ← Json.member? m "storageClassName"
      resources := ←
        (← Json.member? m "resources").mapM (Resources.decodeBy Catalog.volumeResources)
      rest := ← Shape.readOthers Catalog.claimSpecFields
        ["accessModes", "resources", "storageClassName"] m }

/-- A claim to a persistent volume. The buffer volumes of a pool are claims. -/
structure Claim where
  metadata : ObjectMeta
  spec : Option ClaimSpec := none
  status : Option Json := none

/-- Claims are of the core group. -/
def claimKind : Kind := ⟨"", "v1", "PersistentVolumeClaim", "persistentvolumeclaims"⟩

instance : Resource Claim where
  kind := claimKind
  metadata := Claim.metadata
  encode c := claimKind.record
    [field "metadata" c.metadata, field? "spec" c.spec, field? "status" c.status]
  decode j := do
    let m ← claimKind.membersOf j
    return {
      metadata := ← Json.memberOr m "metadata" {}
      spec := ← Json.member? m "spec"
      status := ← (← Json.member? m "status").mapM Catalog.claimStatus.read }

/-- What a job runs. -/
structure JobSpec where
  backoffLimit : Option Int32 := none
  template : PodTemplate := {}
  rest : Json.Members := []

instance : Encode JobSpec where
  encode s := .recordWith
    [field? "backoffLimit" s.backoffLimit, field "template" s.template] s.rest

instance : Decode JobSpec where
  decode j := do
    let m ← j.objectMembers
    return {
      backoffLimit := ← Json.member? m "backoffLimit"
      template := ← Json.memberOr m "template" {}
      rest := ← Shape.readFields Catalog.jobSpecOtherFields m }

/-- How far a job has come. -/
structure JobStatus where
  completionTime : Option Instant := none
  succeeded : Option Int32 := none
  failed : Option Int32 := none
  rest : Json.Members := []

instance : Encode JobStatus where
  encode s := .recordWith
    [("completionTime", s.completionTime.map encodeTime), field? "failed" s.failed,
     field? "succeeded" s.succeeded] s.rest

instance : Decode JobStatus where
  decode j := do
    let m ← j.objectMembers
    return {
      completionTime := ← instant? m "completionTime"
      succeeded := ← Json.member? m "succeeded"
      failed := ← Json.member? m "failed"
      rest := ← Shape.readFields Catalog.jobStatusOtherFields m }

/-- A job. -/
structure Job where
  metadata : ObjectMeta
  spec : Option JobSpec := none
  status : Option JobStatus := none

/-- Jobs are of the batch group. -/
def jobKind : Kind := ⟨"batch", "v1", "Job", "jobs"⟩

/-- The name of the claim that the job's pods bind to a volume name. -/
def Job.claimOf (j : Job) (volumeName : String) : Option String := do
  (← (← j.spec).template.spec).claimOf volumeName

instance : Resource Job where
  kind := jobKind
  metadata := Job.metadata
  encode j := jobKind.record
    [field "metadata" j.metadata, field? "spec" j.spec, field? "status" j.status]
  decode j := do
    let m ← jobKind.membersOf j
    return {
      metadata := ← Json.memberOr m "metadata" {}
      spec := ← Json.member? m "spec"
      status := ← Json.member? m "status" }

/-- The pods of a stateful set and the claims it makes for each. -/
structure StatefulSetSpec where
  replicas : Option Int32 := none
  selector : LabelSelector := {}
  serviceName : String := ""
  template : PodTemplate := {}
  volumeClaimTemplates : Option (List Claim) := none
  rest : Json.Members := []

instance : Encode StatefulSetSpec where
  encode s := .recordWith
    [field? "replicas" s.replicas, field "selector" s.selector,
     field "serviceName" s.serviceName, field "template" s.template,
     field? "volumeClaimTemplates" s.volumeClaimTemplates] s.rest

instance : Decode StatefulSetSpec where
  decode j := do
    let m ← j.objectMembers
    return {
      replicas := ← Json.member? m "replicas"
      selector := ← Json.memberOr m "selector" {}
      serviceName := ← Json.memberOr m "serviceName" ""
      template := ← Json.memberOr m "template" {}
      volumeClaimTemplates := ← Json.member? m "volumeClaimTemplates"
      rest := ← Shape.readFields Catalog.statefulSetSpecOtherFields m }

/-- A stateful set. -/
structure StatefulSet where
  metadata : ObjectMeta
  spec : Option StatefulSetSpec := none
  status : Option Json := none

/-- Stateful sets are of the apps group. -/
def statefulSetKind : Kind := ⟨"apps", "v1", "StatefulSet", "statefulsets"⟩

instance : Resource StatefulSet where
  kind := statefulSetKind
  metadata := StatefulSet.metadata
  encode s := statefulSetKind.record
    [field "metadata" s.metadata, field? "spec" s.spec, field? "status" s.status]
  decode j := do
    let m ← statefulSetKind.membersOf j
    return {
      metadata := ← Json.memberOr m "metadata" {}
      spec := ← Json.member? m "spec"
      status := ← (← Json.member? m "status").mapM Catalog.statefulSetStatus.read }

/-- A port of a service. -/
structure ServicePort where
  port : Int32
  name : Option String := none
  rest : Json.Members := []

instance : Encode ServicePort where
  encode p := .recordWith [field? "name" p.name, field "port" p.port] p.rest

instance : Decode ServicePort where
  decode j := do
    let m ← j.objectMembers
    return {
      port := ← Json.memberOr m "port" 0
      name := ← Json.member? m "name"
      rest := ← Shape.readFields Catalog.servicePortOtherFields m }

/-- Which pods a service leads to. -/
structure ServiceSpec where
  clusterIP : Option String := none
  selector : Option Labels := none
  ports : Option (List ServicePort) := none
  rest : Json.Members := []

instance : Encode ServiceSpec where
  encode s := .recordWith
    [field? "clusterIP" s.clusterIP, field? "ports" s.ports, field? "selector" s.selector] s.rest

instance : Decode ServiceSpec where
  decode j := do
    let m ← j.objectMembers
    return {
      clusterIP := ← Json.member? m "clusterIP"
      selector := ← Json.member? m "selector"
      ports := ← Json.member? m "ports"
      rest := ← Shape.readFields Catalog.serviceSpecOtherFields m }

/-- A service. -/
structure Service where
  metadata : ObjectMeta
  spec : Option ServiceSpec := none
  status : Option Json := none

/-- Services are of the core group. -/
def serviceKind : Kind := ⟨"", "v1", "Service", "services"⟩

instance : Resource Service where
  kind := serviceKind
  metadata := Service.metadata
  encode s := serviceKind.record
    [field "metadata" s.metadata, field? "spec" s.spec, field? "status" s.status]
  decode j := do
    let m ← serviceKind.membersOf j
    return {
      metadata := ← Json.memberOr m "metadata" {}
      spec := ← Json.member? m "spec"
      status := ← (← Json.member? m "status").mapM Catalog.serviceStatus.read }

/-- A reference from an event to the object it is about. -/
structure ObjectReference where
  apiVersion : Option String := none
  kind : Option String := none
  name : Option String := none
  namespaceName : Option String := none
  resourceVersion : Option String := none
  uid : Option String := none
  fieldPath : Option String := none
deriving DecidableEq

instance : Encode ObjectReference where
  encode r := .record
    [field? "apiVersion" r.apiVersion, field? "fieldPath" r.fieldPath, field? "kind" r.kind,
     field? "name" r.name, field? "namespace" r.namespaceName,
     field? "resourceVersion" r.resourceVersion, field? "uid" r.uid]

instance : Decode ObjectReference where
  decode j := do
    let m ← j.objectMembers
    return {
      apiVersion := ← Json.member? m "apiVersion"
      kind := ← Json.member? m "kind"
      name := ← Json.member? m "name"
      namespaceName := ← Json.member? m "namespace"
      resourceVersion := ← Json.member? m "resourceVersion"
      uid := ← Json.member? m "uid"
      fieldPath := ← Json.member? m "fieldPath" }

/-- A report about an object, shown to its users. -/
structure Event where
  metadata : ObjectMeta
  involvedObject : ObjectReference := {}
  type : Option String := none
  reason : Option String := none
  message : Option String := none
  count : Option Int32 := none
  firstTimestamp : Option Instant := none
  lastTimestamp : Option Instant := none
  reportingComponent : Option String := none
  rest : Json.Members := []

/-- Events are of the core group. -/
def eventKind : Kind := ⟨"", "v1", "Event", "events"⟩

instance : Resource Event where
  kind := eventKind
  metadata := Event.metadata
  encode e := .recordWith
    [field "apiVersion" eventKind.apiVersion, field "kind" eventKind.name,
     field? "count" e.count, ("firstTimestamp", e.firstTimestamp.map encodeTime),
     field "involvedObject" e.involvedObject, ("lastTimestamp", e.lastTimestamp.map encodeTime),
     field? "message" e.message, field "metadata" e.metadata, field? "reason" e.reason,
     field? "reportingComponent" e.reportingComponent, field? "type" e.type] e.rest
  decode j := do
    let m ← eventKind.membersOf j
    return {
      metadata := ← Json.memberOr m "metadata" {}
      involvedObject := ← Json.memberOr m "involvedObject" {}
      type := ← Json.member? m "type"
      reason := ← Json.member? m "reason"
      message := ← Json.member? m "message"
      count := ← Json.member? m "count"
      firstTimestamp := ← instant? m "firstTimestamp"
      lastTimestamp := ← instant? m "lastTimestamp"
      reportingComponent := ← Json.member? m "reportingComponent"
      rest := ← Shape.readFields Catalog.eventOtherFields m }

/-- Who holds a lease, since when and for how long. -/
structure LeaseSpec where
  holderIdentity : Option String := none
  acquireTime : Option Instant := none
  renewTime : Option Instant := none
  leaseDurationSeconds : Option Int32 := none
  leaseTransitions : Option Int32 := none
deriving DecidableEq

instance : Encode LeaseSpec where
  encode s := .record
    [("acquireTime", s.acquireTime.map encodeMicroTime),
     field? "holderIdentity" s.holderIdentity,
     field? "leaseDurationSeconds" s.leaseDurationSeconds,
     field? "leaseTransitions" s.leaseTransitions,
     ("renewTime", s.renewTime.map encodeMicroTime)]

instance : Decode LeaseSpec where
  decode j := do
    let m ← j.objectMembers
    return {
      holderIdentity := ← Json.member? m "holderIdentity"
      acquireTime := ← instant? m "acquireTime"
      renewTime := ← instant? m "renewTime"
      leaseDurationSeconds := ← Json.member? m "leaseDurationSeconds"
      leaseTransitions := ← Json.member? m "leaseTransitions" }

/-- A lease, held by one candidate at a time. -/
structure Lease where
  metadata : ObjectMeta
  spec : Option LeaseSpec := none

/-- Leases are of the coordination group. -/
def leaseKind : Kind := ⟨"coordination.k8s.io", "v1", "Lease", "leases"⟩

instance : Resource Lease where
  kind := leaseKind
  metadata := Lease.metadata
  encode l := leaseKind.record [field "metadata" l.metadata, field? "spec" l.spec]
  decode j := do
    let m ← leaseKind.membersOf j
    return {
      metadata := ← Json.memberOr m "metadata" {}
      spec := ← Json.member? m "spec" }

end VolumeDrain.Manifest
