import VolumeDrain.Manifest.Scheduling

/-!
# Pods

Containers, volumes and pods. Each record types the fields that the operator reads or sets and
keeps the others in `rest`, as the platform writes them.
-/
namespace VolumeDrain.Manifest

/-- An environment variable. -/
structure EnvVar where
  name : String
  value : Option String := none
  rest : Json.Members := []

instance : Encode EnvVar where
  encode e := .recordWith [field "name" e.name, field? "value" e.value] e.rest

instance : Decode EnvVar where
  decode j := do
    let m ← j.objectMembers
    return {
      name := ← Json.memberOr m "name" ""
      value := ← Json.member? m "value"
      rest := ← Shape.readOthers Catalog.envVar.fields ["name", "value"] m }

/-- A port of a container. -/
structure ContainerPort where
  containerPort : Int32
  name : Option String := none
  protocol : Option String := none
  rest : Json.Members := []

instance : Encode ContainerPort where
  encode p := .recordWith
    [field "containerPort" p.containerPort, field? "name" p.name, field? "protocol" p.protocol]
    p.rest

instance : Decode ContainerPort where
  decode j := do
    let m ← j.objectMembers
    return {
      containerPort := ← Json.memberOr m "containerPort" 0
      name := ← Json.member? m "name"
      protocol := ← Json.member? m "protocol"
      rest := ← Shape.readOthers Catalog.containerPort.fields
        ["containerPort", "name", "protocol"] m }

/-- What a container or a claim asks for and may use, as quantities by resource. -/
structure Resources where
  limits : Option Labels := none
  requests : Option Labels := none
  rest : Json.Members := []

instance : Encode Resources where
  encode r := .recordWith [field? "limits" r.limits, field? "requests" r.requests] r.rest

/-- Reads resources, keeping the fields of a shape besides limits and requests. -/
def Resources.decodeBy (shape : Shape) (j : Json) : Decoded Resources := do
  let m ← j.objectMembers
  return {
    limits := ← Json.member? m "limits"
    requests := ← Json.member? m "requests"
    rest := ← Shape.readOthers shape.fields ["limits", "requests"] m }

instance : Decode Resources := ⟨Resources.decodeBy Catalog.resourceRequirements⟩

/-- A volume's place in a container. -/
structure VolumeMount where
  name : String
  mountPath : String
  readOnly : Option Bool := none
  rest : Json.Members := []

instance : Encode VolumeMount where
  encode v := .recordWith
    [field "mountPath" v.mountPath, field "name" v.name, field? "readOnly" v.readOnly] v.rest

instance : Decode VolumeMount where
  decode j := do
    let m ← j.objectMembers
    return {
      name := ← Json.memberOr m "name" ""
      mountPath := ← Json.memberOr m "mountPath" ""
      readOnly := ← Json.member? m "readOnly"
      rest := ← Shape.readOthers Catalog.volumeMount.fields ["mountPath", "name", "readOnly"] m }

/-- A container. -/
structure Container where
  name : String
  image : Option String := none
  imagePullPolicy : Option String := none
  args : Option (List String) := none
  env : Option (List EnvVar) := none
  ports : Option (List ContainerPort) := none
  resources : Option Resources := none
  volumeMounts : Option (List VolumeMount) := none
  rest : Json.Members := []

/-- The mounts of a container, none if unset. -/
def Container.mounts (c : Container) : List VolumeMount := c.volumeMounts.getD []

/-- The container with one more mount at the end of its list. -/
def Container.addMount (c : Container) (mount : VolumeMount) : Container :=
  { c with volumeMounts := some (c.mounts ++ [mount]) }

instance : Encode Container where
  encode c := .recordWith
    [field? "args" c.args, field? "env" c.env, field? "image" c.image,
     field? "imagePullPolicy" c.imagePullPolicy, field "name" c.name, field? "ports" c.ports,
     field? "resources" c.resources, field? "volumeMounts" c.volumeMounts] c.rest

instance : Decode Container where
  decode j := do
    let m ← j.objectMembers
    return {
      name := ← Json.memberOr m "name" ""
      image := ← Json.member? m "image"
      imagePullPolicy := ← Json.member? m "imagePullPolicy"
      args := ← Json.member? m "args"
      env := ← Json.member? m "env"
      ports := ← Json.member? m "ports"
      resources := ← Json.member? m "resources"
      volumeMounts := ← Json.member? m "volumeMounts"
      rest := ← Shape.readOthers Catalog.containerFields
        ["args", "env", "image", "imagePullPolicy", "name", "ports", "resources",
         "volumeMounts"] m }

/-- A volume that is a claim. -/
structure ClaimVolume where
  claimName : String
  readOnly : Option Bool := none
deriving DecidableEq

instance : Encode ClaimVolume where
  encode v := .record [field "claimName" v.claimName, field? "readOnly" v.readOnly]

instance : Decode ClaimVolume where
  decode j := do
    let m ← j.objectMembers
    return {
      claimName := ← Json.memberOr m "claimName" ""
      readOnly := ← Json.member? m "readOnly" }

/-- A volume of a pod: its name, the claim behind it if there is one, and the other sources that
the operator can set. -/
structure Volume where
  name : String
  claim : Option ClaimVolume := none
  configMap : Option Json := none
  emptyDir : Option Json := none
  hostPath : Option Json := none
  secret : Option Json := none
  rest : Json.Members := []

instance : Encode Volume where
  encode v := .recordWith
    [field? "configMap" v.configMap, field? "emptyDir" v.emptyDir, field? "hostPath" v.hostPath,
     field "name" v.name, field? "persistentVolumeClaim" v.claim, field? "secret" v.secret] v.rest

/-- Reads one source of a volume by its shape. -/
def Volume.source? (members : Json.Members) (name : String) : Decoded (Option Json) := do
  return (← Shape.readFields (Catalog.volumeFields.filter (·.1 == name)) members).lookup name

instance : Decode Volume where
  decode j := do
    let m ← j.objectMembers
    return {
      name := ← Json.memberOr m "name" ""
      claim := ← Json.member? m "persistentVolumeClaim"
      configMap := ← Volume.source? m "configMap"
      emptyDir := ← Volume.source? m "emptyDir"
      hostPath := ← Volume.source? m "hostPath"
      secret := ← Volume.source? m "secret"
      rest := ← Shape.readOthers Catalog.volumeFields
        ["configMap", "emptyDir", "hostPath", "name", "persistentVolumeClaim", "secret"] m }

/-- A reference to a secret. -/
structure SecretReference where
  name : Option String := none
deriving DecidableEq

instance : Encode SecretReference where
  encode r := .record [field? "name" r.name]

instance : Decode SecretReference where
  decode j := do
    let m ← j.objectMembers
    return { name := ← Json.member? m "name" }

/-- Security settings of a pod. -/
structure PodSecurityContext where
  runAsNonRoot : Option Bool := none
  runAsUser : Option Int64 := none
  runAsGroup : Option Int64 := none
  fsGroup : Option Int64 := none
  rest : Json.Members := []

instance : Encode PodSecurityContext where
  encode c := .recordWith
    [field? "fsGroup" c.fsGroup, field? "runAsGroup" c.runAsGroup,
     field? "runAsNonRoot" c.runAsNonRoot, field? "runAsUser" c.runAsUser] c.rest

instance : Decode PodSecurityContext where
  decode j := do
    let m ← j.objectMembers
    return {
      runAsNonRoot := ← Json.member? m "runAsNonRoot"
      runAsUser := ← Json.member? m "runAsUser"
      runAsGroup := ← Json.member? m "runAsGroup"
      fsGroup := ← Json.member? m "fsGroup"
      rest := ← Shape.readOthers Catalog.podSecurityContextFields
        ["fsGroup", "runAsGroup", "runAsNonRoot", "runAsUser"] m }

/-- What a pod runs and where. -/
structure PodSpec where
  containers : List Container := []
  volumes : Option (List Volume) := none
  serviceAccountName : Option String := none
  imagePullSecrets : Option (List SecretReference) := none
  nodeSelector : Option Labels := none
  tolerations : Option (List Toleration) := none
  affinity : Option Affinity := none
  topologySpreadConstraints : Option (List TopologySpreadConstraint) := none
  priorityClassName : Option String := none
  securityContext : Option PodSecurityContext := none
  restartPolicy : Option String := none
  terminationGracePeriodSeconds : Option Int64 := none
  rest : Json.Members := []

namespace PodSpec

/-- The volumes, none if unset. -/
def volumeList (p : PodSpec) : List Volume := p.volumes.getD []

/-- The name of the claim behind the first volume of a name, if that volume is a claim. -/
def claimOf (p : PodSpec) (volumeName : String) : Option String := do
  let volume ← p.volumeList.find? (fun v => v.name == volumeName)
  return (← volume.claim).claimName

end PodSpec

instance : Encode PodSpec where
  encode p := .recordWith
    [field? "affinity" p.affinity, field "containers" p.containers,
     field? "imagePullSecrets" p.imagePullSecrets, field? "nodeSelector" p.nodeSelector,
     field? "priorityClassName" p.priorityClassName, field? "restartPolicy" p.restartPolicy,
     field? "securityContext" p.securityContext,
     field? "serviceAccountName" p.serviceAccountName,
     field? "terminationGracePeriodSeconds" p.terminationGracePeriodSeconds,
     field? "tolerations" p.tolerations,
     field? "topologySpreadConstraints" p.topologySpreadConstraints,
     field? "volumes" p.volumes] p.rest

instance : Decode PodSpec where
  decode j := do
    let m ← j.objectMembers
    return {
      containers := ← Json.memberOr m "containers" []
      volumes := ← Json.member? m "volumes"
      serviceAccountName := ← Json.member? m "serviceAccountName"
      imagePullSecrets := ← Json.member? m "imagePullSecrets"
      nodeSelector := ← Json.member? m "nodeSelector"
      tolerations := ← Json.member? m "tolerations"
      affinity := ← Json.member? m "affinity"
      topologySpreadConstraints := ← Json.member? m "topologySpreadConstraints"
      priorityClassName := ← Json.member? m "priorityClassName"
      securityContext := ← Json.member? m "securityContext"
      restartPolicy := ← Json.member? m "restartPolicy"
      terminationGracePeriodSeconds := ← Json.member? m "terminationGracePeriodSeconds"
      rest := ← Shape.readFields Catalog.podSpecOtherFields m }

/-- The pods that a workload makes. -/
structure PodTemplate where
  metadata : Option ObjectMeta := none
  spec : Option PodSpec := none

instance : Encode PodTemplate where
  encode t := .record [field? "metadata" t.metadata, field? "spec" t.spec]

instance : Decode PodTemplate where
  decode j := do
    let m ← j.objectMembers
    return { metadata := ← Json.member? m "metadata", spec := ← Json.member? m "spec" }

/-- A pod. -/
structure Pod where
  metadata : ObjectMeta
  spec : Option PodSpec := none
  status : Option Json := none

/-- Pods are of the core group. -/
def podKind : Kind := ⟨"", "v1", "Pod", "pods"⟩

instance : Resource Pod where
  kind := podKind
  metadata := Pod.metadata
  encode p := podKind.record
    [field "metadata" p.metadata, field? "spec" p.spec, field? "status" p.status]
  decode j := do
    let m ← podKind.membersOf j
    return {
      metadata := ← Json.memberOr m "metadata" {}
      spec := ← Json.member? m "spec"
      status := ← (← Json.member? m "status").mapM Catalog.podStatus.read }

end VolumeDrain.Manifest
