import VolumeDrain.Manifest.Shape

/-!
# The platform's types

The shapes of the objects that the operator reads and writes, as release 1.30 of the platform
defines them. Every record lists all of its fields.
-/
namespace VolumeDrain.Manifest.Catalog

open Shape

/-! ## Metadata and selectors -/

/-- One entry of the record of who manages which fields. -/
def managedFieldsEntry : Shape := record
  [opt "apiVersion" text, opt "fieldsType" text, opt "fieldsV1" any, opt "manager" text,
   opt "operation" text, opt "subresource" text, opt "time" time]

/-- A condition on one label. -/
def labelSelectorRequirement : Shape := record
  [req "key" text, req "operator" text, opt "values" texts]

/-- A selector of objects by their labels. -/
def labelSelector : Shape := record
  [opt "matchExpressions" (list labelSelectorRequirement), opt "matchLabels" textMap]

/-- A reference to an object by its name alone. -/
def localObjectReference : Shape := record [opt "name" text]

/-- A reference to an object of any kind. -/
def objectReference : Shape := record
  [opt "apiVersion" text, opt "fieldPath" text, opt "kind" text, opt "name" text,
   opt "namespace" text, opt "resourceVersion" text, opt "uid" text]

/-! ## Containers -/

/-- A field of the object itself. -/
def objectFieldSelector : Shape := record [opt "apiVersion" text, req "fieldPath" text]

/-- A resource of a container. -/
def resourceFieldSelector : Shape := record
  [opt "containerName" text, opt "divisor" text, req "resource" text]

/-- A key of a config map or secret. -/
def keySelector : Shape := record [req "key" text, opt "name" text, opt "optional" bool]

/-- Where the value of an environment variable comes from. -/
def envVarSource : Shape := record
  [opt "configMapKeyRef" keySelector, opt "fieldRef" objectFieldSelector,
   opt "resourceFieldRef" resourceFieldSelector, opt "secretKeyRef" keySelector]

/-- An environment variable. -/
def envVar : Shape := record [req "name" text, opt "value" text, opt "valueFrom" envVarSource]

/-- A config map or secret that may be missing. -/
def optionalSource : Shape := record [opt "name" text, opt "optional" bool]

/-- A source of many environment variables. -/
def envFromSource : Shape := record
  [opt "configMapRef" optionalSource, opt "prefix" text, opt "secretRef" optionalSource]

/-- A command run in a container. -/
def execAction : Shape := record [opt "command" texts]

/-- A request sent to a container. -/
def httpGetAction : Shape := record
  [opt "host" text, opt "httpHeaders" (list (record [req "name" text, req "value" text])),
   opt "path" text, req "port" intOrText, opt "scheme" text]

/-- A connection opened to a container. -/
def tcpSocketAction : Shape := record [opt "host" text, req "port" intOrText]

/-- A reaction to a change in a container's life. -/
def lifecycleHandler : Shape := record
  [opt "exec" execAction, opt "httpGet" httpGetAction, opt "sleep" (record [req "seconds" int64]),
   opt "tcpSocket" tcpSocketAction]

/-- The reactions to a container's start and stop. -/
def lifecycle : Shape := record
  [opt "postStart" lifecycleHandler, opt "preStop" lifecycleHandler]

/-- A health check. -/
def probe : Shape := record
  [opt "exec" execAction, opt "failureThreshold" int32,
   opt "grpc" (record [req "port" int32, opt "service" text]), opt "httpGet" httpGetAction,
   opt "initialDelaySeconds" int32, opt "periodSeconds" int32, opt "successThreshold" int32,
   opt "tcpSocket" tcpSocketAction, opt "terminationGracePeriodSeconds" int64,
   opt "timeoutSeconds" int32]

/-- A port of a container. -/
def containerPort : Shape := record
  [req "containerPort" int32, opt "hostIP" text, opt "hostPort" int32, opt "name" text,
   opt "protocol" text]

/-- What a container asks for and may use. -/
def resourceRequirements : Shape := record
  [opt "claims" (list (record [req "name" text])), opt "limits" textMap, opt "requests" textMap]

/-- A security profile by its type. -/
def securityProfile : Shape := record [opt "localhostProfile" text, req "type" text]

/-- Labels of the system's mandatory access control. -/
def seLinuxOptions : Shape := record
  [opt "level" text, opt "role" text, opt "type" text, opt "user" text]

/-- Settings of Windows hosts. -/
def windowsOptions : Shape := record
  [opt "gmsaCredentialSpec" text, opt "gmsaCredentialSpecName" text, opt "hostProcess" bool,
   opt "runAsUserName" text]

/-- Security settings of a container. -/
def securityContext : Shape := record
  [opt "allowPrivilegeEscalation" bool, opt "appArmorProfile" securityProfile,
   opt "capabilities" (record [opt "add" texts, opt "drop" texts]), opt "privileged" bool,
   opt "procMount" text, opt "readOnlyRootFilesystem" bool, opt "runAsGroup" int64,
   opt "runAsNonRoot" bool, opt "runAsUser" int64, opt "seLinuxOptions" seLinuxOptions,
   opt "seccompProfile" securityProfile, opt "windowsOptions" windowsOptions]

/-- A volume's place in a container. -/
def volumeMount : Shape := record
  [req "mountPath" text, opt "mountPropagation" text, req "name" text, opt "readOnly" bool,
   opt "recursiveReadOnly" text, opt "subPath" text, opt "subPathExpr" text]

/-- The fields of a container. -/
def containerFields : List Field :=
  [opt "args" texts, opt "command" texts, opt "env" (list envVar),
   opt "envFrom" (list envFromSource), opt "image" text, opt "imagePullPolicy" text,
   opt "lifecycle" lifecycle, opt "livenessProbe" probe, req "name" text,
   opt "ports" (list containerPort), opt "readinessProbe" probe,
   opt "resizePolicy" (list (record [req "resourceName" text, req "restartPolicy" text])),
   opt "resources" resourceRequirements, opt "restartPolicy" text,
   opt "securityContext" securityContext, opt "startupProbe" probe, opt "stdin" bool,
   opt "stdinOnce" bool, opt "terminationMessagePath" text, opt "terminationMessagePolicy" text,
   opt "tty" bool,
   opt "volumeDevices" (list (record [req "devicePath" text, req "name" text])),
   opt "volumeMounts" (list volumeMount), opt "workingDir" text]

/-- A container. -/
def container : Shape := record containerFields

/-- A container added to a running pod. -/
def ephemeralContainer : Shape := record (containerFields ++ [opt "targetContainerName" text])

/-! ## Volumes -/

/-- A key and the file it is written to. -/
def keyToPath : Shape := record [req "key" text, opt "mode" int32, req "path" text]

/-- A file made from a field of the object. -/
def downwardFile : Shape := record
  [opt "fieldRef" objectFieldSelector, opt "mode" int32, req "path" text,
   opt "resourceFieldRef" resourceFieldSelector]

/-- One source of a projected volume. -/
def volumeProjection : Shape := record
  [opt "clusterTrustBundle" (record
     [opt "labelSelector" labelSelector, opt "name" text, opt "optional" bool, req "path" text,
      opt "signerName" text]),
   opt "configMap" (record
     [opt "items" (list keyToPath), opt "name" text, opt "optional" bool]),
   opt "downwardAPI" (record [opt "items" (list downwardFile)]),
   opt "secret" (record [opt "items" (list keyToPath), opt "name" text, opt "optional" bool]),
   opt "serviceAccountToken" (record
     [opt "audience" text, opt "expirationSeconds" int64, req "path" text])]

/-- The resources of a claim. -/
def volumeResources : Shape := record [opt "limits" textMap, opt "requests" textMap]

/-- A reference to an object of a kind of some group. -/
def typedReference : Shape := record
  [opt "apiGroup" text, req "kind" text, req "name" text]

/-- The fields of a claim's specification. -/
def claimSpecFields : List Field :=
  [opt "accessModes" texts, opt "dataSource" typedReference,
   opt "dataSourceRef" (record
     [opt "apiGroup" text, req "kind" text, req "name" text, opt "namespace" text]),
   opt "resources" volumeResources, opt "selector" labelSelector, opt "storageClassName" text,
   opt "volumeAttributesClassName" text, opt "volumeMode" text, opt "volumeName" text]

/-- An owner of an object. -/
def ownerReference : Shape := record
  [req "apiVersion" text, opt "blockOwnerDeletion" bool, opt "controller" bool, req "kind" text,
   req "name" text, req "uid" text]

/-- An object's metadata. -/
def objectMeta : Shape := record
  [opt "annotations" textMap, opt "creationTimestamp" time, opt "deletionGracePeriodSeconds" int64,
   opt "deletionTimestamp" time, opt "finalizers" texts, opt "generateName" text,
   opt "generation" int64, opt "labels" textMap, opt "managedFields" (list managedFieldsEntry),
   opt "name" text, opt "namespace" text, opt "ownerReferences" (list ownerReference),
   opt "resourceVersion" text, opt "selfLink" text, opt "uid" text]

/-- The fields of a volume. -/
def volumeFields : List Field :=
  [opt "awsElasticBlockStore" (record
     [opt "fsType" text, opt "partition" int32, opt "readOnly" bool, req "volumeID" text]),
   opt "azureDisk" (record
     [opt "cachingMode" text, req "diskName" text, req "diskURI" text, opt "fsType" text,
      opt "kind" text, opt "readOnly" bool]),
   opt "azureFile" (record [opt "readOnly" bool, req "secretName" text, req "shareName" text]),
   opt "cephfs" (record
     [req "monitors" texts, opt "path" text, opt "readOnly" bool, opt "secretFile" text,
      opt "secretRef" localObjectReference, opt "user" text]),
   opt "cinder" (record
     [opt "fsType" text, opt "readOnly" bool, opt "secretRef" localObjectReference,
      req "volumeID" text]),
   opt "configMap" (record
     [opt "defaultMode" int32, opt "items" (list keyToPath), opt "name" text,
      opt "optional" bool]),
   opt "csi" (record
     [req "driver" text, opt "fsType" text, opt "nodePublishSecretRef" localObjectReference,
      opt "readOnly" bool, opt "volumeAttributes" textMap]),
   opt "downwardAPI" (record [opt "defaultMode" int32, opt "items" (list downwardFile)]),
   opt "emptyDir" (record [opt "medium" text, opt "sizeLimit" text]),
   opt "ephemeral" (record
     [opt "volumeClaimTemplate" (record
       [opt "metadata" objectMeta, req "spec" (record claimSpecFields)])]),
   opt "fc" (record
     [opt "fsType" text, opt "lun" int32, opt "readOnly" bool, opt "targetWWNs" texts,
      opt "wwids" texts]),
   opt "flexVolume" (record
     [req "driver" text, opt "fsType" text, opt "options" textMap, opt "readOnly" bool,
      opt "secretRef" localObjectReference]),
   opt "flocker" (record [opt "datasetName" text, opt "datasetUUID" text]),
   opt "gcePersistentDisk" (record
     [opt "fsType" text, opt "partition" int32, req "pdName" text, opt "readOnly" bool]),
   opt "gitRepo" (record [opt "directory" text, req "repository" text, opt "revision" text]),
   opt "glusterfs" (record [req "endpoints" text, req "path" text, opt "readOnly" bool]),
   opt "hostPath" (record [req "path" text, opt "type" text]),
   opt "iscsi" (record
     [opt "chapAuthDiscovery" bool, opt "chapAuthSession" bool, opt "fsType" text,
      opt "initiatorName" text, req "iqn" text, opt "iscsiInterface" text, req "lun" int32,
      opt "portals" texts, opt "readOnly" bool, opt "secretRef" localObjectReference,
      req "targetPortal" text]),
   req "name" text,
   opt "nfs" (record [req "path" text, opt "readOnly" bool, req "server" text]),
   opt "persistentVolumeClaim" (record [req "claimName" text, opt "readOnly" bool]),
   opt "photonPersistentDisk" (record [opt "fsType" text, req "pdID" text]),
   opt "portworxVolume" (record [opt "fsType" text, opt "readOnly" bool, req "volumeID" text]),
   opt "projected" (record [opt "defaultMode" int32, opt "sources" (list volumeProjection)]),
   opt "quobyte" (record
     [opt "group" text, opt "readOnly" bool, req "registry" text, opt "tenant" text,
      opt "user" text, req "volume" text]),
   opt "rbd" (record
     [opt "fsType" text, req "image" text, opt "keyring" text, req "monitors" texts,
      opt "pool" text, opt "readOnly" bool, opt "secretRef" localObjectReference,
      opt "user" text]),
   opt "scaleIO" (record
     [opt "fsType" text, req "gateway" text, opt "protectionDomain" text, opt "readOnly" bool,
      req "secretRef" localObjectReference, opt "sslEnabled" bool, opt "storageMode" text,
      opt "storagePool" text, req "system" text, opt "volumeName" text]),
   opt "secret" (record
     [opt "defaultMode" int32, opt "items" (list keyToPath), opt "optional" bool,
      opt "secretName" text]),
   opt "storageos" (record
     [opt "fsType" text, opt "readOnly" bool, opt "secretRef" localObjectReference,
      opt "volumeName" text, opt "volumeNamespace" text]),
   opt "vsphereVolume" (record
     [opt "fsType" text, opt "storagePolicyID" text, opt "storagePolicyName" text,
      req "volumePath" text])]

/-! ## Pods -/

/-- The fields of a pod's security settings. -/
def podSecurityContextFields : List Field :=
  [opt "appArmorProfile" securityProfile, opt "fsGroup" int64, opt "fsGroupChangePolicy" text,
   opt "runAsGroup" int64, opt "runAsNonRoot" bool, opt "runAsUser" int64,
   opt "seLinuxOptions" seLinuxOptions, opt "seccompProfile" securityProfile,
   opt "supplementalGroups" (list int64),
   opt "sysctls" (list (record [req "name" text, req "value" text])),
   opt "windowsOptions" windowsOptions]

/-- The fields of a pod's specification that the operator never sets. -/
def podSpecOtherFields : List Field :=
  [opt "activeDeadlineSeconds" int64, opt "automountServiceAccountToken" bool,
   opt "dnsConfig" (record
     [opt "nameservers" texts, opt "options" (list (record [opt "name" text, opt "value" text])),
      opt "searches" texts]),
   opt "dnsPolicy" text, opt "enableServiceLinks" bool,
   opt "ephemeralContainers" (list ephemeralContainer),
   opt "hostAliases" (list (record [opt "hostnames" texts, req "ip" text])),
   opt "hostIPC" bool, opt "hostNetwork" bool, opt "hostPID" bool, opt "hostUsers" bool,
   opt "hostname" text, opt "initContainers" (list container), opt "nodeName" text,
   opt "os" (record [req "name" text]), opt "overhead" textMap, opt "preemptionPolicy" text,
   opt "priority" int32, opt "readinessGates" (list (record [req "conditionType" text])),
   opt "resourceClaims" (list (record
     [req "name" text,
      opt "source" (record
        [opt "resourceClaimName" text, opt "resourceClaimTemplateName" text])])),
   opt "runtimeClassName" text, opt "schedulerName" text,
   opt "schedulingGates" (list (record [req "name" text])), opt "serviceAccount" text,
   opt "setHostnameAsFQDN" bool, opt "shareProcessNamespace" bool, opt "subdomain" text]

/-- A condition of an object's status. -/
def probedCondition : Shape := record
  [opt "lastProbeTime" time, opt "lastTransitionTime" time, opt "message" text,
   opt "reason" text, req "status" text, req "type" text]

/-- The state of a container. -/
def containerState : Shape := record
  [opt "running" (record [opt "startedAt" time]),
   opt "terminated" (record
     [opt "containerID" text, req "exitCode" int32, opt "finishedAt" time, opt "message" text,
      opt "reason" text, opt "signal" int32, opt "startedAt" time]),
   opt "waiting" (record [opt "message" text, opt "reason" text])]

/-- The status of a container. -/
def containerStatus : Shape := record
  [opt "allocatedResources" textMap, opt "containerID" text, req "image" text,
   req "imageID" text, opt "lastState" containerState, req "name" text, req "ready" bool,
   opt "resources" resourceRequirements, req "restartCount" int32, opt "started" bool,
   opt "state" containerState,
   opt "volumeMounts" (list (record
     [req "mountPath" text, req "name" text, opt "readOnly" bool,
      opt "recursiveReadOnly" text]))]

/-- The status of a pod. -/
def podStatus : Shape := record
  [opt "conditions" (list probedCondition), opt "containerStatuses" (list containerStatus),
   opt "ephemeralContainerStatuses" (list containerStatus), opt "hostIP" text,
   opt "hostIPs" (list (record [req "ip" text])),
   opt "initContainerStatuses" (list containerStatus), opt "message" text,
   opt "nominatedNodeName" text, opt "phase" text, opt "podIP" text,
   opt "podIPs" (list (record [req "ip" text])), opt "qosClass" text, opt "reason" text,
   opt "resize" text,
   opt "resourceClaimStatuses" (list (record
     [req "name" text, opt "resourceClaimName" text])),
   opt "startTime" time]

/-! ## Claims, jobs and stateful sets -/

/-- The status of a claim. -/
def claimStatus : Shape := record
  [opt "accessModes" texts, opt "allocatedResourceStatuses" textMap,
   opt "allocatedResources" textMap, opt "capacity" textMap,
   opt "conditions" (list probedCondition), opt "currentVolumeAttributesClassName" text,
   opt "modifyVolumeStatus" (record
     [req "status" text, opt "targetVolumeAttributesClassName" text]),
   opt "phase" text]

/-- The fields of a job's specification that the operator never sets. -/
def jobSpecOtherFields : List Field :=
  [opt "activeDeadlineSeconds" int64, opt "backoffLimitPerIndex" int32,
   opt "completionMode" text, opt "completions" int32, opt "managedBy" text,
   opt "manualSelector" bool, opt "maxFailedIndexes" int32, opt "parallelism" int32,
   opt "podFailurePolicy" (record
     [req "rules" (list (record
       [req "action" text,
        opt "onExitCodes" (record
          [opt "containerName" text, req "operator" text, req "values" (list int32)]),
        opt "onPodConditions" (list (record [req "status" text, req "type" text]))]))]),
   opt "podReplacementPolicy" text, opt "selector" labelSelector,
   opt "successPolicy" (record
     [req "rules" (list (record
       [opt "succeededCount" int32, opt "succeededIndexes" text]))]),
   opt "suspend" bool, opt "ttlSecondsAfterFinished" int32]

/-- The fields of a job's status that the operator does not look at. -/
def jobStatusOtherFields : List Field :=
  [opt "active" int32, opt "completedIndexes" text, opt "conditions" (list probedCondition),
   opt "failedIndexes" text, opt "ready" int32, opt "startTime" time, opt "terminating" int32,
   opt "uncountedTerminatedPods" (record [opt "failed" texts, opt "succeeded" texts])]

/-- The fields of a stateful set's specification that the operator never sets. -/
def statefulSetSpecOtherFields : List Field :=
  [opt "minReadySeconds" int32, opt "ordinals" (record [opt "start" int32]),
   opt "persistentVolumeClaimRetentionPolicy" (record
     [opt "whenDeleted" text, opt "whenScaled" text]),
   opt "podManagementPolicy" text, opt "revisionHistoryLimit" int32,
   opt "updateStrategy" (record
     [opt "rollingUpdate" (record [opt "maxUnavailable" intOrText, opt "partition" int32]),
      opt "type" text])]

/-- The status of a stateful set. -/
def statefulSetStatus : Shape := record
  [opt "availableReplicas" int32, opt "collisionCount" int32,
   opt "conditions" (list (record
     [opt "lastTransitionTime" time, opt "message" text, opt "reason" text, req "status" text,
      req "type" text])),
   opt "currentReplicas" int32, opt "currentRevision" text, opt "observedGeneration" int64,
   opt "readyReplicas" int32, req "replicas" int32, opt "updateRevision" text,
   opt "updatedReplicas" int32]

/-! ## Services, events and leases -/

/-- The fields of a service's specification that the operator never sets. -/
def serviceSpecOtherFields : List Field :=
  [opt "allocateLoadBalancerNodePorts" bool, opt "clusterIPs" texts, opt "externalIPs" texts,
   opt "externalName" text, opt "externalTrafficPolicy" text, opt "healthCheckNodePort" int32,
   opt "internalTrafficPolicy" text, opt "ipFamilies" texts, opt "ipFamilyPolicy" text,
   opt "loadBalancerClass" text, opt "loadBalancerIP" text,
   opt "loadBalancerSourceRanges" texts, opt "publishNotReadyAddresses" bool,
   opt "sessionAffinity" text,
   opt "sessionAffinityConfig" (record
     [opt "clientIP" (record [opt "timeoutSeconds" int32])]),
   opt "trafficDistribution" text, opt "type" text]

/-- The fields of a service's port that the operator never sets. -/
def servicePortOtherFields : List Field :=
  [opt "appProtocol" text, opt "nodePort" int32, opt "protocol" text, opt "targetPort" intOrText]

/-- The status of a service. -/
def serviceStatus : Shape := record
  [opt "conditions" (list (record
     [req "lastTransitionTime" time, req "message" text, opt "observedGeneration" int64,
      req "reason" text, req "status" text, req "type" text])),
   opt "loadBalancer" (record
     [opt "ingress" (list (record
       [opt "hostname" text, opt "ip" text, opt "ipMode" text,
        opt "ports" (list (record [opt "error" text, req "port" int32, req "protocol" text]))]))])]

/-- The fields of an event that the operator never sets. -/
def eventOtherFields : List Field :=
  [opt "action" text, opt "eventTime" microTime, opt "related" objectReference,
   opt "reportingInstance" text,
   opt "series" (record [opt "count" int32, opt "lastObservedTime" microTime]),
   opt "source" (record [opt "component" text, opt "host" text])]

end VolumeDrain.Manifest.Catalog
