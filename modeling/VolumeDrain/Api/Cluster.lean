import VolumeDrain.Api.Client

/-!
# The cluster as a store

The calls of a drain pass carried out by requests to the API server. An object is settled by
reading it first: it is created where it is missing, applied where it exists, and left alone while
it is being deleted.
-/
namespace VolumeDrain.Api

open Manifest Drain

/-- When to come back to an object that is being deleted. -/
def terminatingDelay : Delay := .seconds 5

/-- The name and the namespace of an object that is to be settled. -/
def address {α : Type} [Resource α] (a : α) : Except OperatorError (String × String) :=
  match (metadata a).name with
  | none => .error (.configuration ((Resource.kind α).name ++ " has no name"))
  | some name =>
    match (metadata a).namespaceName with
    | none => .error (.configuration (name ++ " has no namespace"))
    | some ns => .ok (ns, name)

/-- Creates or removes an object. -/
def settle {α : Type} [Resource α] (a : α) (presence : Presence) :
    OperatorScript (Option Delay) := do
  let (ns, name) ← liftM (address a)
  match presence with
  | .present =>
    match ← viaClient (getObject? α ns name) with
    | some stored =>
      if (metadata stored).isTerminating then return some terminatingDelay
      else
        discard (viaClient (applyObject ns name a))
        return none
    | none =>
      discard (viaClient (createObject ns a))
      return none
  | .absent =>
    viaClient (unlessMissing (deleteObject α ns name none))
    return none

/-- The change of a volume's labels that sets a mark, on condition that the volume is as it was
observed. -/
def markPatch (volume : Claim) (status : DrainMark) : Json := .obj
  [("metadata", .obj
    [("resourceVersion", .ofOption (volume.metadata.resourceVersion.map .str)),
     ("labels", .obj [(statusLabel, .ofOption (status.labelValue?.map .str))])])]

/-- Marks a volume as drained, or takes the mark off. -/
def markVolume (volume : Claim) (status : DrainMark) : ClientScript Unit :=
  unlessMissing
    (discard (mergeObject Claim (volume.metadata.namespaceName.getD "default") (nameOf volume)
      (markPatch volume status)))

/-- How many workers a pool is to have: what its stateful set says, which is one where it says
nothing, and what the pool itself says while there is no stateful set; never less than none. -/
def desiredReplicas (p : BufferPool) : ClientScript Int32 := do
  let replicas : Int32 :=
    match ← getObject? StatefulSet p.namespaceName p.statefulSetName with
    | some set => (set.spec.bind StatefulSetSpec.replicas).getD 1
    | none => p.spec.replicas
  return if replicas < 0 then 0 else replicas

/-- Carries out a call to the store. -/
def carryOut : (call : StoreCall) → ApiScript call.Reply
  | .listVolumes ns selector => (viaClient (listAll Claim (some ns) (some selector))).run
  | .listPods ns selector => (viaClient (listAll Pod (some ns) (some selector))).run
  | .listJobs ns selector => (viaClient (listAll Job (some ns) (some selector))).run
  | .replicaCount p => (viaClient (desiredReplicas p)).run
  | .mark volume status => (viaClient (markVolume volume status)).run
  | .deleteJob job propagation =>
    (viaClient (unlessMissing
      (deleteObject Job (job.metadata.namespaceName.getD "default") (nameOf job)
        (some propagation)))).run
  | .settleJob job presence => (settle job presence).run
  | .settlePod pod presence => (settle pod presence).run

/-- A program that makes calls to the store, run against the API server. -/
def onCluster {α : Type} (script : StoreScript α) : ApiScript α := script.expand carryOut

end VolumeDrain.Api
