import VolumeDrain.Manifest.Pod
import VolumeDrain.Pool.Spec

/-!
# Extra volumes of a pod

Adding a configured volume to a pod: a mount in the container it names and the volume itself. A
volume whose sources are not exactly one, or whose container is not there, is refused and leaves
the pod as it was.
-/
namespace VolumeDrain.Worker

open Manifest Pool

/-- Why an extra volume cannot be added. -/
inductive ExtraVolumeError where
  | noSource (volume : String)
  | manySources (volume : String) (count : Nat)
  | noContainer (volume container : String)
deriving DecidableEq, Repr

/-- The text of a refusal. -/
def ExtraVolumeError.message : ExtraVolumeError → String
  | noSource volume => "volume " ++ volume ++ " has no source"
  | manySources volume count =>
    "volume " ++ volume ++ " declares " ++ toString count ++ " sources, expected exactly one"
  | noContainer volume container =>
    "volume " ++ volume ++ " targets container " ++ container ++
      " which is not part of the pod"

/-- `true`, set only where it holds. -/
def setIf (flag : Bool) : Option Bool := if flag then some true else none

/-- The mount of an extra volume in its container. -/
def extraMount (extra : ExtraVolume) : VolumeMount where
  name := extra.volumeName
  mountPath := extra.path
  readOnly := setIf extra.readOnly

/-- The volume of a pod that an extra volume stands for. -/
def extraPodVolume (extra : ExtraVolume) : Volume where
  name := extra.volumeName
  claim := extra.source.persistentVolumeClaim.map fun claim =>
    { claimName := claim, readOnly := setIf extra.readOnly }
  configMap := extra.source.configMap.map fun name => .record [field "name" name]
  secret := extra.source.secret.map fun name => .record [field "secretName" name]
  hostPath := extra.source.hostPath.map fun path => .record [field "path" path]
  emptyDir := if extra.source.emptyDir then some (.obj []) else none

/-- The containers with a mount added to the first of a name, if there is one. -/
def addMountTo (containerName : String) (mount : VolumeMount) :
    List Container → Option (List Container)
  | [] => none
  | c :: rest =>
    if c.name == containerName then some (c.addMount mount :: rest)
    else (addMountTo containerName mount rest).map (c :: ·)

/-- Adds an extra volume to a pod in place: first the mount, then the volume. Whatever has been done
to the pod when the volume is refused stays done. -/
def attach (extra : ExtraVolume) : ExceptT ExtraVolumeError (StateM PodSpec) Unit := do
  match extra.source.count with
  | 0 => throw (.noSource extra.volumeName)
  | 1 => pure ()
  | n => throw (.manySources extra.volumeName n)
  match addMountTo extra.containerName (extraMount extra) (← get).containers with
  | none => throw (.noContainer extra.volumeName extra.containerName)
  | some containers => modify fun pod => { pod with containers }
  modify fun pod => { pod with volumes := some (pod.volumeList ++ [extraPodVolume extra]) }

/-- Adds extra volumes to a pod in turn, each to what the ones before have made of it, be they
refused or not. -/
def attachAll : List ExtraVolume → StateM PodSpec (List (Except ExtraVolumeError Unit))
  | [] => return []
  | extra :: rest => do
    let result ← (attach extra).run
    return result :: (← attachAll rest)

/-- The pod with one extra volume. -/
def addExtraVolume (pod : PodSpec) (extra : ExtraVolume) : Except ExtraVolumeError PodSpec :=
  match extra.source.count with
  | 0 => .error (.noSource extra.volumeName)
  | 1 =>
    match addMountTo extra.containerName (extraMount extra) pod.containers with
    | none => .error (.noContainer extra.volumeName extra.containerName)
    | some containers =>
      .ok { pod with
        containers
        volumes := some (pod.volumeList ++ [extraPodVolume extra]) }
  | n => .error (.manySources extra.volumeName n)

/-- The pod with extra volumes added in turn, up to the first that is refused. -/
def addExtraVolumes (pod : PodSpec) (extras : List ExtraVolume) : Except ExtraVolumeError PodSpec :=
  extras.foldlM addExtraVolume pod

end VolumeDrain.Worker
