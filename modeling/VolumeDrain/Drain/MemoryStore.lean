import VolumeDrain.Drain.Pass

/-!
# A store in memory

A store that keeps volumes, pods and jobs in maps by name, answers the calls of a pass, records
them, and can be told to fail or to delay some of them. Listing takes no heed of namespaces.
-/
namespace VolumeDrain.Drain

open Manifest

/-- The kinds of calls that a fault can strike. -/
inductive CallKind where
  | listVolumes
  | listPods
  | listJobs
  | mark
  | deleteJob
  | settleJob
  | settlePod
deriving DecidableEq, Repr

/-- What a fault does to a call. -/
inductive FaultEffect where
  | fail (error : OperatorError)
  /-- Settling an object returns a delay and does nothing. -/
  | delay (delay : Delay)

/-- A fault that strikes matching calls a number of times. -/
structure StoreFault where
  kind : CallKind
  name : Option String
  times : Nat
  effect : FaultEffect

/-- Whether a fault strikes a call. -/
def StoreFault.strikes (fault : StoreFault) (kind : CallKind) (name : Option String) : Bool :=
  0 < fault.times && fault.kind = kind && (fault.name.isNone || fault.name == name)

/-- Volumes, pods and jobs by name, how many workers the pool is to have, the faults still to
strike, and the calls made so far. -/
structure MemoryStore where
  volumes : KeyMap Claim := ∅
  pods : KeyMap Pod := ∅
  jobs : KeyMap Job := ∅
  replicas : Except OperatorError Int32 := .ok 0
  faults : List StoreFault := []
  calls : List String := []
  now : Instant := ⟨0⟩

/-- The name of a mark. -/
def DrainMark.name : DrainMark → String
  | drained => "Drained"
  | unmarked => "Unmarked"

/-- The name of a presence. -/
def Presence.name : Presence → String
  | present => "Present"
  | absent => "Absent"

/-- The name of a propagation. -/
def Propagation.name : Propagation → String
  | foreground => "Foreground"
  | background => "Background"

/-- The role that a selector asks for. -/
def selectedRole (selector : String) : Option String :=
  (Selector.read selector).findSome? fun
    | .is key value => if key = "app.kubernetes.io/component" then some value else none
    | _ => none

namespace StoreCall

/-- The call as it is recorded. Asking for the replica count is not recorded. -/
def text? : StoreCall → Option String
  | listVolumes ns selector => some ("list-volumes " ++ ns ++ " " ++ selector)
  | listPods ns selector => some ("list-pods " ++ ns ++ " " ++ selector)
  | listJobs ns selector => some ("list-jobs " ++ ns ++ " " ++ selector)
  | replicaCount _ => none
  | mark volume status => some ("patch " ++ nameOf volume ++ " " ++ status.name)
  | deleteJob job propagation => some ("delete-job " ++ nameOf job ++ " " ++ propagation.name)
  | settleJob job presence => some ("job " ++ nameOf job ++ " " ++ presence.name)
  | settlePod pod presence => some ("pod " ++ nameOf pod ++ " " ++ presence.name)

/-- The kind of a call, and the name by which a fault can pick it. -/
def target? : StoreCall → Option (CallKind × Option String)
  | listVolumes _ _ => some (.listVolumes, none)
  | listPods _ selector => some (.listPods, selectedRole selector)
  | listJobs _ _ => some (.listJobs, none)
  | replicaCount _ => none
  | mark volume _ => some (.mark, some (nameOf volume))
  | deleteJob job _ => some (.deleteJob, some (nameOf job))
  | settleJob job _ => some (.settleJob, some (nameOf job))
  | settlePod pod _ => some (.settlePod, some (nameOf pod))

/-- The reply to a call that a fault strikes. A delay only strikes where something is settled. -/
def struck (call : StoreCall) (effect : FaultEffect) : Option call.Reply :=
  match call, effect with
  | listVolumes _ _, .fail e => some (.error e)
  | listPods _ _, .fail e => some (.error e)
  | listJobs _ _, .fail e => some (.error e)
  | replicaCount _, .fail e => some (.error e)
  | mark _ _, .fail e => some (.error e)
  | deleteJob _ _, .fail e => some (.error e)
  | settleJob _ _, .fail e => some (.error e)
  | settlePod _ _, .fail e => some (.error e)
  | settleJob _ _, .delay d => some (.ok (some d))
  | settlePod _ _, .delay d => some (.ok (some d))
  | _, .delay _ => none

end StoreCall

namespace MemoryStore

/-- The effect of the first fault that strikes, and the faults with that one used up by one. -/
def useFault (kind : CallKind) (name : Option String) :
    List StoreFault → Option (FaultEffect × List StoreFault)
  | [] => none
  | fault :: rest =>
    if fault.strikes kind name then
      some (fault.effect, { fault with times := fault.times - 1 } :: rest)
    else (useFault kind name rest).map fun r => (r.1, fault :: r.2)

/-- The values of a map whose objects a selector selects. -/
def selected {α : Type} [Resource α] (objects : KeyMap α) (selector : String) : List α :=
  objects.values.filter fun a => (Selector.read selector).holds (metadata a).labelMap

/-- The claim with a label set, or taken off. -/
def withLabel (volume : Claim) (key : String) (value : Option String) : Claim :=
  let labels := volume.metadata.labelMap
  let labels := match value with
    | some value => labels.insert key value
    | none => labels.erase key
  { volume with metadata := { volume.metadata with labels := some labels } }

/-- Carries out a call that no fault strikes. -/
def carryOut (call : StoreCall) (s : MemoryStore) : call.Reply × MemoryStore :=
  match call with
  | .listVolumes _ selector => (.ok (selected s.volumes selector), s)
  | .listPods _ selector => (.ok (selected s.pods selector), s)
  | .listJobs _ selector => (.ok (selected s.jobs selector), s)
  | .replicaCount _ => (s.replicas, s)
  | .mark volume status =>
    match s.volumes.get? (nameOf volume) with
    | none => (.ok (), s)
    | some stored =>
      let marked := withLabel stored statusLabel status.labelValue?
      (.ok (), { s with volumes := s.volumes.insert (nameOf volume) marked })
  | .deleteJob job .background => (.ok (), { s with jobs := s.jobs.erase (nameOf job) })
  | .deleteJob job .foreground =>
    match s.jobs.get? (nameOf job) with
    | none => (.ok (), s)
    | some stored =>
      let dying : Job :=
        { stored with metadata := { stored.metadata with deletionTimestamp := some s.now } }
      (.ok (), { s with jobs := s.jobs.insert (nameOf job) dying })
  | .settleJob job .present =>
    if s.jobs.contains (nameOf job) then (.ok none, s)
    else (.ok none, { s with jobs := s.jobs.insert (nameOf job) job })
  | .settleJob job .absent => (.ok none, { s with jobs := s.jobs.erase (nameOf job) })
  | .settlePod pod .present =>
    match s.pods.get? (nameOf pod) with
    | some stored =>
      if stored.metadata.isTerminating then (.ok (some (.seconds 5)), s) else (.ok none, s)
    | none => (.ok none, { s with pods := s.pods.insert (nameOf pod) pod })
  | .settlePod pod .absent => (.ok none, { s with pods := s.pods.erase (nameOf pod) })

/-- Answers a call: it is recorded, then met by a fault or carried out. -/
def answer (call : StoreCall) (s : MemoryStore) : call.Reply × MemoryStore :=
  let s := { s with calls := s.calls ++ call.text?.toList }
  match call.target?.bind fun t => useFault t.1 t.2 s.faults with
  | none => carryOut call s
  | some (effect, faults) =>
    match call.struck effect with
    | some reply => (reply, { s with faults })
    | none => carryOut call { s with faults }

/-- The store after a label of a volume was set or taken off, if there is the volume. -/
def setLabel (s : MemoryStore) (volume key : String) (value : Option String) :
    Option MemoryStore :=
  (s.volumes.get? volume).map fun stored =>
    { s with volumes := s.volumes.insert volume (withLabel stored key value) }

/-- The store after a job reported a new status, if there is the job. -/
def setJobStatus (s : MemoryStore) (job : String) (status : JobStatus) : Option MemoryStore :=
  (s.jobs.get? job).map fun stored =>
    { s with jobs := s.jobs.insert job { stored with status := some status } }

/-- The store after every deletion under way has come to its end. -/
def finishDeletions (s : MemoryStore) : MemoryStore :=
  { s with
    pods := s.pods.filter fun _ pod => !pod.metadata.isTerminating
    jobs := s.jobs.filter fun _ job => !job.metadata.isTerminating }

end MemoryStore

end VolumeDrain.Drain
