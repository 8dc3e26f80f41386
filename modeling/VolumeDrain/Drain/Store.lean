import VolumeDrain.Drain.Objects
import VolumeDrain.Drain.State
import VolumeDrain.Script
import VolumeDrain.Time.Delay

/-!
# The store of a drain

The calls that a drain pass makes to the cluster, and the replies it gets. A mark is set only if
the volume is still as it was observed; a volume or job that is gone is no failure.
-/
namespace VolumeDrain.Drain

open Manifest

/-- Whether an object is to exist. -/
inductive Presence where
  | present
  | absent
deriving DecidableEq, Repr

/-- What becomes of the objects that a deleted object owns. -/
inductive Propagation where
  /-- They are deleted first; until then their owner stays. -/
  | foreground
  /-- They are deleted some time after their owner. -/
  | background
deriving DecidableEq, Repr

/-- A call to the store. -/
inductive StoreCall where
  | listVolumes (namespaceName selector : String)
  | listPods (namespaceName selector : String)
  | listJobs (namespaceName selector : String)
  /-- How many workers the pool is to have. -/
  | replicaCount (pool : BufferPool)
  | mark (volume : Claim) (status : DrainMark)
  | deleteJob (job : Job) (propagation : Propagation)
  | settleJob (job : Job) (presence : Presence)
  | settlePod (pod : Pod) (presence : Presence)

/-- The reply to a call. Settling an object may ask the caller to come back after a delay. -/
def StoreCall.Reply : StoreCall → Type
  | listVolumes _ _ => Except OperatorError (List Claim)
  | listPods _ _ => Except OperatorError (List Pod)
  | listJobs _ _ => Except OperatorError (List Job)
  | replicaCount _ => Except OperatorError Int32
  | mark _ _ => Except OperatorError Unit
  | deleteJob _ _ => Except OperatorError Unit
  | settleJob _ _ => Except OperatorError (Option Delay)
  | settlePod _ _ => Except OperatorError (Option Delay)

/-- A program that makes calls to the store. -/
abbrev StoreScript := Script StoreCall.Reply

namespace StoreScript

/-- Lists the volumes that a selector selects. -/
def listVolumes (namespaceName selector : String) :
    StoreScript (Except OperatorError (List Claim)) :=
  Script.question (StoreCall.listVolumes namespaceName selector)

/-- Lists the pods that a selector selects. -/
def listPods (namespaceName selector : String) : StoreScript (Except OperatorError (List Pod)) :=
  Script.question (StoreCall.listPods namespaceName selector)

/-- Lists the jobs that a selector selects. -/
def listJobs (namespaceName selector : String) : StoreScript (Except OperatorError (List Job)) :=
  Script.question (StoreCall.listJobs namespaceName selector)

/-- Asks how many workers a pool is to have. -/
def replicaCount (pool : BufferPool) : StoreScript (Except OperatorError Int32) :=
  Script.question (StoreCall.replicaCount pool)

/-- Marks a volume as drained, or takes the mark off. -/
def mark (volume : Claim) (status : DrainMark) : StoreScript (Except OperatorError Unit) :=
  Script.question (StoreCall.mark volume status)

/-- Deletes a job. -/
def deleteJob (job : Job) (propagation : Propagation) : StoreScript (Except OperatorError Unit) :=
  Script.question (StoreCall.deleteJob job propagation)

/-- Creates or removes a job. -/
def settleJob (job : Job) (presence : Presence) :
    StoreScript (Except OperatorError (Option Delay)) :=
  Script.question (StoreCall.settleJob job presence)

/-- Creates or removes a pod. -/
def settlePod (pod : Pod) (presence : Presence) :
    StoreScript (Except OperatorError (Option Delay)) :=
  Script.question (StoreCall.settlePod pod presence)

end StoreScript

end VolumeDrain.Drain
