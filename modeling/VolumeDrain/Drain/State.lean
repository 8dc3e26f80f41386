import VolumeDrain.Manifest.Workload

/-!
# The life of a buffer volume

What a pass sees of a volume, the state this puts it in, and the action that follows. A succeeded
job is finished even where its volume is needed again; only a volume already marked as drained is
reclaimed first. A placeholder has its place beside a drain job alone: one found without a job is
released once nothing else is left to do.
-/
namespace VolumeDrain.Drain

open Manifest

/-- The label that says whether a volume is drained. -/
def statusLabel : String := "buffering.dev/drain-status"

/-- The value of that label on a drained volume. -/
def drainedText : String := "drained"

/-- Whether a volume is marked as drained. -/
inductive DrainMark where
  | drained
  | unmarked
deriving DecidableEq, Repr

namespace DrainMark

/-- The mark that labels carry. -/
def ofLabels (labels : Labels) : DrainMark :=
  if labels.get? statusLabel = some drainedText then drained else unmarked

/-- The label's value for a mark; there is no label without the mark. -/
def labelValue? : DrainMark → Option String
  | drained => some drainedText
  | unmarked => none

end DrainMark

/-- How far a drain job has come. -/
inductive JobProgress where
  | running
  | succeeded
  | failed (attempts : Int32)
deriving DecidableEq, Repr

namespace JobProgress

/-- The phase that a job's status reports. A job that has completed with a success counts as
succeeded whatever else it reports. -/
def ofStatus (status : Option JobStatus) : JobProgress :=
  let completed := (status.bind JobStatus.completionTime).isSome
  let successes := (status.bind JobStatus.succeeded).getD 0
  let failures := (status.bind JobStatus.failed).getD 0
  if completed && 0 < successes then succeeded
  else if 0 < failures then failed failures
  else running

/-- The phase of a job. -/
def of (job : Job) : JobProgress := ofStatus job.status

end JobProgress

/-- What a pass knows of one volume. -/
structure Sight where
  mark : DrainMark
  /-- A worker uses the volume, or its ordinal is among those the pool is to have. -/
  inUse : Bool
  job : Option JobProgress
  /-- A placeholder that is not being deleted holds the volume's ordinal. -/
  placeholder : Bool
deriving DecidableEq, Repr

/-- The state of a volume. -/
inductive VolumeState where
  | inUse
  | available
  | draining
  | drained
  | failed (attempts : Int32)
deriving DecidableEq, Repr

namespace VolumeState

/-- The state that a sight puts the volume in. -/
def of (sight : Sight) : VolumeState :=
  if sight.inUse then inUse
  else
    match sight.job with
    | some (.failed attempts) => failed attempts
    | some _ => draining
    | none => if sight.mark = .drained then drained else available

/-- The name of a state. -/
def text : VolumeState → String
  | inUse => "in-use"
  | available => "available"
  | draining => "draining"
  | drained => "drained"
  | failed _ => "failed"

end VolumeState

/-- What is done about a volume. -/
inductive DrainAction where
  | none
  /-- Take the mark off a volume that a worker uses again. -/
  | reclaim
  /-- Reserve the ordinal and start a job. -/
  | start
  /-- Stop a job whose volume is needed again; the placeholder stays until the job is gone. -/
  | cancel
  /-- Mark the volume, then remove the placeholder, then the job. -/
  | finish
  /-- Remove a placeholder that has no job. -/
  | release
  /-- Report a failed job and leave everything as it is. -/
  | reportFailure (attempts : Int32)
deriving DecidableEq, Repr

/-- The name of an action. -/
def DrainAction.text : DrainAction → String
  | none => "none"
  | reclaim => "reclaim"
  | start => "start"
  | cancel => "cancel"
  | finish => "finish"
  | release => "release"
  | reportFailure _ => "report-failure"

/-- The action for a volume in a state. -/
def VolumeState.nextAction (state : VolumeState) (sight : Sight) : DrainAction :=
  match state with
  | .inUse =>
    if sight.mark = .drained then .reclaim
    else if sight.job = some .succeeded then .finish
    else if sight.job.isSome then .cancel
    else if sight.placeholder then .release
    else .none
  | .draining => if sight.job = some .succeeded then .finish else .none
  | .failed attempts => .reportFailure attempts
  | .drained => if sight.placeholder then .release else .none
  | .available => .start

end VolumeDrain.Drain
