import VolumeDrain.Error
import VolumeDrain.Pool.Basic
import VolumeDrain.Pool.Conditions

/-!
# Reporting on a pool

The status that a reconcile writes: after a pass, while draining is off, and when the pool could
not be reconciled at all. Each is made from the pool's last status, whose conditions it carries on.
-/
namespace VolumeDrain.Operator

open Pool

/-- The conditions of the pool's last status. -/
def lastConditions (p : BufferPool) : List Condition :=
  match p.status with
  | some s => s.conditions
  | none => []

/-- The errors that are no failed drain jobs. -/
def operatorErrors (errors : List VolumeError) : List VolumeError :=
  errors.filter fun e => !e.fault.isDrainFailure

/-- What the ready condition is set to after a pass. -/
def readyAfterPass (p : BufferPool) (errors : List VolumeError) : ConditionUpdate :=
  if (operatorErrors errors).isEmpty then
    { type := Condition.readyType, holds := true, reason := "Reconciled",
      message := "Worker resources applied", generation := p.metadata.generation }
  else
    { type := Condition.readyType, holds := false, reason := "DrainPassIncomplete",
      message := (OperatorError.drain errors).message, generation := p.metadata.generation }

/-- What the draining condition is set to after a pass. -/
def drainingAfterPass (p : BufferPool) (counts : StateCounts) : ConditionUpdate where
  type := Condition.drainingType
  holds := 0 < counts.draining
  reason := if 0 < counts.draining then "DrainJobsRunning" else "NoDrainJobs"
  message := toString counts.draining.toInt ++ " volume(s) draining"
  generation := p.metadata.generation

/-- What the condition of failed drains is set to after a pass. -/
def drainFailedAfterPass (p : BufferPool) (counts : StateCounts) : ConditionUpdate where
  type := Condition.drainFailedType
  holds := 0 < counts.failed
  reason := if 0 < counts.failed then "DrainJobFailed" else "NoFailures"
  message := toString counts.failed.toInt ++ " drain job(s) failed"
  generation := p.metadata.generation

/-- The phase after a pass, and its message. -/
def phaseAfterPass (counts : StateCounts) (errors : List VolumeError) :
    String × Option String :=
  if !(operatorErrors errors).isEmpty then
    ("Degraded", some (OperatorError.drain errors).message)
  else if 0 < counts.failed then
    ("Degraded", some (toString counts.failed.toInt ++ " drain job(s) failed"))
  else if 0 < counts.draining then ("Draining", none)
  else ("Ready", none)

/-- The status after a pass. -/
def statusAfterPass (now : String) (p : BufferPool) (replicas : Int32) (counts : StateCounts)
    (errors : List VolumeError) : Status where
  phase := (phaseAfterPass counts errors).1
  message := (phaseAfterPass counts errors).2
  observedGeneration := p.metadata.generation
  replicas := replicas
  volumes := counts
  conditions :=
    [readyAfterPass p errors, drainingAfterPass p counts, drainFailedAfterPass p counts].foldl
      (fun conditions u => updateConditions now u conditions) (lastConditions p)

/-- The status while draining is off. Only the ready condition is kept. -/
def statusWithoutDraining (now : String) (p : BufferPool) : Status where
  phase := "Ready"
  observedGeneration := p.metadata.generation
  replicas := p.spec.replicas
  conditions :=
    updateConditions now
      { type := Condition.readyType, holds := true, reason := "Reconciled",
        message := "Worker resources applied, draining disabled",
        generation := p.metadata.generation }
      ((lastConditions p).filter fun c => c.type == Condition.readyType)

/-- The status when the pool could not be reconciled. The counts of the last status are kept. -/
def statusOfFailure (now : String) (p : BufferPool) (reason message : String) : Status :=
  let previous := p.status.getD {}
  { previous with
    phase := "Failed"
    message := some message
    observedGeneration := p.metadata.generation
    conditions :=
      updateConditions now
        { type := Condition.readyType, holds := false, reason, message,
          generation := p.metadata.generation } previous.conditions }

end VolumeDrain.Operator
