import VolumeDrain.Pool.Status

/-!
# Conditions of a pool

Setting and reading the conditions of a status. There is one condition of each type, and its time
moves only when its status changes.
-/
namespace VolumeDrain.Pool

namespace Condition

/-- The type of the condition that the workers are applied and the last pass succeeded. -/
def readyType : String := "Ready"

/-- The type of the condition that some volume is being drained. -/
def drainingType : String := "Draining"

/-- The type of the condition that some drain job has failed. -/
def drainFailedType : String := "DrainFailed"

/-- The status of a condition that holds or does not. -/
def statusText (holds : Bool) : String := if holds then "True" else "False"

/-- A new condition that tells whether the pool is ready. -/
def ready (now : String) (holds : Bool) (reason message : String) : Condition where
  type := readyType
  status := statusText holds
  lastTransitionTime := now
  reason := reason
  message := message

/-- Whether a condition holds. -/
def isTrue (c : Condition) : Bool := c.status == statusText true

end Condition

/-- What a condition is set to. -/
structure ConditionUpdate where
  type : String
  holds : Bool
  reason : String
  message : String
  generation : Option Int64 := none

namespace ConditionUpdate

/-- The condition that an update adds where there is none of its type. -/
def fresh (u : ConditionUpdate) (now : String) : Condition where
  type := u.type
  status := Condition.statusText u.holds
  lastTransitionTime := now
  reason := u.reason
  message := u.message
  observedGeneration := u.generation

/-- The condition that an update makes of one of its type. -/
def applyTo (u : ConditionUpdate) (now : String) (c : Condition) : Condition :=
  let status := Condition.statusText u.holds
  { c with
    status
    lastTransitionTime := if c.status = status then c.lastTransitionTime else now
    reason := u.reason
    message := u.message
    observedGeneration := u.generation }

end ConditionUpdate

/-- Applies an update to conditions: the first of its type is changed, or a new one is added at the
end. -/
def updateConditions (now : String) (u : ConditionUpdate) : List Condition → List Condition
  | [] => [u.fresh now]
  | c :: rest =>
    if c.type = u.type then u.applyTo now c :: rest else c :: updateConditions now u rest

/-- The first condition of a type. -/
def conditionOf? (type : String) (conditions : List Condition) : Option Condition :=
  conditions.find? fun c => c.type == type

/-- Whether the condition of a type is there and holds. -/
def conditionHolds (type : String) (conditions : List Condition) : Bool :=
  (conditionOf? type conditions).any Condition.isTrue

end VolumeDrain.Pool
