import VolumeDrain.Json.Codec

/-!
# What is reported of a pool

The status of a buffer pool: its phase, the number of volumes in each state, and its conditions.
-/
namespace VolumeDrain.Pool

/-- The number of volumes in each state. -/
structure StateCounts where
  inUse : Int32 := 0
  available : Int32 := 0
  draining : Int32 := 0
  drained : Int32 := 0
  failed : Int32 := 0
deriving DecidableEq

instance : Encode StateCounts where
  encode c := .record
    [field "inUse" c.inUse, field "available" c.available, field "draining" c.draining,
     field "drained" c.drained, field "failed" c.failed]

instance : Decode StateCounts where
  decode j := do
    let f ← Fields.ofJson 5 j
    return {
      inUse := ← f.required 0 "inUse"
      available := ← f.required 1 "available"
      draining := ← f.required 2 "draining"
      drained := ← f.required 3 "drained"
      failed := ← f.required 4 "failed" }

/-- One aspect of a pool's state: whether it holds, since when and why. -/
structure Condition where
  type : String
  status : String
  lastTransitionTime : String
  reason : String
  message : String
  observedGeneration : Option Int64 := none
deriving DecidableEq

instance : Encode Condition where
  encode c := .record
    [field "type" c.type, field "status" c.status,
     field "lastTransitionTime" c.lastTransitionTime, field "reason" c.reason,
     field "message" c.message, field? "observedGeneration" c.observedGeneration]

instance : Decode Condition where
  decode j := do
    let f ← Fields.ofJson 6 j
    return {
      type := ← f.required 0 "type"
      status := ← f.required 1 "status"
      lastTransitionTime := ← f.required 2 "lastTransitionTime"
      reason := ← f.required 3 "reason"
      message := ← f.required 4 "message"
      observedGeneration := ← f.nullable 5 "observedGeneration" }

/-- The status of a pool. The replica count is the one its last pass saw. -/
structure Status where
  phase : String := ""
  message : Option String := none
  observedGeneration : Option Int64 := none
  replicas : Int32 := 0
  volumes : StateCounts := {}
  conditions : List Condition := []
deriving DecidableEq

instance : Encode Status where
  encode s := .record
    [field "phase" s.phase, field? "message" s.message,
     field? "observedGeneration" s.observedGeneration, field "replicas" s.replicas,
     field "volumes" s.volumes, field "conditions" s.conditions]

instance : Decode Status where
  decode j := do
    let f ← Fields.ofJson 6 j
    return {
      phase := ← f.withDefault 0 "phase" ""
      message := ← f.optional 1 "message"
      observedGeneration := ← f.optional 2 "observedGeneration"
      replicas := ← f.withDefault 3 "replicas" 0
      volumes := ← f.withDefault 4 "volumes" {}
      conditions := ← f.withDefault 5 "conditions" [] }

end VolumeDrain.Pool
