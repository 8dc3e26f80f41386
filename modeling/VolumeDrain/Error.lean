import VolumeDrain.Json.Codec
import VolumeDrain.Text.Quoted

/-!
# Errors

What can go wrong: in the API client, in building an object, at one volume of a drain pass, and in
the operator as a whole. An error of the operator may be a failed observation, which wraps another
error, or the errors of many volumes, each of which may wrap an error of the store. An error is
retriable if waiting alone can clear it.
-/
namespace VolumeDrain

/-- The API server's answer to a request it did not carry out. -/
structure ErrorResponse where
  status : String
  message : String
  reason : String
  code : Nat
deriving DecidableEq, Repr

/-- Why a request of the API client failed. -/
inductive ClientError where
  /-- The server answered with an error. -/
  | api (response : ErrorResponse)
  /-- No answer came. -/
  | transport (text : String)
  /-- The request names no object and was not sent. -/
  | emptyName
  /-- The answer is not an object of the kind asked for. -/
  | undecodable (error : DecodeError)
deriving DecidableEq, Repr

namespace ErrorResponse

/-- The fields of an answer as a diagnostic shows them. -/
def fieldsText (r : ErrorResponse) : String :=
  "ErrorResponse \x7b status: " ++ Text.quoted r.status ++ ", message: " ++
    Text.quoted r.message ++ ", reason: " ++ Text.quoted r.reason ++ ", code: " ++
    toString r.code ++ " \x7d"

end ErrorResponse

namespace ClientError

/-- The text of a client error. -/
def message : ClientError → String
  | api r => "ApiError: " ++ r.message ++ ": " ++ r.reason ++ " (" ++ r.fieldsText ++ ")"
  | transport text => "ServiceError: " ++ text
  | emptyName =>
    "Failed to build request: failed to validate request: A non-empty name is required"
  | undecodable e => "Error deserializing response: " ++ e.message

/-- The code of the server's answer, if it answered. -/
def code? : ClientError → Option Nat
  | api r => some r.code
  | _ => none

/-- Whether the server answered that there is no such object, by the code of its answer. -/
def isMissing (e : ClientError) : Bool := e.code? == some 404

/-- Whether the server refused the request because the object has changed or exists. -/
def isConflict (e : ClientError) : Bool := e.code? == some 409

/-- A conflict, a failure of the server and a failed connection can clear by themselves. -/
def isRetriable : ClientError → Bool
  | api r => r.code == 409 || 500 ≤ r.code
  | _ => true

end ClientError

/-- Why an object of a drain cannot be built. -/
inductive BuildError where
  | missingClaimName
  | noOrdinal (volume : String)
  | extraVolume (text : String)
deriving DecidableEq, Repr

/-- The text of a build error. -/
def BuildError.message : BuildError → String
  | missingClaimName => "buffer volume claim name is not set"
  | noOrdinal volume => "cannot derive an ordinal from volume name " ++ volume
  | extraVolume text => "extra volume: " ++ text

mutual

/-- Why the operator could not do its work. -/
inductive OperatorError where
  | client (error : ClientError)
  | serialization (text : String)
  | configuration (text : String)
  | validation (text : String)
  /-- One of the reads at the start of a pass failed, and with it the pass. -/
  | observation (what : String) (source : OperatorError)
  /-- Some volumes of a pass failed. -/
  | drain (errors : List VolumeError)

/-- What went wrong at one volume of a pass. -/
inductive VolumeError where
  | mk (volume : String) (fault : VolumeFault)

/-- Why nothing more could be done for a volume. -/
inductive VolumeFault where
  | build (error : BuildError)
  /-- A call to the store failed. -/
  | apply (operation : String) (source : OperatorError)
  /-- A call to the store met an object that somebody else had changed. -/
  | conflict (operation : String)
  /-- The drain job itself failed. -/
  | drainFailed (attempts : Int32)

end

namespace VolumeError

/-- The name of the volume. -/
def volume : VolumeError → String
  | mk volume _ => volume

/-- What went wrong. -/
def fault : VolumeError → VolumeFault
  | mk _ fault => fault

end VolumeError

mutual

/-- The text of an error of the operator. -/
def OperatorError.message : OperatorError → String
  | .client e => "Kubernetes API error: " ++ e.message
  | .serialization text => "Serialization error: " ++ text
  | .configuration text => "Configuration error: " ++ text
  | .validation text => "Validation error: " ++ text
  | .observation what source => "failed to observe " ++ what ++ ": " ++ source.message
  | .drain errors =>
    toString errors.length ++ " volume(s) failed" ++ VolumeError.messages ": " errors

/-- The text of an error at a volume. -/
def VolumeError.message : VolumeError → String
  | .mk volume fault => "volume " ++ volume ++ ": " ++ fault.message

/-- The text of what went wrong at a volume. -/
def VolumeFault.message : VolumeFault → String
  | .build e => "assembling drain resources: " ++ e.message
  | .apply operation source => operation ++ ": " ++ source.message
  | .conflict operation => operation ++ ": volume was modified concurrently"
  | .drainFailed attempts =>
    "draining failed after " ++ toString attempts.toInt ++ " attempt(s)"

/-- The texts of errors at volumes, each after a separator, the first after the one given. -/
def VolumeError.messages (separator : String) : List VolumeError → String
  | [] => ""
  | e :: rest => separator ++ e.message ++ VolumeError.messages "; " rest

end

mutual

/-- Whether waiting alone can clear an error. -/
def OperatorError.isRetriable : OperatorError → Bool
  | .client e => e.isRetriable
  | .serialization _ => false
  | .configuration _ => false
  | .validation _ => false
  | .observation _ source => source.isRetriable
  | .drain errors => VolumeError.anyRetriable errors

/-- Whether waiting alone can clear what went wrong at a volume. -/
def VolumeFault.isRetriable : VolumeFault → Bool
  | .build _ => false
  | .apply _ source => source.isRetriable
  | .conflict _ => true
  | .drainFailed _ => false

/-- Whether waiting alone can clear an error at a volume. -/
def VolumeError.isRetriable : VolumeError → Bool
  | .mk _ fault => fault.isRetriable

/-- Whether waiting alone can clear one of many errors. -/
def VolumeError.anyRetriable : List VolumeError → Bool
  | [] => false
  | e :: rest => e.isRetriable || VolumeError.anyRetriable rest

end

namespace VolumeFault

/-- The fault of a failed call to the store: a conflict where somebody else was first. -/
def ofStore (operation : String) : OperatorError → VolumeFault
  | .client e => if e.isConflict then .conflict operation else .apply operation (.client e)
  | e => .apply operation e

/-- Whether the drain job failed, rather than the operator. -/
def isDrainFailure : VolumeFault → Bool
  | drainFailed _ => true
  | _ => false

end VolumeFault

namespace OperatorError

/-- The label under which an error is counted. -/
def metricLabel : OperatorError → String
  | client _ => "kube"
  | serialization _ => "serialization"
  | configuration _ => "config"
  | validation _ => "validation"
  | observation _ _ => "observation"
  | drain _ => "drain"

end OperatorError

/-- Whether all errors at volumes are failed drain jobs. -/
def VolumeError.allDrainFailures (errors : List VolumeError) : Bool :=
  errors.all fun e => e.fault.isDrainFailure

end VolumeDrain
