import VolumeDrain.Pool.Spec
import VolumeDrain.Text.Blank

/-!
# Valid specifications

The rules that a pool's specification has to keep beyond its types. Checking reports every broken
rule, in the order in which the rules stand here.
-/
namespace VolumeDrain.Pool

/-- A broken rule: the field and what is wrong with it. -/
structure SpecError where
  field : String
  message : String
deriving DecidableEq, Repr

/-- The text of a broken rule. -/
def SpecError.text (e : SpecError) : String := e.field ++ ": " ++ e.message

/-- Whether a character may stand in a DNS label. -/
def isLabelChar (c : Char) : Bool :=
  ('a' ≤ c && c ≤ 'z') || ('0' ≤ c && c ≤ '9') || c == '-'

/-- Whether a text is a lowercase label of RFC 1123. -/
def isDnsLabel (s : String) : Bool :=
  let cs := s.toList
  !cs.isEmpty && cs.length ≤ 63 && cs.all isLabelChar && cs.head? != some '-' &&
    cs.getLast? != some '-'

namespace Spec

/-- The error of a rule, if it is broken. -/
def errorIf (broken : Bool) (field message : String) : List SpecError :=
  if broken then [⟨field, message⟩] else []

/-- The broken rules about draining; there are none while it is off. -/
def drainFieldErrors (s : Spec) : List SpecError :=
  let drain := s.scaling.drain
  if drain.enabled then
    errorIf (Text.isBlank drain.image.repository) "spec.scaling.drain.image.repository"
      "drain-watch image repository must be set when draining is enabled" ++
    errorIf (drain.backoffLimit.any (· < 0)) "spec.scaling.drain.backoffLimit"
      "backoff limit must not be negative"
  else []

/-- The broken rules about extra volumes from a place of the list on: a name may not repeat an
earlier one, nor be that of the buffer volume. -/
def extraVolumeErrors (claimName : String) (seen : List String) (place : Nat) :
    List ExtraVolume → List SpecError
  | [] => []
  | v :: rest =>
    let field := "spec.extraVolumes[" ++ toString place ++ "].volumeName"
    errorIf (seen.contains v.volumeName) field ("duplicate volume name " ++ v.volumeName) ++
    errorIf (v.volumeName == claimName) field "volume name collides with the buffer volume" ++
    extraVolumeErrors claimName (v.volumeName :: seen) (place + 1) rest

/-- Every broken rule of a specification. -/
def errors (s : Spec) : List SpecError :=
  errorIf (s.replicas < 0) "spec.replicas" "replicas must not be negative" ++
  errorIf (Text.isBlank s.image.repository) "spec.image.repository"
    "worker image repository must be set" ++
  errorIf (!isDnsLabel s.bufferStorage.claimName) "spec.bufferStorage.claimName"
    "claim name must be a lowercase RFC 1123 label" ++
  s.drainFieldErrors ++
  extraVolumeErrors s.bufferStorage.claimName [] 0 s.extraVolumes

/-- Whether a specification keeps every rule. -/
def isValid (s : Spec) : Bool := s.errors.isEmpty

end Spec

end VolumeDrain.Pool
