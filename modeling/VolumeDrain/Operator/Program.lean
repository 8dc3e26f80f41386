import VolumeDrain.Operator.CommandLine
import VolumeDrain.Operator.View

/-!
# The program

What the program prints for its subcommands, the diagnostic in which it ends after an error, and
its exit codes.
-/
namespace VolumeDrain.Operator

open Api Pool

/-- When and from what the program was built. -/
structure Build where
  date : String := "unknown"
  revision : String := "unknown"
  compiler : String := "unknown"

/-- What is printed of the version. -/
def versionText (b : Build) : String :=
  "Buffer Drain Operator v" ++ version ++ "\n" ++
    "Build Date: " ++ b.date ++ "\n" ++
    "Git SHA: " ++ b.revision ++ "\n" ++
    "Rust Version: " ++ b.compiler ++ "\n"

/-- The line about one pool. -/
def infoLine (p : BufferPool) : String :=
  let status := p.status.getD {}
  let v := status.volumes
  "  " ++ p.metadata.namespaceName.getD "" ++ "/" ++ p.name ++ ": phase=" ++ phaseOf status ++
    " replicas=" ++ toString status.replicas.toInt ++
    " in-use=" ++ toString v.inUse.toInt ++
    " available=" ++ toString v.available.toInt ++
    " draining=" ++ toString v.draining.toInt ++
    " drained=" ++ toString v.drained.toInt ++
    " failed=" ++ toString v.failed.toInt ++ "\n"

/-- What is printed of pools. -/
def infoText (pools : List BufferPool) : String :=
  "Managed BufferPools: " ++ toString pools.length ++ "\n" ++ String.join (pools.map infoLine)

/-- Lists the pools of a namespace, or of all, and tells of each. -/
def info (namespaceName : Option String) : OperatorScript String := do
  return infoText (← viaClient (listAll BufferPool namespaceName none))

/-- The diagnostic of an error. -/
def diagnostic : OperatorError → String
  | .client (.api r) => "KubeError(Api(" ++ r.fieldsText ++ "))"
  | .client e => "KubeError(" ++ e.message ++ ")"
  | .serialization text => "SerializationError(" ++ Text.quoted text ++ ")"
  | .configuration text => "ConfigError(" ++ Text.quoted text ++ ")"
  | .validation text => "ValidationError(" ++ Text.quoted text ++ ")"
  | .observation what source =>
    "ObservationError \x7b what: " ++ Text.quoted what ++ ", source: " ++ diagnostic source ++
      " \x7d"
  | .drain errors => "DrainErrors(" ++ Text.quoted (OperatorError.drain errors).message ++ ")"

/-- The error when there is no cluster to talk to. -/
def noCluster : OperatorError := .client (.transport "no cluster is configured")

/-- The exit code after an error. -/
def failureCode : Nat := 1

/-- The exit code when no command came of the arguments. Asking for help or for the version is no
failure. -/
def Refusal.exitCode : Refusal → Nat
  | .help => 0
  | .version => 0
  | _ => 2

/-- What is printed when no command came of the arguments. -/
def Refusal.message : Refusal → String
  | help => "Usage: buffer-drain-operator <run|version|info|help>"
  | version => "buffer-drain-operator " ++ Operator.version
  | nothing => "Usage: buffer-drain-operator <run|version|info|help>"
  | unknownSubcommand => "error: unrecognized subcommand"
  | unknownArgument => "error: unexpected argument"
  | invalidValue => "error: a value is missing or not among those allowed"
  | unreadableValue => "error: invalid value"
  | surplusValue => "error: unexpected value"
  | givenTwice => "error: an option cannot be used multiple times"

end VolumeDrain.Operator
