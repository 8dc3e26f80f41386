import VolumeDrain.Operator.Program

/-!
# The command line program

Reads the command line and the environment, and prints. Without a cluster to talk to, the
subcommands that need one end in an error.
-/
namespace VolumeDrain.Operator

/-- The variables of the environment that stand for options. -/
def readEnvironment : List Setting → IO (List (String × String))
  | [] => return []
  | setting :: rest => do
    let found ← readEnvironment rest
    match ← IO.getEnv setting.environmentName with
    | some value => return (setting.environmentName, value) :: found
    | none => return found

/-- Carries out a command and returns the exit code. -/
def carryOutCommand : Command → IO Nat
  | .version => do
    IO.print (versionText {})
    return 0
  | .info _ => do
    IO.eprintln ("Error: " ++ diagnostic noCluster)
    return failureCode
  | .run _ => do
    IO.eprintln ("Error: " ++ diagnostic noCluster)
    return failureCode

/-- Reads the arguments, carries out the command and returns the exit code. -/
def runProgram (args : List String) : IO Nat := do
  match Command.read args (← readEnvironment Command.runSettings) with
  | .ok command => carryOutCommand command
  | .error refusal =>
    if refusal.exitCode = 0 then IO.println refusal.message else IO.eprintln refusal.message
    return refusal.exitCode

end VolumeDrain.Operator

/-- The program. -/
def main (args : List String) : IO UInt32 :=
  Nat.toUInt32 <$> VolumeDrain.Operator.runProgram args
