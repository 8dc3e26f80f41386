import VolumeDrain.Net.SocketAddress
import VolumeDrain.Text.Unsigned

/-!
# The command line

The operator's subcommands and their options. An option takes one value, given in the next
argument or after an equals sign; one that is not given is looked up in the environment, and then
takes its default. A value is read only when the next option is met or the arguments are at an end,
so that an argument which is no option at all is refused before a value in front of it is.
-/
namespace VolumeDrain.Operator

open Net

/-- The form of the log. -/
inductive LogForm where
  | text
  | json
deriving DecidableEq, Repr

namespace LogForm

/-- The name of a form. -/
def name : LogForm → String
  | text => "text"
  | json => "json"

/-- The form of a name. -/
def ofName? (s : String) : Option LogForm :=
  if s = "text" then some text else if s = "json" then some json else none

end LogForm

/-- Why no command comes of the arguments. Asking for help or for the version is one reason. -/
inductive Refusal where
  | help
  | version
  /-- There are no arguments. -/
  | nothing
  | unknownSubcommand
  | unknownArgument
  /-- A value is missing, or is not among those allowed. -/
  | invalidValue
  /-- A value cannot be read. -/
  | unreadableValue
  /-- A value is given to what takes none. -/
  | surplusValue
  /-- An option is given twice. -/
  | givenTwice
deriving DecidableEq, Repr

/-- The options. -/
inductive Setting where
  | namespaceName
  | leaseNamespace
  | metricsAddress
  | requeueSeconds
  | logForm
deriving DecidableEq, Repr

namespace Setting

/-- The name of an option on the command line. -/
def flag : Setting → String
  | namespaceName => "namespace"
  | leaseNamespace => "lease-namespace"
  | metricsAddress => "metrics-addr"
  | requeueSeconds => "requeue-seconds"
  | logForm => "log-format"

/-- The variable that stands for an option that is not given. -/
def environmentName : Setting → String
  | namespaceName => "WATCH_NAMESPACE"
  | leaseNamespace => "POD_NAMESPACE"
  | metricsAddress => "METRICS_ADDR"
  | requeueSeconds => "REQUEUE_SECONDS"
  | logForm => "LOG_FORMAT"

end Setting

/-- The values read so far. -/
structure Given where
  namespaceName : Option String := none
  leaseNamespace : Option String := none
  metricsAddress : Option SocketAddress := none
  requeueSeconds : Option Nat := none
  logForm : Option LogForm := none
deriving DecidableEq, Repr

namespace Given

/-- Whether an option has a value. -/
def has (g : Given) : Setting → Bool
  | .namespaceName => g.namespaceName.isSome
  | .leaseNamespace => g.leaseNamespace.isSome
  | .metricsAddress => g.metricsAddress.isSome
  | .requeueSeconds => g.requeueSeconds.isSome
  | .logForm => g.logForm.isSome

/-- Reads the value of an option. -/
def read (g : Given) (setting : Setting) (value : String) : Except Refusal Given :=
  match setting with
  | .namespaceName => .ok { g with namespaceName := some value }
  | .leaseNamespace => .ok { g with leaseNamespace := some value }
  | .metricsAddress =>
    match SocketAddress.read? value with
    | some a => .ok { g with metricsAddress := some a }
    | none => .error .unreadableValue
  | .requeueSeconds =>
    match Text.readUnsigned 18446744073709551615 value.toList with
    | some n => .ok { g with requeueSeconds := some n }
    | none => .error .unreadableValue
  | .logForm =>
    match LogForm.ofName? value with
    | some f => .ok { g with logForm := some f }
    | none => .error .invalidValue

/-- Reads the value of an option that must not have one yet. -/
def readOnce (g : Given) (setting : Setting) (value : String) : Except Refusal Given :=
  if g.has setting then .error .givenTwice else g.read setting value

/-- Looks up an option that has no value in the environment. -/
def fromVariable (env : List (String × String)) (g : Given) (setting : Setting) :
    Except Refusal Given :=
  if g.has setting then .ok g
  else
    match env.lookup setting.environmentName with
    | some value => g.read setting value
    | none => .ok g

end Given

/-- How far the arguments of a subcommand have been read. -/
inductive Pending where
  /-- No value is outstanding. -/
  | nothing
  /-- An option waits for its value. -/
  | option (setting : Setting)
  /-- An option has its value, which is still to be read. -/
  | holding (setting : Setting) (value : String)
deriving DecidableEq, Repr

/-- Reads what is outstanding, or refuses an option without its value. -/
def Pending.settle (g : Given) : Pending → Except Refusal Given
  | nothing => .ok g
  | option _ => .error .invalidValue
  | holding setting value => g.readOnce setting value

/-- A single argument, by its form. -/
inductive Argument where
  /-- Two hyphens: no option follows. -/
  | endOfOptions
  /-- A long option, perhaps with a value after an equals sign. -/
  | long (name : String) (value : Option String)
  /-- A hyphen and at least one letter, of which the first counts. -/
  | short (letter : Char)
  | plain (text : String)
deriving DecidableEq, Repr

/-- The form of an argument. A hyphen alone is plain text. -/
def Argument.ofText (text : String) : Argument :=
  match text.toList with
  | ['-', '-'] => endOfOptions
  | '-' :: '-' :: rest =>
    long (String.ofList (rest.takeWhile (· ≠ '=')))
      (match rest.dropWhile (· ≠ '=') with
        | _ :: value => some (String.ofList value)
        | [] => none)
  | '-' :: letter :: _ => short letter
  | _ => plain text

/-- Reads the arguments of a subcommand that has some of the options. -/
def readArguments (settings : List Setting) : List String → Pending → Given → Except Refusal Given
  | [], pending, g => pending.settle g
  | text :: rest, pending, g =>
    match Argument.ofText text with
    | .endOfOptions => if rest.isEmpty then pending.settle g else .error .unknownArgument
    | .short letter =>
      if letter = 'h' then do
        discard (pending.settle g)
        .error .help
      else .error .unknownArgument
    | .long name value =>
      match settings.find? (·.flag = name), value with
      | some setting, none => do
        readArguments settings rest (.option setting) (← pending.settle g)
      | some setting, some value => do
        let g ← pending.settle g
        readArguments settings rest .nothing (← g.readOnce setting value)
      | none, none =>
        if name = "help" then do
          discard (pending.settle g)
          .error .help
        else .error .unknownArgument
      | none, some _ => .error (if name = "help" then .surplusValue else .unknownArgument)
    | .plain value =>
      match pending with
      | .option setting => readArguments settings rest (.holding setting value) g
      | _ => .error .unknownArgument

/-- Reads the options of a subcommand: first its arguments, then the environment. -/
def readOptions (settings : List Setting) (args : List String) (env : List (String × String)) :
    Except Refusal Given := do
  settings.foldlM (Given.fromVariable env) (← readArguments settings args .nothing {})

/-- How the operator is to run. -/
structure RunOptions where
  namespaceName : Option String
  leaseNamespace : String
  metricsAddress : SocketAddress
  requeueSeconds : Nat
  logForm : LogForm
deriving DecidableEq, Repr

/-- What the operator is asked to do. -/
inductive Command where
  | run (options : RunOptions)
  /-- Tell the version and how the program was built. -/
  | version
  /-- List the pools of a namespace, or of all, and their volumes. -/
  | info (namespaceName : Option String)
deriving DecidableEq, Repr

namespace Command

/-- The options of the subcommand that runs the operator, in the order in which the environment is
searched for them. -/
def runSettings : List Setting :=
  [.namespaceName, .leaseNamespace, .metricsAddress, .requeueSeconds, .logForm]

/-- The subcommands, and the one that explains them. -/
def names : List String := ["run", "version", "info", "help"]

/-- The answer to the arguments after `help`: help on one subcommand or on all. -/
def readHelp : List String → Refusal
  | [] => .help
  | [name] => if names.contains name then .help else .unknownSubcommand
  | _ => .unknownSubcommand

/-- Reads a subcommand and its arguments. -/
def readNamed (name : String) (args : List String) (env : List (String × String)) :
    Except Refusal Command :=
  if name = "run" then do
    let g ← readOptions runSettings args env
    return run
      { namespaceName := g.namespaceName
        leaseNamespace := g.leaseNamespace.getD "default"
        metricsAddress := g.metricsAddress.getD ⟨.v4 0 0 0 0, 8080⟩
        requeueSeconds := g.requeueSeconds.getD 60
        logForm := g.logForm.getD .text }
  else if name = "info" then do
    let g ← readOptions [.namespaceName] args env
    return info g.namespaceName
  else if name = "version" then do
    discard (readOptions [] args env)
    return version
  else if name = "help" then .error (readHelp args)
  else .error .unknownSubcommand

/-- Reads the whole command line. -/
def read (args : List String) (env : List (String × String)) : Except Refusal Command :=
  match args with
  | [] => .error .nothing
  | text :: rest =>
    match Argument.ofText text, rest with
    | .endOfOptions, [] => .error .nothing
    | .endOfOptions, next :: _ =>
      .error (if names.contains next then .unknownArgument else .unknownSubcommand)
    | .short letter, _ =>
      .error (if letter = 'h' then .help else if letter = 'V' then .version else .unknownArgument)
    | .long name value, _ =>
      if name = "help" then .error (if value.isSome then .surplusValue else .help)
      else if name = "version" then .error (if value.isSome then .surplusValue else .version)
      else .error .unknownArgument
    | .plain name, _ => readNamed name rest env

end Command

end VolumeDrain.Operator
