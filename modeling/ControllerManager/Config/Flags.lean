import ControllerManager.Config.Flag
import ControllerManager.Text.Decimal
import ControllerManager.Text.Terminal

/-!
# The command line

The values of all flags, from the arguments of the command, from variables, and from their
fallbacks. A flag stands as `--name value` or `--name=value` and at most once. The value of a flag
is judged when the next flag begins or the arguments end, so that an argument that belongs to no
flag is reported before it.

## Main definitions

* `Config.Flags` — the values of all flags.
* `Config.Flags.Fault` — why a command line has no meaning.
* `Config.Flags.parse` — the values that a command line and an environment give.
-/

namespace ControllerManager.Config

/-- The values of all flags. -/
structure Flags where
  apiExportName : String
  metricsBindAddress : String
  healthProbeBindAddress : String
  leaderElect : Bool
  leaderElectionNamespace : Option String
  webhookCertDir : String
  /-- In seconds. -/
  gracefulShutdownTimeout : Nat
  defaultReleasePvc : Option String
  defaultReleaseWorkspaceName : Option String
  logFormat : Log.Format
  deriving Repr, DecidableEq

namespace Flags

/-- Why a command line has no meaning. -/
inductive Fault where
  /-- The description of the flags is asked for. -/
  | help
  /-- An argument belongs to no flag. -/
  | unexpectedArgument (argument : String)
  /-- A flag without values has one. -/
  | unexpectedValue (value : String)
  | missingValue (flag : Flag)
  /-- The value is none of the possible ones. -/
  | invalidValue (flag : Flag) (value : String)
  | invalidNumber (flag : Flag) (value : String) (fault : Text.NumberFault)
  | repeated (flag : Flag)
  /-- A variable holds no text. -/
  | unreadable
  deriving Repr, DecidableEq

/-- The wording of a fault. What was given stands in it without its control sequences. -/
def Fault.message : Fault → String
  | .help => ""
  | .unexpectedArgument argument =>
    "error: unexpected argument '" ++ Text.shown argument ++ "' found"
  | .unexpectedValue value =>
    "error: unexpected value '" ++ Text.shown value ++
      "' for '--help' found; no more were expected"
  | .missingValue flag =>
    "error: a value is required for '" ++ flag.usage ++ "' but none was supplied"
  | .invalidValue flag value =>
    "error: invalid value '" ++ Text.shown value ++ "' for '" ++ flag.usage ++ "'"
  | .invalidNumber flag value fault =>
    "error: invalid value '" ++ Text.shown value ++ "' for '" ++ flag.usage ++ "': " ++
      fault.message
  | .repeated flag => "error: the argument '" ++ flag.usage ++ "' cannot be used multiple times"
  | .unreadable => "error: invalid UTF-8 was detected in one or more arguments"

/-- The values where no flag is given. -/
def standard : Flags where
  apiExportName := ""
  metricsBindAddress := ":8080"
  healthProbeBindAddress := ":8081"
  leaderElect := false
  leaderElectionNamespace := none
  webhookCertDir := "/tmp/k8s-webhook-server/serving-certs"
  gracefulShutdownTimeout := 30
  defaultReleasePvc := none
  defaultReleaseWorkspaceName := none
  logFormat := .standard

/-- The least number of seconds that is no timeout. -/
def timeoutBound : Nat := 1 <<< 64

/-- The fault of a value that is none of the possible ones. An empty one counts as missing. -/
def outside (flag : Flag) (value : String) : Fault :=
  if value.isEmpty then .missingValue flag else .invalidValue flag value

/-- The values with another one for a flag. -/
def set (flags : Flags) (flag : Flag) (value : String) : Except Fault Flags :=
  match flag with
  | .apiExportName => .ok { flags with apiExportName := value }
  | .metricsBindAddress => .ok { flags with metricsBindAddress := value }
  | .healthProbeBindAddress => .ok { flags with healthProbeBindAddress := value }
  | .leaderElect =>
    match value with
    | "true" => .ok { flags with leaderElect := true }
    | "false" => .ok { flags with leaderElect := false }
    | _ => .error (outside flag value)
  | .leaderElectionNamespace => .ok { flags with leaderElectionNamespace := some value }
  | .webhookCertDir =>
    if value.isEmpty then .error (.missingValue flag)
    else .ok { flags with webhookCertDir := value }
  | .gracefulShutdownTimeout =>
    match Text.readNumber timeoutBound value.toList with
    | .ok n => .ok { flags with gracefulShutdownTimeout := n }
    | .error fault => .error (.invalidNumber flag value fault)
  | .defaultReleasePvc => .ok { flags with defaultReleasePvc := some value }
  | .defaultReleaseWorkspaceName => .ok { flags with defaultReleaseWorkspaceName := some value }
  | .logFormat =>
    match Log.Format.parse false value with
    | .ok format => .ok { flags with logFormat := format }
    | .error _ => .error (outside flag value)

/-- The values so far, and the flags that were given. -/
structure Draft where
  flags : Flags
  given : List Flag
  deriving Repr, DecidableEq

namespace Draft

/-- Nothing is given. -/
def empty : Draft := ⟨standard, []⟩

/-- The draft with the value of a flag that was not given before. -/
def give (d : Draft) (flag : Flag) (value : String) : Except Fault Draft :=
  if d.given.contains flag then .error (.repeated flag)
  else (d.flags.set flag value).map fun flags => ⟨flags, flag :: d.given⟩

/-- The draft with the flag that was begun last, and its value. -/
def settle (d : Draft) : Option (Flag × Option String) → Except Fault Draft
  | none => .ok d
  | some (flag, value) =>
    match value.or flag.bareValue? with
    | some value => d.give flag value
    | none => .error (.missingValue flag)

/-- The draft with the value of a variable, where the flag is not given. -/
def giveVariable (env : Environment) (d : Draft) (flag : Flag) : Except Fault Draft :=
  if d.given.contains flag then .ok d
  else
    match flag.environmentKey?.map env.read with
    | none | some .unset => .ok d
    | some (.text value) => d.give flag value
    | some (.unreadable bytes) =>
      if flag.possibleValues.isEmpty then .error .unreadable
      else .error (.invalidValue flag (String.ofList (Text.Utf8.lossy bytes)))

end Draft

/-- The kinds of arguments. -/
inductive Argument where
  /-- `--`, behind which no flag stands. -/
  | terminator
  /-- `--name` or `--name=value`. -/
  | long (name : String) (value : Option String)
  /-- A dash and letters, of which the first counts. -/
  | short (letter : Char)
  | plain (text : String)
  deriving Repr, DecidableEq

/-- The kind of an argument. -/
def Argument.ofText (text : String) : Argument :=
  match text.toList with
  | ['-', '-'] => .terminator
  | '-' :: '-' :: cs =>
    let name := cs.takeWhile (· != '=')
    .long (String.ofList name)
      (if name.length < cs.length then some (String.ofList (cs.drop (name.length + 1))) else none)
  | ['-'] => .plain text
  | '-' :: c :: _ => .short c
  | _ => .plain text

/-- The draft after all arguments. `begun` is the flag that was begun last, with its value. -/
def readArguments (d : Draft) (begun : Option (Flag × Option String)) :
    List String → Except Fault Draft
  | [] => d.settle begun
  | argument :: rest =>
    match Argument.ofText argument with
    | .terminator =>
      match rest with
      | [] => d.settle begun
      | next :: _ => .error (.unexpectedArgument next)
    | .long name value =>
      match Flag.ofName? name, value with
      | some flag, none => do readArguments (← d.settle begun) (some (flag, none)) rest
      | some flag, some value => do
        let d ← d.settle begun
        readArguments (← d.give flag value) none rest
      | none, none =>
        if name = "help" then do
          let _ ← d.settle begun
          throw .help
        else .error (.unexpectedArgument ("--" ++ name))
      | none, some value =>
        if name = "help" then .error (.unexpectedValue value)
        else .error (.unexpectedArgument ("--" ++ name))
    | .short letter =>
      if letter = 'h' then do
        let _ ← d.settle begun
        throw .help
      else .error (.unexpectedArgument (String.ofList ['-', letter]))
    | .plain text =>
      match begun with
      | some (flag, none) => readArguments d (some (flag, some text)) rest
      | _ => .error (.unexpectedArgument text)

/-- The values that a command line and an environment give. -/
def parse (env : Environment) (arguments : List String) : Except Fault Flags := do
  let d ← readArguments .empty none arguments
  return (← Flag.all.foldlM (Draft.giveVariable env) d).flags

end Flags

end ControllerManager.Config
