/-
The options of the command.

An option is given on the command line at most once.  One that is not given there may come
from the environment, under its name in upper case, or else have a default.  The command
line is read from left to right, so that a wish for help counts if nothing is wrong before
it.
-/
import PoolRewards.Octets
import PoolRewards.Url.Parser
import PoolRewards.Word

namespace PoolRewards

/-- What is asked of the command. -/
structure Options where
  rpcUrl : Url
  beaconUrl : Url
  rewardsPool : Address
  networkSettings : Address
  stateDir : String
  outputDir : String
  network : String
  interval : Option UInt64
  targetSlot : UInt64
  targetConsensusBlock : Option UInt64
  targetExecutionBlock : Option UInt64
  intervalsPassed : UInt64
  eventsFromBlock : UInt64
  trusted : Bool
  approximate : Bool
  /-- How many failures are allowed. -/
  retries : UInt32
  /-- How long to wait after a failure, in seconds. -/
  retryDelay : UInt64
  logJson : Bool
  deriving DecidableEq, Repr

namespace Options

/-- What the value of an option is. -/
inductive Kind where
  /-- No value: the option is there or it is not. -/
  | flag
  | url
  | address
  | directory
  | text
  | word
  | count
  deriving DecidableEq, Repr

/-- A value of an option. -/
inductive Value where
  | flag (b : Bool)
  | url (u : Url)
  | address (a : Address)
  | text (s : String)
  | word (n : UInt64)
  | count (n : UInt32)
  deriving DecidableEq, Repr

/-- An option that there is. -/
structure Spec where
  name : String
  kind : Kind
  help : String
  letter : Option Char := none
  fromEnvironment : Bool := false
  default : Option String := none
  required : Bool := false
  deriving DecidableEq, Repr

/-- The name of an option's value, and of its variable in the environment. -/
def Spec.valueName (spec : Spec) : String := spec.name.toUpper.replace "-" "_"

/-- All options. -/
def specs : List Spec := [
  { name := "rpc-url", kind := .url, help := "URL of the Ethereum RPC endpoint",
    letter := some 'r', fromEnvironment := true, required := true },
  { name := "beacon-url", kind := .url, help := "URL of the beacon node HTTP API",
    letter := some 'b', fromEnvironment := true, required := true },
  { name := "rewards-pool-address", kind := .address, help := "Address of the rewards pool contract",
    fromEnvironment := true, required := true },
  { name := "network-settings-address", kind := .address,
    help := "Address of the network settings contract", fromEnvironment := true, required := true },
  { name := "state-dir", kind := .directory,
    help := "Directory holding \x60state-<block>.json\x60 network state snapshots",
    fromEnvironment := true, required := true },
  { name := "output-dir", kind := .directory, help := "Directory the artifacts are written to",
    fromEnvironment := true, default := some "." },
  { name := "network", kind := .text, help := "Name of the network recorded in the artifacts",
    fromEnvironment := true, default := some "mainnet" },
  { name := "interval", kind := .word,
    help := "Interval to generate. Defaults to the reward index of the network state" },
  { name := "target-slot", kind := .word, help := "Slot the interval ends at", required := true },
  { name := "target-consensus-block", kind := .word,
    help := "Last consensus block of the interval, if different from the target slot" },
  { name := "target-execution-block", kind := .word,
    help := "Execution block of the last consensus block. Looked up on the beacon node if not set" },
  { name := "intervals-passed", kind := .word, help := "Number of intervals covered by this submission",
    default := some "1" },
  { name := "events-from-block", kind := .word, help := "First block searched for rewards events",
    fromEnvironment := true, default := some "0" },
  { name := "trusted", kind := .flag, help := "Also write the binary rewards file" },
  { name := "approximate", kind := .flag,
    help := "Only estimate the pool stakers' share of the Smoothing Pool. Nothing is written" },
  { name := "retries", kind := .count, help := "Number of retries before quitting after an error",
    default := some "3" },
  { name := "retry-delay", kind := .word, help := "Seconds to wait between retries",
    default := some "30" },
  { name := "log-json", kind := .flag, help := "Whether to log in JSON format", fromEnvironment := true }]

/-- Why a command line cannot be used. -/
inductive UsageFault where
  | unexpectedArgument (argument : String)
  | missingValue (name : String)
  | unexpectedValue (name : String)
  | repeated (name : String)
  | invalidValue (value name : String)
  | missing (name : String)
  deriving DecidableEq, Repr

/-- The wording of a fault. -/
def UsageFault.message : UsageFault → String
  | .unexpectedArgument argument => s!"unexpected argument '{argument}' found"
  | .missingValue name => s!"a value is required for '--{name}' but none was supplied"
  | .unexpectedValue name => s!"unexpected value for '--{name}' found; no more were expected"
  | .repeated name => s!"the argument '--{name}' cannot be used multiple times"
  | .invalidValue value name => s!"invalid value '{value}' for '--{name}'"
  | .missing name => s!"the following required arguments were not provided: --{name}"

/-- Why a command line asks for no run. -/
inductive Interruption where
  | help
  | version
  | usage (fault : UsageFault)
  deriving DecidableEq, Repr

/-! ### Values -/

/-- Read a number of failures.  It may have a sign in front. -/
def readCount (text : String) : Option UInt32 :=
  let (negative, digits) := match text.toList with
    | '-' :: rest => (true, rest)
    | '+' :: rest => (false, rest)
    | all => (false, all)
  match if digits.isEmpty then none else Word.numberOf? digits with
  | some n => if n < UInt32.size && (n = 0 || !negative) then some (UInt32.ofNat n) else none
  | none => none

/-- Read a value of a kind.  For a flag the text comes from the environment. -/
def Kind.read? : Kind → String → Option Value
  | .flag, "true" => some (.flag true)
  | .flag, "false" => some (.flag false)
  | .flag, _ => none
  | .url, s => (Url.ofText s).toOption.map .url
  | .address, s => (Octets.ofText s).toOption.map .address
  | .directory, s => if s.isEmpty then none else some (.text s)
  | .text, s => some (.text s)
  | .word, s => (Word.ofText s).toOption.map .word
  | .count, s => (readCount s).map .count

/-- Values of options by name. -/
abbrev Given := List (String × Value)

/-- Put a value to those given before. -/
def Given.add (given : Given) (spec : Spec) (text : String) : Except Interruption Given :=
  if (given.lookup spec.name).isSome then .error (.usage (.repeated spec.name))
  else match spec.kind.read? text with
    | some value => .ok ((spec.name, value) :: given)
    | none => .error (.usage (.invalidValue text spec.name))

/-! ### The command line -/

/-- An argument that names an option, with a value that stands in the same argument. -/
inductive Naming where
  | help
  | version
  | option (spec : Spec) (attached : Option String)
  deriving DecidableEq, Repr

/-- What a long name stands for. -/
def longNaming (argument name : String) (attached : Option String) : Except Interruption Naming :=
  if name = "help" || name = "version" then
    if attached.isSome then .error (.usage (.unexpectedValue name))
    else .ok (if name = "help" then .help else .version)
  else match specs.find? (·.name == name) with
    | some spec => .ok (.option spec attached)
    | none => .error (.usage (.unexpectedArgument argument))

/-- What a letter stands for.  Its value may follow at once, an equals sign between them or not. -/
def letterNaming (argument : String) (letter : Char) (behind : List Char) : Except Interruption Naming :=
  if letter = 'h' then .ok .help
  else if letter = 'V' then .ok .version
  else match specs.find? (·.letter == some letter) with
    | some spec => .ok (.option spec (match behind with
      | [] => none
      | '=' :: value => some (String.ofList value)
      | value => some (String.ofList value)))
    | none => .error (.usage (.unexpectedArgument argument))

/-- What an argument stands for. -/
def naming (argument : String) : Except Interruption Naming :=
  match argument.toList with
  | '-' :: '-' :: long =>
    let name := long.takeWhile (· ≠ '=')
    longNaming argument (String.ofList name) ((long.drop name.length).tail?.map String.ofList)
  | '-' :: letter :: behind => letterNaming argument letter behind
  | _ => .error (.usage (.unexpectedArgument argument))

/-- Whether an argument is a value rather than a name. -/
def isValue (argument : String) : Bool := !argument.startsWith "-" || argument = "-"

/-- Take in one argument.  The answer also says whether the next one is its value. -/
def takeArgument (given : Given) (argument : String) (next : Option String) :
    Except Interruption (Given × Bool) :=
  if argument = "--" then
    match next with
    | none => .ok (given, false)
    | some surplus => .error (.usage (.unexpectedArgument surplus))
  else do
    match ← naming argument with
    | .help => throw .help
    | .version => throw .version
    | .option spec attached =>
      if spec.kind = .flag then
        if attached.isSome then throw (.usage (.unexpectedValue spec.name))
        return (← given.add spec "true", false)
      match attached, next.filter isValue with
      | some value, _ => return (← given.add spec value, false)
      | none, some value => return (← given.add spec value, true)
      | none, none => throw (.usage (.missingValue spec.name))

/-- Read the arguments that are left. -/
def scan (given : Given) : List String → Except Interruption Given
  | [] => .ok given
  | [argument] => do return (← takeArgument given argument none).1
  | argument :: next :: rest => do
    let (given, used) ← takeArgument given argument (some next)
    if used then scan given rest else scan given (next :: rest)

/-! ### The whole -/

/-- Take what is not given from the environment, or else from the default. -/
def complete (environment : String → Option String) (given : Given) : List Spec → Except Interruption Given
  | [] => .ok given
  | spec :: rest => do
    let text := (if spec.fromEnvironment then environment spec.valueName else none).or spec.default
    match given.lookup spec.name, text with
    | none, some text => complete environment (← given.add spec text) rest
    | _, _ => complete environment given rest

/-- A value that must be given. -/
def require {α : Type} (given : Given) (name : String) (pick : Value → Option α) : Except Interruption α :=
  match (given.lookup name).bind pick with
  | some a => .ok a
  | none => .error (.usage (.missing name))

/-- The URL that a value is. -/
def asUrl : Value → Option Url
  | .url u => some u
  | _ => none

/-- The address that a value is. -/
def asAddress : Value → Option Address
  | .address a => some a
  | _ => none

/-- The text that a value is. -/
def asText : Value → Option String
  | .text s => some s
  | _ => none

/-- The word that a value is. -/
def asWord : Value → Option UInt64
  | .word n => some n
  | _ => none

/-- The number of failures that a value is. -/
def asCount : Value → Option UInt32
  | .count n => some n
  | _ => none

/-- The options that values make up. -/
def ofGiven (given : Given) : Except Interruption Options := do
  return {
    rpcUrl := ← require given "rpc-url" asUrl
    beaconUrl := ← require given "beacon-url" asUrl
    rewardsPool := ← require given "rewards-pool-address" asAddress
    networkSettings := ← require given "network-settings-address" asAddress
    stateDir := ← require given "state-dir" asText
    outputDir := ← require given "output-dir" asText
    network := ← require given "network" asText
    interval := (given.lookup "interval").bind asWord
    targetSlot := ← require given "target-slot" asWord
    targetConsensusBlock := (given.lookup "target-consensus-block").bind asWord
    targetExecutionBlock := (given.lookup "target-execution-block").bind asWord
    intervalsPassed := ← require given "intervals-passed" asWord
    eventsFromBlock := ← require given "events-from-block" asWord
    trusted := given.lookup "trusted" = some (.flag true)
    approximate := given.lookup "approximate" = some (.flag true)
    retries := ← require given "retries" asCount
    retryDelay := ← require given "retry-delay" asWord
    logJson := given.lookup "log-json" = some (.flag true) }

/-- Read a command line in an environment. -/
def read (arguments : List String) (environment : String → Option String) : Except Interruption Options := do
  ofGiven (← complete environment (← scan [] arguments) specs)

end Options

end PoolRewards
