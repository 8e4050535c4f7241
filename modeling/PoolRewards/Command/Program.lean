/-
The command: read the options, connect to the nodes, and run the service until it succeeds
or is given up.

Success is told by the exit code alone, except that an estimate is printed.
-/
import PoolRewards.Command.Help
import PoolRewards.Command.Retry
import PoolRewards.Node.Beacon
import PoolRewards.Node.Execution

namespace PoolRewards

/-- How the command ends, and what it prints. -/
structure Report where
  exitCode : UInt8
  output : String
  errors : String
  deriving DecidableEq, Repr

namespace Report

/-- Success, with a line of output. -/
def success (output : String) : Report := ⟨0, output, ""⟩

/-- Failure, with a message and its causes. -/
def failure (message : String) (causes : List String) : Report :=
  let list := match causes with
    | [] => []
    | [cause] => ["", "Caused by:", "    " ++ cause]
    | _ => ["", "Caused by:"] ++ causes.zipIdx.map fun (cause, i) => s!"    {i}: {cause}"
  ⟨1, "", "\n".intercalate (("Error: " ++ message) :: list) ++ "\n"⟩

/-- A command line that cannot be used. -/
def wrongUsage (fault : Options.UsageFault) : Report :=
  ⟨2, "", s!"error: {fault.message}\n\n{Options.usageText}\n\nFor more information, try '--help'.\n"⟩

/-- A fault, which ends the program at once. -/
def ofFault (fault : Fault) : Report := ⟨101, "", fault.message ++ "\n"⟩

end Report

/-- The causes of a failure, the nearest first. -/
def RunFailure.causes : RunFailure → List String
  | .generation (.client _ cause) => cause.message :: cause.causes
  | .collaborator error => error.causes
  | _ => []

/-- The report of a service that was given up. -/
def Surrender.report : Surrender → Report
  | .fatal (.fault fault) => .ofFault fault
  | .fatal failure => .failure failure.message failure.causes
  | .retriesUsedUp => .failure Surrender.retriesUsedUp.message []

/-- The report of a run that has succeeded. -/
def Outcome.report : Outcome → Report
  | .generated _ _ => .success ""
  | .approximated index eth => .success s!"{index} {eth.toText}\n"

namespace Options

/-- What a run is to do. -/
def serviceConfig (options : Options) : ServiceConfig where
  network := options.network
  interval := options.interval
  target := ⟨options.targetSlot, options.targetConsensusBlock, options.targetExecutionBlock⟩
  intervalsPassed := options.intervalsPassed
  trusted := options.trusted
  approximate := options.approximate

/-- The execution side. -/
def executionNode (options : Options) : ExecutionNode where
  url := options.rpcUrl
  rewardsPool := options.rewardsPool
  networkSettings := options.networkSettings
  eventsFrom := options.eventsFromBlock
  snapshotDirectory := options.stateDir

variable {m : Type → Type} [Monad m] [MonadExceptOf Fault m]

/-- The service on a chain. -/
def service (options : Options) (disk : Disk m) (transport : Transport m) (config : BeaconConfig) :
    Service m where
  consensus := BeaconNode.client transport options.beaconUrl config
  execution := options.executionNode.client disk transport
  store := .inDirectory disk options.outputDir
  config := options.serviceConfig

/-- Connect to the beacon node and run the service. -/
def execute (options : Options) (disk : Disk m) (transport : Transport m) (pause : m Unit) : m Report := do
  match ← (BeaconNode.chainConfig transport options.beaconUrl).run with
  | .error error => return .failure error.message error.causes
  | .ok config =>
    let service := options.service disk transport config
    match ← (Retry.untilDone service.run pause options.retries).run with
    | .ok outcome => return outcome.report
    | .error surrender => return surrender.report

end Options

variable {m : Type → Type} [Monad m] [MonadExceptOf Fault m]

/-- Carry out a command line.  A pause is given by its length in seconds. -/
def runCommand (arguments : List String) (environment : String → Option String) (disk : Disk m)
    (transport : Transport m) (pause : UInt64 → m Unit) : m Report :=
  match Options.read arguments environment with
  | .error .help => return .success (Options.helpText environment ++ "\n")
  | .error .version => return .success (Options.versionText ++ "\n")
  | .error (.usage fault) => return .wrongUsage fault
  | .ok options => tryCatchThe Fault (options.execute disk transport (pause options.retryDelay)) fun fault =>
    return .ofFault fault

end PoolRewards
