/-
One run of the service: find out where the interval ends, load the snapshot taken there,
make sure that it belongs to the chain, generate the rewards and keep them.

A run that fails may be worth another try.  It is not if the snapshot belongs to another
chain, or if the rewards themselves cannot be computed.
-/
import PoolRewards.Artifact.Store
import PoolRewards.Generator

namespace PoolRewards

/-- Where an interval is to end. -/
structure Target where
  /-- The slot that the end time is taken from. -/
  slot : UInt64
  /-- The last slot of the interval, `slot` if not given. -/
  consensusBlock : Option UInt64
  /-- The execution block of the last slot, looked up if not given. -/
  executionBlock : Option UInt64
  deriving DecidableEq, Repr

/-- What a run is to do. -/
structure ServiceConfig where
  /-- The name of the network. -/
  network : String
  /-- The interval, the one that the snapshot is for if not given. -/
  interval : Option UInt64
  target : Target
  intervalsPassed : UInt64
  /-- Whether the binary rewards file is kept too. -/
  trusted : Bool
  /-- Whether the pool stakers' part is only estimated, and nothing kept. -/
  approximate : Bool
  deriving DecidableEq, Repr

/-- Why a run failed. -/
inductive RunFailure where
  | fault (fault : Fault)
  /-- The snapshot belongs to another chain. -/
  | configMismatch (block : UInt64) (snapshot chain : BeaconConfig)
  | generation (error : GenerationError)
  /-- A collaborator failed outside the generation of rewards. -/
  | collaborator (error : ClientError)
  deriving DecidableEq, Repr

/-- A chain's configuration in full. -/
def BeaconConfig.debugText (config : BeaconConfig) : String :=
  s!"BeaconConfig \x7b genesis_time: {config.genesisTime}, seconds_per_slot: {config.secondsPerSlot}, " ++
    s!"slots_per_epoch: {config.slotsPerEpoch} \x7d"

namespace RunFailure

/-- What failed, without its causes. -/
def message : RunFailure → String
  | .fault f => f.message
  | .configMismatch block snapshot chain =>
    s!"network state at block {block} was taken with beacon config {snapshot.debugText}, " ++
      s!"but the beacon node reports {chain.debugText}"
  | .generation error => error.message
  | .collaborator error => error.message

/-- Whether every other run would fail in the same way. -/
def isFatal : RunFailure → Bool
  | .fault _ => true
  | .configMismatch _ _ _ => true
  | .generation error => !error.isRetryable
  | .collaborator _ => false

/-- The failure that a halted generation is. -/
def ofHalt : Halt → RunFailure
  | .fault f => .fault f
  | .error error => .generation error

end RunFailure

/-- What a run comes to. -/
inductive Outcome where
  | generated (index : UInt64) (artifacts : StoredArtifacts)
  | approximated (index : UInt64) (poolStakerEth : Amount)
  deriving DecidableEq

/-- The service with its collaborators. -/
structure Service (m : Type → Type) where
  consensus : ConsensusClient m
  execution : ExecutionClient m
  store : ArtifactStore m
  config : ServiceConfig

namespace Service

variable {m : Type → Type} [Monad m]

/-- Ask a collaborator. -/
def ask {α : Type} (lookup : m (Except ClientError α)) : ExceptT RunFailure m α :=
  .mk ((·.mapError .collaborator) <$> lookup)

/-- Do what can halt. -/
def generating {α : Type} (step : ExceptT Halt m α) : ExceptT RunFailure m α :=
  .mk ((·.mapError .ofHalt) <$> step.run)

/-- Where the interval ends. -/
def snapshotEnd (service : Service m) : ExceptT RunFailure m SnapshotEnd := do
  let target := service.config.target
  let consensusBlock := target.consensusBlock.getD target.slot
  let executionBlock ← match target.executionBlock with
    | some block => pure block
    | none => do
      match ← ask (service.consensus.block consensusBlock) with
      | some block => pure block.executionBlock
      | none => throw (.collaborator (.of s!"Consensus block {consensusBlock} not found"))
  return ⟨target.slot, consensusBlock, executionBlock⟩

/-- The snapshot taken at a block.  It must have been taken on the chain that the consensus layer is on. -/
def loadSnapshot (service : Service m) (block : UInt64) : ExceptT RunFailure m Snapshot := do
  let snapshot ← ask (service.execution.snapshot block)
  let chain ← ask service.consensus.config
  if snapshot.config ≠ chain then
    throw (.configMismatch block snapshot.config chain)
  return snapshot

/-- Run once. -/
def run (service : Service m) : ExceptT RunFailure m Outcome := do
  let config := service.config
  let snapshotEnd ← service.snapshotEnd
  let snapshot ← service.loadSnapshot snapshotEnd.executionBlock
  let header ← ask (service.execution.header snapshotEnd.executionBlock)
  let request : Request := {
    network := config.network
    index := config.interval.getD snapshot.network.rewardIndex
    header
    intervalsPassed := config.intervalsPassed
    snapshot
    previous := none
    snapshotEnd }
  if config.approximate then
    let eth ← generating (request.approximate service.consensus service.execution)
    return .approximated request.index eth
  let generated ← generating (request.generate service.consensus service.execution)
  let stored ← ask ((·.mapError (·.under "Failed to save rewards artifacts")) <$>
    service.store.persist generated.rewards generated.performance config.trusted)
  return .generated request.index stored

end Service

end PoolRewards
