/-
An execution node and a directory of snapshots as the execution side.

Snapshots are read from files named for the block that they were taken at.  Headers, the
state of networks and the events of earlier intervals are asked of the node.
-/
import PoolRewards.Disk.Basic
import PoolRewards.Node.Abi
import PoolRewards.Node.LogSearch
import PoolRewards.Node.Rpc
import PoolRewards.Snapshot.Json

namespace PoolRewards

/-- Where the execution side finds what it is asked for. -/
structure ExecutionNode where
  url : Url
  rewardsPool : Address
  networkSettings : Address
  /-- The first block that is searched for events. -/
  eventsFrom : UInt64
  snapshotDirectory : String
  deriving DecidableEq, Repr

namespace ExecutionNode

open Json (Record Decoder)

variable {m : Type → Type} [Monad m]

/-- The file of the snapshot taken at a block. -/
def snapshotPath (node : ExecutionNode) (block : UInt64) : String :=
  Disk.join node.snapshotDirectory s!"state-{block}.json"

/-- Read the content of a snapshot's file, which must have been taken at the given block. -/
def readSnapshot (path : String) (block : UInt64) (content : Except String (List UInt8)) :
    Except ClientError Snapshot := do
  let bytes ← content.mapError fun cause =>
    (ClientError.of cause).under s!"Failed to read network state from {path}"
  let snapshot ← (Snapshot.ofBytes bytes).mapError fun fault =>
    (ClientError.of fault.message).under s!"Failed to parse network state from {path}"
  if snapshot.executionBlock ≠ block then
    throw (.of s!"Network state in {path} was taken at block {snapshot.executionBlock}, expected {block}")
  return snapshot

/-- A call with what it was for. -/
def ask {α : Type} (context : String) (call : ExceptT Rpc.Failure m α) : ExceptT ClientError m α :=
  .mk ((·.mapError fun failure => failure.toClientError.under context) <$> call.run)

/-- The header in a block. -/
def headerDecoder : Decoder BlockHeader :=
  ((Record.unit BlockHeader.mk)
    |>.field "number" Rpc.quantityDecoder
    |>.field "timestamp" Rpc.quantityDecoder).decoder "Header"

/-- The header of a block. -/
def header (node : ExecutionNode) (transport : Transport m) (block : UInt64) :
    ExceptT ClientError m BlockHeader := do
  let found ← ask s!"Failed to get block {block}"
    (Rpc.call transport node.url "eth_getBlockByNumber" [Rpc.quantity block, .bool false]
      (Decoder.option headerDecoder))
  match found with
  | some header => return header
  | none => throw (.of s!"Block {block} not found")

/-- Whether rewards may be claimed on a network, as of a block. -/
def isEnabled (node : ExecutionNode) (transport : Transport m) (network block : UInt64) :
    ExceptT ClientError m Bool := do
  let context := s!"Failed to check whether network {network} is enabled"
  let call : Json := .ofMembers [
    ("to", node.networkSettings.toJson), ("input", Rpc.bytes (Abi.enabledCall network))]
  let answer ← ask context
    (Rpc.call transport node.url "eth_call" [call, Rpc.quantity block] Rpc.bytesDecoder)
  match Abi.readBool? answer with
  | some enabled => return enabled
  | none => throw ((ClientError.of "ABI decoding failed: buffer overrun while deserializing").under context)

/-! ### Events -/

/-- The topics and the data of a log. -/
structure Log where
  topics : List Digest
  data : List UInt8
  deriving DecidableEq, Repr

/-- A log in an answer. -/
def logDecoder : Decoder Log :=
  ((Record.unit Log.mk)
    |>.field "topics" (Decoder.list (Decoder.octets 32))
    |>.field "data" Rpc.bytesDecoder).decoder "Log"

/-- The logs in a range of blocks that are events of an interval. -/
def logsIn (node : ExecutionNode) (transport : Transport m) (index : UInt64) (range : BlockRange) :
    ExceptT ClientError m (List Log) :=
  let criteria : Json := .ofMembers [
    ("fromBlock", Rpc.quantity range.first),
    ("toBlock", Rpc.quantity range.last),
    ("address", node.rewardsPool.toJson),
    ("topics", .ofList [Octets.toJson Abi.rewardSnapshotTopic, Octets.toJson (Abi.indexTopic index)])]
  .mk ((·.mapError Rpc.Failure.toClientError) <$>
    (Rpc.call transport node.url "eth_getLogs" [criteria] (Decoder.list logDecoder)).run)

/-- The event that logs tell of.  Of several the last one counts. -/
def readEvent (index : UInt64) (logs : List Log) : Except ClientError RewardsEvent :=
  match logs.getLast? with
  | none => .error (.of s!"No rewards event found for interval {index}")
  | some log =>
    match Abi.readRewardSnapshot? log.topics log.data with
    | some event => event.toEvent
    | none => .error ((ClientError.of "type check failed").under "Failed to decode rewards event")

/-- The event of an interval, as of the newest block. -/
def rewardsEvent [MonadExceptOf Fault m] (node : ExecutionNode) (transport : Transport m) (index : UInt64) :
    ExceptT ClientError m RewardsEvent := do
  let head ← ask "Failed to get block number"
    (Rpc.call transport node.url "eth_blockNumber" [] Rpc.quantityDecoder)
  let logs ← searchChunked (node.logsIn transport index) ⟨node.eventsFrom, head⟩
  ExceptT.mk (pure (readEvent index logs))

/-- The node as the execution side. -/
def client [MonadExceptOf Fault m] (node : ExecutionNode) (disk : Disk m) (transport : Transport m) :
    ExecutionClient m where
  snapshot block :=
    let path := node.snapshotPath block
    readSnapshot path block <$> disk.read path
  header block := (node.header transport block).run
  isEnabled network block := (node.isEnabled transport network block).run
  rewardsEvent index := (node.rewardsEvent transport index).run

end ExecutionNode

end PoolRewards
