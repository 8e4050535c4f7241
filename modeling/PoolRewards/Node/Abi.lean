/-
How the contracts lay out their data.

Data is a run of words of 32 bytes.  A value of variable length has a word in its place that
says where it begins, counted from where its surroundings begin; there its length stands in
front of it.
-/
import PoolRewards.Client
import PoolRewards.Hash.Keccak

namespace PoolRewards.Abi

/-! ### Reading -/

/-- The word at a position. -/
def wordAt? (data : List UInt8) (position : Nat) : Option Amount :=
  let bytes := (data.drop (32 * position)).take 32
  if bytes.length = 32 then some (BitVec.ofNat 256 (natOfBytes bytes)) else none

/-- What begins where the word at a position says. -/
def target? (data : List UInt8) (position : Nat) : Option (List UInt8) := do
  let offset ← wordAt? data position
  if offset.toNat ≤ data.length then some (data.drop offset.toNat) else none

/-- Whether a text or a list begins here and is all there; each of its members has `size` bytes. -/
def holdsMembers (size : Nat) (data : List UInt8) : Bool :=
  match wordAt? data 0 with
  | some count => count.toNat * size ≤ (data.drop 32).length
  | none => false

/-- Whether the text or list that the word at a position points to is all there. -/
def hasMembers (size : Nat) (data : List UInt8) (position : Nat) : Bool :=
  ((target? data position).map (holdsMembers size)).getD false

/-- The truth value that a word stands for. -/
def readBool? (data : List UInt8) : Option Bool := (wordAt? data 0).map (· ≠ 0)

/-! ### Calls -/

/-- The first bytes of a call, which name the function. -/
def selector (signature : String) : List UInt8 := (Octets.toBytes (Keccak.hash signature.toUTF8.toList)).take 4

/-- The call that asks whether a network is enabled. -/
def enabledCall (network : UInt64) : List UInt8 :=
  selector "getNetworkEnabled(uint256)" ++ bytesOfNat 32 network.toNat

/-! ### The event of an interval -/

/-- The signature of the event. -/
def rewardSnapshotSignature : String :=
  "RewardSnapshot(uint256,(uint256,uint256,uint256,bytes32,string,uint256,uint256,uint256[]," ++
    "uint256[],uint256[],uint256),uint256,uint256,uint256)"

/-- The topic that every such event has first. -/
def rewardSnapshotTopic : Digest := Keccak.hash rewardSnapshotSignature.toUTF8.toList

/-- The topic of the event of a given interval. -/
def indexTopic (index : UInt64) : Digest := BitVec.ofNat _ index.toNat

/-- What matters of the event. -/
structure RewardSnapshot where
  rewardIndex : Amount
  executionBlock : Amount
  consensusBlock : Amount
  intervalsPassed : Amount
  deriving DecidableEq, Repr

/-- Read the submission, whose eleven words stand at the front of the data. -/
def readSubmission? (rewardIndex : Amount) (data : List UInt8) : Option RewardSnapshot := do
  let _ ← wordAt? data 10
  let executionBlock ← wordAt? data 1
  let consensusBlock ← wordAt? data 2
  let intervalsPassed ← wordAt? data 5
  if hasMembers 1 data 4 && hasMembers 32 data 7 && hasMembers 32 data 8 && hasMembers 32 data 9 then
    some { rewardIndex, executionBlock, consensusBlock, intervalsPassed }
  else none

/-- Read the event from its topics and its data: the submission and three times. -/
def readRewardSnapshot? (topics : List Digest) (data : List UInt8) : Option RewardSnapshot :=
  match topics with
  | [signature, index] => do
    if signature ≠ rewardSnapshotTopic then none
    let _ ← wordAt? data 3
    readSubmission? index (← target? data 0)
  | _ => none

/-- A word that must not be larger than 64 bits. -/
def narrow (what : String) (value : Amount) : Except ClientError UInt64 :=
  if value.toNat < UInt64.size then .ok (UInt64.ofNat value.toNat)
  else .error (.of s!"{what} {value.toText} does not fit in 64 bits")

/-- The record of the interval. -/
def RewardSnapshot.toEvent (event : RewardSnapshot) : Except ClientError RewardsEvent := do
  let index ← narrow "reward index" event.rewardIndex
  let consensusBlock ← narrow "consensus block" event.consensusBlock
  let executionBlock ← narrow "execution block" event.executionBlock
  let intervalsPassed ← narrow "intervals passed" event.intervalsPassed
  return { index, consensusBlock, executionBlock, intervalsPassed }

end PoolRewards.Abi
