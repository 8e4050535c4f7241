/-
A beacon node as the consensus side.

The node answers in JSON, with what was asked for in the member `data` and every number as
a text.  It says that something does not exist by not finding it.  Chain parameters are
asked for once, when the connection is made.
-/
import PoolRewards.Client
import PoolRewards.Http.Transport
import PoolRewards.Json.Decoder

namespace PoolRewards.BeaconNode

open Json (Record Decoder)

/-! ### What the node says -/

/-- What an answer holds. -/
def dataDecoder {α : Type} (decode : Decoder α) : Decoder α :=
  ((Record.unit id).field "data" decode).decoder "Response"

/-- Seconds in a slot and slots in an epoch. -/
def specDecoder : Decoder (UInt64 × UInt64) :=
  ((Record.unit Prod.mk)
    |>.field "SECONDS_PER_SLOT" Decoder.quotedWord
    |>.field "SLOTS_PER_EPOCH" Decoder.quotedWord).decoder "SpecData"

/-- The time of genesis. -/
def genesisDecoder : Decoder UInt64 :=
  ((Record.unit id).field "genesis_time" Decoder.quotedWord).decoder "GenesisData"

/-- A committee. -/
def committeeDecoder : Decoder Committee :=
  ((Record.unit fun index slot validators => ⟨slot, index, validators⟩)
    |>.field "index" Decoder.quotedWord
    |>.field "slot" Decoder.quotedWord
    |>.field "validators" (Decoder.list Decoder.quotedWord)).decoder "CommitteeData"

/-- Votes of a committee, with the text of their bits. -/
structure Vote where
  bits : String
  slot : UInt64
  committee : UInt64
  deriving DecidableEq, Repr

/-- The slot and the committee that votes are for. -/
def voteDataDecoder : Decoder (UInt64 × UInt64) :=
  ((Record.unit Prod.mk)
    |>.field "slot" Decoder.quotedWord
    |>.field "index" Decoder.quotedWord).decoder "AttestationData"

/-- The reader of votes. -/
def voteDecoder : Decoder Vote :=
  ((Record.unit fun bits (slot, committee) => ⟨bits, slot, committee⟩)
    |>.field "aggregation_bits" Decoder.string
    |>.field "data" voteDataDecoder).decoder "Attestation"

/-- A block with what it includes. -/
structure FullBlock where
  slot : UInt64
  /-- The number of the execution block, if there is one. -/
  executionBlock : Option UInt64
  votes : List Vote
  deriving DecidableEq, Repr

/-- The number of an execution block. -/
def payloadDecoder : Decoder UInt64 :=
  ((Record.unit id).field "block_number" Decoder.quotedWord).decoder "ExecutionPayload"

/-- The execution block and the votes of a block.  Early blocks have no execution block. -/
def bodyDecoder : Decoder (Option UInt64 × List Vote) :=
  ((Record.unit Prod.mk)
    |>.fieldOr "execution_payload" (Decoder.option payloadDecoder) (some none)
    |>.fieldOr "attestations" (Decoder.list voteDecoder) (some [])).decoder "BlockBody"

/-- A block without its signature. -/
def messageDecoder : Decoder FullBlock :=
  ((Record.unit fun slot (executionBlock, votes) => ⟨slot, executionBlock, votes⟩)
    |>.field "slot" Decoder.quotedWord
    |>.field "body" bodyDecoder).decoder "BlockMessage"

/-- The reader of blocks. -/
def blockDecoder : Decoder FullBlock :=
  ((Record.unit id).field "message" messageDecoder).decoder "SignedBlock"

namespace FullBlock

/-- The block, bound to its execution block; block zero stands for none. -/
def summary (block : FullBlock) : BeaconBlock := ⟨block.slot, block.executionBlock.getD 0⟩

/-- A vote of the block with its bits. -/
def readVote (block : FullBlock) (vote : Vote) : Except ClientError Attestation :=
  match AttestedBits.ofText vote.bits with
  | .ok bits => .ok ⟨vote.slot, vote.committee, bits⟩
  | .error fault =>
    .error ((ClientError.of fault.bitsMessage).under s!"Invalid aggregation bits in block at slot {block.slot}")

/-- The votes that the block includes. -/
def attestations (block : FullBlock) : Except ClientError (List Attestation) := block.votes.mapM block.readVote

end FullBlock

/-! ### Asking -/

variable {m : Type → Type} [Monad m]

/-- What an answer says of the thing asked for: nothing if it was not found. -/
def readAnswer {α : Type} (decode : Decoder α) (url : Url) (answer : Except String HttpResponse) :
    Except ClientError (Option α) :=
  match answer with
  | .error cause => .error ((ClientError.of cause).under s!"Failed to query {url.toText}")
  | .ok response =>
    if response.isNotFound then .ok none
    else if response.isFailure then
      .error ((ClientError.of s!"HTTP status {response.status} for url ({url.toText})").under
        s!"Request to {url.toText} failed")
    else match Json.decodeBytes (dataDecoder decode) response.body with
      | .ok a => .ok (some a)
      | .error fault =>
        .error ((ClientError.of fault.message).under s!"Failed to parse response from {url.toText}")

/-- Ask for what is below the address of the node. -/
def get {α : Type} (transport : Transport m) (base : Url) (segments : List String) (query : Option String)
    (decode : Decoder α) : ExceptT ClientError m (Option α) :=
  match base.below segments query with
  | .error fault => throw (.of fault.message)
  | .ok url => .mk (readAnswer decode url <$> transport.get url)

/-- Ask for what must be there. -/
def getSome {α : Type} (transport : Transport m) (base : Url) (segments : List String)
    (query : Option String) (decode : Decoder α) (missing : String) : ExceptT ClientError m α := do
  match ← get transport base segments query decode with
  | some a => return a
  | none => throw (.of missing)

/-- The parameters of the node's chain. -/
def chainConfig (transport : Transport m) (base : Url) : ExceptT ClientError m BeaconConfig := do
  let (secondsPerSlot, slotsPerEpoch) ← getSome transport base ["eth", "v1", "config", "spec"] none
    specDecoder "Beacon node did not return its chain spec"
  let genesisTime ← getSome transport base ["eth", "v1", "beacon", "genesis"] none
    genesisDecoder "Beacon node did not return the genesis"
  return ⟨genesisTime, secondsPerSlot, slotsPerEpoch⟩

/-- The block of a slot. -/
def fullBlock (transport : Transport m) (base : Url) (slot : UInt64) :
    ExceptT ClientError m (Option FullBlock) :=
  get transport base ["eth", "v2", "beacon", "blocks", toString slot] none blockDecoder

/-- The attestations that the block of a slot includes. -/
def blockAttestations (transport : Transport m) (base : Url) (slot : UInt64) :
    ExceptT ClientError m (Option (List Attestation)) := do
  match ← fullBlock transport base slot with
  | some block => return some (← ExceptT.mk (pure block.attestations))
  | none => return none

/-- The committees of an epoch, as of its first slot. -/
def epochCommittees (transport : Transport m) (base : Url) (slot epoch : UInt64) :
    ExceptT ClientError m (List Committee) :=
  getSome transport base ["eth", "v1", "beacon", "states", toString slot, "committees"]
    (some s!"epoch={epoch}") (Decoder.list committeeDecoder) s!"No committees available for epoch {epoch}"

/-- The node as the consensus side.  A fault of arithmetic ends the whole computation. -/
def client [MonadExceptOf Fault m] (transport : Transport m) (base : Url) (config : BeaconConfig) :
    ConsensusClient m where
  config := pure (.ok config)
  block slot := do return (← (fullBlock transport base slot).run).map (·.map FullBlock.summary)
  committees epoch := do
    let slot ← MonadExcept.ofExcept (config.firstSlotOf epoch)
    (epochCommittees transport base slot epoch).run
  attestations slot := (blockAttestations transport base slot).run

end PoolRewards.BeaconNode
