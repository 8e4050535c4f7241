/-
Keeping artifacts.

Every artifact has a name and a content id, the hash of its bytes.  The ids of all
artifacts of an interval are hashed together, in the order of the names, into the id of
the whole.
-/
import PoolRewards.Artifact.Binary
import PoolRewards.Artifact.Json
import PoolRewards.Disk.Basic
import PoolRewards.Hash.Sha256

namespace PoolRewards

open Std (ExtTreeMap)

namespace Artifact

/-- The name of the rewards file. -/
def rewardsName (network : String) (index : UInt64) : String := s!"rp-rewards-{network}-{index}.json"

/-- The name of the binary form of the rewards file. -/
def binaryName (network : String) (index : UInt64) : String := s!"rp-rewards-{network}-{index}.bin"

/-- The name of the performance file. -/
def performanceName (network : String) (index : UInt64) : String :=
  s!"rp-minipool-performance-{network}-{index}.json"

/-- The id of some content. -/
def contentId (bytes : List UInt8) : String := Hex.encode (Octets.toBytes (Sha256.hash bytes))

/-- The id of several artifacts together. -/
def combinedId (ids : ExtTreeMap String String) : String :=
  contentId (ids.toList.flatMap fun (name, id) => name.toUTF8.toList ++ id.toUTF8.toList)

end Artifact

/-- The ids of artifacts that are kept. -/
structure StoredArtifacts where
  /-- The id of the whole. -/
  contentId : String
  /-- The id of each artifact by its name. -/
  artifactIds : ExtTreeMap String String
  deriving DecidableEq

/-- A place to keep artifacts. -/
structure ArtifactStore (m : Type → Type) where
  /-- Keep the artifacts of an interval, the binary form only for trusted nodes. -/
  persist : RewardsFile → PerformanceFile → (trusted : Bool) → m (Except ClientError StoredArtifacts)

/-- The artifacts of an interval, in the order in which they are written. -/
def artifactsOf (rewards : RewardsFile) (performance : PerformanceFile) (trusted : Bool) :
    List (String × List UInt8) :=
  [(Artifact.rewardsName rewards.network rewards.index, rewards.jsonText.toUTF8.toList),
   (Artifact.performanceName performance.network performance.index, performance.jsonText.toUTF8.toList)] ++
    if trusted then [(Artifact.binaryName rewards.network rewards.index, rewards.toBinary)] else []

/-- The ids of artifacts. -/
def StoredArtifacts.ofList (artifacts : List (String × List UInt8)) : StoredArtifacts :=
  let ids := artifacts.foldl (fun ids (name, bytes) => ids.insert name (Artifact.contentId bytes)) ∅
  ⟨Artifact.combinedId ids, ids⟩

namespace ArtifactStore

variable {m : Type → Type} [Monad m]

/-- Write artifacts into a directory, up to the first that cannot be written. -/
def writeAll (disk : Disk m) (directory : String) : List (String × List UInt8) → ExceptT ClientError m Unit
  | [] => return
  | (name, bytes) :: rest => do
    let path := Disk.join directory name
    ExceptT.mk ((·.mapError fun cause => (ClientError.of cause).under s!"Failed to write artifact {path}") <$>
      disk.write path bytes)
    writeAll disk directory rest

/-- A directory to keep artifacts in.  It is made if it is missing. -/
def inDirectory (disk : Disk m) (directory : String) : ArtifactStore m where
  persist rewards performance trusted := ExceptT.run do
    ExceptT.mk ((·.mapError fun cause =>
      (ClientError.of cause).under s!"Failed to create output directory {directory}") <$>
      disk.createDirectories directory)
    let artifacts := artifactsOf rewards performance trusted
    writeAll disk directory artifacts
    return .ofList artifacts

end ArtifactStore

end PoolRewards
