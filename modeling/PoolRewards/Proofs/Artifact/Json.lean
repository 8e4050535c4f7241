/-
Artifacts are read back from their texts.

Every part of a file is plain and read back from the object that it is written as, and so is the
file.  The text of a rewards file is a document of that object; settling it leaves the version
where it was, and the reader of a file takes the settled object for the file.  A performance
file is read straight off its text, as the snapshot behind it is.
-/
import PoolRewards.Artifact.Json
import PoolRewards.Proofs.Snapshot.Json

namespace PoolRewards

open Json Decoder

variable {room : Nat}

theorem IntervalBounds.recovers (bounds : IntervalBounds) :
    decoder.Recovers (room + 1) bounds.toJson bounds :=
  ((Record.recovers_unit mk)
    |>.field "startTime" (recovers_word _)
    |>.field "endTime" (recovers_word _)
    |>.field "consensusStartBlock" (recovers_word _)
    |>.field "consensusEndBlock" (recovers_word _)
    |>.field "executionStartBlock" (recovers_word _)
    |>.field "executionEndBlock" (recovers_word _)).decoder (by decide) (by decide) "IntervalBounds"

theorem TotalRewards.recovers (totals : TotalRewards) :
    decoder.Recovers (room + 1) totals.toJson totals :=
  ((Record.recovers_unit mk)
    |>.field "protocolDaoRpl" (recovers_amount _)
    |>.field "totalCollateralRpl" (recovers_amount _)
    |>.field "totalOracleDaoRpl" (recovers_amount _)
    |>.field "totalSmoothingPoolEth" (recovers_amount _)
    |>.field "poolStakerSmoothingPoolEth" (recovers_amount _)
    |>.field "nodeOperatorSmoothingPoolEth" (recovers_amount _)
    |>.field "totalNodeWeight" (recovers_amount _)).decoder (by decide) (by decide) "TotalRewards"

theorem NetworkReward.recovers (reward : NetworkReward) :
    decoder.Recovers (room + 1) reward.toJson reward :=
  ((Record.recovers_unit fun network collateral oracleDao eth =>
      NetworkReward.mk network ⟨collateral, oracleDao, eth⟩)
    |>.field "network" (recovers_word _)
    |>.field "collateralRpl" (recovers_amount _)
    |>.field "oracleDaoRpl" (recovers_amount _)
    |>.field "smoothingPoolEth" (recovers_amount _)).decoder (by decide) (by decide) "NetworkReward"

theorem NodeReward.recovers (reward : NodeReward) : decoder.Recovers (room + 2) reward.toJson reward :=
  ((Record.recovers_unit fun address network collateral oracleDao eth proof =>
      NodeReward.mk address network ⟨collateral, oracleDao, eth⟩ proof)
    |>.field "address" (recovers_octets _)
    |>.field "network" (recovers_word _)
    |>.field "collateralRpl" (recovers_amount _)
    |>.field "oracleDaoRpl" (recovers_amount _)
    |>.field "smoothingPoolEth" (recovers_amount _)
    |>.fieldOr "merkleProof" (recovers_list fun digest _ => recovers_octets digest) (some [])).decoder
      (by decide) (by decide) "NodeReward"

namespace RewardsFile

theorem recovers (file : RewardsFile) : decoder.Recovers deepest file.toJson file :=
  ((Record.recovers_unit mk)
    |>.field "rewardsFileVersion" (recovers_word _)
    |>.field "rulesetVersion" (recovers_word _)
    |>.field "network" (recovers_string _)
    |>.field "index" (recovers_word _)
    |>.field "intervalsPassed" (recovers_word _)
    |>.field "interval" file.interval.recovers
    |>.field "merkleRoot" (recovers_octets _)
    |>.field "totalRewards" file.totals.recovers
    |>.field "networkRewards" (recovers_list fun reward _ => reward.recovers)
    |>.field "nodeRewards" (recovers_list fun reward _ => reward.recovers)).decoder
      (by decide) (by decide) "RewardsFile"

/-- The version is found wherever the members of a file stand. -/
theorem versionIn?_of_reordered {file : RewardsFile} {document : Json}
    (h : Reordered file.toJson document) : versionIn? document = some file.fileVersion := by
  obtain ⟨members, rfl, hperm, hvalues⟩ := h.exists_members
  have hnames : (members.map (·.1)).Nodup := by
    refine hperm.nodup_iff.mpr ?_
    show record.names.Nodup
    decide
  obtain ⟨value, hmem, hvalue⟩ :=
    hvalues ("rewardsFileVersion", .ofWord file.fileVersion) List.mem_cons_self
  rw [versionIn?, get?_ofMembers hnames hmem]
  cases hvalue
  rfl

/-- **A file of the present version is read back from its text**, and any other version is
refused as such. -/
theorem ofJsonBytes_jsonText (file : RewardsFile) :
    ofJsonBytes file.jsonText.toUTF8.toList =
      if file.fileVersion = 3 then .ok file else .error (.unsupportedVersion file.fileVersion) := by
  obtain ⟨document, hdocument, hsame⟩ := file.recovers.plain.settledOfBytes_pretty
  have hversion := versionIn?_of_reordered hsame
  have hfile := file.recovers.reads .settled document hsame
  have hsettled : (settledOfBytes file.jsonText.toUTF8.toList).mapError
      (fun fault => GenerationError.encoding fault.message) = .ok document := by
    rw [jsonText, hdocument]
    rfl
  rw [ofJsonBytes, hsettled]
  simp only [bind, Except.bind, hversion]
  by_cases hthree : file.fileVersion = 3
  · have hpresent : ¬ file.fileVersion ≠ rewardsFileVersion := fun h => h hthree
    rw [if_pos hthree, if_neg hpresent, hfile]
    rfl
  · have hother : file.fileVersion ≠ rewardsFileVersion := hthree
    rw [if_neg hthree, if_pos hother]
    rfl

end RewardsFile

/-! ### Performance files

A performance file is not settled first.  Its members are written and read in one order, and
so its decoder reads its own object.
-/

theorem MinipoolPerformance.recovers (performance : MinipoolPerformance) :
    decoder.Recovers (room + 2) performance.toJson performance :=
  ((Record.recovers_unit mk)
    |>.field "pubkey" (recovers_octets _)
    |>.field "successfulAttestations" (recovers_word _)
    |>.field "missedAttestations" (recovers_word _)
    |>.field "attestationScore" (recovers_amount _)
    |>.field "ethEarned" (recovers_amount _)
    |>.field "missingAttestationSlots" (recovers_list fun slot _ => recovers_word slot)).decoder
      (by decide) (by decide) "MinipoolPerformance"

theorem PerformanceFile.recovers (file : PerformanceFile) :
    decoder.Recovers deepest file.toJson file :=
  ((Record.recovers_unit mk)
    |>.field "rewardsFileVersion" (recovers_word _)
    |>.field "rulesetVersion" (recovers_word _)
    |>.field "network" (recovers_string _)
    |>.field "index" (recovers_word _)
    |>.field "interval" file.interval.recovers
    |>.field "minipoolPerformance" (recovers_keyed fun entry _ => entry.2.recovers)).decoder
      (by decide) (by decide) "PerformanceFile"

/-- **Snapshots and performance files survive their texts.**  A snapshot is read back from its
compact and from its pretty text, and a performance file from its text, each with every field,
every list in its order and every map as it was. -/
theorem snapshot_and_performance_read_back :
    (∀ snapshot : Snapshot,
      Snapshot.ofBytes snapshot.toJson.compact.toUTF8.toList = .ok snapshot ∧
        Snapshot.ofBytes snapshot.toJson.pretty.toUTF8.toList = .ok snapshot) ∧
      ∀ file : PerformanceFile,
        Json.decodeBytes PerformanceFile.decoder file.jsonText.toUTF8.toList = .ok file :=
  ⟨fun snapshot => snapshot.recovers.decodeBytes, fun file => file.recovers.decodeBytes.2⟩

end PoolRewards
