/-
The rewards file is read back from its binary form, and a form that breaks off is refused.

Every part of a file has a sound layout, and so has the file.  The version is the first part, so
it is read off the front of the whole form, and off every beginning that holds it: a form that
breaks off fails while the version is read, for the version, or while the rest is read.
-/
import PoolRewards.Artifact.Binary
import PoolRewards.Proofs.Artifact.Layout

namespace PoolRewards

open Layout

variable {file : RewardsFile} {front back : List UInt8}

theorem IntervalBounds.sound_layout (bounds : IntervalBounds) : layout.Sound bounds :=
  Sound.relabel _ ((sound_word _).pair <| (sound_word _).pair <| (sound_word _).pair <|
    (sound_word _).pair <| (sound_word _).pair (sound_word _)) rfl

theorem TotalRewards.sound_layout (totals : TotalRewards) : layout.Sound totals :=
  Sound.relabel _ ((sound_amount _).pair <| (sound_amount _).pair <| (sound_amount _).pair <|
    (sound_amount _).pair <| (sound_amount _).pair <| (sound_amount _).pair (sound_amount _)) rfl

theorem Rewards.sound_layout (rewards : Rewards) : layout.Sound rewards :=
  Sound.relabel _ ((sound_amount _).pair <| (sound_amount _).pair (sound_amount _)) rfl

theorem NetworkReward.sound_layout (reward : NetworkReward) : layout.Sound reward :=
  Sound.relabel _ ((sound_word _).pair reward.rewards.sound_layout) rfl

theorem NodeReward.sound_layout (reward : NodeReward) (hproof : reward.proof.length < UInt64.size) :
    layout.Sound reward :=
  Sound.relabel _ ((sound_octets (by decide) _).pair <| (sound_word _).pair <|
    reward.rewards.sound_layout.pair <| sound_list hproof fun _ _ => sound_octets (by decide) _) rfl

namespace RewardsFile

/-- Whether the text and the lists of a file are short enough to be counted by a word, as those
in any memory are. -/
structure Countable (file : RewardsFile) : Prop where
  network : file.network.toUTF8.toList.length < UInt64.size
  networkRewards : file.networkRewards.length < UInt64.size
  nodeRewards : file.nodeRewards.length < UInt64.size
  proofs : ∀ record ∈ file.nodeRewards, record.proof.length < UInt64.size

theorem Countable.sound_layout (h : file.Countable) : layout.Sound file :=
  Sound.relabel _ ((sound_word _).pair <| (sound_word _).pair <| (sound_text h.network).pair <|
    (sound_word _).pair <| (sound_word _).pair <| file.interval.sound_layout.pair <|
    (sound_octets (by decide) _).pair <| file.totals.sound_layout.pair <|
    (sound_list h.networkRewards fun reward _ => reward.sound_layout).pair <|
    sound_list h.nodeRewards fun record hmem => record.sound_layout (h.proofs record hmem)) rfl

/-! ### Reading off the front

What is behind the value that was read does not matter to `readFront`.  So the version can
be read off the whole form, and off any beginning of it that is long enough.
-/

theorem readFront_of_takes {α : Type} {read : Reader α} {written : List UInt8} {a : α}
    (h : Takes read written a) (rest : List UInt8) : readFront read (written ++ rest) = .ok a := by
  rw [readFront, h.whole]

theorem readFront_torn {α : Type} {read : Reader α} {a : α} (h : Takes read (front ++ back) a)
    (hback : back ≠ []) : ∃ error, readFront read front = .error error := by
  obtain ⟨fault, hfault⟩ := h.torn front back rfl hback
  exact ⟨.encoding fault.message, by rw [readFront, hfault]⟩

/-- The version stands in front. -/
theorem exists_toBinary (file : RewardsFile) :
    ∃ rest, file.toBinary = word.write file.fileVersion ++ rest :=
  ⟨_, rfl⟩

theorem ofBinary_of_version {buffer : List UInt8} {version : UInt64}
    (h : readFront word.read buffer = .ok version) : ofBinary buffer =
      if version = 3 then readFront layout.read buffer else .error (.unsupportedVersion version) := by
  rw [ofBinary, h]
  by_cases hthree : version = 3
  · rw [if_pos hthree, hthree]
    rfl
  · have hother : version ≠ rewardsFileVersion := hthree
    rw [if_neg hthree]
    simp only [bind, Except.bind, if_pos hother]
    rfl

theorem ofBinary_of_error {buffer : List UInt8} {error : GenerationError}
    (h : readFront word.read buffer = .error error) : ofBinary buffer = .error error := by
  rw [ofBinary, h]
  rfl

/-- **A file of the present version is read back from its binary form**, any other version is
refused as such, and a form that breaks off is refused whatever its version. -/
theorem ofBinary_toBinary (h : file.Countable) :
    ofBinary file.toBinary =
        (if file.fileVersion = 3 then .ok file else .error (.unsupportedVersion file.fileVersion)) ∧
      ∀ front, front <+: file.toBinary → front ≠ file.toBinary →
        ∃ error, ofBinary front = .error error := by
  have hsound : Takes layout.read file.toBinary file := h.sound_layout
  refine ⟨?_, ?_⟩
  · obtain ⟨rest, hrest⟩ := file.exists_toBinary
    have hversion : readFront word.read file.toBinary = .ok file.fileVersion := by
      rw [hrest]
      exact readFront_of_takes (sound_word file.fileVersion) rest
    have hfile : readFront layout.read file.toBinary = .ok file := by
      have hwhole := readFront_of_takes hsound []
      rwa [List.append_nil] at hwhole
    rw [ofBinary_of_version hversion, hfile]
  · intro front hfront hproper
    obtain ⟨back, hback⟩ := hfront
    have htorn : back ≠ [] := by
      intro hnil
      exact hproper (by rw [← hback, hnil, List.append_nil])
    obtain ⟨error, herror⟩ := readFront_torn (hback ▸ hsound) htorn
    rcases hversion : readFront word.read front with fault | version
    · exact ⟨fault, ofBinary_of_error hversion⟩
    · rw [ofBinary_of_version hversion, herror]
      by_cases hthree : version = 3
      · exact ⟨error, if_pos hthree⟩
      · exact ⟨.unsupportedVersion version, if_neg hthree⟩

/-! ### A file with the largest numbers

Every varint of this file is as long as varints get, and its text has a character of more
than one byte.
-/

/-- A file with the largest words and amounts, a text beyond one byte a character, a node without
a proof and one with two hashes. -/
def largestFile : RewardsFile where
  fileVersion := 3
  rulesetVersion := Word.last
  network := "hole\u015bky\n"
  index := Word.last
  intervalsPassed := 128
  interval := ⟨0, Word.last, 127, 128, 16383, 16384⟩
  merkleRoot := BitVec.allOnes _
  totals := ⟨0, BitVec.allOnes _, 1, 10000000000000000000, 9999999999999999999, 16, 0⟩
  networkRewards := [⟨0, ⟨BitVec.allOnes _, 0, 7⟩⟩, ⟨Word.last, ⟨0, 0, 0⟩⟩]
  nodeRewards := [⟨1, 0, ⟨BitVec.allOnes _, 0, 7⟩, []⟩, ⟨BitVec.allOnes _, Word.last, ⟨0, 0, 0⟩, [0, BitVec.allOnes _]⟩]

theorem ofBinary_toBinary_largest : largestFile.Countable ∧
    ofBinary largestFile.toBinary = .ok largestFile ∧
    ∀ front, front <+: largestFile.toBinary → front ≠ largestFile.toBinary →
      ∃ error, ofBinary front = .error error := by
  have hcountable : largestFile.Countable := ⟨by decide +kernel, by decide, by decide, by decide⟩
  exact ⟨hcountable, ofBinary_toBinary hcountable⟩

end RewardsFile

end PoolRewards
