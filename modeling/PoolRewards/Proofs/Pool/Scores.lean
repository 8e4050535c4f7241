/-
What scores come to as natural numbers.

A commission of at most one ether on a bond of at most the deposit makes an attestation
worth at most one ether.  So the scores of a minipool, and of all of them, are far from
2^256 as long as the attestations are counted by a word, and the average score is at most
one ether.
-/
import Mathlib.Algebra.BigOperators.Ring.List
import PoolRewards.Pool.Split
import PoolRewards.Proofs.Duties.Soundness

namespace PoolRewards

/-- A bond and commission of which an attestation is worth at most one ether. -/
structure BondHistory.Modest (history : BondHistory) : Prop where
  bond : history.bond ≤ Amount.validatorDeposit
  fee : history.fee ≤ Amount.oneEther
  previousBond : history.previousBond ≤ Amount.validatorDeposit
  previousFee : history.previousFee ≤ Amount.oneEther

theorem toNat_validatorDeposit : Amount.validatorDeposit.toNat = 32000000000000000000 := rfl

theorem toNat_attestationScore_le {bond fee : Amount} (hbond : bond ≤ Amount.validatorDeposit)
    (hfee : fee ≤ Amount.oneEther) : (attestationScore bond fee).toNat ≤ Amount.oneEther.toNat := by
  have hrest : (Amount.oneEther - fee).toNat = 1000000000000000000 - fee.toNat := by
    rw [BitVec.toNat_sub_of_le hfee, toNat_oneEther]
  rw [BitVec.le_def, toNat_validatorDeposit] at hbond
  rw [BitVec.le_def, toNat_oneEther] at hfee
  have hmul : (1000000000000000000 - fee.toNat) * bond.toNat ≤
      (1000000000000000000 - fee.toNat) * 32000000000000000000 :=
    Nat.mul_le_mul_left _ hbond
  have hpart : ((Amount.oneEther - fee) * bond / Amount.validatorDeposit).toNat ≤
      1000000000000000000 - fee.toNat := by
    rw [BitVec.toNat_udiv, BitVec.toNat_mul, hrest, toNat_validatorDeposit]
    refine Nat.div_le_of_le_mul ((Nat.mod_le _ _).trans ?_)
    rw [Nat.mul_comm (32000000000000000000)]
    exact hmul
  unfold attestationScore
  rw [BitVec.toNat_add, toNat_oneEther]
  refine (Nat.mod_le _ _).trans ?_
  omega

theorem BondHistory.Modest.toNat_scoreAt_le {history : BondHistory} (h : history.Modest)
    (time : UInt64) : (history.scoreAt time).toNat ≤ Amount.oneEther.toNat := by
  unfold BondHistory.scoreAt BondHistory.inEffect
  split
  · exact toNat_attestationScore_le h.bond h.fee
  · split
    · exact toNat_attestationScore_le h.previousBond h.fee
    · exact toNat_attestationScore_le h.previousBond h.previousFee

theorem BondHistory.Modest.toNat_scoreOver_le {history : BondHistory} (h : history.Modest)
    (config : BeaconConfig) (slots : SlotSet) :
    (history.scoreOver config slots).toNat ≤ slots.size * Amount.oneEther.toNat := by
  unfold BondHistory.scoreOver
  refine (Amount.toNat_sum_le _).trans ((List.sum_le_card_nsmul _ Amount.oneEther.toNat ?_).trans ?_)
  · intro n hn
    obtain ⟨score, hscore, rfl⟩ := List.mem_map.mp hn
    obtain ⟨slot, -, rfl⟩ := List.mem_map.mp hscore
    exact h.toNat_scoreAt_le _
  · rw [List.length_map, List.length_map, Std.ExtTreeSet.length_toList, Nat.nsmul_eq_mul]

/-! ### All minipools

The totals count every attestation at what it was worth, so the total score is at most one
ether for each attestation counted.  As these are counted by a word, no sum of scores comes
near 2^256.
-/

/-- Nodes of which nothing is paid yet, with the totals of what their minipools have reached. -/
structure Tallied (nodes : Array PoolNode) (totals : AttestationTotals) : Prop where
  score : totals.score = ((minipoolsOf nodes).map (·.score)).sum
  successful : totals.successful.toNat = ((minipoolsOf nodes).map (·.completed.size)).sum
  worth : ∀ minipool ∈ minipoolsOf nodes,
    minipool.score.toNat ≤ minipool.completed.size * Amount.oneEther.toNat
  /-- Whatever has a score earns something. -/
  earns : ∀ node ∈ nodes, ∀ minipool ∈ node.minipools, minipool.score ≠ 0 →
    minipool.earns = true ∧ node.eligible = true
  share : ∀ minipool ∈ minipoolsOf nodes, minipool.share = 0
  eth : ∀ node ∈ nodes, node.eth = 0

namespace Tallied

variable {nodes : Array PoolNode} {totals : AttestationTotals}

theorem sum_scores_le (h : Tallied nodes totals) :
    ((minipoolsOf nodes).map (·.score.toNat)).sum ≤ totals.successful.toNat * Amount.oneEther.toNat := by
  rw [h.successful, ← List.sum_map_mul_right]
  exact List.sum_le_sum h.worth

/-- The total score is the sum of the scores, without wrapping. -/
theorem toNat_score (h : Tallied nodes totals) :
    totals.score.toNat = ((minipoolsOf nodes).map (·.score.toNat)).sum := by
  have hle := h.sum_scores_le
  have hlt := totals.successful.toNat_lt_size
  have hsize : UInt64.size = 2 ^ 64 := rfl
  have hsum : ((minipoolsOf nodes).map (·.score)).map (·.toNat) =
      (minipoolsOf nodes).map (·.score.toNat) := List.map_map
  rw [h.score, Amount.toNat_sum_of_lt, hsum]
  rw [hsum]
  rw [toNat_oneEther] at hle
  omega

end Tallied

end PoolRewards
