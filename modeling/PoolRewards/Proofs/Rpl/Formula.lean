/-
The collateral formula over natural numbers.

A node's reward has a part by weight and a part by stake.  Each is a product divided by six
times a total and rounded down, and a node without a stake or without a weight has neither.
Where no product wraps, the reward is that of natural numbers.  It grows with the stake and
with the weight, and what is rounded down separately comes to no more than what is rounded
down at once: who splits a stake and a weight over several nodes gets no more for it.
-/
import PoolRewards.Proofs.Sums
import PoolRewards.Rpl

namespace PoolRewards

variable {pool stake totalStake weight totalWeight : Amount} {interval : UInt64}

/-! ### The sixths

The part that goes by stake grows by a sixth with every interval from 18 on and stops at
five sixths, in words as well as in natural numbers.
-/

theorem toNat_weightSixths (interval : UInt64) :
    (weightSixths interval).toNat = max 1 (6 - (interval.toNat - 17)) := by
  have hmax (a b : UInt64) : (max a b).toNat = max a.toNat b.toNat := by
    rw [UInt64.max_def]
    by_cases hle : a ≤ b
    · rw [if_pos hle, Nat.max_eq_right (UInt64.le_iff_toNat_le.mp hle)]
    · rw [if_neg hle, Nat.max_eq_left]
      rw [UInt64.le_iff_toNat_le] at hle
      omega
  rw [weightSixths, hmax, Word.toNat_less, Word.toNat_less]
  rfl

theorem weightSixths_le (interval : UInt64) : (weightSixths interval).toNat ≤ 6 := by
  rw [toNat_weightSixths]
  omega

theorem toNat_restSixths (interval : UInt64) :
    (6 - Amount.ofWord (weightSixths interval)).toNat = 6 - (weightSixths interval).toNat := by
  rw [BitVec.toNat_sub_of_le, toNat_ofWord]
  · rfl
  · rw [BitVec.le_def, toNat_ofWord]
    exact weightSixths_le interval

theorem ofWord_weightSixths_eq_six : Amount.ofWord (weightSixths interval) = 6 ↔
    (weightSixths interval).toNat = 6 := by
  rw [BitVec.toNat_eq, toNat_ofWord]
  rfl

/-! ### Natural numbers

A floored quotient grows with its numerator, and two of them come to no more than the
quotient of the sum.  Both facts carry over to the reward, a sum of two such quotients, and
to a list of any length by induction.
-/

section Natural

variable {pot sixths part total : Nat}

/-- A part of a pot in sixths, rounded down. -/
def sixthsPart (pot sixths part total : Nat) : Nat := pot * sixths * part / (total * 6)

/-- The reward of a node with a stake and a weight. -/
def naturalReward (pot sixths totalStake totalWeight stake weight : Nat) : Nat :=
  if stake = 0 ∨ weight = 0 then 0
  else sixthsPart pot sixths weight totalWeight + sixthsPart pot (6 - sixths) stake totalStake

theorem sixthsPart_mono {more : Nat} (h : part ≤ more) :
    sixthsPart pot sixths part total ≤ sixthsPart pot sixths more total :=
  Nat.div_le_div_right (Nat.mul_le_mul_left _ h)

/-- Two parts that are rounded down each come to no more than the part for both. -/
theorem sixthsPart_add_le (pot sixths part other total : Nat) :
    sixthsPart pot sixths part total + sixthsPart pot sixths other total ≤
      sixthsPart pot sixths (part + other) total := by
  unfold sixthsPart
  rw [Nat.mul_add]
  exact Nat.div_add_div_le_add_div

theorem sixthsPart_lt (hproduct : pot * sixths * part < 2 ^ 256) (htotal : 0 < total) :
    sixthsPart pot sixths part total < 2 ^ 255 := by
  have hdivisor : 2 * (pot * sixths * part / (total * 6)) ≤ total * 6 * (pot * sixths * part / (total * 6)) :=
    Nat.mul_le_mul_right _ (by omega)
  have hquotient := Nat.mul_div_le (pot * sixths * part) (total * 6)
  unfold sixthsPart
  omega

theorem naturalReward_mono {totalStake totalWeight stake moreStake weight moreWeight : Nat}
    (hstake : stake ≤ moreStake) (hweight : weight ≤ moreWeight) :
    naturalReward pot sixths totalStake totalWeight stake weight ≤
      naturalReward pot sixths totalStake totalWeight moreStake moreWeight := by
  unfold naturalReward
  by_cases hnothing : stake = 0 ∨ weight = 0
  · rw [if_pos hnothing]
    exact Nat.zero_le _
  · rw [if_neg hnothing, if_neg (by omega)]
    exact Nat.add_le_add (sixthsPart_mono hweight) (sixthsPart_mono hstake)

theorem naturalReward_add_le (pot sixths totalStake totalWeight stake weight otherStake otherWeight : Nat) :
    naturalReward pot sixths totalStake totalWeight stake weight +
        naturalReward pot sixths totalStake totalWeight otherStake otherWeight ≤
      naturalReward pot sixths totalStake totalWeight (stake + otherStake) (weight + otherWeight) := by
  -- A node without a stake or without a weight adds nothing, and what it has can only help the other.
  by_cases hnothing : stake = 0 ∨ weight = 0
  · have hnone : naturalReward pot sixths totalStake totalWeight stake weight = 0 := if_pos hnothing
    rw [hnone, Nat.zero_add]
    exact naturalReward_mono (Nat.le_add_left _ _) (Nat.le_add_left _ _)
  by_cases hother : otherStake = 0 ∨ otherWeight = 0
  · have hnone : naturalReward pot sixths totalStake totalWeight otherStake otherWeight = 0 := if_pos hother
    rw [hnone, Nat.add_zero]
    exact naturalReward_mono (Nat.le_add_right _ _) (Nat.le_add_right _ _)
  have hbyWeight := sixthsPart_add_le pot sixths weight otherWeight totalWeight
  have hbyStake := sixthsPart_add_le pot (6 - sixths) stake otherStake totalStake
  unfold naturalReward
  rw [if_neg hnothing, if_neg hother, if_neg (by omega)]
  omega

theorem sum_naturalReward_le (pot sixths totalStake totalWeight : Nat) {α : Type*} (stake weight : α → Nat)
    (parts : List α) :
    (parts.map fun part => naturalReward pot sixths totalStake totalWeight (stake part) (weight part)).sum ≤
      naturalReward pot sixths totalStake totalWeight (parts.map stake).sum (parts.map weight).sum := by
  induction parts with
  | nil => exact Nat.zero_le _
  | cons part rest ih =>
      simp only [List.map_cons, List.sum_cons]
      exact (Nat.add_le_add_left ih _).trans (naturalReward_add_le _ _ _ _ _ _ _ _)

end Natural

/-! ### Amounts

Where no product wraps the amounts behave like the numbers above.  A node without a stake or
a weight is not divided for at all, so for it nothing has to fit.
-/

theorem mapM_eq_ok {ε α β : Type} {f : α → Except ε β} {g : α → β} {l : List α}
    (h : ∀ a ∈ l, f a = .ok (g a)) : l.mapM f = .ok (l.map g) := by
  induction l with
  | nil => rfl
  | cons a rest ih =>
      rw [List.mapM_cons, h a List.mem_cons_self, ih fun b hmem => h b (List.mem_cons_of_mem _ hmem)]
      rfl

/-- The reward in natural numbers, for amounts. -/
def rewardIn (pool stake totalStake weight totalWeight : Amount) (interval : UInt64) : Nat :=
  naturalReward pool.toNat (weightSixths interval).toNat totalStake.toNat totalWeight.toNat stake.toNat
    weight.toNat

theorem rewardIn_eq (pool stake totalStake weight totalWeight : Amount) (interval : UInt64) :
    rewardIn pool stake totalStake weight totalWeight interval =
      if stake = 0 ∨ weight = 0 then 0
      else sixthsPart pool.toNat (weightSixths interval).toNat weight.toNat totalWeight.toNat +
        sixthsPart pool.toNat (6 - (weightSixths interval).toNat) stake.toNat totalStake.toNat := by
  have hzero (a : Amount) : a = 0 ↔ a.toNat = 0 := BitVec.toNat_eq
  simp only [rewardIn, naturalReward, hzero]

/-- No product wraps on the way to a reward.  Stakes are not looked at where all six sixths go by
weight. -/
structure RewardFits (pool stake totalStake weight totalWeight : Amount) (interval : UInt64) : Prop where
  byWeight : pool.toNat * (weightSixths interval).toNat * weight.toNat < 2 ^ 256
  weights : totalWeight.toNat * 6 < 2 ^ 256
  byStake : pool.toNat * (6 - (weightSixths interval).toNat) * stake.toNat < 2 ^ 256
  stakes : (weightSixths interval).toNat ≠ 6 → totalStake.toNat * 6 < 2 ^ 256

theorem RewardFits.of_le {lessStake lessWeight : Amount}
    (h : RewardFits pool stake totalStake weight totalWeight interval) (hstake : lessStake ≤ stake)
    (hweight : lessWeight ≤ weight) : RewardFits pool lessStake totalStake lessWeight totalWeight interval where
  byWeight := (Nat.mul_le_mul_left _ (BitVec.le_def.mp hweight)).trans_lt h.byWeight
  weights := h.weights
  byStake := (Nat.mul_le_mul_left _ (BitVec.le_def.mp hstake)).trans_lt h.byStake
  stakes := h.stakes

theorem div_sixths {pot part sixths total : Amount} (hproduct : pot.toNat * sixths.toNat * part.toNat < 2 ^ 256)
    (htotal : total ≠ 0) (hsix : total.toNat * 6 < 2 ^ 256) :
    Amount.div (pot * sixths * part) (total * 6) =
      .ok (BitVec.ofNat 256 (sixthsPart pot.toNat sixths.toNat part.toNat total.toNat)) := by
  have hdivisor : (total * 6).toNat = total.toNat * 6 := Amount.toNat_mul_of_lt hsix
  have hpos := Amount.toNat_pos htotal
  rw [Amount.div_eq_ok (by omega), hdivisor, Amount.toNat_mul_mul_of_lt hproduct]
  rfl

theorem RewardFits.div_byWeight (h : RewardFits pool stake totalStake weight totalWeight interval)
    (hweights : totalWeight ≠ 0) :
    Amount.div (pool * weight * Amount.ofWord (weightSixths interval)) (totalWeight * 6) =
      .ok (BitVec.ofNat 256 (sixthsPart pool.toNat (weightSixths interval).toNat weight.toNat
        totalWeight.toNat)) := by
  have hproduct := h.byWeight
  rw [← toNat_ofWord] at hproduct
  rw [mul_right_comm, div_sixths hproduct hweights h.weights, toNat_ofWord]

theorem RewardFits.div_byStake (h : RewardFits pool stake totalStake weight totalWeight interval)
    (hstakes : totalStake ≠ 0) (hsixths : (weightSixths interval).toNat ≠ 6) :
    Amount.div (pool * (6 - Amount.ofWord (weightSixths interval)) * stake) (totalStake * 6) =
      .ok (BitVec.ofNat 256 (sixthsPart pool.toNat (6 - (weightSixths interval).toNat) stake.toNat
        totalStake.toNat)) := by
  have hproduct := h.byStake
  rw [← toNat_restSixths] at hproduct
  rw [div_sixths hproduct hstakes (h.stakes hsixths), toNat_restSixths]

/-- **Where no product wraps, a node has the reward of natural numbers.** -/
theorem collateralReward_eq_ok (hstakes : totalStake ≠ 0) (hweights : totalWeight ≠ 0)
    (hfits : stake ≠ 0 → weight ≠ 0 → RewardFits pool stake totalStake weight totalWeight interval) :
    collateralReward pool stake totalStake weight totalWeight interval =
      .ok (BitVec.ofNat 256 (rewardIn pool stake totalStake weight totalWeight interval)) := by
  rw [rewardIn_eq]
  by_cases hnothing : stake = 0 ∨ weight = 0
  · rw [if_pos hnothing]
    exact if_pos hnothing
  obtain ⟨hstake, hweight⟩ := not_or.mp hnothing
  have h := hfits hstake hweight
  rw [if_neg hnothing]
  unfold collateralReward
  rw [if_neg hnothing]
  dsimp only
  rw [h.div_byWeight hweights]
  by_cases hsix : Amount.ofWord (weightSixths interval) = 6
  · have hnone : sixthsPart pool.toNat (6 - (weightSixths interval).toNat) stake.toNat totalStake.toNat = 0 := by
      simp [sixthsPart, ofWord_weightSixths_eq_six.mp hsix]
    simp only [hsix, hnone, Nat.add_zero]
    rfl
  · rw [h.div_byStake hstakes (mt ofWord_weightSixths_eq_six.mpr hsix), BitVec.ofNat_add]
    exact if_neg hsix

theorem toNat_ofNat_rewardIn (hstakes : totalStake ≠ 0) (hweights : totalWeight ≠ 0)
    (hfits : stake ≠ 0 → weight ≠ 0 → RewardFits pool stake totalStake weight totalWeight interval) :
    (BitVec.ofNat 256 (rewardIn pool stake totalStake weight totalWeight interval)).toNat =
      rewardIn pool stake totalStake weight totalWeight interval := by
  rw [BitVec.toNat_ofNat, Nat.mod_eq_of_lt]
  rw [rewardIn_eq]
  by_cases hnothing : stake = 0 ∨ weight = 0
  · rw [if_pos hnothing]
    decide
  · obtain ⟨hstake, hweight⟩ := not_or.mp hnothing
    have h := hfits hstake hweight
    have hbyWeight := sixthsPart_lt h.byWeight (Amount.toNat_pos hweights)
    have hbyStake := sixthsPart_lt h.byStake (Amount.toNat_pos hstakes)
    rw [if_neg hnothing]
    omega

/-! ### More or less of a stake

What fits for a node fits for every node that has less, so only the larger reward needs the
condition.
-/

theorem rewardIn_mono {moreStake moreWeight : Amount} (hstake : stake ≤ moreStake) (hweight : weight ≤ moreWeight) :
    rewardIn pool stake totalStake weight totalWeight interval ≤
      rewardIn pool moreStake totalStake moreWeight totalWeight interval :=
  naturalReward_mono (BitVec.le_def.mp hstake) (BitVec.le_def.mp hweight)

/-- **More stake or weight earns no less, and a stake and a weight that are split earn no more.** -/
theorem collateralReward_fair (hstakes : totalStake ≠ 0) (hweights : totalWeight ≠ 0)
    (hfits : stake ≠ 0 → weight ≠ 0 → RewardFits pool stake totalStake weight totalWeight interval) :
    ∃ reward, collateralReward pool stake totalStake weight totalWeight interval = .ok reward ∧
      (∀ lessStake ≤ stake, ∀ lessWeight ≤ weight, ∃ less,
        collateralReward pool lessStake totalStake lessWeight totalWeight interval = .ok less ∧
          less ≤ reward) ∧
      ∀ parts : List (Amount × Amount), (parts.map (·.1.toNat)).sum = stake.toNat →
        (parts.map (·.2.toNat)).sum = weight.toNat → ∃ rewards,
          parts.mapM (fun part => collateralReward pool part.1 totalStake part.2 totalWeight interval) =
              .ok rewards ∧
            (rewards.map (·.toNat)).sum ≤ reward.toNat := by
  -- Whoever has no more than the node has a reward, and the one in natural numbers.
  have hless : ∀ lessStake ≤ stake, ∀ lessWeight ≤ weight, lessStake ≠ 0 → lessWeight ≠ 0 →
      RewardFits pool lessStake totalStake lessWeight totalWeight interval := by
    intro lessStake hstake lessWeight hweight hsome hother
    have hmore {less more : Amount} (hle : less ≤ more) (hless : less ≠ 0) : more ≠ 0 := by
      rintro rfl
      exact hless (BitVec.le_zero_iff.mp hle)
    exact (hfits (hmore hstake hsome) (hmore hweight hother)).of_le hstake hweight
  refine ⟨_, collateralReward_eq_ok hstakes hweights hfits, ?_, ?_⟩
  · intro lessStake hstake lessWeight hweight
    have h := hless lessStake hstake lessWeight hweight
    refine ⟨_, collateralReward_eq_ok hstakes hweights h, ?_⟩
    rw [BitVec.le_def, toNat_ofNat_rewardIn hstakes hweights h, toNat_ofNat_rewardIn hstakes hweights hfits]
    exact rewardIn_mono hstake hweight
  · intro parts hsumStake hsumWeight
    have hpart : ∀ part ∈ parts, part.1 ≠ 0 → part.2 ≠ 0 →
        RewardFits pool part.1 totalStake part.2 totalWeight interval := by
      intro part hmem
      refine hless part.1 ?_ part.2 ?_
      · exact BitVec.le_def.mpr (hsumStake ▸ le_sum_map (·.1.toNat) hmem)
      · exact BitVec.le_def.mpr (hsumWeight ▸ le_sum_map (·.2.toNat) hmem)
    refine ⟨_, mapM_eq_ok fun part hmem => collateralReward_eq_ok hstakes hweights (hpart part hmem), ?_⟩
    have hrewards : (parts.map fun part => (BitVec.ofNat 256
        (rewardIn pool part.1 totalStake part.2 totalWeight interval)).toNat) =
        parts.map fun part => rewardIn pool part.1 totalStake part.2 totalWeight interval := by
      refine List.map_congr_left ?_
      intro part hmem
      exact toNat_ofNat_rewardIn hstakes hweights (hpart part hmem)
    rw [toNat_ofNat_rewardIn hstakes hweights hfits, List.map_map]
    show (parts.map fun part => (BitVec.ofNat 256 _).toNat).sum ≤ _
    rw [hrewards]
    refine (sum_naturalReward_le _ _ _ _ (·.1.toNat) (·.2.toNat) parts).trans_eq ?_
    rw [hsumStake, hsumWeight]
    rfl

theorem collateralReward_fair_threeNodes :
    (10 : Amount) ≠ 0 ∧ RewardFits 50 3 10 2 10 20 ∧ collateralReward 50 3 10 2 10 20 = .ok 12 ∧
      (∃ less, collateralReward 50 2 10 2 10 20 = .ok less ∧ less ≤ 12) ∧
      ∃ rewards, [(1, 0), (1, 1), (1, 1)].mapM (fun part => collateralReward 50 part.1 10 part.2 10 20) =
          .ok rewards ∧
        (rewards.map (·.toNat)).sum ≤ 12 := by
  have hfits : RewardFits 50 3 10 2 10 20 := ⟨by decide, by decide, by decide, by decide⟩
  obtain ⟨reward, hreward, hless, hparts⟩ :=
    collateralReward_fair (by decide) (by decide) fun _ _ => hfits
  have htwelve : collateralReward 50 3 10 2 10 20 = .ok 12 := by decide +kernel
  obtain rfl : 12 = reward := by
    rw [htwelve] at hreward
    exact Except.ok.inj hreward
  exact ⟨by decide, hfits, htwelve, hless 2 (by decide) 2 (by decide),
    hparts [(1, 0), (1, 1), (1, 1)] (by decide) (by decide)⟩

end PoolRewards
