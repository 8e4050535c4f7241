/-
The credits that the pending RPL is split into, row by row.

A node's reward is worked out first and then credited unless it is nothing, so the credits
of any nodes for collateral come to their rewards, and there are credits as soon as every
reward can be worked out.  A reward that cannot has a division by zero in it.  All credits
for collateral are made in one bucket, and so are those of the oracle members.
-/
import PoolRewards.Proofs.Ledger.Balance
import PoolRewards.Rpl

namespace PoolRewards

open Ledger

variable {snapshot : Snapshot} {node : NodeDetails} {rest : List NodeDetails} {credits : List Credit}
  {fault : Fault}

/-! ### Rewards without a result

The rewards are worked out from first to last, and the first that cannot be stops the
others.  All that a reward can fail by is one of its own two divisions.
-/

theorem bind_eq_error_iff {ε α β : Type} {step : Except ε α} {next : α → Except ε β} {stop : ε} :
    (step >>= next) = .error stop ↔
      step = .error stop ∨ ∃ a, step = .ok a ∧ next a = .error stop := by
  rcases step with other | a <;> simp [bind, Except.bind]

/-- A reward has no result where a divisor of its own is zero, and only there. -/
theorem collateralReward_eq_error_iff {pool stake totalStake weight totalWeight : Amount} {interval : UInt64} :
    collateralReward pool stake totalStake weight totalWeight interval = .error fault ↔
      fault = .divideByZero ∧ (stake ≠ 0 ∧ weight ≠ 0) ∧
        (totalWeight * 6 = 0 ∨ Amount.ofWord (weightSixths interval) ≠ 6 ∧ totalStake * 6 = 0) := by
  unfold collateralReward
  by_cases hnothing : stake = 0 ∨ weight = 0
  · rw [if_pos hnothing]
    refine iff_of_false ?_ fun h => not_or.mpr h.2.1 hnothing
    intro h
    cases h
  · rw [if_neg hnothing, bind_eq_error_iff, Amount.div_eq_error_iff]
    refine ⟨?_, ?_⟩
    · rintro (⟨hfault, hzero⟩ | ⟨byWeight, -, hrest⟩)
      · exact ⟨hfault, not_or.mp hnothing, Or.inl hzero⟩
      · split at hrest
        · cases hrest
        · next hsix =>
          rcases bind_eq_error_iff.mp hrest with hdiv | ⟨byStake, -, hsum⟩
          · obtain ⟨hfault, hzero⟩ := Amount.div_eq_error_iff.mp hdiv
            exact ⟨hfault, not_or.mp hnothing, Or.inr ⟨hsix, hzero⟩⟩
          · cases hsum
    · rintro ⟨hfault, -, hzero⟩
      by_cases hbyWeight : totalWeight * 6 = 0
      · exact Or.inl ⟨hfault, hbyWeight⟩
      · obtain ⟨hsix, hbyStake⟩ := hzero.resolve_left hbyWeight
        refine Or.inr ⟨_, if_neg hbyWeight, ?_⟩
        rw [if_neg hsix]
        exact bind_eq_error_iff.mpr (Or.inl (Amount.div_eq_error_iff.mpr ⟨hfault, hbyStake⟩))

namespace Snapshot

/-- The credits of nodes cannot be worked out where the reward of one of them cannot. -/
theorem collateralCreditsOf_eq_error_iff {nodes : List NodeDetails} :
    snapshot.collateralCreditsOf nodes = .error fault ↔
      ∃ node ∈ nodes, snapshot.collateralRewardOf node = .error fault := by
  have honly : ∀ node stop, snapshot.collateralRewardOf node = .error stop → stop = .divideByZero :=
    fun node stop h => (collateralReward_eq_error_iff.mp h).1
  induction nodes with
  | nil =>
      refine iff_of_false ?_ fun ⟨node, hmem, _⟩ => List.not_mem_nil hmem
      intro h
      cases h
  | cons node rest ih =>
      rw [collateralCreditsOf, bind_eq_error_iff, List.exists_mem_cons_iff]
      refine ⟨?_, ?_⟩
      · rintro (hfirst | ⟨reward, -, hrest⟩)
        · exact Or.inl hfirst
        · rcases bind_eq_error_iff.mp hrest with hothers | ⟨others, -, hcredits⟩
          · exact Or.inr (ih.mp hothers)
          · split at hcredits <;> cases hcredits
      · rintro (hfirst | hothers)
        · exact Or.inl hfirst
        · rcases hreward : snapshot.collateralRewardOf node with stop | reward
          · obtain ⟨other, -, hother⟩ := hothers
            rw [honly _ _ hreward, honly _ _ hother]
            exact Or.inl rfl
          · exact Or.inr ⟨reward, rfl, bind_eq_error_iff.mpr (Or.inl (ih.mpr hothers))⟩

/-! ### Credits

A reward of nothing is no credit.  So the credits are not one for each node, but their
amounts come to the rewards all the same.
-/

/-- The credit for a node's collateral, if its reward is not nothing. -/
def collateralCredit (node : NodeDetails) (reward : Amount) : List Credit :=
  if reward = 0 then [] else [⟨node.address, node.rewardNetwork, .collateralRpl, reward⟩]

theorem collateralCreditsOf_cons :
    snapshot.collateralCreditsOf (node :: rest) = .ok credits ↔
      ∃ reward others, snapshot.collateralRewardOf node = .ok reward ∧
        snapshot.collateralCreditsOf rest = .ok others ∧ credits = collateralCredit node reward ++ others := by
  rw [collateralCreditsOf]
  rcases snapshot.collateralRewardOf node with fault | reward
  · refine ⟨?_, ?_⟩
    · intro h
      cases h
    · intro h'
      obtain ⟨_, _, h, -⟩ := h'
      cases h
  · rcases snapshot.collateralCreditsOf rest with fault | others
    · refine ⟨?_, ?_⟩
      · intro h
        cases h
      · intro h'
        obtain ⟨_, _, -, h, -⟩ := h'
        cases h
    · have hcredits : collateralCredit node reward ++ others =
          if reward = 0 then others
          else ⟨node.address, node.rewardNetwork, .collateralRpl, reward⟩ :: others := by
        unfold collateralCredit
        split <;> rfl
      refine ⟨?_, ?_⟩
      · intro h
        cases h
        exact ⟨reward, others, rfl, rfl, hcredits.symm⟩
      · intro h'
        obtain ⟨_, _, hreward, hothers, rfl⟩ := h'
        cases hreward
        cases hothers
        rw [hcredits]
        rfl

theorem mem_collateralCredit {credit : Credit} {reward : Amount} (h : credit ∈ collateralCredit node reward) :
    reward ≠ 0 ∧ credit = ⟨node.address, node.rewardNetwork, .collateralRpl, reward⟩ := by
  unfold collateralCredit at h
  split at h
  · cases h
  · next hnonzero => exact ⟨hnonzero, List.mem_singleton.mp h⟩

theorem sum_collateralCredit (keep : Address → Bool) (node : NodeDetails) (reward : Amount) :
    (((collateralCredit node reward).filter fun credit => keep credit.node).map (·.amount)).sum =
      if keep node.address then reward else 0 := by
  unfold collateralCredit
  split
  · next hzero => simp [hzero]
  · rcases hkeep : keep node.address with _ | _ <;> simp [hkeep]

/-- Where every node has a reward, the credits of any nodes come to their rewards. -/
theorem exists_collateralCreditsOf {reward : NodeDetails → Amount} {nodes : List NodeDetails}
    (h : ∀ node ∈ nodes, snapshot.collateralRewardOf node = .ok (reward node)) :
    ∃ credits, snapshot.collateralCreditsOf nodes = .ok credits ∧ ∀ keep : Address → Bool,
      ((credits.filter fun credit => keep credit.node).map (·.amount)).sum =
        ((nodes.filter fun node => keep node.address).map reward).sum := by
  induction nodes with
  | nil => exact ⟨[], rfl, fun _ => rfl⟩
  | cons node rest ih =>
      obtain ⟨others, hothers, hsum⟩ := ih fun other hmem => h other (List.mem_cons_of_mem _ hmem)
      refine ⟨_, collateralCreditsOf_cons.mpr ⟨_, others, h node List.mem_cons_self, hothers, rfl⟩, ?_⟩
      intro keep
      rw [List.filter_append, List.map_append, List.sum_append, sum_collateralCredit, hsum, List.filter_cons]
      split
      · rw [List.map_cons, List.sum_cons]
      · rw [zero_add]

end Snapshot

/-- A credit for collateral is that of a node whose reward is not nothing. -/
theorem exists_node_of_collateralCredit {nodes : List NodeDetails} :
    ∀ {credits : List Credit}, snapshot.collateralCreditsOf nodes = .ok credits →
      ∀ credit ∈ credits, ∃ node ∈ nodes, ∃ reward, snapshot.collateralRewardOf node = .ok reward ∧
        reward ≠ 0 ∧ credit = ⟨node.address, node.rewardNetwork, .collateralRpl, reward⟩ := by
  induction nodes with
  | nil =>
      intro credits h credit hmem
      cases h
      cases hmem
  | cons node rest ih =>
      intro credits h credit hmem
      obtain ⟨reward, others, hreward, hothers, rfl⟩ := Snapshot.collateralCreditsOf_cons.mp h
      rcases List.mem_append.mp hmem with hmem | hmem
      · obtain ⟨hnonzero, rfl⟩ := Snapshot.mem_collateralCredit hmem
        exact ⟨node, List.mem_cons_self, reward, hreward, hnonzero, rfl⟩
      · obtain ⟨other, hother, hcredit⟩ := ih hothers credit hmem
        exact ⟨other, List.mem_cons_of_mem _ hother, hcredit⟩

theorem bucket_of_mem_collateralCreditsOf {nodes : List NodeDetails} {credits : List Credit}
    (h : snapshot.collateralCreditsOf nodes = .ok credits) :
    ∀ credit ∈ credits, credit.bucket = .collateralRpl := by
  intro credit hmem
  obtain ⟨node, -, reward, -, -, rfl⟩ := exists_node_of_collateralCredit h credit hmem
  rfl

theorem bucket_of_mem_oracleCredits {time : UInt64} {credit : Credit}
    (h : credit ∈ snapshot.oracleCredits time) : credit.bucket = .oracleDaoRpl := by
  obtain ⟨member, -, rfl⟩ := List.mem_map.mp h
  rfl

end PoolRewards
