/-
What a rewards file has on record for an address.

The records of a file are the accounts of the ledger that it is written from.  So what a
file says of an address can be read off the credits: the amounts are what was credited to
the address, and the network is where its account stands.
-/
import PoolRewards.Proofs.Generator.Consistency
import PoolRewards.Proofs.Ledger.Accounts

namespace PoolRewards

open Ledger

/-- The amount on record for an address in a bucket, nothing without a record. -/
def RewardsFile.amountOf (file : RewardsFile) (address : Address) (bucket : Bucket) : Amount :=
  ((file.nodeRewards.find? (·.address == address)).map (·.rewards.get bucket)).getD 0

variable {request : Request} {bounds : IntervalBounds} {rpl : RplAllocation} {eth : EthOutcome}
  {ledger : Ledger} {hash : List UInt8 → Digest} {file : RewardsFile}

theorem map_accounts_withTree (h : (request.rewardsFile bounds rpl eth ledger).withTree hash = .ok file) :
    file.nodeRewards.map (fun record => (record.address, (⟨record.network, record.rewards⟩ : NodeAccount))) =
      ledger.nodes.toList := by
  rw [map_nodeRewards_withTree h _ fun _ _ => rfl]
  exact List.map_id _

/-- A record is that of an account. -/
theorem account_of_record (h : (request.rewardsFile bounds rpl eth ledger).withTree hash = .ok file)
    {record : NodeReward} (hmem : record ∈ file.nodeRewards) :
    ledger.nodes[record.address]? = some ⟨record.network, record.rewards⟩ := by
  rw [← Std.ExtTreeMap.mem_toList_iff_getElem?_eq_some, ← map_accounts_withTree h]
  exact List.mem_map_of_mem hmem

theorem exists_record (h : (request.rewardsFile bounds rpl eth ledger).withTree hash = .ok file)
    {node : Address} (hnode : node ∈ ledger.nodes) : ∃ record ∈ file.nodeRewards, record.address = node := by
  obtain ⟨account, haccount⟩ := Option.isSome_iff_exists.mp
    (Std.ExtTreeMap.isSome_getElem?_iff_mem.mpr hnode)
  rw [← Std.ExtTreeMap.mem_toList_iff_getElem?_eq_some, ← map_accounts_withTree h] at haccount
  obtain ⟨record, hrecord, heq⟩ := List.mem_map.mp haccount
  exact ⟨record, hrecord, congrArg (·.1) heq⟩

/-- **The amounts on record are those of the ledger.** -/
theorem amountOf_withTree (h : (request.rewardsFile bounds rpl eth ledger).withTree hash = .ok file)
    (address : Address) (bucket : Bucket) :
    file.amountOf address bucket = (ledger.rewardsOf address).get bucket := by
  unfold RewardsFile.amountOf rewardsOf
  rcases hfind : file.nodeRewards.find? (·.address == address) with _ | record
  · have hnone : ledger.nodes[address]? = none := by
      rw [← Option.not_isSome_iff_eq_none, Std.ExtTreeMap.isSome_getElem?_iff_mem]
      intro hnode
      obtain ⟨record, hmem, haddress⟩ := exists_record h hnode
      exact List.find?_eq_none.mp hfind record hmem (beq_iff_eq.mpr haddress)
    rw [hfind, hnone]
    exact (Rewards.get_none bucket).symm
  · have hsame := List.find?_some hfind
    have haddress : record.address = address := beq_iff_eq.mp hsame
    rw [hfind, ← haddress, account_of_record h (List.mem_of_find?_eq_some hfind)]
    rfl

/-! ### What was credited

Picking out the credits of one node and adding them up is what its account holds.
-/

theorem credited_filter_eq_zero {credits : List Credit} {bucket : Bucket}
    (h : ∀ credit ∈ credits, credit.bucket ≠ bucket) (node : Address) :
    credited (credits.filter (·.node = node)) bucket = 0 :=
  credited_eq_zero fun credit hmem => h credit (List.mem_of_mem_filter hmem)

theorem credited_filter_eq_sum {credits : List Credit} {bucket : Bucket}
    (h : ∀ credit ∈ credits, credit.bucket = bucket) (node : Address) :
    credited (credits.filter (·.node = node)) bucket =
      ((credits.filter (·.node = node)).map (·.amount)).sum :=
  credited_eq_sum fun credit hmem => h credit (List.mem_of_mem_filter hmem)

/-- In an untouched bucket a node has nothing. -/
theorem Ledger.Untouched.rewardsOf {bucket : Bucket} (h : ledger.Untouched bucket) (node : Address) :
    (ledger.rewardsOf node).get bucket = 0 := by
  unfold Ledger.rewardsOf
  rcases hnode : ledger.nodes[node]? with _ | account
  · exact Rewards.get_none bucket
  · exact h node account hnode

/-- **The ether on record for an address is what is credited to it.** -/
theorem etherOf_withTree (hnone : ledger.Untouched .smoothingPoolEth)
    (h : (request.rewardsFile bounds rpl eth (ledger.creditAll eth.credits)).withTree hash = .ok file)
    (address : Address) :
    file.amountOf address .smoothingPoolEth =
      credited (eth.credits.filter (·.node = address)) .smoothingPoolEth := by
  rw [amountOf_withTree h, rewardsOf_creditAll, hnone.rewardsOf, zero_add]

end PoolRewards
