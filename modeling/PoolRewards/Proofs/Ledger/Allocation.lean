/-
What the split of the pending RPL leaves in the ledger.

The split credits nodes for collateral first and oracle members after it, and either part
may be skipped.  A total is read off the networks between the two; since the books balance
it is what the nodes have in that bucket, and the credits that follow go to another one.
No ether is credited, and the treasury's part is a residual, so the three parts always
come to what was pending.
-/
import PoolRewards.Proofs.Ends
import PoolRewards.Proofs.Ledger.Credits

namespace PoolRewards

open Ledger

variable {snapshot : Snapshot} {ledger after : Ledger} {bucket other : Bucket} {total : Amount}

/-- No node has anything in a bucket. -/
def Ledger.Untouched (ledger : Ledger) (bucket : Bucket) : Prop :=
  ∀ (node : Address) (account : NodeAccount),
    ledger.nodes[node]? = some account → account.rewards.get bucket = 0

theorem Ledger.untouched_new (enabled : Std.ExtTreeSet UInt64) (bucket : Bucket) :
    (new enabled).Untouched bucket := by
  intro node account hnode
  have hempty : (∅ : Std.ExtTreeMap Address NodeAccount)[node]? = some account := hnode
  rw [Std.ExtTreeMap.getElem?_empty] at hempty
  cases hempty

/-- Credits in other buckets leave a bucket untouched. -/
theorem Ledger.Untouched.creditAll (credits : List Credit)
    (hother : ∀ credit ∈ credits, credit.bucket ≠ bucket) :
    ∀ {ledger : Ledger}, ledger.Untouched bucket → (ledger.creditAll credits).Untouched bucket := by
  induction credits with
  | nil => exact fun h => h
  | cons credit rest ih =>
      intro ledger h
      rw [creditAll_cons]
      refine ih (fun c hc => hother c (List.mem_cons_of_mem _ hc)) ?_
      intro node account hnode
      rw [getElem?_nodes_credit] at hnode
      split at hnode
      · cases hnode
        rw [get_accountAfter, if_neg (hother credit List.mem_cons_self), add_zero]
        rcases hold : ledger.nodes[credit.node]? with _ | account
        · rfl
        · exact h _ _ hold
      · exact h _ _ hnode

/-- A total is that of credits made in one bucket, on top of nothing. -/
def Booked (bucket : Bucket) (ledger : Ledger) (total : Amount) (after : Ledger) : Prop :=
  ∃ credits : List Credit, (∀ credit ∈ credits, credit.bucket = bucket) ∧
    after = ledger.creditAll credits ∧ (ledger.total bucket = 0 → after.total bucket = total)

theorem booked_nothing : Booked bucket ledger 0 ledger :=
  ⟨[], fun _ h => absurd h List.not_mem_nil, rfl, fun h => h⟩

theorem Booked.balanced (h : Booked bucket ledger total after) (hbalanced : ledger.Balanced) :
    after.Balanced := by
  obtain ⟨credits, -, rfl, -⟩ := h
  exact hbalanced.creditAll credits

theorem Booked.untouched (h : Booked bucket ledger total after) (hne : bucket ≠ other)
    (hnone : ledger.Untouched other) : after.Untouched other := by
  obtain ⟨credits, hbucket, rfl, -⟩ := h
  exact hnone.creditAll credits fun credit hmem => hbucket credit hmem ▸ hne

theorem Booked.nodeTotal_other (h : Booked bucket ledger total after) (hne : bucket ≠ other) :
    after.nodeTotal other = ledger.nodeTotal other := by
  obtain ⟨credits, hbucket, rfl, -⟩ := h
  rw [nodeTotal_creditAll, credited_eq_zero fun credit hmem => hbucket credit hmem ▸ hne, add_zero]

theorem Booked.nodeTotal_eq (h : Booked bucket ledger total after) (hbalanced : ledger.Balanced)
    (hnone : ledger.nodeTotal bucket = 0) : after.nodeTotal bucket = total := by
  have hafter := h.balanced hbalanced
  obtain ⟨credits, -, -, htotal⟩ := h
  rw [← hafter.totals]
  exact htotal ((hbalanced.totals bucket).trans hnone)

/-! ### The two parts

A part is a list of credits in one bucket, made and then reconciled.  Either its total is
what was booked, or the split is stopped.
-/

theorem run_makeCredits (credits : List Credit) (bucket : Bucket) (name : String)
    (expected tolerance : Amount) (ledger : Ledger) :
    (makeCredits credits bucket name expected tolerance).run.run ledger =
      ((reconcile name ((ledger.creditAll credits).total bucket) expected tolerance).mapError Halt.error |>.map
          fun _ => (ledger.creditAll credits).total bucket,
        ledger.creditAll credits) := by
  have hcheck : ∀ (result : Except GenerationError Amount) (total : Amount) (ledger : Ledger),
      (do let _ ← Halt.check result; return total : Crediting Amount).run.run ledger =
        ((result.mapError Halt.error).map fun _ => total, ledger) := by
    intro result total ledger
    rcases result with _ | _ <;> rfl
  exact hcheck _ _ _

/-- Credits in one bucket are booked there, unless their total is too far from what it should be. -/
theorem makeCredits_ends {credits : List Credit} {name : String} {expected tolerance : Amount}
    (hbucket : ∀ credit ∈ credits, credit.bucket = bucket) :
    Ends (makeCredits credits bucket name expected tolerance) ledger
      (fun total after => Booked bucket ledger total after ∧
        total = (ledger.creditAll credits).total bucket)
      (∃ error, reconcile name ((ledger.creditAll credits).total bucket) expected tolerance =
        .error error) := by
  unfold Ends
  rw [run_makeCredits]
  rcases reconcile name ((ledger.creditAll credits).total bucket) expected tolerance with error | delta
  · exact ⟨error, rfl⟩
  · exact ⟨⟨credits, hbucket, rfl, fun _ => rfl⟩, rfl⟩

theorem allocateCollateral_ends (snapshot : Snapshot) (ledger : Ledger) :
    Ends (allocateCollateral snapshot) ledger (Booked .collateralRpl ledger) True := by
  unfold allocateCollateral
  refine ends_bind.mpr (ends_mk ?_ fun _ _ => trivial)
  intro credits hcredits
  have hok : snapshot.collateralCredits = .ok credits := by
    rcases h : snapshot.collateralCredits with fault | found
    · rw [h] at hcredits
      cases hcredits
    · rw [h] at hcredits
      cases hcredits
      rfl
  exact (makeCredits_ends (bucket_of_mem_collateralCreditsOf hok)).mono (fun _ _ h => h.1) fun _ => trivial

theorem allocateOracleDao_ends (snapshot : Snapshot) (time : UInt64) (ledger : Ledger) :
    Ends (allocateOracleDao snapshot time) ledger (Booked .oracleDaoRpl ledger) True := by
  unfold allocateOracleDao
  split
  · exact ends_pure booked_nothing
  · exact (makeCredits_ends fun _ => bucket_of_mem_oracleCredits).mono (fun _ _ h => h.1) fun _ => trivial

/-! ### The split

The buckets are different ones, so the second part leaves the first one's total as it is.
The treasury gets what is left, which makes the sum come out whatever the two totals are.
-/

/-- The ledger holds what the pending RPL was split into, and nothing else. -/
structure RplAllocation.Held (snapshot : Snapshot) (rpl : RplAllocation) (ledger : Ledger) : Prop where
  balanced : ledger.Balanced
  ether : ledger.Untouched .smoothingPoolEth
  collateral : ledger.nodeTotal .collateralRpl = rpl.collateral
  oracleDao : ledger.nodeTotal .oracleDaoRpl = rpl.oracleDao
  pending : rpl.protocolDao + rpl.collateral + rpl.oracleDao = snapshot.network.pendingRpl

/-- What the oracle members get is split off after whatever was booked for collateral. -/
theorem splitOff_ends {snapshot : Snapshot} {time : UInt64} {enabled : Std.ExtTreeSet UInt64}
    {collateral weight : Amount} (h : Booked .collateralRpl (new enabled) collateral ledger) :
    Ends (do
        let oracleDao ← allocateOracleDao snapshot time
        return ⟨snapshot.network.pendingRpl - collateral - oracleDao, collateral, oracleDao, weight⟩)
      ledger (RplAllocation.Held snapshot) True := by
  have hnew := balanced_new enabled
  have hbalanced := h.balanced hnew
  have hpart : ledger.nodeTotal .oracleDaoRpl = 0 := by
    rw [h.nodeTotal_other (by decide), nodeTotal_new]
  refine ends_bind.mpr ((allocateOracleDao_ends snapshot time ledger).mono ?_ fun _ => trivial)
  intro oracleDao last horacle
  refine ends_pure ⟨horacle.balanced hbalanced, ?_, ?_, ?_, ?_⟩
  · exact horacle.untouched (by decide) (h.untouched (by decide) (untouched_new enabled _))
  · rw [horacle.nodeTotal_other (by decide), h.nodeTotal_eq hnew (nodeTotal_new enabled _)]
  · exact horacle.nodeTotal_eq hbalanced hpart
  · show snapshot.network.pendingRpl - collateral - oracleDao + collateral + oracleDao = _
    rw [sub_sub, add_assoc, sub_add_cancel]

/-- **The split of the pending RPL is what the ledger holds.** -/
theorem allocateRpl_ends (snapshot : Snapshot) (time : UInt64) (enabled : Std.ExtTreeSet UInt64) :
    Ends (allocateRpl snapshot time) (new enabled) (RplAllocation.Held snapshot) True := by
  unfold allocateRpl
  dsimp only
  split
  · exact ends_bind.mpr (ends_throw trivial)
  · split
    · refine ends_bind.mpr ((allocateCollateral_ends snapshot _).mono ?_ fun _ => trivial)
      intro collateral mid hcollateral
      exact splitOff_ends hcollateral
    · exact ends_bind.mpr (ends_pure (splitOff_ends booked_nothing))

end PoolRewards
