/-
What credits come to for one node.

A node has what was credited to it, bucket by bucket, and stands where its first credit put
it.  If all credits to a node ask for one network, that place can be told without the
credits: it is the network asked for if rewards may be claimed there, and the default one
otherwise, with the request on record.  The invariant is kept by every credit, because a
further credit to a node changes neither its network nor its request.
-/
import PoolRewards.Proofs.Answers
import PoolRewards.Proofs.Ledger.Allocation
import PoolRewards.Proofs.Ledger.Order

namespace PoolRewards

open Ledger

namespace Ledger

variable {ledger : Ledger} {node : Address} {wanted : Address → UInt64} {credits : List Credit}

theorem creditAll_append (ledger : Ledger) (first second : List Credit) :
    ledger.creditAll (first ++ second) = (ledger.creditAll first).creditAll second := List.foldl_append

theorem isEnabled_creditAll (credits : List Credit) :
    ∀ {ledger : Ledger}, (ledger.creditAll credits).isEnabled = ledger.isEnabled := by
  induction credits with
  | nil => exact rfl
  | cons credit rest ih =>
      intro ledger
      rw [creditAll_cons, ih]
      rfl

theorem mem_nodes_book (c : Credit) : node ∈ (ledger.book c).nodes ↔ c.node = node ∨ node ∈ ledger.nodes := by
  rw [Std.ExtTreeMap.mem_iff_isSome_getElem?, getElem?_nodes_book, Std.ExtTreeMap.mem_iff_isSome_getElem?]
  by_cases hnode : c.node = node <;> simp [hnode]

theorem mem_nodes_creditAll_iff (credits : List Credit) :
    ∀ {ledger : Ledger}, node ∈ (ledger.creditAll credits).nodes ↔
      node ∈ ledger.nodes ∨ ∃ credit ∈ credits, credit.node = node := by
  induction credits with
  | nil => simp [creditAll]
  | cons credit rest ih =>
      intro ledger
      show node ∈ ((ledger.book credit).creditAll rest).nodes ↔ _
      rw [ih, mem_nodes_book]
      simp only [List.mem_cons, exists_eq_or_imp]
      rw [or_comm (a := credit.node = node), or_assoc]

/-- **A node has what was credited to it.** -/
theorem rewardsOf_creditAll (node : Address) (bucket : Bucket) (credits : List Credit) :
    ∀ {ledger : Ledger}, ((ledger.creditAll credits).rewardsOf node).get bucket =
      (ledger.rewardsOf node).get bucket + credited (credits.filter (·.node = node)) bucket := by
  induction credits with
  | nil =>
      intro ledger
      exact (add_zero _).symm
  | cons credit rest ih =>
      intro ledger
      show (((ledger.book credit).creditAll rest).rewardsOf node).get bucket = _
      rw [ih, rewardsOf_book]
      by_cases hnode : credit.node = node
      · rw [if_pos hnode, List.filter_cons_of_pos (by simpa using hnode), Rewards.get_add, credited, credited,
          List.map_cons, List.sum_cons, ← add_assoc]
        split <;> simp
      · rw [if_neg hnode, List.filter_cons_of_neg (by simpa using hnode)]

/-! ### Where a node stands

`wanted` is the network that all credits to a node ask for.  A node that is on record keeps
its network, and one that is not is put where it wants to be, so nothing has to be known of
the credits that came before.
-/

/-- Every node on record stands where a credit for the network that it wants puts it. -/
structure Settled (wanted : Address → UInt64) (ledger : Ledger) : Prop where
  network : ∀ (node : Address) (account : NodeAccount), ledger.nodes[node]? = some account →
    account.network = if ledger.isEnabled (wanted node) then wanted node else defaultNetwork
  invalid : ∀ (node : Address) (network : UInt64), ledger.invalid[node]? = some network ↔
    node ∈ ledger.nodes ∧ wanted node = network ∧ ledger.isEnabled network = false

theorem settled_new (enabled : Std.ExtTreeSet UInt64) : (new enabled).Settled wanted where
  network node account hnode := by
    have hempty : (∅ : Std.ExtTreeMap Address NodeAccount)[node]? = some account := hnode
    rw [Std.ExtTreeMap.getElem?_empty] at hempty
    cases hempty
  invalid node network := by
    have hempty : (new enabled).invalid[node]? = none := Std.ExtTreeMap.getElem?_empty
    rw [hempty]
    refine ⟨?_, ?_⟩
    · intro h
      cases h
    · intro h
      exact absurd h.1 Std.ExtTreeMap.not_mem_empty

/-- A node that has no account yet gets the network it wants, or the default one. -/
theorem Settled.networkFor (h : ledger.Settled wanted) (node : Address) :
    ledger.networkFor node (wanted node) =
      if ledger.isEnabled (wanted node) then wanted node else defaultNetwork := by
  unfold Ledger.networkFor
  rcases hnode : ledger.nodes[node]? with _ | account
  · rfl
  · exact h.network node account hnode

theorem getElem?_invalid_book (c : Credit) (node : Address) :
    (ledger.book c).invalid[node]? =
      if c.node = node ∧ ledger.isRemapped c.node c.network = true then some c.network
      else ledger.invalid[node]? := by
  rw [invalid_book]
  rcases ledger.isRemapped c.node c.network with _ | _
  · simp
  · simp [Std.ExtTreeMap.getElem?_insert]

/-- **A credit for the network that its node wants keeps every node where it stands.** -/
theorem Settled.book (h : ledger.Settled wanted) {c : Credit} (hc : c.network = wanted c.node) :
    (ledger.book c).Settled wanted where
  network node account hnode := by
    rw [getElem?_nodes_book] at hnode
    show account.network = if ledger.isEnabled (wanted node) then wanted node else defaultNetwork
    split at hnode
    · next heq =>
      cases hnode
      dsimp only
      rw [hc, ← heq, h.networkFor]
    · exact h.network node account hnode
  invalid node network := by
    show (ledger.book c).invalid[node]? = some network ↔
      node ∈ (ledger.book c).nodes ∧ wanted node = network ∧ ledger.isEnabled network = false
    rw [mem_nodes_book, getElem?_invalid_book]
    by_cases hnode : c.node = node
    · subst hnode
      rw [← hc]
      by_cases hknown : c.node ∈ ledger.nodes
      · have hcontains : ledger.nodes.contains c.node = true := Std.ExtTreeMap.contains_iff_mem.mpr hknown
        simp [isRemapped, hcontains, h.invalid, hknown, hc]
      · -- The first credit to the node, whose request is kept if its network is not enabled.
        have hcontains : ledger.nodes.contains c.node = false := by
          rw [← Bool.not_eq_true, Std.ExtTreeMap.contains_iff_mem]
          exact hknown
        rcases henabled : ledger.isEnabled c.network with _ | _
        · have hremapped : ledger.isRemapped c.node c.network = true := by
            rw [isRemapped, hcontains, henabled]
            rfl
          rw [if_pos ⟨rfl, hremapped⟩, Option.some.injEq]
          refine ⟨?_, fun h => h.2.1⟩
          intro heq
          exact ⟨Or.inl rfl, heq, heq ▸ henabled⟩
        · have hremapped : ¬ ledger.isRemapped c.node c.network = true := by
            rw [isRemapped, hcontains, henabled]
            decide
          rw [if_neg fun h => hremapped h.2, h.invalid]
          refine ⟨fun h => absurd h.1 hknown, ?_⟩
          intro hdisabled
          obtain ⟨-, heq, hdisabled⟩ := hdisabled
          rw [← heq, henabled] at hdisabled
          cases hdisabled
    · simp [hnode, h.invalid]

/-- **So do any credits for the networks that nodes want.** -/
theorem Settled.creditAll (credits : List Credit) :
    ∀ {ledger : Ledger}, ledger.Settled wanted → (∀ c ∈ credits, c.network = wanted c.node) →
      (ledger.creditAll credits).Settled wanted := by
  induction credits with
  | nil => exact fun h _ => h
  | cons credit rest ih =>
      intro ledger h hwanted
      exact ih (h.book (hwanted credit List.mem_cons_self)) fun c hc => hwanted c (List.mem_cons_of_mem _ hc)

end Ledger

/-! ### The credits of a split

The two parts of the split are followed one by one.  Each leaves the ledger with its own
credits and nothing else, also where its total is taken for good and where the part is
skipped.
-/

variable {snapshot : Snapshot} {time : UInt64} {ledger : Ledger}

/-- What the pending RPL is split into: credits for collateral and credits of the oracle members. -/
structure Snapshot.RplCredits (snapshot : Snapshot) (time : UInt64) (collateral oracle : List Credit) :
    Prop where
  collateral : if snapshot.totalStake ≠ 0 ∧ snapshot.totalWeight ≠ 0 then
      snapshot.collateralCredits = .ok collateral else collateral = []
  oracle : oracle = if snapshot.totalParticipation time = 0 then [] else snapshot.oracleCredits time

/-- A ledger after the credits that the pending RPL is split into. -/
def Snapshot.SplitOver (snapshot : Snapshot) (time : UInt64) (ledger after : Ledger) : Prop :=
  ∃ collateral oracle, snapshot.RplCredits time collateral oracle ∧
    after = (ledger.creditAll collateral).creditAll oracle

/-- The ledger after credits that are near enough to what they should be. -/
theorem makeCredits_leaves (credits : List Credit) (bucket : Bucket) (name : String)
    (expected tolerance : Amount) (ledger : Ledger) :
    Ends (makeCredits credits bucket name expected tolerance) ledger
      (fun _ after => after = ledger.creditAll credits) True := by
  unfold Ends
  rw [run_makeCredits]
  rcases reconcile name ((ledger.creditAll credits).total bucket) expected tolerance with error | delta
  · trivial
  · rfl

theorem allocateCollateral_leaves (snapshot : Snapshot) (ledger : Ledger) :
    Ends (allocateCollateral snapshot) ledger
      (fun _ after => ∃ credits, snapshot.collateralCredits = .ok credits ∧
        after = ledger.creditAll credits) True := by
  unfold allocateCollateral
  refine ends_bind.mpr (ends_mk ?_ fun _ _ => trivial)
  intro credits hcredits
  refine (makeCredits_leaves credits _ _ _ _ ledger).mono ?_ id
  intro _ after hafter
  exact ⟨credits, mapError_eq_ok_iff.mp hcredits, hafter⟩

theorem allocateOracleDao_leaves (snapshot : Snapshot) (time : UInt64) (ledger : Ledger) :
    Ends (allocateOracleDao snapshot time) ledger
      (fun _ after => after = ledger.creditAll
        (if snapshot.totalParticipation time = 0 then [] else snapshot.oracleCredits time)) True := by
  unfold allocateOracleDao
  split
  · exact ends_pure rfl
  · exact makeCredits_leaves _ _ _ _ _ _

/-- The oracle members' credits come behind whatever was credited for collateral. -/
theorem splitOff_leaves {collateral : List Credit} {total weight : Amount}
    (hcollateral : if snapshot.totalStake ≠ 0 ∧ snapshot.totalWeight ≠ 0 then
      snapshot.collateralCredits = .ok collateral else collateral = []) :
    Ends (do
        let oracleDao ← allocateOracleDao snapshot time
        return ⟨snapshot.network.pendingRpl - total - oracleDao, total, oracleDao, weight⟩ :
          Crediting RplAllocation)
      (ledger.creditAll collateral) (fun _ after => snapshot.SplitOver time ledger after) True := by
  refine ends_bind.mpr ((allocateOracleDao_leaves snapshot time _).mono ?_ fun _ => trivial)
  intro oracleDao after hafter
  exact ends_pure ⟨collateral, _, ⟨hcollateral, rfl⟩, hafter⟩

/-- **The split leaves nothing in the ledger but its credits.** -/
theorem allocateRpl_leaves (snapshot : Snapshot) (time : UInt64) (ledger : Ledger) :
    Ends (allocateRpl snapshot time) ledger (fun _ after => snapshot.SplitOver time ledger after) True := by
  unfold allocateRpl
  dsimp only
  split
  · exact ends_bind.mpr (ends_throw trivial)
  · split
    · next hshared =>
      refine ends_bind.mpr ((allocateCollateral_leaves snapshot ledger).mono ?_ fun _ => trivial)
      intro total mid hmid
      obtain ⟨credits, hcredits, rfl⟩ := hmid
      exact splitOff_leaves (by rw [if_pos hshared]; exact hcredits)
    · next hshared =>
      refine ends_bind.mpr (ends_pure ?_)
      show Ends _ (ledger.creditAll []) _ _
      exact splitOff_leaves (by rw [if_neg hshared])

end PoolRewards
