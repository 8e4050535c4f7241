/-
No ether without an attestation.

Whatever the clients answer, also if it makes no sense, a minipool with ether has met a duty
that it owed.  That it owed the duty says that the slot lies in the interval and that its
node was in the pool then; that it has met it says that the client told of a committee with
its validator and showed an attestation with the bit of the validator's position.  Its row
admits it to the pool, and its public key leads to a validator that was due to be active.

So a penalized node earns nothing, and neither does one that has never been in the pool: its
time in the pool would have to be time zero, and an interval starts after slot zero.
-/
import PoolRewards.Proofs.Generator.Performance
import PoolRewards.Proofs.Generator.Steps

namespace PoolRewards

open Ledger

/-- A node is in the pool at a time, as its row has it: since it opted in, or until it opted out. -/
def NodeDetails.InPoolAt (node : NodeDetails) (time : UInt64) : Prop :=
  if node.optedIn then node.optChanged ≤ time else time ≤ node.optChanged

/-- What entitles the minipool of a row to ether: its node, its validator, and a slot at which the
validator was seen to attest while the node was in the pool. -/
structure Snapshot.Evidence (snapshot : Snapshot) (bounds : IntervalBounds) (told : Committee → Prop)
    (seen : Attestation → Prop) (row : MinipoolDetails) (node : NodeDetails) (status : ValidatorStatus)
    (slot : UInt64) : Prop where
  admitted : snapshot.Admits row
  listed : node ∈ snapshot.nodes
  own : row.node = node.address
  validator : snapshot.validators[row.pubkey]? = some status
  active : status.state.isPending = false
  scheduled : status.activationEpoch ≠ farEpoch
  within : bounds.firstSlot ≤ slot ∧ slot ≤ bounds.lastSlot
  shown : ∃ committee position, StandsIn told ⟨slot, committee⟩ position status.index ∧
    ShownBy seen ⟨slot, committee⟩ position
  timely : ∃ time, snapshot.config.slotTime slot = .ok time ∧ node.InPoolAt time ∧ row.statusTime ≤ time

/-- There is evidence for the minipool with an address. -/
def Snapshot.Entitles (snapshot : Snapshot) (bounds : IntervalBounds) (told : Committee → Prop)
    (seen : Attestation → Prop) (address : Address) : Prop :=
  ∃ row node status slot, row.address = address ∧
    snapshot.Evidence bounds told seen row node status slot

/-- A node has no ether, and its minipools have no entries. -/
def Generated.LeavesOut (snapshot : Snapshot) (generated : Generated) (node : Address) : Prop :=
  generated.rewards.amountOf node .smoothingPoolEth = 0 ∧
    ∀ row ∈ snapshot.minipools, row.node = node → row.address ∉ generated.performance.minipools

/-- There is evidence for whatever earns ether. -/
structure Generated.Evidenced (snapshot : Snapshot) (told : Committee → Prop) (seen : Attestation → Prop)
    (generated : Generated) : Prop where
  entries : ∀ (address : Address) (entry : MinipoolPerformance),
    generated.performance.minipools[address]? = some entry → entry.ethEarned ≠ 0 →
      snapshot.Entitles generated.performance.interval told seen address
  penalized : ∀ row ∈ snapshot.minipools, row.AtWork → penaltyThreshold ≤ row.penalties →
    generated.LeavesOut snapshot row.node
  neverIn : ∀ node ∈ snapshot.nodes, node.optedIn = false → node.optChanged = 0 →
    generated.LeavesOut snapshot node.address

variable {request : Request} {snapshot : Snapshot} {bounds : IntervalBounds} {told : Committee → Prop}
  {seen : Attestation → Prop} {tracker : Tracker} {node : PoolNode} {minipool : PoolMinipool}
  {eth : EthOutcome} {generated : Generated}

/-! ### The evidence of a walk

A share needs a score, a score needs a slot that was met, and a slot is met only by an
attestation for a duty on record.  Each of these steps keeps where it came from, so the
evidence is put together by going back along them.
-/

theorem inPoolAt_of_isOptedInAt {details : NodeDetails} {rows : List MinipoolDetails} {time : UInt64}
    (h : (PoolNode.ofDetails details rows).isOptedInAt time = true) : details.InPoolAt time := by
  unfold NodeDetails.InPoolAt
  obtain ⟨hjoined, hleft⟩ := Bool.and_eq_true_iff.mp h
  have hjoined : (if details.optedIn then details.optChanged else 0) ≤ time := of_decide_eq_true hjoined
  have hleft : time ≤ (if details.optedIn then Word.last else details.optChanged) := of_decide_eq_true hleft
  split
  · next hin =>
    rw [if_pos hin] at hjoined
    exact hjoined
  · next hout =>
    rw [if_neg hout] at hleft
    exact hleft

theorem Tracker.Started.exists_inPool {start after : Tracker} {time : UInt64}
    (h : Tracker.Started snapshot bounds snapshot.poolNodes start) (hframe : after.frame = start.frame)
    (hnode : node ∈ after.nodes) (hopt : node.isOptedInAt time = true) :
    ∃ details ∈ snapshot.nodes, details.address = node.address ∧ details.InPoolAt time := by
  obtain ⟨origin, horigin, hbare⟩ := h.exists_poolNode hframe hnode
  obtain ⟨details, hdetails, rfl⟩ := mem_poolNodes.mp horigin
  rw [isOptedInAt_of_bare hbare] at hopt
  have haddress : node.address = details.address := congrArg (·.address) hbare
  exact ⟨details, hdetails, haddress.symm, inPoolAt_of_isOptedInAt hopt⟩

/-- **A slot that a tracked minipool has met is evidence for its row.** -/
theorem Tracker.Left.exists_evidence (h : tracker.Left snapshot bounds told seen) {place : Place}
    {validator slot : UInt64} {row : MinipoolDetails} (hat : tracker.at? place = some (node, minipool))
    (hv : tracker.validators[validator]? = some place) (hslot : slot ∈ minipool.fulfilled)
    (hrow : snapshot.Admits row) (hown : row.node = node.address)
    (hclear : minipool.cleared = ((PoolMinipool.ofDetails row).linked snapshot bounds).cleared) :
    ∃ details status, snapshot.Evidence bounds told seen row details status slot := by
  obtain ⟨start, hstarted, hframe⟩ := h.rows
  have hsound := h.sound.minipool hat
  -- What is met was told and shown, and what is met was owed: within the interval and in the pool.
  have hmet : (validator, slot) ∈ tracker.met :=
    (Tracker.mem_slotsOf_of_tracked hv hat (·.fulfilled) slot).mpr hslot
  have hshown := h.backed.met validator slot hmet
  obtain ⟨hin, htime, hopt, hstake⟩ := hsound.owed slot (hsound.fulfilled slot hslot)
  rw [hstarted.config_of_frame hframe] at htime hopt hstake
  rw [hstarted.bounds_of_frame hframe, IntervalBounds.contains, Bool.and_eq_true, decide_eq_true_eq,
    decide_eq_true_eq] at hin
  have hstaking : minipool.stakingSince = row.statusTime :=
    (congrArg (·.stakingSince) hclear).trans (PoolMinipool.stakingSince_linked _)
  rw [hstaking] at hstake
  obtain ⟨details, hdetails, haddress, hinPool⟩ := hstarted.exists_inPool hframe
    (Array.mem_of_getElem? (Tracker.at?_eq_some.mp hat).1) hopt
  have hpubkey : minipool.pubkey = row.pubkey :=
    (congrArg (·.pubkey) hclear).trans (PoolMinipool.pubkey_linked _)
  have hfound := hstarted.resolves hframe hv hat
  rw [hpubkey] at hfound
  obtain ⟨status, hstatus, hactive, hscheduled, rfl⟩ := Tracker.status_of_trackedValidator hfound
  exact ⟨details, status, hrow, hdetails, hown.trans haddress.symm, hstatus, hactive, hscheduled, hin,
    hshown, ⟨_, htime, hinPool, hstake⟩⟩

/-- **A share of the ether stands for a duty that was owed and met.** -/
theorem Tracker.Left.entitles (h : tracker.Left request.snapshot bounds told seen)
    {totals : AttestationTotals} (hnode : node ∈ request.paidNodes tracker.nodes totals)
    (hmem : minipool ∈ node.minipools) (hshare : minipool.share ≠ 0) :
    request.snapshot.Entitles bounds told seen minipool.address := by
  obtain ⟨place, row, hpaidFor⟩ := h.exists_paidFor hnode hmem
  obtain ⟨origin, standing, hat, hpaid, hsame, hclear⟩ := hpaidFor.before
  have hscore : standing.score ≠ 0 := by
    have hkept : minipool.score = standing.score := congrArg (·.score) hsame
    rw [← hkept]
    exact (hpaid.share minipool hmem hshare).2
  obtain ⟨validator, slot, hv, hslot⟩ := h.sound.exists_met hat hscore
  have hnodes : node.address = origin.address := congrArg (·.address) hpaid.kept
  obtain ⟨details, status, hevidence⟩ :=
    h.exists_evidence hat hv hslot hpaidFor.admitted (hpaidFor.own.trans hnodes) hclear
  exact ⟨row, details, status, slot, hpaidFor.address.symm, hevidence⟩

/-- However the ether comes about, there is evidence for each part of it that is reported. -/
theorem EthOutcome.Arises.entitles (h : eth.Arises request bounds told seen)
    (hnodes : (request.snapshot.nodes.map (·.address)).Nodup)
    (hminipools : (request.snapshot.minipools.map (·.address)).Nodup) {address : Address}
    {entry : MinipoolPerformance} (hentry : eth.performance[address]? = some entry)
    (hearned : entry.ethEarned ≠ 0) :
    request.index ≠ 0 ∧ request.snapshot.Entitles bounds told seen address := by
  cases h with
  | nothing hshares =>
      rw [performance_nothing] at hentry
      cases hentry
  | shared hshares hleft hshare =>
      obtain ⟨-, hindex⟩ := Bool.and_eq_true_iff.mp hshares
      rw [(Request.shareEth_eq_ok hshare).1] at hentry
      obtain ⟨node, hnode, -, minipool, hmem, -, rfl, rfl⟩ :=
        (hleft.paidNodes hnodes hminipools _).exists_reported hentry
      exact ⟨bne_iff_ne.mp hindex, hleft.entitles hnode hmem hearned⟩

/-! ### Who earns nothing

Whoever is left out would otherwise have evidence against it: a penalized row at work keeps
all minipools of its node out of the pool, and a node that never opted in was in the pool at
no time after zero.
-/

/-- Ether that was earned was earned in the pool. -/
theorem Snapshot.Evidence.not_neverIn {row : MinipoolDetails} {node : NodeDetails} {status : ValidatorStatus}
    {slot : UInt64} (h : snapshot.Evidence bounds told seen row node status slot)
    (hfirst : 1 ≤ bounds.firstSlot) (hseconds : 1 ≤ snapshot.config.secondsPerSlot) :
    ¬ (node.optedIn = false ∧ node.optChanged = 0) := by
  intro hnever
  obtain ⟨hout, hzero⟩ := hnever
  obtain ⟨time, htime, hinPool, -⟩ := h.timely
  unfold NodeDetails.InPoolAt at hinPool
  rw [hout, if_neg Bool.false_ne_true, hzero] at hinPool
  have hslot : 1 ≤ slot := UInt64.le_trans hfirst h.within.1
  have hpositive : 1 ≤ time := BeaconConfig.one_le_slotTime hslot hseconds htime
  exact absurd (UInt64.le_trans hpositive hinPool) (by decide)

/-- A node of whose minipools none has earned anything is left out. -/
theorem Generated.Accounted.leavesOut (h : Generated.Accounted snapshot generated) {node : Address}
    (hnone : ∀ row ∈ snapshot.minipools, row.node = node → ∀ entry : MinipoolPerformance,
      generated.performance.minipools[row.address]? = some entry → entry.ethEarned = 0) :
    generated.LeavesOut snapshot node := by
  have hzero : generated.rewards.amountOf node .smoothingPoolEth = 0 := by
    rw [← h.earned node]
    refine List.sum_eq_zero ?_
    intro earned hearned
    obtain ⟨⟨address, entry⟩, hmem, rfl⟩ := List.mem_map.mp hearned
    obtain ⟨hmem, hown⟩ := List.mem_filter.mp hmem
    obtain ⟨row, hrow, hown⟩ := List.any_eq_true.mp hown
    rw [Bool.and_eq_true, beq_iff_eq, beq_iff_eq] at hown
    obtain ⟨rfl, hnode⟩ := hown
    exact hnone row hrow hnode entry (Std.ExtTreeMap.mem_toList_iff_getElem?_eq_some.mp hmem)
  refine ⟨hzero, ?_⟩
  intro row hrow hnode
  exact h.unpaid row hrow (hnode ▸ hzero)

theorem Generated.Accounted.evidenced (h : Generated.Accounted snapshot generated)
    (hnodes : (snapshot.nodes.map (·.address)).Nodup)
    (hminipools : (snapshot.minipools.map (·.address)).Nodup)
    (hseconds : 1 ≤ snapshot.config.secondsPerSlot)
    (hentries : ∀ (address : Address) (entry : MinipoolPerformance),
      generated.performance.minipools[address]? = some entry → entry.ethEarned ≠ 0 →
        1 ≤ generated.performance.interval.firstSlot ∧
          snapshot.Entitles generated.performance.interval told seen address) :
    generated.Evidenced snapshot told seen where
  entries address entry hentry hearned := (hentries address entry hentry hearned).2
  penalized row hrow hatWork hpenalties := by
    refine h.leavesOut ?_
    intro other hother hown entry hentry
    by_contra hearned
    obtain ⟨-, entitled, node, status, slot, haddress, hevidence⟩ :=
      hentries other.address entry hentry hearned
    obtain rfl := List.inj_on_of_nodup_map hminipools hevidence.admitted.mem hother haddress
    exact absurd (hevidence.admitted.unpenalized row hrow hown.symm hatWork) (UInt64.not_lt.mpr hpenalties)
  neverIn node hnode hout hzero := by
    refine h.leavesOut ?_
    intro other hother hown entry hentry
    by_contra hearned
    obtain ⟨hfirst, entitled, details, status, slot, haddress, hevidence⟩ :=
      hentries other.address entry hentry hearned
    obtain rfl := List.inj_on_of_nodup_map hminipools hevidence.admitted.mem hother haddress
    obtain rfl := List.inj_on_of_nodup_map hnodes hevidence.listed hnode (hevidence.own.symm.trans hown)
    exact hevidence.not_neverIn hfirst hseconds ⟨hout, hzero⟩

/-! ### What is generated

There is no condition on what the client answers, only on the snapshot: its rows have
addresses of their own, and a slot takes time.
-/

/-- **Whatever earns ether has attested while its node was in the pool**, whatever the clients
answer, if no two nodes and no two minipools have one address. -/
theorem generate_evidenced {m : Type → Type} [Monad m] [LawfulMonad m] (request : Request)
    (consensus : ConsensusClient m) (execution : ExecutionClient m) (htells : consensus.Tells told seen)
    (hseconds : 1 ≤ request.snapshot.config.secondsPerSlot)
    (hnodes : (request.snapshot.nodes.map (·.address)).Nodup)
    (hminipools : (request.snapshot.minipools.map (·.address)).Nodup) :
    Answers (Generated.Evidenced request.snapshot told seen) (request.generate consensus execution) := by
  refine request.answers_generate htells (answers_true _) ?_
  intro enabled bounds rpl ledger eth file _ hfirst hrpl heth hfile
  have hheld := (allocateRpl_ends request.snapshot request.header.timestamp enabled).post_of_ok hrpl
  have haccounted := (heth.reported hnodes hminipools).accounted heth.paid hfirst hheld.ether hfile
    (ledger.creditAll eth.credits).invalid
  refine haccounted.evidenced hnodes hminipools hseconds ?_
  intro address entry hentry hearned
  obtain ⟨hindex, hentitles⟩ := heth.entitles hnodes hminipools hentry hearned
  exact ⟨hfirst hindex, hentitles⟩

/-- An attestation that the client includes. -/
def ConsensusClient.Includes (client : ConsensusClient Id) (attestation : Attestation) : Prop :=
  ∃ slot attestations, Id.run (client.attestations slot) = .ok (some attestations) ∧
    attestation ∈ attestations

/-- A client without side effects tells what it names and includes. -/
theorem ConsensusClient.tells_named (client : ConsensusClient Id) :
    client.Tells client.Names client.Includes where
  committees epoch := always_id.mpr fun committees hanswer _ hmem =>
    ⟨epoch, committees, hanswer, hmem⟩
  attestations slot := always_id.mpr fun attestations hanswer _ hmem =>
    ⟨slot, attestations, hanswer, hmem⟩

theorem generate_evidenced_secondInterval :
    twoCommittees.Tells twoCommittees.Names twoCommittees.Includes ∧
      1 ≤ twoNodes.config.secondsPerSlot ∧ (twoNodes.nodes.map (·.address)).Nodup ∧
        (twoNodes.minipools.map (·.address)).Nodup ∧
      ∃ generated, Id.run (secondInterval.generate twoCommittees openNetworks).run = .ok generated ∧
        Generated.Evidenced twoNodes twoCommittees.Names twoCommittees.Includes generated ∧
        ∃ entry, generated.performance.minipools[(11 : Address)]? = some entry ∧ entry.ethEarned ≠ 0 := by
  have htells := twoCommittees.tells_named
  have hseconds : 1 ≤ twoNodes.config.secondsPerSlot := by decide
  have hnodes : (twoNodes.nodes.map (·.address)).Nodup := by decide
  have hminipools : (twoNodes.minipools.map (·.address)).Nodup := by decide
  obtain ⟨generated, hgenerated, hearned⟩ := exists_generated_earning
  exact ⟨htells, hseconds, hnodes, hminipools, generated, hgenerated, always_id.mp
    (generate_evidenced secondInterval twoCommittees openNetworks htells hseconds hnodes hminipools)
    generated hgenerated, hearned⟩

end PoolRewards
