/-
What a request observes of the interval.

Whatever the clients answer, the walk over the interval leaves a tracker of the snapshot's
rows that is sound and whose duties were all told of; and the ether is what is shared out
over the nodes of such a tracker, if any is shared out at all.  Everything that is said
later of the ether of nodes and minipools rests on this.
-/
import PoolRewards.Generator
import PoolRewards.Proofs.Duties.AnyClient
import PoolRewards.Proofs.Interval
import PoolRewards.Proofs.Pool.Rows

namespace PoolRewards

variable {m : Type → Type} [Monad m] [LawfulMonad m] {request : Request} {bounds : IntervalBounds}
  {told : Committee → Prop} {seen : Attestation → Prop}

/-- A tracker as a walk over an interval leaves it. -/
structure Tracker.Left (snapshot : Snapshot) (bounds : IntervalBounds) (told : Committee → Prop)
    (seen : Attestation → Prop) (tracker : Tracker) : Prop where
  rows : ∃ start, Tracker.Started snapshot bounds snapshot.poolNodes start ∧ tracker.frame = start.frame
  sound : tracker.Sound
  backed : tracker.Backed told seen

theorem Tracker.Left.eth {snapshot : Snapshot} {tracker : Tracker} {node : PoolNode}
    (h : tracker.Left snapshot bounds told seen) (hnode : node ∈ tracker.nodes) : node.eth = 0 := by
  obtain ⟨start, hstarted, hframe⟩ := h.rows
  exact hstarted.eth hframe hnode

/-- **The walk leaves a sound tracker of the snapshot's rows.** -/
theorem Request.left_of_observe (request : Request) (bounds : IntervalBounds)
    {consensus : ConsensusClient m} (htells : consensus.Tells told seen) :
    Answers (fun observed => ∃ tracker : Tracker, tracker.Left request.snapshot bounds told seen ∧
      observed = (tracker.nodes, tracker.totals)) (request.observe consensus bounds) := by
  have hends := Tracker.new_ends request.snapshot bounds request.snapshot.poolNodes
  have hfresh := fresh_poolNodes request.snapshot
  unfold Request.observe
  rcases hnew : Tracker.new request.snapshot bounds request.snapshot.poolNodes with ⟨fault | _, start⟩
  · exact Answers.bind (p := fun _ => False) (answers_mk fun _ h => nomatch h) fun _ h => h.elim
  · have hstarted := hends.post_of_ok hnew
    have hmet : start.met = ∅ := hstarted.slotsOf_eq_empty hfresh fun _ => rfl
    have hwalk := (hstarted.sound hfresh).carries_walk htells
    refine Answers.bind (answers_true _) fun _ _ => ?_
    refine Answers.bind (answers_lift hwalk) ?_
    intro walked hafter
    obtain ⟨halt | totals, after⟩ := walked
    · exact answers_throw halt
    · obtain ⟨hcarries, htotals⟩ := hafter totals rfl
      refine answers_pure ⟨after, ⟨⟨start, hstarted, hcarries.frame⟩, hcarries.sound, ?_⟩, by rw [← htotals]⟩
      exact hcarries.backed (Tracker.backed_of_empty hstarted.pending hmet)

/-- How the ether of a request comes about: none is shared out, or it is over the nodes that the walk leaves. -/
inductive EthOutcome.Arises (request : Request) (bounds : IntervalBounds) (told : Committee → Prop)
    (seen : Attestation → Prop) : EthOutcome → Prop
  | nothing (hshares : request.sharesEth = false) : Arises request bounds told seen .nothing
  | shared {tracker : Tracker} {eth : EthOutcome} (hshares : request.sharesEth = true)
      (hleft : tracker.Left request.snapshot bounds told seen)
      (hshare : request.shareEth tracker.nodes tracker.totals = .ok eth) : Arises request bounds told seen eth

/-- **The ether comes about over what the walk leaves**, or not at all. -/
theorem Request.arises_of_earnEth (request : Request) (bounds : IntervalBounds)
    {consensus : ConsensusClient m} (htells : consensus.Tells told seen) :
    Answers (EthOutcome.Arises request bounds told seen) (request.earnEth consensus bounds) := by
  unfold Request.earnEth
  split
  · next hshares =>
    refine Answers.bind (request.left_of_observe bounds htells) ?_
    intro observed h
    obtain ⟨tracker, hleft, rfl⟩ := h
    exact answers_check fun eth heth => .shared hshares hleft heth
  · next hshares => exact answers_pure (.nothing (Bool.eq_false_of_not_eq_true hshares))

/-- Only the first interval can have a slot zero. -/
theorem Request.one_le_bounds (request : Request) (consensus : ConsensusClient m)
    (execution : ExecutionClient m) :
    Answers (fun bounds => request.index ≠ 0 → 1 ≤ bounds.firstSlot) (request.bounds consensus execution) := by
  unfold Request.bounds Request.findBounds
  split
  · next hindex => exact answers_pure fun h => absurd hindex h
  · have hresolve : ∀ previous, Answers (fun bounds => request.index ≠ 0 → 1 ≤ bounds.firstSlot) (do
        if previous.index ≠ request.index - 1 then
          throw (.error (.missingPreviousInterval (request.index - 1)))
        let resolved ← resolveInterval consensus execution request.snapshot.config previous request.snapshotEnd
        return resolved.bounds : ExceptT Halt m IntervalBounds) := by
      intro previous
      split
      · exact Answers.bind (p := fun _ => False) (answers_throw _) fun _ h => h.elim
      · refine Answers.bind (one_le_resolveInterval consensus execution _ previous _) ?_
        intro resolved hfirst
        exact answers_pure fun _ => hfirst
    dsimp only
    split
    · exact Answers.bind (answers_true _) fun previous _ => hresolve previous
    · exact Answers.bind (answers_true _) fun previous _ => hresolve previous

/-- **What holds of all that the steps of a request can come to holds of what is generated.** -/
theorem Request.answers_generate {property : Generated → Prop} {allowed : Std.ExtTreeSet UInt64 → Prop}
    (request : Request) {consensus : ConsensusClient m} {execution : ExecutionClient m}
    (htells : consensus.Tells told seen)
    (hallowed : Answers allowed (enabledNetworks execution request.snapshot request.header.number))
    (h : ∀ (enabled : Std.ExtTreeSet UInt64) (bounds : IntervalBounds) (rpl : RplAllocation)
      (ledger : Ledger) (eth : EthOutcome) (file : RewardsFile), allowed enabled →
        (request.index ≠ 0 → 1 ≤ bounds.firstSlot) →
        (allocateRpl request.snapshot request.header.timestamp).run.run (Ledger.new enabled) =
          (.ok rpl, ledger) →
        eth.Arises request bounds told seen →
        (request.rewardsFile bounds rpl eth (ledger.creditAll eth.credits)).withTree Keccak.hash = .ok file →
        property ⟨file, request.performanceFile bounds eth, (ledger.creditAll eth.credits).invalid⟩) :
    Answers property (request.generate consensus execution) := by
  unfold Request.generate
  refine Answers.bind hallowed ?_
  intro enabled henabled
  refine Answers.bind (request.one_le_bounds consensus execution) ?_
  intro bounds hfirst
  rcases hrun : (allocateRpl request.snapshot request.header.timestamp).run.run (Ledger.new enabled) with
    ⟨result, ledger⟩
  refine Answers.bind (answers_mk fun _ hok => hok) ?_
  intro rpl hrpl
  subst hrpl
  refine Answers.bind (request.arises_of_earnEth bounds htells) ?_
  intro eth heth
  refine Answers.bind (answers_check fun _ hok => hok) ?_
  intro file hfile
  exact answers_pure (h enabled bounds rpl ledger eth file henabled hfirst hrun heth hfile)

end PoolRewards
