/-
What a walk keeps, whatever it is told.

A client may answer with any committees and attestations and may run in any way.  The
tracker behind a walk that has an answer is sound, differs from the one before in the
duties alone, and has no duty that the client did not tell of.
-/
import PoolRewards.Duties.Walk
import PoolRewards.Proofs.Duties.Provenance

namespace PoolRewards.Tracker

variable {m : Type → Type} [Monad m] {α β : Type} {tracker after : Tracker}
  {client : ConsensusClient m}

/-- Wherever a walk has an answer, it and the tracker behind it have a property. -/
def Leaves (step : Walking m α) (tracker : Tracker) (post : α → Tracker → Prop) : Prop :=
  Always (fun result => ∀ a, result.1 = .ok a → post a result.2) (step.run.run tracker)

/-- Soundness and the frame are kept. -/
structure Keeps (tracker after : Tracker) : Prop where
  sound : after.Sound
  frame : after.frame = tracker.frame

/-- So is the backing of duties by what a client tells. -/
structure Carries (told : Committee → Prop) (seen : Attestation → Prop) (tracker after : Tracker) : Prop
    extends Keeps tracker after where
  backed : tracker.Backed told seen → after.Backed told seen

variable [LawfulMonad m] {post : α → Tracker → Prop} {next : β → Tracker → Prop}

theorem Keeps.trans {last : Tracker} (h : Keeps tracker after) (h' : Keeps after last) :
    Keeps tracker last :=
  ⟨h'.sound, h'.frame.trans h.frame⟩

theorem Carries.trans {told : Committee → Prop} {seen : Attestation → Prop} {last : Tracker}
    (h : Carries told seen tracker after) (h' : Carries told seen after last) :
    Carries told seen tracker last :=
  ⟨h.toKeeps.trans h'.toKeeps, fun hbacked => h'.backed (h.backed hbacked)⟩

theorem Leaves.mono {step : Walking m α} {post' : α → Tracker → Prop} (h : Leaves step tracker post)
    (hpost : ∀ a after, post a after → post' a after) : Leaves step tracker post' :=
  Always.mono h fun _ hr a ha => hpost a _ (hr a ha)

/-! ### Steps

There is one rule for each kind of step in a walk.  Nothing is known of what a lookup does
besides answering, so what is claimed of its answers has to be claimed of all that it could
give.
-/

theorem leaves_pure {a : α} (h : post a tracker) : Leaves (pure a : Walking m α) tracker post := by
  refine always_pure ?_
  intro b hb
  cases hb
  exact h

theorem Leaves.bind {step : Walking m α} {f : α → Walking m β} (h : Leaves step tracker post)
    (hf : ∀ a mid, post a mid → Leaves (f a) mid next) : Leaves (step >>= f) tracker next := by
  unfold Leaves
  rw [ExceptT.run_bind, StateT.run_bind]
  refine Always.bind h ?_
  intro result ha
  obtain ⟨halt | a, mid⟩ := result
  · refine always_pure ?_
    intro b hb
    cases hb
  · exact hf a mid (ha a rfl)

theorem run_get : (get : Walking m Tracker).run.run tracker = pure (.ok tracker, tracker) := by
  show (Except.ok <$> (get : StateT Tracker m Tracker)).run tracker = _
  rw [StateT.run_map, StateT.run_get, map_pure]

theorem leaves_get :
    Leaves (get : Walking m Tracker) tracker fun t after => t = tracker ∧ after = tracker := by
  rw [Leaves, run_get]
  refine always_pure ?_
  intro _ hb
  cases hb
  exact ⟨rfl, rfl⟩

theorem leaves_calculate {result : Except Fault α} :
    Leaves (calculate result : Walking m α) tracker fun _ after => after = tracker :=
  always_pure fun _ _ => rfl

theorem run_ask {epoch : UInt64} {lookup : m (Except ClientError α)} :
    (ask epoch lookup).run.run tracker = (fun answer =>
      (Halt.ofLookup s!"error getting committee and attestation records for epoch {epoch}" answer, tracker)) <$>
        lookup := by
  show (StateT.lift _).run tracker = _
  rw [StateT.run_lift, bind_pure_comp, ← comp_map]
  rfl

/-- A lookup leaves the tracker, and what is known of its answers is known of the one it has. -/
theorem leaves_ask {p : α → Prop} {epoch : UInt64} {lookup : m (Except ClientError α)}
    (h : Always (fun answer => ∀ a, answer = .ok a → p a) lookup) :
    Leaves (ask epoch lookup) tracker fun a after => p a ∧ after = tracker := by
  rw [Leaves, run_ask]
  refine h.map ?_
  intro answer hp a ha
  exact ⟨hp a (mapError_eq_ok_iff.mp ha), rfl⟩

theorem leaves_work {step : Tracking α} {halt : Prop} (h : Ends step tracker post halt) :
    Leaves (work step : Walking m α) tracker post := by
  show Always _ (pure ((step.run.run tracker).1.mapError Halt.fault, (step.run.run tracker).2))
  rcases hrun : step.run.run tracker with ⟨fault | b, after⟩
  · refine always_pure ?_
    intro a ha
    cases ha
  · refine always_pure ?_
    intro a ha
    cases ha
    exact h.post_of_ok hrun

/-! ### Epochs

The tracker is carried from epoch to epoch with what is known of it.  A walk that is stopped
claims nothing, so the rules need not say where it was stopped.
-/

variable {told : Committee → Prop} {seen : Attestation → Prop}

theorem leaves_askCommittees (htells : client.Tells told seen) {epoch : UInt64} {withCommittees : Bool} :
    Leaves (askCommittees client epoch withCommittees) tracker fun committees after =>
      (∀ committee ∈ committees, told committee) ∧ after = tracker := by
  unfold askCommittees
  split
  · exact leaves_ask (htells.committees epoch)
  · exact leaves_pure ⟨fun _ hmem => absurd hmem List.not_mem_nil, rfl⟩

theorem leaves_askAttestations (htells : client.Tells told seen) {epoch first : UInt64} (count : Nat) :
    ∀ {offset : UInt64},
      Leaves (askAttestations client epoch first count offset) tracker fun blocks after =>
        (∀ attestation ∈ blocks.flatten, seen attestation) ∧ after = tracker := by
  induction count with
  | zero =>
      intro offset
      exact leaves_pure ⟨fun _ hmem => absurd hmem List.not_mem_nil, rfl⟩
  | succ count ih =>
      intro offset
      unfold askAttestations
      refine Leaves.bind leaves_calculate ?_
      intro slot _ heq
      obtain rfl := heq
      have hblock : Always (fun answer => ∀ block, answer = .ok block →
          ∀ attestation ∈ block.getD [], seen attestation) (client.attestations slot) := by
        refine (htells.attestations slot).mono ?_
        intro answer hseen block hanswer attestation hmem
        rcases block with _ | attestations
        · exact absurd hmem List.not_mem_nil
        · exact hseen attestations hanswer attestation hmem
      refine Leaves.bind (leaves_ask hblock) ?_
      intro block _ h'
      obtain ⟨hfirst, rfl⟩ := h'
      refine Leaves.bind ih ?_
      intro rest _ h'
      obtain ⟨hrest, rfl⟩ := h'
      refine leaves_pure ⟨?_, rfl⟩
      intro attestation hmem
      rcases List.mem_append.mp hmem with hmem | hmem
      · exact hfirst attestation hmem
      · exact hrest attestation hmem

/-- **Walking an epoch keeps soundness, the frame and the backing of duties.** -/
theorem Sound.walkEpoch (h : tracker.Sound) (htells : client.Tells told seen) (epoch : UInt64)
    (withCommittees : Bool) :
    Leaves (walkEpoch client epoch withCommittees) tracker fun _ after => Carries told seen tracker after := by
  unfold Tracker.walkEpoch
  refine Leaves.bind leaves_get ?_
  intro _ _ h'
  obtain ⟨rfl, rfl⟩ := h'
  refine Leaves.bind leaves_calculate ?_
  intro first _ heq
  obtain rfl := heq
  refine Leaves.bind (leaves_askCommittees htells) ?_
  intro committees _ h'
  obtain ⟨htold, rfl⟩ := h'
  refine Leaves.bind (leaves_askAttestations htells _) ?_
  intro blocks _ h'
  obtain ⟨hseen, rfl⟩ := h'
  refine Leaves.bind (leaves_work (h.record committees)) ?_
  intro _ recorded hrecords
  refine Leaves.bind (leaves_work (hrecords.sound.checkAll blocks)) ?_
  intro _ checked hmatches
  refine (leaves_work (hmatches.sound.prune epoch)).mono ?_
  intro _ after h'
  obtain ⟨hadvances, oldest, -, hpending⟩ := h'
  refine ⟨⟨hadvances.sound, hadvances.frame.trans (hmatches.frame.trans hrecords.frame)⟩, ?_⟩
  intro hbacked
  refine hadvances.backed ?_ (hmatches.backed hseen (hrecords.backed htold hbacked))
  intro key position
  rw [hpending]
  split
  · exact Or.inl rfl
  · exact Or.inr rfl

theorem Sound.walkEpochs (htells : client.Tells told seen) (count : Nat) :
    ∀ {tracker : Tracker} {epoch : UInt64}, tracker.Sound →
      Leaves (walkEpochs client count epoch) tracker fun _ after => Carries told seen tracker after := by
  induction count with
  | zero =>
      intro tracker epoch h
      exact leaves_pure ⟨⟨h, rfl⟩, id⟩
  | succ count ih =>
      intro tracker epoch h
      unfold Tracker.walkEpochs
      refine Leaves.bind (h.walkEpoch htells epoch true) ?_
      intro _ mid hmid
      exact (ih hmid.sound).mono fun _ _ hafter => hmid.trans hafter

/-- **So does the whole walk, and its answer is what the tracker has reached.** -/
theorem Sound.carries_walk (h : tracker.Sound) (htells : client.Tells told seen) :
    Leaves (walk client) tracker fun totals after =>
      Carries told seen tracker after ∧ totals = after.totals := by
  unfold Tracker.walk
  refine Leaves.bind leaves_get ?_
  intro _ _ h'
  obtain ⟨rfl, rfl⟩ := h'
  refine Leaves.bind leaves_calculate ?_
  intro first _ heq
  obtain rfl := heq
  refine Leaves.bind leaves_calculate ?_
  intro last _ heq
  obtain rfl := heq
  refine Leaves.bind (h.walkEpochs htells _) ?_
  intro _ mid hmid
  refine Leaves.bind leaves_calculate ?_
  intro next _ heq
  obtain rfl := heq
  refine Leaves.bind (hmid.sound.walkEpoch htells next false) ?_
  intro _ last hlast
  refine Leaves.bind leaves_get ?_
  intro _ _ h'
  obtain ⟨rfl, rfl⟩ := h'
  exact leaves_pure ⟨hmid.trans hlast, rfl⟩

/-- Of a client of which nothing is known, soundness and the frame are what is left. -/
theorem Sound.walk (h : tracker.Sound) :
    Leaves (walk client) tracker fun totals after => Keeps tracker after ∧ totals = after.totals := by
  refine (h.carries_walk client.tells_anything).mono ?_
  intro totals after h'
  exact ⟨h'.1.toKeeps, h'.2⟩

end PoolRewards.Tracker
