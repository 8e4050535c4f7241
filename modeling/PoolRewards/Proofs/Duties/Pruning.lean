/-
What is dropped once an epoch is over could not have been met.

A walk that drops what is past and one that keeps it are run side by side.  While an epoch is
walked their trackers differ in the open duties of slots before the epoch before, and in nothing
else.  No vote that is still to come is for such a slot, so none asks for a duty in which they
differ.  A committee of an early slot may be told late or again; both take it in, and it touches
a duty of an early slot only.
-/
import PoolRewards.Proofs.Coupling
import PoolRewards.Proofs.Duties.AnyClient
import PoolRewards.Proofs.Duties.Attested

namespace PoolRewards

/-- Blocks include votes within an epoch: of a slot of their own epoch or of the one before. -/
def ConsensusClient.VotesRecently {m : Type → Type} [Monad m] (client : ConsensusClient m)
    (config : BeaconConfig) : Prop :=
  ∀ slot, Always (fun answer => ∀ attestations, answer = .ok (some attestations) →
    ∀ epoch oldest, config.epochOf slot = .ok epoch → config.firstSlotOf (Word.less epoch 1) = .ok oldest →
      ∀ attestation ∈ attestations, oldest ≤ attestation.slot) (client.attestations slot)

/-- The votes that the block of a slot includes are not of slots before the epoch before. -/
theorem ConsensusClient.VotesRecently.late {m : Type → Type} [Monad m] [LawfulMonad m]
    {client : ConsensusClient m} {config : BeaconConfig} {epoch first offset slot : UInt64}
    (h : client.VotesRecently config) (hfirst : config.firstSlotOf epoch = .ok first)
    (hslot : Word.add first offset = .ok slot) (hoffset : offset.toNat < config.slotsPerEpoch.toNat) :
    Always (fun answer => ∀ block, answer = .ok block → ∀ attestation ∈ block.getD [],
      (epoch.toNat - 1) * config.slotsPerEpoch.toNat ≤ attestation.slot.toNat) (client.attestations slot) := by
  have hpos : 0 < config.slotsPerEpoch.toNat := by omega
  have hepoch : config.epochOf slot = .ok epoch := by
    rw [BeaconConfig.epochOf_eq_ok_iff hpos, BeaconConfig.epochNumber_eq_iff hpos,
      Word.add_eq_ok_iff.mp hslot, Word.mul_eq_ok_iff.mp hfirst]
    omega
  obtain ⟨oldest, hoff, holdest⟩ := config.exists_oldest epoch (by
    rw [← Word.mul_eq_ok_iff.mp hfirst]
    exact first.toNat_lt_size)
  refine (h slot).mono ?_
  intro answer hrecent block hanswer attestation hmem
  rcases block with _ | attestations
  · exact absurd hmem List.not_mem_nil
  · rw [← holdest, ← UInt64.le_iff_toNat_le]
    exact hrecent attestations hanswer epoch oldest hepoch hoff attestation hmem

namespace Tracker

open Std (ExtTreeMap)

variable {m : Type → Type} [Monad m] {α β : Type} {client : ConsensusClient m} {config : BeaconConfig}
  {tracker tracker' after after' : Tracker} {oldest : Nat}

/-! ### Walks with another step behind every epoch

The walk is written with a parameter for what is done behind an epoch.  It is the walk
itself where that is pruning, so that the two walks to be compared are two cases of one
definition.
-/

/-- Take in one epoch and do something behind it. -/
def walkEpochWith (behind : UInt64 → Tracking Unit) (client : ConsensusClient m) (epoch : UInt64)
    (withCommittees : Bool) : Walking m Unit := do
  let config := (← get).config
  let first ← calculate (config.firstSlotOf epoch)
  let committees ← askCommittees client epoch withCommittees
  let attestations ← askAttestations client epoch first config.slotsPerEpoch.toNat 0
  work (record committees)
  work (checkAll attestations)
  work (behind epoch)

/-- Take in `count` epochs from `epoch` on. -/
def walkEpochsWith (behind : UInt64 → Tracking Unit) (client : ConsensusClient m) :
    (count : Nat) → (epoch : UInt64) → Walking m Unit
  | 0, _ => return
  | count + 1, epoch => do
    walkEpochWith behind client epoch true
    walkEpochsWith behind client count (epoch + 1)

/-- Take in every epoch of the interval and the attestations of the next one. -/
def walkWith (behind : UInt64 → Tracking Unit) (client : ConsensusClient m) :
    Walking m AttestationTotals := do
  let tracker ← get
  let first ← calculate (tracker.config.epochOf tracker.bounds.firstSlot)
  let last ← calculate (tracker.config.epochOf tracker.bounds.lastSlot)
  walkEpochsWith behind client (last.toNat + 1 - first.toNat) first
  let next ← calculate (Word.add last 1)
  walkEpochWith behind client next false
  return (← get).totals

theorem walkEpochsWith_prune (count : Nat) :
    ∀ {epoch : UInt64}, walkEpochsWith prune client count epoch = walkEpochs client count epoch := by
  induction count with
  | zero => exact fun {_} => rfl
  | succ count ih =>
      intro epoch
      unfold walkEpochsWith walkEpochs
      rw [ih]
      rfl

theorem walkWith_prune : walkWith prune client = walk client := by
  unfold walkWith walk
  simp only [walkEpochsWith_prune]
  rfl

/-- Nothing is done behind an epoch. -/
def keep (_ : UInt64) : Tracking Unit := return

/-! ### Trackers that differ in what is past

What differs are the open duties of early slots, and what counts as early moves on from
epoch to epoch.  Everything but the open duties is the same on both sides, the totals and
the sets of slots included.
-/

/-- The tracker without open duties. -/
def closed (tracker : Tracker) : Tracker := { tracker with duties := ∅ }

/-- Trackers that differ in the open duties of slots before `oldest` alone. -/
def SameFrom (config : BeaconConfig) (oldest : Nat) (tracker tracker' : Tracker) : Prop :=
  tracker.config = config ∧ ∃ duties, tracker' = { tracker with duties } ∧
    ∀ key : DutyKey, oldest ≤ key.slot.toNat → duties[key]? = tracker.duties[key]?

theorem sameFrom_self (h : tracker.config = config) (oldest : Nat) : SameFrom config oldest tracker tracker :=
  ⟨h, tracker.duties, rfl, fun _ _ => rfl⟩

theorem SameFrom.mono {later : Nat} (h : SameFrom config oldest tracker tracker') (hle : oldest ≤ later) :
    SameFrom config later tracker tracker' := by
  obtain ⟨hconfig, duties, rfl, hduties⟩ := h
  exact ⟨hconfig, duties, rfl, fun key hkey => hduties key (hle.trans hkey)⟩

theorem SameFrom.closed_eq (h : SameFrom config oldest tracker tracker') : tracker'.closed = tracker.closed := by
  obtain ⟨-, duties, rfl, -⟩ := h
  rfl

theorem SameFrom.getElem?_duties (h : SameFrom config oldest tracker tracker') {key : DutyKey}
    (hkey : oldest ≤ key.slot.toNat) : tracker'.duties[key]? = tracker.duties[key]? := by
  obtain ⟨-, duties, rfl, hduties⟩ := h
  exact hduties key hkey

/-- What does not look at the open duties leaves trackers as far apart as they are. -/
theorem SameFrom.map {f : Tracker → Tracker} (h : SameFrom config oldest tracker tracker')
    (hf : ∀ tracker duties, f { tracker with duties } = { f tracker with duties })
    (hconfig : ∀ tracker, (f tracker).config = tracker.config) :
    SameFrom config oldest (f tracker) (f tracker') := by
  obtain ⟨rfl, duties, rfl, hduties⟩ := h
  refine ⟨hconfig tracker, duties, hf tracker duties, ?_⟩
  intro key hkey
  rw [hduties key hkey, show (f tracker).duties = tracker.duties from
    congrArg (·.duties) (hf tracker tracker.duties)]

theorem SameFrom.modifyAt (h : SameFrom config oldest tracker tracker') (place : Place)
    (f : PoolMinipool → PoolMinipool) :
    SameFrom config oldest (tracker.modifyAt place f) (tracker'.modifyAt place f) :=
  h.map (f := fun tracker => tracker.modifyAt place f) (fun _ _ => rfl) fun _ => rfl

/-- Open duties may be exchanged for others that differ in early slots alone. -/
theorem SameFrom.with_duties (h : SameFrom config oldest tracker tracker')
    {duties duties' : ExtTreeMap DutyKey (ExtTreeMap Nat Place)}
    (hduties : ∀ key : DutyKey, oldest ≤ key.slot.toNat → duties'[key]? = duties[key]?) :
    SameFrom config oldest { tracker with duties } { tracker' with duties := duties' } := by
  obtain ⟨rfl, _, rfl, -⟩ := h
  exact ⟨rfl, duties', rfl, hduties⟩

/-! ### Steps

Each step of an epoch does the same on both sides.  A step looks at the open duties of the
slots that it is about, and where these are late there is no difference to see; committees
of any slot only write.
-/

theorem SameFrom.recordMembers (slot time : UInt64) (entries : List (UInt64 × Nat)) :
    ∀ {tracker tracker' : Tracker}, SameFrom config oldest tracker tracker' →
      Parallel (SameFrom config oldest) (recordMembers slot time entries) (recordMembers slot time entries)
        tracker tracker' := by
  induction entries with
  | nil => exact parallel_pure
  | cons entry rest ih =>
      intro tracker tracker' h
      have hsame : tracker'.owing time entry.1 = tracker.owing time entry.1 := by
        obtain ⟨-, duties, rfl, -⟩ := h
        rfl
      unfold Tracker.recordMembers
      apply parallel_get_bind
      rw [hsame]
      refine (parallel_mk h).bind ?_
      intro owing _ _ hmid
      rcases owing with _ | place
      · exact ih hmid
      · refine (parallel_modify (hmid.modifyAt place _)).bind ?_
        intro _ _ _ howes
        exact (ih howes).bind fun _ _ _ hrest => parallel_pure hrest

/-- A committee of an early slot is taken in by both trackers, whatever was open there before. -/
theorem SameFrom.openFor (h : SameFrom config oldest tracker tracker') (key : DutyKey)
    (members : List (Nat × Place)) :
    SameFrom config oldest (tracker.openFor key members) (tracker'.openFor key members) := by
  refine h.with_duties ?_
  intro other hother
  rw [ExtTreeMap.getElem?_insert, ExtTreeMap.getElem?_insert, h.getElem?_duties hother]

theorem SameFrom.recordOne (h : SameFrom config oldest tracker tracker') (time : UInt64)
    (committee : Committee) :
    Parallel (SameFrom config oldest) (recordOne time committee) (recordOne time committee) tracker
      tracker' := by
  unfold Tracker.recordOne
  refine (SameFrom.recordMembers _ _ _ h).bind ?_
  intro members _ _ hmid
  split
  · exact parallel_modify (hmid.openFor _ members)
  · exact parallel_pure hmid

theorem SameFrom.record (committees : List Committee) :
    ∀ {tracker tracker' : Tracker}, SameFrom config oldest tracker tracker' →
      Parallel (SameFrom config oldest) (record committees) (record committees) tracker tracker' := by
  induction committees with
  | nil => exact parallel_pure
  | cons committee rest ih =>
      intro tracker tracker' h
      have hbounds : tracker'.bounds = tracker.bounds := congrArg (·.bounds) h.closed_eq
      have hconfig : tracker'.config = tracker.config := congrArg (·.config) h.closed_eq
      unfold Tracker.record
      apply parallel_get_bind
      rw [hbounds, hconfig]
      split
      · refine (parallel_mk h).bind ?_
        intro time _ _ hmid
        refine (hmid.recordOne time committee).bind ?_
        intro _ _ _ hdone
        exact ih hdone
      · exact ih h

theorem SameFrom.count (h : SameFrom config oldest tracker tracker') (score : Amount) :
    Parallel (SameFrom config oldest) (count score) (count score) tracker tracker' := by
  unfold Tracker.count
  refine (parallel_modify (h.map (f := fun tracker =>
    { tracker with totals.score := tracker.totals.score + score }) (fun _ _ => rfl) fun _ => rfl)).bind ?_
  intro _ mid mid' hmid
  apply parallel_get_bind
  have hsame : mid'.totals.successful = mid.totals.successful :=
    congrArg (·.totals.successful) hmid.closed_eq
  rw [hsame]
  refine (parallel_mk hmid).bind ?_
  intro successful _ _ _
  exact parallel_set (hmid.map (f := fun tracker =>
    { tracker with totals.successful := successful }) (fun _ _ => rfl) fun _ => rfl)

theorem SameFrom.fulfill (h : SameFrom config oldest tracker tracker') (slot time : UInt64) (place : Place) :
    Parallel (SameFrom config oldest) (fulfill slot time place) (fulfill slot time place) tracker tracker' := by
  have hsame : tracker'.nodes = tracker.nodes := congrArg (·.nodes) h.closed_eq
  unfold Tracker.fulfill
  apply parallel_get_bind
  rw [hsame]
  refine (parallel_mk h).bind ?_
  intro node _ _ hnode
  refine (parallel_mk hnode).bind ?_
  intro minipool _ _ hmid
  split
  · exact parallel_pure hmid
  · refine (parallel_modify (hmid.modifyAt place _)).bind ?_
    intro _ _ _ hseen
    split
    · refine (parallel_modify (hseen.modifyAt place _)).bind ?_
      intro _ _ _ hdone
      exact hdone.count _
    · exact parallel_pure hseen

theorem SameFrom.fulfillAll (slot time : UInt64) (places : List Place) :
    ∀ {tracker tracker' : Tracker}, SameFrom config oldest tracker tracker' →
      Parallel (SameFrom config oldest) (fulfillAll slot time places) (fulfillAll slot time places)
        tracker tracker' := by
  induction places with
  | nil => exact parallel_pure
  | cons place rest ih =>
      intro tracker tracker' h
      exact (h.fulfill slot time place).bind fun _ _ _ hmid => ih hmid

theorem SameFrom.leave (h : SameFrom config oldest tracker tracker') (key : DutyKey)
    (positions : ExtTreeMap Nat Place) :
    SameFrom config oldest (tracker.leave key positions) (tracker'.leave key positions) := by
  refine h.with_duties ?_
  intro other hother
  show (tracker'.leave key positions).duties[other]? = (tracker.leave key positions).duties[other]?
  rw [getElem?_leave, getElem?_leave, h.getElem?_duties hother]

/-- Attestations of late slots look up the same duties in both trackers. -/
theorem SameFrom.check (attestations : List Attestation) :
    ∀ {tracker tracker' : Tracker}, SameFrom config oldest tracker tracker' →
      (∀ attestation ∈ attestations, oldest ≤ attestation.slot.toNat) →
      Parallel (SameFrom config oldest) (check attestations) (check attestations) tracker tracker' := by
  induction attestations with
  | nil => exact fun h _ => parallel_pure h
  | cons attestation rest ih =>
      intro tracker tracker' h hlate
      obtain ⟨hfirst, hrest⟩ := List.forall_mem_cons.mp hlate
      have hconfig : tracker'.config = tracker.config := congrArg (·.config) h.closed_eq
      have hduties : tracker'.duties[DutyKey.mk attestation.slot attestation.committee]? =
          tracker.duties[DutyKey.mk attestation.slot attestation.committee]? := h.getElem?_duties hfirst
      unfold Tracker.check
      apply parallel_get_bind
      dsimp only
      rw [hduties, hconfig]
      split
      · exact ih h hrest
      · refine (parallel_mk h).bind ?_
        intro time _ _ _
        refine (parallel_set (h.leave _ _)).bind ?_
        intro _ _ _ hleft
        refine (SameFrom.fulfillAll _ _ _ hleft).bind ?_
        intro _ _ _ hdone
        exact ih hdone hrest

theorem SameFrom.checkAll (blocks : List (List Attestation)) :
    ∀ {tracker tracker' : Tracker}, SameFrom config oldest tracker tracker' →
      (∀ attestation ∈ blocks.flatten, oldest ≤ attestation.slot.toNat) →
      Parallel (SameFrom config oldest) (checkAll blocks) (checkAll blocks) tracker tracker' := by
  induction blocks with
  | nil => exact fun h _ => parallel_pure h
  | cons block rest ih =>
      intro tracker tracker' h hlate
      rw [List.flatten_cons] at hlate
      obtain ⟨hfirst, hrest⟩ := List.forall_mem_append.mp hlate
      exact (SameFrom.check block h hfirst).bind fun _ _ _ hmid => ih hmid hrest

/-- Dropping what is past on one side makes a difference in what is past alone. -/
theorem SameFrom.prune {epoch first : UInt64} (hfirst : config.firstSlotOf epoch = .ok first)
    (h : SameFrom config ((epoch.toNat - 1) * config.slotsPerEpoch.toNat) tracker tracker') :
    Parallel (SameFrom config ((epoch.toNat - 1) * config.slotsPerEpoch.toNat)) (prune epoch) (keep epoch)
      tracker tracker' := by
  obtain ⟨oldest, hoff, holdest⟩ := config.exists_oldest epoch (by
    rw [← Word.mul_eq_ok_iff.mp hfirst]
    exact first.toNat_lt_size)
  have hrun : (Tracker.prune epoch).run.run tracker = (.ok (), tracker.dropBefore oldest) := by
    unfold Tracker.prune
    rw [run_bind]
    show ((ExceptT.mk (pure (tracker.config.firstSlotOf _)) >>= fun oldest => modify (·.dropBefore oldest) :
      Tracking Unit).run.run tracker) = _
    rw [h.1, hoff]
    rfl
  obtain ⟨hconfig, duties, rfl, hduties⟩ := h
  unfold Parallel
  rw [hrun]
  refine ⟨rfl, hconfig, duties, rfl, ?_⟩
  intro key hkey
  have hkept : oldest ≤ key.slot := by
    rw [UInt64.le_iff_toNat_le, holdest]
    exact hkey
  rw [hduties key hkey]
  show _ = (tracker.duties.filter fun key _ => decide (oldest ≤ key.slot))[key]?
  rw [ExtTreeMap.getElem?_filter']
  cases tracker.duties[key]? <;> simp [hkept, Option.filter]

/-! ### Walks side by side

Both walks ask for the same things, and lookups have one answer each.  The votes of an epoch
are of slots that are not early there, which is the one thing that has to be known of the
answers.
-/

/-- Two walks ask the same and have one answer.  Their trackers differ in the open duties alone,
and where there is an answer they have a property. -/
def Together (step step' : Walking m α) (tracker tracker' : Tracker)
    (post : α → Tracker → Tracker → Prop) : Prop :=
  Coupled (fun result result' => result'.1 = result.1 ∧ result'.2.closed = result.2.closed ∧
    ∀ a, result.1 = .ok a → post a result.2 result'.2) (step.run.run tracker) (step'.run.run tracker')

section together

variable [LawfulMonad m] {post : α → Tracker → Tracker → Prop} {next : β → Tracker → Tracker → Prop}
  {step step' : Walking m α}

theorem together_pure {a : α} (hclosed : tracker'.closed = tracker.closed) (h : post a tracker tracker') :
    Together (pure a : Walking m α) (pure a) tracker tracker' post := by
  refine coupled_pure ⟨rfl, hclosed, ?_⟩
  intro b hb
  cases hb
  exact h

theorem Together.mono {post' : α → Tracker → Tracker → Prop}
    (h : Together step step' tracker tracker' post)
    (hpost : ∀ a after after', post a after after' → post' a after after') :
    Together step step' tracker tracker' post' :=
  Coupled.mono h fun _ _ hresult => ⟨hresult.1, hresult.2.1, fun a ha => hpost a _ _ (hresult.2.2 a ha)⟩

theorem Together.bind {f f' : α → Walking m β} (h : Together step step' tracker tracker' post)
    (hf : ∀ a mid mid', post a mid mid' → Together (f a) (f' a) mid mid' next) :
    Together (step >>= f) (step' >>= f') tracker tracker' next := by
  unfold Together
  rw [ExceptT.run_bind, StateT.run_bind, ExceptT.run_bind, StateT.run_bind]
  refine Coupled.bind h ?_
  intro result result' hresult
  obtain ⟨heq, hclosed, hpost⟩ := hresult
  obtain ⟨halt | a, mid⟩ := result <;> obtain ⟨halt' | a', mid'⟩ := result' <;> cases heq
  · exact coupled_pure ⟨rfl, hclosed, fun _ hb => by cases hb⟩
  · exact hf a mid mid' (hpost a rfl)

theorem together_get_bind {f f' : Tracker → Walking m α}
    (h : Together (f tracker) (f' tracker') tracker tracker' post) :
    Together (get >>= f) (get >>= f') tracker tracker' post := by
  have hrun : ∀ (f : Tracker → Walking m α) (tracker : Tracker),
      (get >>= f).run.run tracker = (f tracker).run.run tracker := by
    intro f tracker
    rw [ExceptT.run_bind, StateT.run_bind, run_get, pure_bind]
  unfold Together
  rw [hrun, hrun]
  exact h

theorem together_calculate {result : Except Fault α} (hclosed : tracker'.closed = tracker.closed) :
    Together (calculate result : Walking m α) (calculate result) tracker tracker' fun a after after' =>
      result = .ok a ∧ after = tracker ∧ after' = tracker' := by
  refine coupled_pure ⟨rfl, hclosed, ?_⟩
  intro a ha
  exact ⟨mapError_eq_ok_iff.mp ha, rfl, rfl⟩

/-- A lookup leaves both trackers and has one answer, of which is known what always is. -/
theorem together_ask {p : α → Prop} {epoch : UInt64} {lookup : m (Except ClientError α)}
    (hclosed : tracker'.closed = tracker.closed)
    (h : Always (fun answer => ∀ a, answer = .ok a → p a) lookup) :
    Together (ask epoch lookup) (ask epoch lookup) tracker tracker' fun a after after' =>
      p a ∧ after = tracker ∧ after' = tracker' := by
  unfold Together
  rw [run_ask, run_ask, ← bind_pure_comp, ← bind_pure_comp]
  refine h.coupled.bind ?_
  intro answer answer' hanswer
  obtain ⟨rfl, hp⟩ := hanswer
  refine coupled_pure ⟨rfl, hclosed, ?_⟩
  intro a ha
  exact ⟨hp a (mapError_eq_ok_iff.mp ha), rfl, rfl⟩

theorem together_work {step step' : Tracking α}
    (h : Parallel (SameFrom config oldest) step step' tracker tracker') :
    Together (work step : Walking m α) (work step') tracker tracker' fun _ => SameFrom config oldest := by
  obtain ⟨hanswer, hsame⟩ := h
  refine coupled_pure ⟨?_, hsame.closed_eq, fun _ _ => hsame⟩
  show (step'.run.run tracker').1.mapError Halt.fault = (step.run.run tracker).1.mapError Halt.fault
  rw [hanswer]

theorem together_askAttestations (hrecently : client.VotesRecently config) {epoch first : UInt64}
    (hfirst : config.firstSlotOf epoch = .ok first) (hclosed : tracker'.closed = tracker.closed) (count : Nat) :
    ∀ {offset : UInt64}, offset.toNat + count = config.slotsPerEpoch.toNat →
      Together (askAttestations client epoch first count offset)
        (askAttestations client epoch first count offset) tracker tracker' fun blocks after after' =>
          (∀ attestation ∈ blocks.flatten,
            (epoch.toNat - 1) * config.slotsPerEpoch.toNat ≤ attestation.slot.toNat) ∧
          after = tracker ∧ after' = tracker' := by
  induction count with
  | zero =>
      intro offset _
      exact together_pure hclosed ⟨fun _ hmem => absurd hmem List.not_mem_nil, rfl, rfl⟩
  | succ count ih =>
      intro offset hcount
      unfold askAttestations
      refine (together_calculate hclosed).bind ?_
      intro slot _ _ h'
      obtain ⟨hslot, rfl, rfl⟩ := h'
      refine (together_ask hclosed (hrecently.late hfirst hslot (by omega))).bind ?_
      intro block _ _ h'
      obtain ⟨hblock, rfl, rfl⟩ := h'
      have hsize := config.slotsPerEpoch.toNat_lt_size
      have hnext := (Word.add_one (show offset.toNat + 1 < UInt64.size by omega)).2
      refine (ih (by omega)).bind ?_
      intro rest _ _ h'
      obtain ⟨hrest, rfl, rfl⟩ := h'
      refine together_pure hclosed ⟨?_, rfl, rfl⟩
      rw [List.flatten_cons, List.forall_mem_append]
      exact ⟨hblock, hrest⟩

theorem together_askCommittees {epoch : UInt64} {withCommittees : Bool}
    (hclosed : tracker'.closed = tracker.closed) :
    Together (askCommittees client epoch withCommittees) (askCommittees client epoch withCommittees)
      tracker tracker' fun _ after after' => after = tracker ∧ after' = tracker' := by
  unfold askCommittees
  split
  · have hany : Always (fun answer => ∀ committees, answer = .ok committees → True)
        (client.committees epoch) := (always_true _).mono fun _ _ _ _ => trivial
    exact (together_ask hclosed hany).mono fun _ _ _ h => h.2
  · exact together_pure hclosed ⟨rfl, rfl⟩

/-- Within an epoch the trackers differ in duties of slots before the epoch before. -/
theorem SameFrom.walkEpoch (hrecently : client.VotesRecently config) {epoch : UInt64}
    {withCommittees : Bool} (h : SameFrom config ((epoch.toNat - 1) * config.slotsPerEpoch.toNat) tracker tracker') :
    Together (walkEpochWith Tracker.prune client epoch withCommittees)
      (walkEpochWith keep client epoch withCommittees) tracker tracker' fun _ =>
        SameFrom config ((epoch.toNat - 1) * config.slotsPerEpoch.toNat) := by
  have hclosed := h.closed_eq
  have hsame : tracker'.config = tracker.config := congrArg (·.config) hclosed
  unfold walkEpochWith
  apply together_get_bind
  dsimp only
  rw [hsame, h.1]
  refine (together_calculate hclosed).bind ?_
  intro first _ _ h'
  obtain ⟨hfirst, rfl, rfl⟩ := h'
  refine (together_askCommittees hclosed).bind ?_
  intro committees _ _ h'
  obtain ⟨rfl, rfl⟩ := h'
  refine (together_askAttestations hrecently hfirst hclosed _ (Nat.zero_add _)).bind ?_
  intro blocks _ _ h'
  obtain ⟨hlate, rfl, rfl⟩ := h'
  refine (together_work (SameFrom.record committees h)).bind ?_
  intro _ recorded recorded' hrecorded
  refine (together_work (SameFrom.checkAll blocks hrecorded hlate)).bind ?_
  intro _ checked checked' hchecked
  exact together_work (hchecked.prune hfirst)

theorem SameFrom.walkEpochs (hrecently : client.VotesRecently config) (count : Nat) :
    ∀ {tracker tracker' : Tracker} {epoch : UInt64}, epoch.toNat + count ≤ UInt64.size →
      SameFrom config ((epoch.toNat - 1) * config.slotsPerEpoch.toNat) tracker tracker' →
      Together (walkEpochsWith Tracker.prune client count epoch) (walkEpochsWith keep client count epoch)
        tracker tracker' fun _ =>
          SameFrom config ((epoch.toNat + count - 1) * config.slotsPerEpoch.toNat) := by
  induction count with
  | zero => exact fun _ h => together_pure h.closed_eq h
  | succ count ih =>
      intro tracker tracker' epoch hfits h
      unfold walkEpochsWith
      refine (h.walkEpoch hrecently).bind ?_
      intro _ mid mid' hmid
      rcases count with _ | count
      · -- Behind the last epoch there need not be another one.
        exact together_pure hmid.closed_eq (hmid.mono (Nat.mul_le_mul_right _ (by omega)))
      · have hnext := (Word.add_one (show epoch.toNat + 1 < UInt64.size by omega)).2
        have hrest := @ih mid mid' (epoch + 1) (by omega)
          (hmid.mono (Nat.mul_le_mul_right _ (by omega)))
        rw [hnext, Nat.add_assoc, Nat.add_comm 1] at hrest
        exact hrest

/-- Once the epochs of an interval are walked, the slots of the last one still matter. -/
theorem together_epochs (hrecently : client.VotesRecently tracker.config) (first last : UInt64) :
    Together (walkEpochsWith prune client (last.toNat + 1 - first.toNat) first)
      (walkEpochsWith keep client (last.toNat + 1 - first.toNat) first) tracker tracker fun _ =>
        SameFrom tracker.config (last.toNat * tracker.config.slotsPerEpoch.toNat) := by
  have hself : ∀ oldest, SameFrom tracker.config oldest tracker tracker := sameFrom_self rfl
  have hlast := last.toNat_lt_size
  rcases Nat.lt_or_ge last.toNat first.toNat with hnone | hsome
  · -- With the bounds the wrong way round no epoch is walked before the one behind the last.
    rw [Nat.sub_eq_zero_of_le hnone]
    exact together_pure rfl (hself _)
  · have hend : first.toNat + (last.toNat + 1 - first.toNat) - 1 = last.toNat := by omega
    have hwalk := SameFrom.walkEpochs hrecently (last.toNat + 1 - first.toNat) (by omega)
      (hself ((first.toNat - 1) * tracker.config.slotsPerEpoch.toNat))
    rwa [hend] at hwalk

/-- **A walk that drops what is past comes to what one comes to that keeps it.** -/
theorem together_walk (hrecently : client.VotesRecently tracker.config) :
    Together (walkWith prune client) (walkWith keep client) tracker tracker fun _ _ _ => True := by
  unfold walkWith
  apply together_get_bind
  refine (together_calculate rfl).bind ?_
  intro first _ _ h'
  obtain ⟨-, hstart, hstart'⟩ := h'
  rw [hstart, hstart']
  refine (together_calculate rfl).bind ?_
  intro last _ _ h'
  obtain ⟨-, hstart, hstart'⟩ := h'
  rw [hstart, hstart']
  refine (together_epochs hrecently first last).bind ?_
  intro _ mid mid' hmid
  refine (together_calculate hmid.closed_eq).bind ?_
  intro next _ _ h'
  obtain ⟨hnext, rfl, rfl⟩ := h'
  have hlast : next.toNat - 1 = last.toNat := by
    rw [Word.toNat_of_add_one hnext, Nat.add_sub_cancel]
  rw [← hlast] at hmid
  refine (hmid.walkEpoch hrecently).bind ?_
  intro _ after after' hafter
  apply together_get_bind
  have htotals : after'.totals = after.totals := congrArg (·.totals) hafter.closed_eq
  rw [htotals]
  exact together_pure hafter.closed_eq trivial

end together

end Tracker

open Tracker

/-- **Dropping what is past makes no difference.**  Where blocks include votes within an epoch, a
walk that drops the duties of early slots behind every epoch has the same answer as one that drops
nothing, be it totals or a failure, and leaves the same tracker up to the duties still open. -/
theorem walk_unpruned {m : Type → Type} [Monad m] [LawfulMonad m] (client : ConsensusClient m)
    (tracker : Tracker) (h : client.VotesRecently tracker.config) :
    Prod.map id closed <$> (walk client).run.run tracker =
      Prod.map id closed <$> (walkWith keep client).run.run tracker := by
  rw [← walkWith_prune]
  refine (together_walk h).map_eq ?_
  intro result result' hresult
  obtain ⟨hanswer, hclosed, -⟩ := hresult
  exact Prod.ext hanswer.symm hclosed.symm

/-- The epochs 1 to 3. -/
def threeEpochs : IntervalBounds := ⟨24, 84, 2, 7, 2, 7⟩

/-- The blocks of the slots 4, 7 and 8 each include a vote for a slot of the epoch before. -/
def lateBlocks : UInt64 → Option (List Attestation)
  | 4 => some [⟨2, 0, ⟨[1]⟩⟩]
  | 7 => some [⟨5, 0, ⟨[1]⟩⟩]
  | 8 => some [⟨7, 0, ⟨[1]⟩⟩]
  | _ => none

/-- A committee of slot 2 and one of slot 5 are told twice, and another one of slot 3 is told late. -/
def lateClient : ConsensusClient Id where
  config := .ok ⟨0, 12, 2⟩
  block slot := .ok (some ⟨slot, slot⟩)
  committees epoch := .ok (
    if epoch = 1 then [⟨2, 0, [7]⟩, ⟨3, 0, [8]⟩]
    else if epoch = 2 then [⟨5, 0, [8, 7]⟩, ⟨2, 0, [8, 7]⟩, ⟨5, 0, [7, 8]⟩]
    else if epoch = 3 then [⟨3, 1, [7]⟩, ⟨7, 0, [8]⟩]
    else [])
  attestations slot := .ok (lateBlocks slot)

theorem votesRecently_lateClient : lateClient.VotesRecently twoNodes.config := by
  intro slot
  rw [always_id]
  intro attestations hanswer epoch oldest hepoch holdest attestation hmem
  have hblock : lateBlocks slot = some attestations := Except.ok.inj hanswer
  unfold lateBlocks at hblock
  split at hblock <;> cases hblock <;> rw [List.mem_singleton.mp hmem]
  · obtain rfl : 2 = epoch := Except.ok.inj hepoch
    obtain rfl : 2 = oldest := Except.ok.inj holdest
    decide
  · obtain rfl : 3 = epoch := Except.ok.inj hepoch
    obtain rfl : 4 = oldest := Except.ok.inj holdest
    decide
  · obtain rfl : 4 = epoch := Except.ok.inj hepoch
    obtain rfl : 6 = oldest := Except.ok.inj holdest
    decide

/-- One walk ends with nothing open and the other one with four committees; they come to the same. -/
theorem walk_unpruned_lateClient :
    ∃ start totals after after',
      start = (Tracker.new twoNodes threeEpochs twoNodes.poolNodes).2 ∧
      lateClient.VotesRecently start.config ∧
      Id.run ((walk lateClient).run.run start) = (.ok totals, after) ∧
      Id.run ((walkWith keep lateClient).run.run start) = (.ok totals, after') ∧
      after'.closed = after.closed ∧ totals.successful = 3 ∧
      after.duties.size = 0 ∧ after'.duties.size = 4 := by
  have heval :
      (Tracker.new twoNodes threeEpochs twoNodes.poolNodes).2.config = twoNodes.config ∧
      (Id.run ((walk lateClient).run.run
        (Tracker.new twoNodes threeEpochs twoNodes.poolNodes).2)).1 = .ok ⟨975000000000000000, 3⟩ ∧
      (Id.run ((walk lateClient).run.run
        (Tracker.new twoNodes threeEpochs twoNodes.poolNodes).2)).2.duties.size = 0 ∧
      (Id.run ((walkWith keep lateClient).run.run
        (Tracker.new twoNodes threeEpochs twoNodes.poolNodes).2)).2.duties.size = 4 := by
    decide +kernel
  obtain ⟨start, hstart⟩ : ∃ start, start = (Tracker.new twoNodes threeEpochs twoNodes.poolNodes).2 :=
    ⟨_, rfl⟩
  rw [← hstart] at heval
  obtain ⟨hconfig, htotals, hpruned, hkept⟩ := heval
  have hrecently : lateClient.VotesRecently start.config := by
    rw [hconfig]
    exact votesRecently_lateClient
  have hsame := walk_unpruned lateClient start hrecently
  have hanswer : (Id.run ((walkWith keep lateClient).run.run start)).1 =
      (Id.run ((walk lateClient).run.run start)).1 := (congrArg Prod.fst hsame).symm
  refine ⟨start, ⟨975000000000000000, 3⟩, _, _, hstart, hrecently, Prod.ext htotals rfl,
    Prod.ext (hanswer.trans htotals) rfl, ?_, rfl, hpruned, hkept⟩
  exact (congrArg Prod.snd hsame).symm

end PoolRewards
