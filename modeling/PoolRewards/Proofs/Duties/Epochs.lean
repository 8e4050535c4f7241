/-
The walk, epoch by epoch.

The invariant says what is owed, met and still open once the epochs before a given one have
been walked.  Only the duties of the last two epochs are claimed to be open, because an
attestation appears in the epoch of its slot or in the next one, so whatever is pruned could
never have been met.
-/
import PoolRewards.Proofs.Duties.Chain

namespace PoolRewards.Tracker

variable {client : ConsensusClient Id} {start tracker after recorded checked : Tracker}
  {epoch firstSlot : UInt64} {first : Nat} {committees : List Committee}
  {blocks : List (List Attestation)} {withCommittees : Bool}

/-- From the epoch `first` on, the committees up to before `last` have been taken in, and the
attestations up to before `shown`. -/
structure Walked (client : ConsensusClient Id) (start : Tracker) (first last shown : Nat)
    (tracker : Tracker) : Prop where
  sound : tracker.Sound
  frame : tracker.frame = start.frame
  owed : ∀ x, x ∈ tracker.owed ↔ Due client start x ∧ start.config.epochNumber x.2 < last
  met : ∀ x, x ∈ tracker.met ↔ Due client start x ∧ Shown client start first shown x
  pending : ∀ (key : DutyKey) (position : Nat) (validator : UInt64),
    shown ≤ start.config.epochNumber key.slot + 1 →
      (tracker.pending key position = some validator ↔
        start.config.epochNumber key.slot < last ∧
        (∃ committee, client.Names committee ∧ committee.key = key ∧
          start.takes committee = true ∧ start.owingAt committee position = some validator) ∧
        ¬ client.ShowsIn start.config first shown key position)

/-! ### Committees

What an epoch's committees open is due in that epoch, and no slot of it was shown before:
blocks of earlier epochs do not include it.
-/

theorem Walked.record {n : Nat} (hwell : client.WellFormed start.config)
    (h : Walked client start first n n tracker)
    (hcommittees : EpochCommittees client start n committees)
    (hrecords : tracker.Records recorded committees) :
    Walked client start first (n + 1) n recorded where
  sound := hrecords.sound
  frame := hrecords.frame.trans h.frame
  owed x := by
    rw [hrecords.owed, duesOf_of_frame h.frame, Set.mem_union, h.owed, hcommittees.mem_duesOf,
      Nat.lt_succ_iff_lt_or_eq, and_or_left]
  met x := by
    rw [hrecords.met]
    exact h.met x
  pending key position validator hrecent := by
    rw [hrecords.pending, lastTaken_of_frame h.frame, owingAt_of_frame h.frame]
    by_cases hnew : start.config.epochNumber key.slot = n
    · -- Nothing of the epoch was open before, and no earlier block can show a vote for it.
      have hnone : tracker.pending key position = none := by
        by_contra hsome
        obtain ⟨other, hother⟩ := Option.ne_none_iff_exists'.mp hsome
        have := ((h.pending key position other hrecent).mp hother).1
        omega
      have hunseen : ¬ client.ShowsIn start.config first n key position := by
        intro hshows
        obtain ⟨m, -, hm, hclose⟩ := epochNumber_of_showsIn hwell hshows
        omega
      rw [hnone, hcommittees.owingAt_lastTaken hnew]
      simp only [hnew, Nat.lt_succ_self, hunseen, not_false_eq_true, true_and, and_true]
    · rw [hcommittees.lastTaken_eq_none hnew]
      show tracker.pending key position = some validator ↔ _
      rw [h.pending key position validator hrecent]
      have hlt : start.config.epochNumber key.slot < n ↔ start.config.epochNumber key.slot < n + 1 := by
        omega
      rw [hlt]

/-! ### Attestations

A bit that a block shows closes its position if it is still open.  All that the blocks of an
epoch can show is of this epoch or of the one before, and these are the two of which the
invariant says that nothing open is missing.
-/

theorem shown_mono {n : Nat} {x : UInt64 × UInt64} (h : Shown client start first n x) :
    Shown client start first (n + 1) x := by
  obtain ⟨committee, position, hnames, hslot, hat, slot, attestations, hfirst, hlast, hshows⟩ := h
  exact ⟨committee, position, hnames, hslot, hat, slot, attestations, hfirst, by omega, hshows⟩

theorem Walked.mem_metAfter {n : Nat} (hwell : client.WellFormed start.config) (hle : first ≤ n)
    (h : Walked client start first (n + 1) n tracker)
    (hblocks : ∀ key position, Shows blocks.flatten key position ↔
      client.ShowsIn start.config n (n + 1) key position) (x : UInt64 × UInt64) :
    x ∈ tracker.metAfter blocks.flatten ↔ Due client start x ∧ Shown client start first (n + 1) x := by
  have hrecent : ∀ {key position}, client.ShowsIn start.config n (n + 1) key position →
      n ≤ start.config.epochNumber key.slot + 1 ∧ start.config.epochNumber key.slot < n + 1 := by
    intro key position hshows
    obtain ⟨m, hfirst, hlast, hclose⟩ := epochNumber_of_showsIn hwell hshows
    omega
  refine ⟨?_, ?_⟩
  · intro hcases
    rcases hcases with hmet | ⟨index, position, hpending, hshows⟩
    · obtain ⟨hdue, hshown⟩ := (h.met x).mp hmet
      exact ⟨hdue, shown_mono hshown⟩
    · have hnow := (hblocks _ _).mp hshows
      obtain ⟨-, ⟨committee, hnames, hkey, htakes, howing⟩, -⟩ :=
        (h.pending _ _ _ (hrecent hnow).1).mp hpending
      have hslot : committee.slot = x.2 := congrArg DutyKey.slot hkey
      obtain ⟨hat, howing⟩ := Option.filter_eq_some_iff.mp howing
      rw [hslot] at howing
      refine ⟨⟨?_, howing, committee, hnames, hslot, List.mem_of_getElem? hat⟩, committee, position,
        hnames, hslot, hat, ?_⟩
      · rw [← hslot]
        exact (Bool.and_eq_true_iff.mp htakes).1
      · rw [showsIn_succ hle, hkey]
        exact Or.inr hnow
  · intro h'
    obtain ⟨hdue, committee, position, hnames, hslot, hat, hshows⟩ := h'
    -- A vote may be included twice; if the first time was before this epoch it is met already.
    have hmet : client.ShowsIn start.config first n committee.key position → x ∈ tracker.met := by
      intro hbefore
      exact (h.met x).mpr ⟨hdue, committee, position, hnames, hslot, hat, hbefore⟩
    by_cases hbefore : client.ShowsIn start.config first n committee.key position
    · exact Or.inl (hmet hbefore)
    · have hnow := ((showsIn_succ hle).mp hshows).resolve_left hbefore
      obtain ⟨hin, howing, -⟩ := hdue
      have howingAt : start.owingAt committee position = some x.1 := by
        rw [owingAt, hslot]
        exact Option.filter_eq_some_iff.mpr ⟨hat, howing⟩
      have hpending : tracker.pending committee.key position = some x.1 :=
        (h.pending _ _ _ (hrecent hnow).1).mpr ⟨(hrecent hnow).2,
          ⟨committee, hnames, rfl, takes_of_owingAt (hslot ▸ hin) howingAt, howingAt⟩, hbefore⟩
      have hkey : committee.key = ⟨x.2, committee.index⟩ := by rw [← hslot]; rfl
      rw [hkey] at hpending hnow
      exact Or.inr ⟨committee.index, position, hpending, (hblocks _ _).mpr hnow⟩

theorem Walked.check {n : Nat} (hwell : client.WellFormed start.config) (hle : first ≤ n)
    (h : Walked client start first (n + 1) n tracker)
    (hblocks : ∀ key position, Shows blocks.flatten key position ↔
      client.ShowsIn start.config n (n + 1) key position)
    (hmatches : tracker.Matches checked blocks.flatten) :
    Walked client start first (n + 1) (n + 1) checked where
  sound := hmatches.sound
  frame := hmatches.frame.trans h.frame
  owed x := by
    rw [hmatches.owed]
    exact h.owed x
  met x := by
    rw [hmatches.met]
    exact h.mem_metAfter hwell hle hblocks x
  pending key position validator hrecent := by
    rw [hmatches.pending, h.pending key position validator (by omega), hblocks, showsIn_succ hle,
      not_or, and_assoc, and_assoc]

/-- Pruning behind an epoch drops nothing that can still be met. -/
theorem Walked.prune {n : Nat} {oldest : UInt64}
    (h : Walked client start first (n + 1) (n + 1) tracker)
    (hadvances : tracker.Advances after tracker.met)
    (holdest : oldest.toNat = (n - 1) * start.config.slotsPerEpoch.toNat)
    (hpending : ∀ key position, after.pending key position =
      if oldest ≤ key.slot then tracker.pending key position else none) :
    Walked client start first (n + 1) (n + 1) after where
  sound := hadvances.sound
  frame := hadvances.frame.trans h.frame
  owed x := by
    rw [hadvances.owed]
    exact h.owed x
  met x := by
    rw [hadvances.met]
    exact h.met x
  pending key position validator hrecent := by
    have hkept : oldest ≤ key.slot := by
      rw [UInt64.le_iff_toNat_le, holdest]
      refine (Nat.mul_le_mul_right _ ?_).trans (Nat.div_mul_le_self _ start.config.slotsPerEpoch.toNat)
      show n - 1 ≤ start.config.epochNumber key.slot
      omega
    rw [hpending, if_pos hkept]
    exact h.pending key position validator hrecent

/-! ### One epoch

Committees, attestations and pruning each move one part of the invariant, in the order of
the walk.  The epoch has an answer if each of the three has, and only the second could count
too many.
-/

theorem EpochRun.forall₂_included
    (hrun : EpochRun client tracker epoch withCommittees firstSlot committees blocks recorded checked
      after) (hconfig : tracker.config = start.config) :
    List.Forall₂ (IncludedAt client) (List.range' (epoch.toNat * start.config.slotsPerEpoch.toNat)
      start.config.slotsPerEpoch.toNat) blocks := by
  have hincluded := hrun.included
  rw [Word.mul_eq_ok_iff.mp hrun.start, hconfig] at hincluded
  exact hincluded

/-- Walking an epoch moves the invariant on by one. -/
theorem Walked.walkEpoch (hwell : client.WellFormed start.config)
    (hpos : 0 < start.config.slotsPerEpoch.toNat) (hle : first ≤ epoch.toNat)
    (h : Walked client start first epoch.toNat epoch.toNat tracker)
    (hcommittees : ∀ committees, IsAnswer client epoch withCommittees committees →
      EpochCommittees client start epoch.toNat committees)
    (hyields : Yields (walkEpoch client epoch withCommittees) tracker () after) :
    Walked client start first (epoch.toNat + 1) (epoch.toNat + 1) after := by
  obtain ⟨firstSlot, committees, blocks, recorded, checked, hrun⟩ := yields_walkEpoch.mp hyields
  have hconfig : tracker.config = start.config := congrArg (·.config) h.frame
  have hrecords := (h.sound.record committees).post_of_ok hrun.recording
  have hrecorded := h.record hwell (hcommittees committees hrun.answer) hrecords
  have hmatches := (hrecorded.sound.checkAll blocks).post_of_ok hrun.checking
  have hshows := shows_flatten hpos (hrun.forall₂_included hconfig)
  have hchecked := hrecorded.check hwell hle hshows hmatches
  obtain ⟨hadvances, oldest, holdest, hpending⟩ :=
    (hchecked.sound.prune epoch).post_of_ok hrun.pruning
  refine hchecked.prune hadvances ?_ hpending
  have hsame : checked.config = start.config := congrArg (·.config) hchecked.frame
  have hless : (Word.less epoch 1).toNat = epoch.toNat - 1 := Word.toNat_less epoch 1
  rw [Word.mul_eq_ok_iff.mp holdest, hsame, hless]

theorem exists_blocks (hanswers : ∀ slot, ∃ answer, Id.run (client.attestations slot) = .ok answer) :
    ∀ numbers : List Nat, (∀ n ∈ numbers, n < UInt64.size) →
      ∃ blocks, List.Forall₂ (IncludedAt client) numbers blocks := by
  intro numbers
  induction numbers with
  | nil => exact fun _ => ⟨[], List.Forall₂.nil⟩
  | cons n rest ih =>
      intro hlt
      obtain ⟨blocks, hblocks⟩ := ih fun m hm => hlt m (List.mem_cons_of_mem _ hm)
      obtain ⟨answer, hanswer⟩ := hanswers (UInt64.ofNat n)
      refine ⟨answer.getD [] :: blocks, List.Forall₂.cons ⟨UInt64.ofNat n, ?_, ?_⟩ hblocks⟩
      · exact UInt64.toNat_ofNat_of_lt' (hlt n List.mem_cons_self)
      · rw [included, hanswer]
        rfl

theorem Sound.exists_prune (h : tracker.Sound)
    (hfits : epoch.toNat * tracker.config.slotsPerEpoch.toNat < UInt64.size) :
    ∃ after, (Tracker.prune epoch).run.run tracker = (.ok (), after) := by
  obtain ⟨oldest, holdest, -⟩ := tracker.config.exists_oldest epoch hfits
  obtain ⟨⟨⟩, after, hprune, -⟩ := (h.prune epoch).exists_ok (by
    intro hfault
    obtain ⟨fault, hfault⟩ := hfault
    rw [holdest] at hfault
    cases hfault)
  exact ⟨after, hprune⟩

/-- An epoch can be walked if its slots and the slots' starts have words, and few enough duties are met. -/
theorem Walked.exists_walkEpoch (hwell : client.WellFormed start.config)
    (hpos : 0 < start.config.slotsPerEpoch.toNat) (hle : first ≤ epoch.toNat)
    (h : Walked client start first epoch.toNat epoch.toNat tracker)
    (hanswer : IsAnswer client epoch withCommittees committees)
    (hcommittees : EpochCommittees client start epoch.toNat committees)
    (hfits : (epoch.toNat + 1) * start.config.slotsPerEpoch.toNat ≤ UInt64.size)
    (htimed : ∀ slot, start.bounds.contains slot = true → ∃ time, start.config.slotTime slot = .ok time)
    (hfew : {x | Due client start x}.ncard < UInt64.size) :
    ∃ after, Yields (Tracker.walkEpoch client epoch withCommittees) tracker () after := by
  have hconfig : tracker.config = start.config := congrArg (·.config) h.frame
  have hbounds : tracker.bounds = start.bounds := congrArg (·.bounds) h.frame
  rw [Nat.add_mul, Nat.one_mul] at hfits
  obtain ⟨firstSlot, hfirst, hfirstSlot⟩ := BeaconConfig.exists_firstSlotOf start.config epoch
    (by omega)
  obtain ⟨blocks, hblocks⟩ := exists_blocks hwell.attestations
    (List.range' (epoch.toNat * start.config.slotsPerEpoch.toNat) start.config.slotsPerEpoch.toNat) (by
      intro n hn
      have := (List.mem_range'_1.mp hn).2
      omega)
  obtain ⟨⟨⟩, recorded, hrecord, hrecords⟩ := (h.sound.record committees).exists_ok (by
    intro h'
    obtain ⟨committee, -, hin, fault, hfault⟩ := h'
    obtain ⟨time, htime⟩ := htimed committee.slot (hbounds ▸ hin)
    rw [hconfig, htime] at hfault
    cases hfault)
  have hrecorded := h.record hwell hcommittees hrecords
  have hshows := shows_flatten hpos hblocks
  have hmet := hrecorded.mem_metAfter hwell hle hshows
  obtain ⟨⟨⟩, checked, hcheck, hmatches⟩ := (hrecorded.sound.checkAll blocks).exists_ok (by
    rw [Nat.not_le]
    refine (Set.ncard_le_ncard ?_).trans_lt hfew
    exact fun x hx => ((hmet x).mp hx).1)
  have hchecked := hrecorded.check hwell hle hshows hmatches
  have hsame : checked.config = start.config := congrArg (·.config) hchecked.frame
  have hsmall : epoch.toNat * checked.config.slotsPerEpoch.toNat < UInt64.size := by
    rw [hsame]
    omega
  obtain ⟨after, hprune⟩ := hchecked.sound.exists_prune hsmall
  refine ⟨after, yields_walkEpoch.mpr ⟨firstSlot, committees, blocks, recorded, checked, ?_, hanswer, ?_,
    hrecord, hcheck, hprune⟩⟩
  · rw [hconfig]
    exact hfirst
  · rw [hfirstSlot, hconfig]
    exact hblocks

/-! ### All epochs

The committees and the attestations of an epoch come together but for the last one, which
has no committees.  So the two counters of the invariant are apart by an epoch only within
one.
-/

theorem Walked.walkEpochs (hwell : client.WellFormed start.config)
    (hpos : 0 < start.config.slotsPerEpoch.toNat) (count : Nat) :
    ∀ {epoch : UInt64} {tracker : Tracker}, first ≤ epoch.toNat →
      epoch.toNat + count < UInt64.size →
      Walked client start first epoch.toNat epoch.toNat tracker →
      Yields (walkEpochs client count epoch) tracker () after →
      Walked client start first (epoch.toNat + count) (epoch.toNat + count) after := by
  induction count with
  | zero =>
      intro epoch tracker _ _ h hyields
      rw [yields_walkEpochs_zero.mp hyields]
      exact h
  | succ count ih =>
      intro epoch tracker hle hlt h hyields
      obtain ⟨mid, hepoch, hrest⟩ := yields_walkEpochs_succ.mp hyields
      have hmid := h.walkEpoch hwell hpos hle
        (fun _ hanswer => epochCommittees_of_answer hwell hanswer) hepoch
      have hnext := (Word.add_one (show epoch.toNat + 1 < UInt64.size by omega)).2
      rw [← hnext] at hmid
      have hafter := ih (by omega) (by omega) hmid hrest
      rw [hnext, Nat.add_assoc, Nat.add_comm 1] at hafter
      exact hafter

theorem Walked.exists_walkEpochs (hwell : client.WellFormed start.config)
    (hpos : 0 < start.config.slotsPerEpoch.toNat)
    (htimed : ∀ slot, start.bounds.contains slot = true → ∃ time, start.config.slotTime slot = .ok time)
    (hfew : {x | Due client start x}.ncard < UInt64.size) (count : Nat) :
    ∀ {epoch : UInt64} {tracker : Tracker}, first ≤ epoch.toNat →
      epoch.toNat + count < UInt64.size →
      (epoch.toNat + count) * start.config.slotsPerEpoch.toNat ≤ UInt64.size →
      Walked client start first epoch.toNat epoch.toNat tracker →
      ∃ after, Yields (Tracker.walkEpochs client count epoch) tracker () after := by
  induction count with
  | zero =>
      intro epoch tracker _ _ _ _
      exact ⟨tracker, yields_walkEpochs_zero.mpr rfl⟩
  | succ count ih =>
      intro epoch tracker hle hlt hfits h
      obtain ⟨committees, hcommittees⟩ := hwell.committees epoch
      have hanswer : IsAnswer client epoch true committees := hcommittees
      have hfit : (epoch.toNat + 1) * start.config.slotsPerEpoch.toNat ≤ UInt64.size :=
        (Nat.mul_le_mul_right _ (by omega)).trans hfits
      obtain ⟨mid, hepoch⟩ := h.exists_walkEpoch hwell hpos hle hanswer
        (epochCommittees_of_answer hwell hanswer) hfit htimed hfew
      have hmid := h.walkEpoch hwell hpos hle
        (fun _ hanswer => epochCommittees_of_answer hwell hanswer) hepoch
      have hnext := (Word.add_one (show epoch.toNat + 1 < UInt64.size by omega)).2
      rw [← hnext] at hmid
      obtain ⟨after, hrest⟩ := ih (by omega) (by omega)
        (by rw [hnext, Nat.add_assoc, Nat.add_comm 1]; exact hfits) hmid
      exact ⟨after, yields_walkEpochs_succ.mpr ⟨mid, hepoch, hrest⟩⟩

end PoolRewards.Tracker
