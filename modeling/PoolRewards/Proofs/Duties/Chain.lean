/-
The chain as a client shows it.

A well-formed client names the committees of each epoch and shows, block by block, which of
their positions have attested.  What is due and what is shown are said here of the chain
alone; the lookups of one epoch tell them for the slots of that epoch.
-/
import PoolRewards.Proofs.Duties.Recording
import PoolRewards.Proofs.Duties.Walking

namespace PoolRewards

/-- A client that always answers, and whose committees and attestations hang together. -/
structure ConsensusClient.WellFormed (client : ConsensusClient Id) (config : BeaconConfig) :
    Prop where
  committees : ∀ epoch, ∃ committees, Id.run (client.committees epoch) = .ok committees
  attestations : ∀ slot, ∃ answer, Id.run (client.attestations slot) = .ok answer
  /-- An epoch's committees are of its own slots. -/
  ofEpoch : ∀ epoch committees, Id.run (client.committees epoch) = .ok committees →
    ∀ committee ∈ committees, config.epochOf committee.slot = .ok epoch
  distinct : ∀ epoch committees, Id.run (client.committees epoch) = .ok committees →
    (committees.map (·.key)).Nodup
  /-- Votes are for the epoch of the block's slot or the one before. -/
  timely : ∀ slot attestations, Id.run (client.attestations slot) = .ok (some attestations) →
    ∀ attestation ∈ attestations, ∃ epoch voted, config.epochOf slot = .ok epoch ∧
      config.epochOf attestation.slot = .ok voted ∧
      (voted = epoch ∨ voted.toNat + 1 = epoch.toNat)

/-- A committee that the client names. -/
def ConsensusClient.Names (client : ConsensusClient Id) (committee : Committee) : Prop :=
  ∃ epoch committees, Id.run (client.committees epoch) = .ok committees ∧ committee ∈ committees

/-- A block of the epochs from `first` up to before `last` shows the bit of a position. -/
def ConsensusClient.ShowsIn (client : ConsensusClient Id) (config : BeaconConfig) (first last : Nat)
    (key : DutyKey) (position : Nat) : Prop :=
  ∃ slot attestations, first ≤ config.epochNumber slot ∧ config.epochNumber slot < last ∧
    Id.run (client.attestations slot) = .ok (some attestations) ∧ Shows attestations key position

namespace Tracker

variable {client : ConsensusClient Id} {start : Tracker} {validator slot epoch : UInt64} {key : DutyKey}
  {position first : Nat} {committees : List Committee} {blocks : List (List Attestation)}

/-- A validator owes an attestation at a slot, by some committee that the client names. -/
def Due (client : ConsensusClient Id) (start : Tracker) (x : UInt64 × UInt64) : Prop :=
  start.bounds.contains x.2 = true ∧ start.isOwing (start.config.startOf x.2) x.1 = true ∧
    ∃ committee, client.Names committee ∧ committee.slot = x.2 ∧ x.1 ∈ committee.validators

/-- A validator's position in a committee of a slot is shown by a block before an epoch. -/
def Shown (client : ConsensusClient Id) (start : Tracker) (first last : Nat)
    (x : UInt64 × UInt64) : Prop :=
  ∃ committee position, client.Names committee ∧ committee.slot = x.2 ∧
    committee.validators[position]? = some x.1 ∧
    client.ShowsIn start.config first last committee.key position

/-! ### What is included in the blocks of one epoch

A walk asks slot by slot, and what it is told of an epoch is the list of the answers.  Put
one behind the other they show the bits that the blocks of the epoch show.
-/

theorem showsIn_succ {config : BeaconConfig} {last : Nat} (h : first ≤ last) :
    client.ShowsIn config first (last + 1) key position ↔
      client.ShowsIn config first last key position ∨
        client.ShowsIn config last (last + 1) key position := by
  refine ⟨?_, ?_⟩
  · intro h'
    obtain ⟨slot, attestations, hfirst, hlast, hshows⟩ := h'
    by_cases hlt : config.epochNumber slot < last
    · exact Or.inl ⟨slot, attestations, hfirst, hlt, hshows⟩
    · exact Or.inr ⟨slot, attestations, by omega, hlast, hshows⟩
  · intro hcases
    rcases hcases with hbefore | hnow
    · obtain ⟨slot, attestations, hfirst, hlast, hshows⟩ := hbefore
      exact ⟨slot, attestations, hfirst, by omega, hshows⟩
    · obtain ⟨slot, attestations, hfirst, hlast, hshows⟩ := hnow
      exact ⟨slot, attestations, by omega, hlast, hshows⟩

theorem epochNumber_of_showsIn {config : BeaconConfig} {last : Nat} (hwell : client.WellFormed config)
    (h : client.ShowsIn config first last key position) :
    ∃ n, first ≤ n ∧ n < last ∧
      (config.epochNumber key.slot = n ∨ config.epochNumber key.slot + 1 = n) := by
  obtain ⟨slot, attestations, hfirst, hlast, hanswer, attestation, hmem, rfl, -⟩ := h
  obtain ⟨epoch, voted, hepoch, hvoted, hclose⟩ := hwell.timely slot attestations hanswer attestation hmem
  refine ⟨config.epochNumber slot, hfirst, hlast, ?_⟩
  rw [← BeaconConfig.toNat_of_epochOf hepoch]
  show config.epochNumber attestation.slot = _ ∨ config.epochNumber attestation.slot + 1 = _
  rw [← BeaconConfig.toNat_of_epochOf hvoted]
  rcases hclose with rfl | hclose
  · exact Or.inl rfl
  · exact Or.inr hclose

theorem included_of_answer {slot : UInt64} {block : List Attestation}
    (h : included client slot = .ok block) :
    ∃ answer, Id.run (client.attestations slot) = .ok answer ∧ block = answer.getD [] := by
  unfold included at h
  rcases hanswer : Id.run (client.attestations slot) with error | answer
  · rw [hanswer] at h
    cases h
  · rw [hanswer] at h
    cases h
    exact ⟨answer, rfl, rfl⟩

/-- The blocks of an epoch show what the client includes in the epoch. -/
theorem shows_flatten {config : BeaconConfig} {n : Nat} (hpos : 0 < config.slotsPerEpoch.toNat)
    (hblocks : List.Forall₂ (IncludedAt client)
      (List.range' (n * config.slotsPerEpoch.toNat) config.slotsPerEpoch.toNat) blocks)
    (key : DutyKey) (position : Nat) :
    Shows blocks.flatten key position ↔ client.ShowsIn config n (n + 1) key position := by
  obtain ⟨hslots, hblocks⟩ := related_of_forall₂ hblocks
  refine ⟨?_, ?_⟩
  · intro h
    obtain ⟨attestation, hmem, hshows⟩ := h
    obtain ⟨block, hblock, hmem⟩ := List.mem_flatten.mp hmem
    obtain ⟨_, hrange, slot, rfl, hincluded⟩ := hblocks block hblock
    obtain ⟨answer, hanswer, rfl⟩ := included_of_answer hincluded
    have hepoch : config.epochNumber slot = n := by
      rw [BeaconConfig.epochNumber_eq_iff hpos]
      exact List.mem_range'_1.mp hrange
    rcases answer with _ | attestations
    · exact absurd hmem List.not_mem_nil
    · exact ⟨slot, attestations, by omega, by omega, hanswer, attestation, hmem, hshows⟩
  · intro h
    obtain ⟨slot, attestations, hfirst, hlast, hanswer, attestation, hmem, hshows⟩ := h
    have hepoch : config.epochNumber slot = n := by omega
    rw [BeaconConfig.epochNumber_eq_iff hpos] at hepoch
    obtain ⟨block, hblock, slot', hslot, hincluded⟩ := hslots slot.toNat (List.mem_range'_1.mpr hepoch)
    obtain rfl := UInt64.toNat_inj.mp hslot
    obtain ⟨answer, hanswer', rfl⟩ := included_of_answer hincluded
    rw [hanswer] at hanswer'
    cases hanswer'
    exact ⟨attestation, List.mem_flatten.mpr ⟨attestations, hblock, hmem⟩, hshows⟩

/-! ### Committees

The committees of an epoch have slots of that epoch and distinct keys.  So what one epoch
brings does not touch what another has brought, and a key has at most one committee.
-/

/-- The committees of an epoch, as far as they are of slots of the interval. -/
structure EpochCommittees (client : ConsensusClient Id) (start : Tracker) (n : Nat)
    (committees : List Committee) : Prop where
  named : ∀ committee ∈ committees,
    client.Names committee ∧ start.config.epochNumber committee.slot = n
  all : ∀ committee, client.Names committee → start.bounds.contains committee.slot = true →
    start.config.epochNumber committee.slot = n → committee ∈ committees
  distinct : (committees.map (·.key)).Nodup

theorem epochCommittees_of_answer (hwell : client.WellFormed start.config)
    (h : IsAnswer client epoch true committees) :
    EpochCommittees client start epoch.toNat committees where
  named committee hmem := by
    refine ⟨⟨epoch, committees, h, hmem⟩, ?_⟩
    exact (BeaconConfig.toNat_of_epochOf (hwell.ofEpoch epoch committees h committee hmem)).symm
  all committee hnames _ hepoch := by
    obtain ⟨epoch', committees', hanswer, hmem⟩ := hnames
    have hsame := BeaconConfig.toNat_of_epochOf (hwell.ofEpoch epoch' committees' hanswer committee hmem)
    obtain rfl := UInt64.toNat_inj.mp (hsame.trans hepoch)
    rw [h] at hanswer
    cases hanswer
    exact hmem
  distinct := hwell.distinct epoch committees h

/-- Behind the interval there is nothing to take in. -/
theorem epochCommittees_nil {n : Nat}
    (h : ∀ slot, start.bounds.contains slot = true → start.config.epochNumber slot < n) :
    EpochCommittees client start n [] where
  named committee hmem := absurd hmem List.not_mem_nil
  all committee _ hin hepoch := by
    have := h committee.slot hin
    omega
  distinct := List.nodup_nil

theorem takes_of_owingAt {committee : Committee} (hin : start.bounds.contains committee.slot = true)
    (h : start.owingAt committee position = some validator) : start.takes committee = true := by
  obtain ⟨hat, howing⟩ := Option.filter_eq_some_iff.mp h
  rw [takes, hin, Bool.true_and, List.any_eq_true]
  exact ⟨validator, List.mem_of_getElem? hat, howing⟩

/-- What an epoch's committees bring is due in that epoch. -/
theorem EpochCommittees.mem_duesOf {n : Nat} (h : EpochCommittees client start n committees)
    (x : UInt64 × UInt64) :
    x ∈ start.duesOf committees ↔ Due client start x ∧ start.config.epochNumber x.2 = n := by
  refine ⟨?_, ?_⟩
  · intro hdue
    obtain ⟨hin, howing, committee, hmem, hslot, hvalidator⟩ := hdue
    obtain ⟨hnames, hepoch⟩ := h.named committee hmem
    rw [hslot] at hepoch
    exact ⟨⟨hin, howing, committee, hnames, hslot, hvalidator⟩, hepoch⟩
  · intro hdue
    obtain ⟨⟨hin, howing, committee, hnames, hslot, hvalidator⟩, hepoch⟩ := hdue
    rw [← hslot] at hepoch
    have hmem := h.all committee hnames (by rw [hslot]; exact hin) hepoch
    exact ⟨hin, howing, committee, hmem, hslot, hvalidator⟩

theorem EpochCommittees.lastTaken_eq_none {n : Nat} (h : EpochCommittees client start n committees)
    (hother : start.config.epochNumber key.slot ≠ n) : start.lastTaken committees key = none := by
  by_contra hsome
  obtain ⟨committee, htaken⟩ := Option.ne_none_iff_exists'.mp hsome
  obtain ⟨hmem, hkey, -⟩ := (lastTaken_eq_some h.distinct).mp htaken
  have hslot : committee.slot = key.slot := congrArg DutyKey.slot hkey
  have hepoch := (h.named committee hmem).2
  rw [hslot] at hepoch
  exact hother hepoch

theorem EpochCommittees.owingAt_lastTaken {n : Nat} (h : EpochCommittees client start n committees)
    (hnew : start.config.epochNumber key.slot = n) :
    ((start.lastTaken committees key).map (start.owingAt · position)).getD none = some validator ↔
      ∃ committee, client.Names committee ∧ committee.key = key ∧ start.takes committee = true ∧
        start.owingAt committee position = some validator := by
  refine ⟨?_, ?_⟩
  · intro hlast
    rcases htaken : start.lastTaken committees key with _ | committee
    · rw [htaken] at hlast
      cases hlast
    · rw [htaken] at hlast
      obtain ⟨hmem, hkey, htakes⟩ := (lastTaken_eq_some h.distinct).mp htaken
      exact ⟨committee, (h.named committee hmem).1, hkey, htakes, hlast⟩
  · intro hnamed
    obtain ⟨committee, hnames, hkey, htakes, howing⟩ := hnamed
    have hslot : committee.slot = key.slot := congrArg DutyKey.slot hkey
    have hmem := h.all committee hnames (Bool.and_eq_true_iff.mp htakes).1 (by rw [hslot]; exact hnew)
    rw [(lastTaken_eq_some h.distinct).mpr ⟨hmem, hkey, htakes⟩]
    exact howing

end Tracker

end PoolRewards
