/-
A tracker is told by what is owed, what is met and what is still open.

Trackers of one frame have the same nodes, minipools and validators, which differ in their
duties alone.  The duties of a minipool are told by what its validator owes and has met, the
open duties by the validators that they wait for, and the totals by all of that; so where the
same is owed, met and open there is one tracker.
-/
import PoolRewards.Proofs.Duties.Matching

namespace PoolRewards.Tracker

open Std (ExtTreeMap)

variable {tracker tracker' : Tracker} {place : Place} {node node' : PoolNode}
  {minipool minipool' : PoolMinipool} {key : DutyKey} {position : Nat} {positions : ExtTreeMap Nat Place}

/-- Sound trackers of one frame, in which the same is owed, met and open. -/
structure Alike (tracker tracker' : Tracker) : Prop where
  sound : tracker.Sound
  sound' : tracker'.Sound
  frame : tracker'.frame = tracker.frame
  owed : tracker'.owed = tracker.owed
  met : tracker'.met = tracker.met
  pending : tracker'.pending = tracker.pending

theorem Alike.symm (h : Alike tracker tracker') : Alike tracker' tracker :=
  ⟨h.sound', h.sound, h.frame.symm, h.owed.symm, h.met.symm, h.pending.symm⟩

theorem Alike.validators (h : Alike tracker tracker') : tracker'.validators = tracker.validators :=
  congrArg (·.validators) h.frame

/-! ### Nodes

Two nodes at one position differ at most in the duties of their minipools.  These are sets
of slots, and a sound minipool's score follows from them.
-/

theorem Alike.minipool_eq (h : Alike tracker tracker') (hat : tracker.at? place = some (node, minipool))
    (hat' : tracker'.at? place = some (node', minipool')) : minipool' = minipool := by
  obtain ⟨node₁, minipool₁, hat₁, -, hclear⟩ := at?_of_frame h.frame hat
  rw [hat'] at hat₁
  cases hat₁
  have hsound := h.sound.minipool hat
  have hsound' := h.sound'.minipool hat'
  rw [show tracker'.config = tracker.config from congrArg (·.config) h.frame,
    show tracker'.bounds = tracker.bounds from congrArg (·.bounds) h.frame] at hsound'
  by_cases htracked : ∃ validator : UInt64, tracker.validators[validator]? = some place
  · obtain ⟨validator, hv⟩ := htracked
    have hv' : tracker'.validators[validator]? = some place := by
      rw [h.validators]
      exact hv
    refine hsound.eq_of_cleared hsound' hclear ?_ ?_
    · refine Std.ExtTreeSet.ext_mem fun slot => ?_
      rw [← mem_slotsOf_of_tracked hv hat (·.owed), ← mem_slotsOf_of_tracked hv' hat' (·.owed)]
      exact Set.ext_iff.mp h.owed (validator, slot)
    · refine Std.ExtTreeSet.ext_mem fun slot => ?_
      rw [← mem_slotsOf_of_tracked hv hat (·.fulfilled), ← mem_slotsOf_of_tracked hv' hat' (·.fulfilled)]
      exact Set.ext_iff.mp h.met (validator, slot)
  -- A minipool that is not tracked has no duties in either tracker.
  · have howed := h.sound.untracked hat fun validator hv => htracked ⟨validator, hv⟩
    have howed' := h.sound'.untracked hat' fun validator hv => htracked ⟨validator, h.validators ▸ hv⟩
    have hfulfilled := (hsound.of_owed_empty howed).1
    have hfulfilled' := (hsound'.of_owed_empty howed').1
    exact hsound.eq_of_cleared hsound' hclear (howed'.trans howed.symm) (hfulfilled'.trans hfulfilled.symm)

theorem Alike.node_eq (h : Alike tracker tracker') {i : Nat} (hn : tracker.nodes[i]? = some node)
    (hn' : tracker'.nodes[i]? = some node') (hclear : node'.cleared = node.cleared) : node' = node := by
  have hminipools : node'.minipools = node.minipools := by
    apply Array.ext_getElem?
    intro j
    have hsame : (node'.minipools[j]?).map (·.cleared) = (node.minipools[j]?).map (·.cleared) := by
      rw [← Array.getElem?_map, ← Array.getElem?_map]
      exact congrArg (fun node => node.minipools[j]?) hclear
    rcases hm : node.minipools[j]? with _ | minipool
    · rw [hm] at hsame
      exact Option.map_eq_none_iff.mp hsame
    · rw [hm] at hsame
      obtain ⟨minipool', hm', -⟩ := Option.map_eq_some_iff.mp hsame
      have hat : tracker.at? ⟨i, j⟩ = some (node, minipool) := at?_eq_some.mpr ⟨hn, hm⟩
      have hat' : tracker'.at? ⟨i, j⟩ = some (node', minipool') := at?_eq_some.mpr ⟨hn', hm'⟩
      rw [hm', h.minipool_eq hat hat']
  have hmk : ∀ node : PoolNode, node = { node.cleared with minipools := node.minipools } := fun _ => rfl
  rw [hmk node', hmk node, hclear, hminipools]

theorem Alike.nodes_eq (h : Alike tracker tracker') : tracker'.nodes = tracker.nodes := by
  apply Array.ext_getElem?
  intro i
  have hsame : (tracker'.nodes[i]?).map (·.cleared) = (tracker.nodes[i]?).map (·.cleared) := by
    rw [← Array.getElem?_map, ← Array.getElem?_map]
    exact congrArg (fun tracker => tracker.nodes[i]?) h.frame
  rcases hn : tracker.nodes[i]? with _ | node
  · rw [hn] at hsame
    exact Option.map_eq_none_iff.mp hsame
  · rw [hn] at hsame
    obtain ⟨node', hn', hclear⟩ := Option.map_eq_some_iff.mp hsame
    rw [hn', h.node_eq hn hn' hclear]

/-! ### Open duties

A tracker keeps the places of minipools and `pending` tells their validators.  A place is
tracked for one validator alone, so the one can be had from the other.
-/

theorem Sound.exists_position_iff (h : tracker.Sound) :
    (∃ positions, tracker.duties[key]? = some positions ∧ positions[position]? = some place) ↔
      ∃ validator : UInt64, tracker.pending key position = some validator ∧
        tracker.validators[validator]? = some place := by
  refine ⟨?_, ?_⟩
  · intro h'
    obtain ⟨positions, hd, hposition⟩ := h'
    obtain ⟨validator, _, _, hv, -⟩ := (h.duty hd).2 position place hposition
    exact ⟨validator, h.pending_eq_some.mpr ⟨positions, place, hd, hposition, hv⟩, hv⟩
  · intro h'
    obtain ⟨validator, hpending, hv⟩ := h'
    obtain ⟨positions, place', hd, hposition, hv'⟩ := h.pending_eq_some.mp hpending
    rw [hv] at hv'
    cases hv'
    exact ⟨positions, hd, hposition⟩

theorem Alike.exists_position_iff (h : Alike tracker tracker') :
    (∃ positions, tracker'.duties[key]? = some positions ∧ positions[position]? = some place) ↔
      ∃ positions, tracker.duties[key]? = some positions ∧ positions[position]? = some place := by
  rw [h.sound.exists_position_iff, h.sound'.exists_position_iff, h.pending, h.validators]

theorem Alike.duty (h : Alike tracker tracker') (hd : tracker.duties[key]? = some positions) :
    tracker'.duties[key]? = some positions := by
  obtain ⟨position, place, hposition⟩ := h.sound.exists_position hd
  obtain ⟨positions', hd', -⟩ := h.exists_position_iff.mpr ⟨positions, hd, hposition⟩
  have hsame : positions' = positions := by
    refine ExtTreeMap.ext_getElem? fun position => Option.ext fun place => ?_
    have hiff : (∃ positions, tracker'.duties[key]? = some positions ∧ positions[position]? = some place) ↔
        ∃ positions, tracker.duties[key]? = some positions ∧ positions[position]? = some place :=
      h.exists_position_iff
    rw [hd, hd'] at hiff
    simpa using hiff
  rw [hd', hsame]

theorem Alike.duties_eq (h : Alike tracker tracker') : tracker'.duties = tracker.duties :=
  ExtTreeMap.ext_getElem? fun _ => Option.ext fun _ => ⟨h.symm.duty, h.duty⟩

/-! ### Totals

The totals add up the minipools, and these are the same.
-/

theorem Alike.totals_eq (h : Alike tracker tracker') : tracker'.totals = tracker.totals := by
  have hscore : tracker'.totals.score = tracker.totals.score := by
    rw [h.sound'.score, h.sound.score, h.nodes_eq]
  have hsuccessful : tracker'.totals.successful = tracker.totals.successful := by
    apply UInt64.toNat_inj.mp
    rw [h.sound'.counted, h.sound.counted, h.met]
  have hmk : ∀ totals : AttestationTotals, totals = ⟨totals.score, totals.successful⟩ := fun _ => rfl
  rw [hmk tracker'.totals, hmk tracker.totals, hscore, hsuccessful]

/-- **Where the same is owed, met and open there is one tracker.** -/
theorem Alike.eq (h : Alike tracker tracker') : tracker' = tracker := by
  have hmk : ∀ t : Tracker, t = { t.frame with nodes := t.nodes, duties := t.duties, totals := t.totals } :=
    fun _ => rfl
  rw [hmk tracker', hmk tracker, h.frame, h.nodes_eq, h.duties_eq, h.totals_eq]

end PoolRewards.Tracker
