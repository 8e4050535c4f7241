/-
The bounds of an interval.
-/
import PoolRewards.Word

namespace PoolRewards

/-- Times in seconds, slots and execution blocks between which an interval lies. -/
structure IntervalBounds where
  startTime : UInt64
  endTime : UInt64
  firstSlot : UInt64
  lastSlot : UInt64
  firstBlock : UInt64
  lastBlock : UInt64
  deriving DecidableEq, Repr

namespace IntervalBounds

/-- Bounds that have not been found yet. -/
def unset : IntervalBounds := ⟨0, 0, 0, 0, 0, 0⟩

/-- Whether a slot is in the interval. -/
def contains (bounds : IntervalBounds) (slot : UInt64) : Bool :=
  bounds.firstSlot ≤ slot && slot ≤ bounds.lastSlot

end IntervalBounds

end PoolRewards
