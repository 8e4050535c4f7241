/-
Sets of characters that are given by ranges of codes.
-/
namespace PoolRewards.Text

/-- Whether a character lies in one of some ranges. -/
def inRanges (ranges : List (Nat × Nat)) (c : Char) : Bool :=
  ranges.any fun (first, last) => first ≤ c.toNat && c.toNat ≤ last

end PoolRewards.Text
