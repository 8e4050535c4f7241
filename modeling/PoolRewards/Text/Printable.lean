/-
Which characters print.

A character without a picture does not, nor does one that extends the character before it,
nor a letter that only fills the place of another.
-/
import PoolRewards.Text.Hollow
import PoolRewards.Text.Mark

namespace PoolRewards.Text

/-- The letters that fill the place of another. -/
def fillers : List Nat := [0x115f, 0x1160, 0x3164, 0xffa0]

/-- Whether a character prints. -/
def isPrintable (c : Char) : Bool :=
  !(isHollow c || isExtending c || fillers.contains c.toNat)

end PoolRewards.Text
