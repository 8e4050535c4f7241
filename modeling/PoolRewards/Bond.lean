/-
What a minipool's bond and commission were at any time, and what one attestation is worth.

A bond is reduced at most once.  Before that time the previous bond and commission hold.
-/
import PoolRewards.Snapshot.Basic

namespace PoolRewards

/-- The bond and commission of a minipool, and what they were before the bond was reduced. -/
structure BondHistory where
  bond : Amount
  fee : Amount
  /-- When the bond was reduced, zero if never. -/
  reduced : UInt64
  previousBond : Amount
  previousFee : Amount
  deriving DecidableEq, Repr

namespace BondHistory

/-- The history of a minipool of the snapshot. -/
def ofMinipool (minipool : MinipoolDetails) : BondHistory :=
  ⟨minipool.bond, minipool.fee, minipool.bondReduced, minipool.previousBond, minipool.previousFee⟩

/-- Bond and commission at a time.  A previous commission of zero was never recorded. -/
def inEffect (history : BondHistory) (time : UInt64) : Amount × Amount :=
  if history.reduced = 0 ∨ history.reduced ≤ time then (history.bond, history.fee)
  else if history.previousFee = 0 then (history.previousBond, history.fee)
  else (history.previousBond, history.previousFee)

end BondHistory

/-- What one attestation is worth: the commission, and the bonded part of the rest. -/
def attestationScore (bond fee : Amount) : Amount :=
  (Amount.oneEther - fee) * bond / Amount.validatorDeposit + fee

/-- What an attestation is worth at a time. -/
def BondHistory.scoreAt (history : BondHistory) (time : UInt64) : Amount :=
  attestationScore (history.inEffect time).1 (history.inEffect time).2

end PoolRewards
