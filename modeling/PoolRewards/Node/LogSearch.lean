/-
Searching a range of blocks in chunks.

A node limits how many blocks one request for logs may span, so a long range is asked for
piece by piece, from its first block to its last.  A range that comes too close to the
largest word ends in a fault, behind the pieces that could still be told.
-/
import PoolRewards.Word

namespace PoolRewards

/-- Blocks from a first one to a last one, both included. -/
structure BlockRange where
  first : UInt64
  last : UInt64
  deriving DecidableEq, Repr

namespace BlockRange

/-- How many blocks one request may span. -/
def chunkSize : UInt64 := 20000

/-- The last block of the chunk that begins at block `first`, if the search ends at block `last`. -/
def chunkEnd (first last : UInt64) : Except Fault UInt64 := do
  let beyond ← Word.add chunkSize first
  return min (beyond - 1) last

/-! ### Where a chunk ends

A chunk ends at the last block that one request may span, or where the search does.  That is
not in front of its first block, so the next chunk begins behind it and the blocks left become
fewer.
-/

theorem toNat_chunkSize : chunkSize.toNat = 20000 := rfl

theorem toNat_min (a b : UInt64) : (min a b).toNat = min a.toNat b.toNat := by
  have hmin : min a b = if a ≤ b then a else b := rfl
  rw [hmin, apply_ite UInt64.toNat]
  by_cases hle : a ≤ b
  · rw [if_pos hle, Nat.min_eq_left (UInt64.le_iff_toNat_le.mp hle)]
  · rw [if_neg hle, Nat.min_eq_right (Nat.le_of_not_le (mt UInt64.le_iff_toNat_le.mpr hle))]

theorem chunkEnd_of_size_le {first : UInt64} (h : UInt64.size ≤ first.toNat + chunkSize.toNat)
    (last : UInt64) : chunkEnd first last = .error .addOverflow := by
  have hnone : Word.add chunkSize first = .error .addOverflow := by
    rw [Nat.add_comm] at h
    exact if_neg (Nat.not_lt.mpr h)
  rw [chunkEnd, hnone]
  rfl

theorem exists_chunkEnd {first : UInt64} (h : first.toNat + chunkSize.toNat < UInt64.size)
    (last : UInt64) : ∃ upTo, chunkEnd first last = .ok upTo ∧
      upTo.toNat = min (first.toNat + chunkSize.toNat - 1) last.toNat := by
  rw [Nat.add_comm] at h ⊢
  obtain ⟨beyond, hbeyond⟩ : ∃ beyond, Word.add chunkSize first = .ok beyond := ⟨_, if_pos h⟩
  have hsum := Word.add_eq_ok_iff.mp hbeyond
  have hle : 1 ≤ beyond := by
    rw [UInt64.le_iff_toNat_le, hsum, toNat_chunkSize, UInt64.toNat_one]
    omega
  refine ⟨min (beyond - 1) last, ?_, ?_⟩
  · rw [chunkEnd, hbeyond]
    rfl
  · rw [toNat_min, UInt64.toNat_sub_of_le _ _ hle, hsum, UInt64.toNat_one]

/-- Behind a chunk fewer blocks are left. -/
theorem chunkEnd_fewer {first last upTo next : UInt64} (hle : ¬ last < first)
    (hend : chunkEnd first last = .ok upTo) (hnext : Word.add upTo 1 = .ok next) :
    last.toNat + 1 - next.toNat < last.toNat + 1 - first.toNat := by
  have hroom : first.toNat + chunkSize.toNat < UInt64.size := by
    refine Nat.lt_of_not_le fun hsize => ?_
    rw [chunkEnd_of_size_le hsize] at hend
    simp at hend
  obtain ⟨found, hfound, htoNat⟩ := exists_chunkEnd hroom last
  rw [hfound, Except.ok.injEq] at hend
  rw [UInt64.lt_iff_toNat_lt] at hle
  rw [toNat_chunkSize] at htoNat
  rw [Word.toNat_of_add_one hnext, ← hend]
  omega

/-! ### The loop -/

/-- The chunks from block `first` on, none beyond block `last`, and how the list ends. -/
def chunksFrom (first last : UInt64) : List BlockRange × Except Fault Unit :=
  if hbehind : last < first then ([], .ok ())
  else match hend : chunkEnd first last with
    | .error fault => ([], .error fault)
    | .ok upTo =>
      match hnext : Word.add upTo 1 with
      | .error fault => ([⟨first, upTo⟩], .error fault)
      | .ok next =>
        have := chunkEnd_fewer hbehind hend hnext
        let (rest, ending) := chunksFrom next last
        (⟨first, upTo⟩ :: rest, ending)
termination_by last.toNat + 1 - first.toNat

/-- One round of the loop, and the rest of it from the next chunk on. -/
theorem chunksFrom_eq (first last : UInt64) : chunksFrom first last =
    if last < first then ([], .ok ())
    else match chunkEnd first last with
      | .error fault => ([], .error fault)
      | .ok upTo =>
        match Word.add upTo 1 with
        | .error fault => ([⟨first, upTo⟩], .error fault)
        | .ok next => (⟨first, upTo⟩ :: (chunksFrom next last).1, (chunksFrom next last).2) := by
  rw [chunksFrom]
  by_cases hbehind : last < first
  · rw [dif_pos hbehind, if_pos hbehind]
  · rw [dif_neg hbehind, if_neg hbehind]
    split
    next hend => rw [hend]
    next hend =>
      simp only [hend]
      split
      next hnext => simp only [hnext]
      next hnext => simp only [hnext]

/-- The chunks of a range in order, and the fault behind the last of them if there is one. -/
def chunks (range : BlockRange) : List BlockRange × Except Fault Unit := chunksFrom range.first range.last

end BlockRange

variable {m : Type → Type} [Monad m]

/-- What is found in each of some ranges, one after the other. -/
def searchEach {ε α : Type} (search : BlockRange → ExceptT ε m (List α)) :
    List BlockRange → ExceptT ε m (List α)
  | [] => return []
  | range :: rest => do
    let found ← search range
    return found ++ (← searchEach search rest)

/-- What is found in a range, chunk by chunk. -/
def searchChunked {ε α : Type} [MonadExceptOf Fault m] (search : BlockRange → ExceptT ε m (List α))
    (range : BlockRange) : ExceptT ε m (List α) := do
  let (chunks, ending) := range.chunks
  let found ← searchEach search chunks
  ExceptT.lift (MonadExcept.ofExcept ending : m Unit)
  return found

end PoolRewards
