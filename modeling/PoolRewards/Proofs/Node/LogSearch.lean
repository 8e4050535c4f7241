/-
A search in chunks finds what one search of the whole range would.

The chunks of a range follow one another without a gap or an overlap, from its first block to
its last, and none is longer than a request may be.  What each of them is answered with, put
one behind the other, is therefore what the blocks of the range hold, in order, and an event
counts or does not count wherever the borders between chunks are.

How far a chunk could reach is worked out as a word before it is cut off at the last block.
So a search has a fault if its last chunk begins less than the length of a chunk below 2^64,
however short that chunk is, and it has none otherwise.
-/
import Mathlib.Data.List.Chain
import PoolRewards.Node.Execution

namespace PoolRewards

namespace BlockRange

variable {range : BlockRange} {parts rest : List BlockRange} {first last : UInt64}

/-- The blocks of a range, in order. -/
def blocks (range : BlockRange) : List Nat :=
  List.range' range.first.toNat (range.last.toNat + 1 - range.first.toNat)

/-- What the blocks of a range hold, in order. -/
def gather {α : Type} (held : Nat → List α) (range : BlockRange) : List α := range.blocks.flatMap held

theorem mem_blocks {block : Nat} :
    block ∈ range.blocks ↔ range.first.toNat ≤ block ∧ block ≤ range.last.toNat := by
  rw [blocks, List.mem_range'_1]
  omega

theorem blocks_append {upTo next : UInt64} (hfirst : first ≤ upTo) (hlast : upTo ≤ last)
    (hnext : next.toNat = upTo.toNat + 1) :
    blocks ⟨first, upTo⟩ ++ blocks ⟨next, last⟩ = blocks ⟨first, last⟩ := by
  rw [UInt64.le_iff_toNat_le] at hfirst hlast
  have hstart : next.toNat = first.toNat + (upTo.toNat + 1 - first.toNat) := by omega
  have hcount : last.toNat + 1 - first.toNat =
      upTo.toNat + 1 - first.toNat + (last.toNat + 1 - next.toNat) := by omega
  unfold blocks
  rw [hcount, ← List.range'_append_1, ← hstart]

theorem gather_append {α : Type} (held : Nat → List α) {upTo next : UInt64} (hfirst : first ≤ upTo)
    (hlast : upTo ≤ last) (hnext : next.toNat = upTo.toNat + 1) :
    gather held ⟨first, upTo⟩ ++ gather held ⟨next, last⟩ = gather held ⟨first, last⟩ := by
  unfold gather
  rw [← blocks_append hfirst hlast hnext, List.flatMap_append]

/-! ### The loop

One round is told by what it needs and what it leaves: a range that is not used up has a
first chunk, or a fault where the end of the chunk is no word.  `Fits` says that the second
never happens, by looking only at the place where the last chunk begins.
-/

/-- The last chunk begins so far below 2^64 that where it could end is a word. -/
def Fits (range : BlockRange) : Prop :=
  range.first ≤ range.last → range.first.toNat +
    (range.last.toNat - range.first.toNat) / chunkSize.toNat * chunkSize.toNat + chunkSize.toNat < UInt64.size

/-- A range fits that ends the length of a chunk below 2^64 or more, except that it must not end
there with a chunk of one block. -/
theorem fits_of_le (hlast : range.last.toNat + chunkSize.toNat ≤ UInt64.size)
    (hborder : range.first ≤ range.last → range.last.toNat + chunkSize.toNat = UInt64.size →
      ¬ chunkSize.toNat ∣ range.last.toNat - range.first.toNat) : range.Fits := by
  have hsize : UInt64.size = 2 ^ 64 := rfl
  intro hle
  have hinside := hborder hle
  rw [UInt64.le_iff_toNat_le] at hle
  rw [toNat_chunkSize] at hlast hinside ⊢
  omega

theorem fits_rest_iff {upTo next : UInt64} (hle : first ≤ last)
    (hroom : first.toNat + chunkSize.toNat < UInt64.size)
    (hupTo : upTo.toNat = min (first.toNat + chunkSize.toNat - 1) last.toNat)
    (hnext : next.toNat = upTo.toNat + 1) : Fits ⟨next, last⟩ ↔ Fits ⟨first, last⟩ := by
  rw [toNat_chunkSize] at hupTo hroom
  rw [UInt64.le_iff_toNat_le] at hle
  unfold Fits
  simp only [UInt64.le_iff_toNat_le, toNat_chunkSize]
  omega

theorem Fits.room (h : Fits ⟨first, last⟩) (hle : first ≤ last) :
    first.toNat + chunkSize.toNat < UInt64.size := by
  have hlast := h hle
  dsimp only at hlast
  omega

theorem chunks_of_lt (h : last < first) : chunks ⟨first, last⟩ = ([], .ok ()) := by
  rw [chunks, chunksFrom_eq]
  exact if_pos h

theorem chunks_of_size_le (h : first ≤ last) (hroom : UInt64.size ≤ first.toNat + chunkSize.toNat) :
    chunks ⟨first, last⟩ = ([], .error .addOverflow) := by
  have hend := chunkEnd_of_size_le hroom last
  rw [chunks, chunksFrom_eq, if_neg (UInt64.not_lt.mpr h), hend]

theorem chunks_cons (h : first ≤ last) (hroom : first.toNat + chunkSize.toNat < UInt64.size) :
    ∃ upTo next : UInt64, upTo.toNat = min (first.toNat + chunkSize.toNat - 1) last.toNat ∧
      next.toNat = upTo.toNat + 1 ∧ ∀ {rest ending}, chunks ⟨next, last⟩ = (rest, ending) →
        chunks ⟨first, last⟩ = (⟨first, upTo⟩ :: rest, ending) := by
  obtain ⟨upTo, hend, hupTo⟩ := exists_chunkEnd hroom last
  have hbelow : upTo.toNat + 1 < UInt64.size := by
    rw [toNat_chunkSize] at hroom hupTo
    omega
  obtain ⟨hadd, hnext⟩ := Word.add_one hbelow
  refine ⟨upTo, upTo + 1, hupTo, hnext, ?_⟩
  intro rest ending hrest
  rw [chunks] at hrest
  rw [chunks, chunksFrom_eq, if_neg (UInt64.not_lt.mpr h), hend]
  simp only [hadd, hrest]

/-! ### Chunks

The loop's result is told apart from the loop.  `Cut` has its chunks follow one another
exactly as the loop makes them, and what a caller wants to know (that they cover the range,
that they do not overlap, how long and how many they are) is proved of it by induction, one
chunk at a time.
-/

/-- Chunks that follow one another from the first block of a range to its last. -/
inductive Cut : BlockRange → List BlockRange → Prop
  | none {first last : UInt64} (h : last < first) : Cut ⟨first, last⟩ []
  | next {first last upTo next : UInt64} {rest : List BlockRange} (hfirst : first ≤ upTo) (hlast : upTo ≤ last)
      (hend : upTo.toNat = min (first.toNat + chunkSize.toNat - 1) last.toNat)
      (hnext : next.toNat = upTo.toNat + 1) (h : Cut ⟨next, last⟩ rest) :
      Cut ⟨first, last⟩ (⟨first, upTo⟩ :: rest)

/-- **The chunks of a range are cut from it one behind the other, and there is a fault behind them if
and only if the last one begins too close to the largest word.** -/
theorem cut_chunks (range : BlockRange) :
    (range.Fits → ∃ parts, range.chunks = (parts, .ok ()) ∧ range.Cut parts) ∧
      (¬ range.Fits → ∃ parts, range.chunks = (parts, .error .addOverflow)) := by
  -- The blocks of the range that are left become fewer with every round.
  induction hleft : range.last.toNat + 1 - range.first.toNat using Nat.strong_induction_on generalizing range with
  | _ left ih =>
    obtain ⟨first, last⟩ := range
    dsimp only at hleft
    by_cases hnone : last < first
    · have hfits : Fits ⟨first, last⟩ := fun hle => absurd hnone (UInt64.not_lt.mpr hle)
      exact ⟨fun _ => ⟨[], chunks_of_lt hnone, .none hnone⟩, fun h => absurd hfits h⟩
    have hle : first ≤ last := UInt64.not_lt.mp hnone
    have hleNat := UInt64.le_iff_toNat_le.mp hle
    by_cases hroom : first.toNat + chunkSize.toNat < UInt64.size
    · obtain ⟨upTo, next, hupTo, hnext, hchunks⟩ := chunks_cons hle hroom
      have hfits := fits_rest_iff hle hroom hupTo hnext
      have hupTo' := hupTo
      rw [toNat_chunkSize] at hupTo'
      obtain ⟨hcut, hfault⟩ := ih _ (by dsimp only; omega) ⟨next, last⟩ rfl
      rw [← hfits]
      refine ⟨?_, ?_⟩
      · intro h
        obtain ⟨rest, hrest, hcutRest⟩ := hcut h
        refine ⟨_, hchunks hrest, .next ?_ ?_ hupTo hnext hcutRest⟩
        · rw [UInt64.le_iff_toNat_le]
          omega
        · rw [UInt64.le_iff_toNat_le]
          omega
      · intro h
        obtain ⟨rest, hrest⟩ := hfault h
        exact ⟨_, hchunks hrest⟩
    · refine ⟨fun h => absurd (h.room hle) hroom, fun _ => ⟨[], ?_⟩⟩
      exact chunks_of_size_le hle (Nat.not_lt.mp hroom)

theorem Cut.none_of_lt (h : range.Cut parts) (hnone : range.last < range.first) : parts = [] := by
  cases h with
  | none _ => rfl
  | next hfirst hlast _ _ _ => exact absurd hnone (UInt64.not_lt.mpr (UInt64.le_trans hfirst hlast))

theorem Cut.small (h : range.Cut parts) : ∀ part ∈ parts,
    part.first ≤ part.last ∧ part.last.toNat < part.first.toNat + chunkSize.toNat := by
  induction h with
  | none _ => exact fun part hmem => absurd hmem List.not_mem_nil
  | @next first last upTo next rest hfirst _ hend _ _ ih =>
      have hsize : upTo.toNat < first.toNat + chunkSize.toNat := by
        rw [toNat_chunkSize] at hend ⊢
        omega
      exact List.forall_mem_cons.mpr ⟨⟨hfirst, hsize⟩, ih⟩

/-- How many chunks it takes to go through a range. -/
def chunkCount (range : BlockRange) : Nat :=
  (range.last.toNat + 1 - range.first.toNat + (chunkSize.toNat - 1)) / chunkSize.toNat

/-- No round of the loop is wasted: every chunk but the last is as long as it may be. -/
theorem Cut.length_eq (h : range.Cut parts) : parts.length = range.chunkCount := by
  induction h with
  | @none first last h =>
      rw [UInt64.lt_iff_toNat_lt] at h
      rw [List.length_nil, chunkCount, toNat_chunkSize]
      dsimp only
      omega
  | @next first last upTo next rest hfirst hlast hend hnext _ ih =>
      rw [UInt64.le_iff_toNat_le] at hfirst hlast
      rw [toNat_chunkSize] at hend
      rw [List.length_cons, ih, chunkCount, chunkCount, toNat_chunkSize]
      dsimp only
      omega

/-- **The loop makes as many rounds as there are chunks in its range.** -/
theorem length_chunks (h : range.Fits) : range.chunks.1.length = range.chunkCount := by
  obtain ⟨parts, hchunks, hcut⟩ := (cut_chunks range).1 h
  rw [hchunks]
  exact hcut.length_eq

theorem Cut.flatMap_blocks (h : range.Cut parts) : parts.flatMap blocks = range.blocks := by
  induction h with
  | @none first last h =>
      have hempty : last.toNat + 1 - first.toNat = 0 := by
        rw [UInt64.lt_iff_toNat_lt] at h
        omega
      rw [List.flatMap_nil, blocks, hempty, List.range'_zero]
  | next hfirst hlast _ hnext _ ih => rw [List.flatMap_cons, ih, blocks_append hfirst hlast hnext]

theorem Cut.first_eq {part : BlockRange} (h : range.Cut (part :: rest)) : part.first = range.first := by
  cases h
  rfl

theorem Cut.consecutive (h : range.Cut parts) :
    parts.IsChain fun part next => next.first.toNat = part.last.toNat + 1 := by
  induction h with
  | none _ => exact .nil
  | @next first last upTo next rest _ _ _ hnext h ih =>
      cases rest with
      | nil => exact .singleton _
      | cons part rest => exact .cons_cons (h.first_eq ▸ hnext) ih

theorem Cut.first_le (h : range.Cut parts) : ∀ part ∈ parts, range.first.toNat ≤ part.first.toNat := by
  induction h with
  | none _ => exact fun part hmem => absurd hmem List.not_mem_nil
  | next hfirst _ _ hnext _ ih =>
      rw [UInt64.le_iff_toNat_le] at hfirst
      refine List.forall_mem_cons.mpr ⟨Nat.le_refl _, ?_⟩
      intro part hmem
      have hbehind := ih part hmem
      dsimp only at hbehind ⊢
      omega

theorem Cut.disjoint (h : range.Cut parts) : parts.Pairwise fun part later => part.last < later.first := by
  induction h with
  | none _ => exact .nil
  | next _ _ _ hnext h ih =>
      refine .cons ?_ ih
      intro part hmem
      have hbehind := h.first_le part hmem
      rw [UInt64.lt_iff_toNat_lt]
      dsimp only at hbehind ⊢
      omega

theorem Cut.flatMap_gather {α : Type} (held : Nat → List α) (h : range.Cut parts) :
    parts.flatMap (gather held) = range.gather held := by
  have hparts : (parts.flatMap blocks).flatMap held = parts.flatMap (gather held) := List.flatMap_assoc
  rw [← hparts, h.flatMap_blocks]
  rfl

/-- Ranges, none longer than a request may be, that cover a range one behind the other. -/
structure Covers (parts : List BlockRange) (range : BlockRange) : Prop where
  small : ∀ part ∈ parts, part.first ≤ part.last ∧ part.blocks.length ≤ chunkSize.toNat
  consecutive : parts.IsChain fun part next => next.first.toNat = part.last.toNat + 1
  disjoint : parts.Pairwise fun part later => part.last < later.first
  cover : ∀ block, (∃ part ∈ parts, block ∈ part.blocks) ↔ block ∈ range.blocks
  none_of_lt : range.last < range.first → parts = []

theorem Cut.covers (h : range.Cut parts) : Covers parts range where
  small := by
    intro part hmem
    obtain ⟨hle, hsize⟩ := h.small part hmem
    refine ⟨hle, ?_⟩
    rw [blocks, List.length_range']
    omega
  consecutive := h.consecutive
  disjoint := h.disjoint
  cover := by
    intro block
    rw [← h.flatMap_blocks, List.mem_flatMap]
  none_of_lt := h.none_of_lt

end BlockRange

/-! ### The search

A search asks for chunk after chunk and puts the answers together.  The statement is about
what is asked as well as about what is found, so that asking may have effects of its own and
a request outside the chunks would be seen.
-/

section Search

variable {m : Type → Type} [Monad m] [LawfulMonad m] {ε α : Type} {search : BlockRange → ExceptT ε m (List α)}
  {asked : BlockRange → m Unit} {held : Nat → List α} {ranges : List BlockRange}

/-- A search that is answered with exactly what the blocks of each of some ranges hold, after whatever
else asking does. -/
def FindsExactly (search : BlockRange → ExceptT ε m (List α)) (asked : BlockRange → m Unit)
    (held : Nat → List α) (ranges : List BlockRange) : Prop :=
  ∀ range ∈ ranges, (search range).run = do
    asked range
    return .ok (range.gather held)

theorem run_searchEach (h : FindsExactly search asked held ranges) :
    (searchEach search ranges).run = do
      forM ranges asked
      return .ok (ranges.flatMap (BlockRange.gather held)) := by
  induction ranges with
  | nil => simp [searchEach]
  | cons range rest ih =>
      have hfirst := h range List.mem_cons_self
      have hrest := ih fun other hmem => h other (List.mem_cons_of_mem _ hmem)
      rw [searchEach, ExceptT.run_bind, hfirst, List.forM_cons]
      simp [hrest, Except.map]

/-- **What is found chunk by chunk is what the blocks of the range hold.** -/
theorem run_searchChunked [MonadExceptOf Fault m] {range : BlockRange} {parts : List BlockRange}
    (hchunks : range.chunks = (parts, .ok ())) (hcut : range.Cut parts)
    (h : FindsExactly search asked held parts) :
    (searchChunked search range).run = do
      forM parts asked
      return .ok (range.gather held) := by
  rw [searchChunked, hchunks, ExceptT.run_bind, run_searchEach h, hcut.flatMap_gather]
  simp [MonadExcept.ofExcept]

/-! ### The event

Of the logs of a range only the last one is read.  It is the last log of the last block with
a log in it, and the chunks are not part of that description.
-/

theorem gather_eq_nil {range : BlockRange} (h : ∀ block ∈ range.blocks, held block = []) :
    range.gather held = [] :=
  List.flatMap_eq_nil_iff.mpr h

theorem getLast?_gather {range : BlockRange} {block : Nat} {a : α} (hmem : block ∈ range.blocks)
    (hheld : (held block).getLast? = some a) (hlater : ∀ later ∈ range.blocks, block < later → held later = []) :
    (range.gather held).getLast? = some a := by
  obtain ⟨before, behind, hblocks⟩ := List.append_of_mem hmem
  have hordered : range.blocks.Pairwise (· < ·) := List.pairwise_lt_range'
  have hnone : behind.flatMap held = [] := by
    rw [hblocks, List.pairwise_append, List.pairwise_cons] at hordered
    rw [List.flatMap_eq_nil_iff]
    intro later hbehind
    refine hlater later ?_ (hordered.2.1.1 later hbehind)
    rw [hblocks]
    exact List.mem_append_right _ (List.mem_cons_of_mem _ hbehind)
  rw [BlockRange.gather, hblocks, List.flatMap_append, List.flatMap_cons, hnone, List.append_nil,
    List.getLast?_append, hheld, Option.some_or]

end Search

namespace ExecutionNode

open Json (Decoder)

variable {m : Type → Type} [Monad m] [LawfulMonad m] [MonadExceptOf Fault m] {node : ExecutionNode}
  {transport : Transport m} {index : UInt64}

/-- The event that a node tells of is read from what the range holds, whatever the chunks. -/
theorem run_rewardsEvent {askedHead : m Unit} {asked : BlockRange → m Unit} {held : Nat → List Log}
    {range : BlockRange} {parts : List BlockRange} (hchunks : range.chunks = (parts, .ok ()))
    (hcut : range.Cut parts) (hfrom : range.first = node.eventsFrom)
    (hhead : (Rpc.call transport node.url "eth_blockNumber" [] Rpc.quantityDecoder).run = do
      askedHead
      return .ok range.last)
    (hlogs : FindsExactly (node.logsIn transport index) asked held parts) :
    (node.rewardsEvent transport index).run = do
      askedHead
      forM parts asked
      return readEvent index (range.gather held) := by
  have hsearch := run_searchChunked hchunks hcut hlogs
  obtain ⟨first, last⟩ := range
  obtain rfl := hfrom
  rw [rewardsEvent, ask, ExceptT.run_bind, ExceptT.run_mk, hhead]
  simp [ExceptT.run_bind, hsearch, Except.mapError]

/-- **A search in chunks is one search.**  The chunks cover the range, and no request goes anywhere
else.  What is found is what the range holds, and an event is read from the last log of the last
block that has one. -/
theorem search_in_chunks {range : BlockRange} (hfits : range.Fits) :
    ∃ parts, range.chunks = (parts, .ok ()) ∧ BlockRange.Covers parts range ∧
      (∀ {ε α : Type} (search : BlockRange → ExceptT ε m (List α)) (asked : BlockRange → m Unit)
        (held : Nat → List α), FindsExactly search asked held parts →
          (searchChunked search range).run = do
            forM parts asked
            return .ok (range.gather held)) ∧
      ∀ (node : ExecutionNode) (transport : Transport m) (index : UInt64) (askedHead : m Unit)
        (asked : BlockRange → m Unit) (held : Nat → List Log), range.first = node.eventsFrom →
          ((Rpc.call transport node.url "eth_blockNumber" [] Rpc.quantityDecoder).run = do
            askedHead
            return .ok range.last) →
          FindsExactly (node.logsIn transport index) asked held parts → ∃ answer,
            ((node.rewardsEvent transport index).run = do
              askedHead
              forM parts asked
              return answer) ∧
            ((∀ block ∈ range.blocks, held block = []) →
              answer = .error (.of s!"No rewards event found for interval {index}")) ∧
            ∀ block ∈ range.blocks, ∀ log, (held block).getLast? = some log →
              (∀ later ∈ range.blocks, block < later → held later = []) → answer = readEvent index [log] := by
  obtain ⟨parts, hchunks, hcut⟩ := (BlockRange.cut_chunks range).1 hfits
  refine ⟨parts, hchunks, hcut.covers, fun search asked held => run_searchChunked hchunks hcut, ?_⟩
  intro node transport index askedHead asked held hfrom hhead hlogs
  refine ⟨readEvent index (range.gather held), run_rewardsEvent hchunks hcut hfrom hhead hlogs, ?_, ?_⟩
  · intro hnone
    rw [gather_eq_nil hnone]
    rfl
  · intro block hmem log hlog hlater
    unfold readEvent
    rw [getLast?_gather hmem hlog hlater]
    rfl

/-- A range of one block that ends where the length of a chunk is still left, and has a fault. -/
theorem addOverflow_oneBlock :
    (18446744073709531616 : UInt64).toNat ≤ UInt64.size - 20000 ∧
      (⟨18446744073709531616, 18446744073709531616⟩ : BlockRange).chunks = ([], .error .addOverflow) ∧
      (searchChunked (fun _ => return []) ⟨18446744073709531616, 18446744073709531616⟩ :
        ExceptT ClientError (Except Fault) (List Log)).run = .error .addOverflow := by
  have hchunks : (⟨18446744073709531616, 18446744073709531616⟩ : BlockRange).chunks =
      ([], .error .addOverflow) := by decide +kernel
  refine ⟨by decide, hchunks, ?_⟩
  unfold searchChunked
  rw [hchunks]
  rfl

/-! ### Two chunks

The border between two chunks stands behind block 20004, with an event on either side of it.
All requests are written down, so that the two searches can be compared request by request.
-/

/-- The request for the events of an interval in a range of blocks. -/
def logsRequest (node : ExecutionNode) (index : UInt64) (range : BlockRange) : String :=
  Rpc.request "eth_getLogs" [.ofMembers [
    ("fromBlock", Rpc.quantity range.first),
    ("toBlock", Rpc.quantity range.last),
    ("address", node.rewardsPool.toJson),
    ("topics", .ofList [Octets.toJson Abi.rewardSnapshotTopic, Octets.toJson (Abi.indexTopic index)])]]

/-- A node that searches from block 5 on. -/
def borderNode : ExecutionNode := ⟨⟨"http", none, .list [], none, none⟩, 1, 2, 5, ""⟩

/-- An event on either side of the border between two chunks. -/
def borderLogs (block : Nat) : List Log :=
  if block = 20004 then [⟨[29], [7]⟩] else if block = 20005 then [⟨[29], [8]⟩] else []

/-- The text of one log. -/
def logText (data : String) : String :=
  "\x7b\"result\":[\x7b\"topics\":[\"0x000000000000000000000000000000000000000000000000000000000000001d\"]," ++
    "\"data\":\"" ++ data ++ "\"\x7d]\x7d"

/-- What is answered where the newest block is 20006. -/
def borderAnswer (request : String) : String :=
  if request = borderNode.logsRequest 29 ⟨5, 20004⟩ then logText "0x07"
  else if request = borderNode.logsRequest 29 ⟨20005, 20006⟩ then logText "0x08"
  else "\x7b\"result\":\"0x4e26\"\x7d"

/-- A node's answers, with the requests written down. -/
def borderTransport : Transport (StateT (List String) (Except Fault)) where
  get _ := return .error "no such page"
  post _ request := do
    modify (request :: ·)
    return .ok ⟨200, (borderAnswer request).toUTF8.toList⟩

/-- A request is written down. -/
def borderAsked (range : BlockRange) : StateT (List String) (Except Fault) Unit :=
  modify (borderNode.logsRequest 29 range :: ·)

theorem chunks_border : (⟨5, 20006⟩ : BlockRange).chunks = ([⟨5, 20004⟩, ⟨20005, 20006⟩], .ok ()) := by
  decide +kernel

theorem run_logsIn_border {range : BlockRange} {logs : List Log}
    (h : Rpc.readAnswer (Decoder.list logDecoder)
      (.ok ⟨200, (borderAnswer (borderNode.logsRequest 29 range)).toUTF8.toList⟩) = .ok logs) :
    (borderNode.logsIn borderTransport 29 range).run = do
      borderAsked range
      return .ok logs := by
  have hpost : (borderNode.logsIn borderTransport 29 range).run = do
      borderAsked range
      return (Rpc.readAnswer (Decoder.list logDecoder)
        (.ok ⟨200, (borderAnswer (borderNode.logsRequest 29 range)).toUTF8.toList⟩)).mapError
          Rpc.Failure.toClientError := rfl
  rw [hpost, h]
  rfl

theorem gather_borderLogs : BlockRange.gather borderLogs ⟨5, 20004⟩ = [⟨[29], [7]⟩] := by
  have hnone : BlockRange.gather borderLogs ⟨5, 20003⟩ = [] := by
    refine gather_eq_nil ?_
    intro block hmem
    have hle := (BlockRange.mem_blocks.mp hmem).2
    have hlast : (20003 : UInt64).toNat = 20003 := rfl
    dsimp only at hle
    rw [hlast] at hle
    rw [borderLogs, if_neg (by omega), if_neg (by omega)]
  have hsplit : BlockRange.gather borderLogs ⟨5, 20003⟩ ++ BlockRange.gather borderLogs ⟨20004, 20004⟩ =
      BlockRange.gather borderLogs ⟨5, 20004⟩ :=
    BlockRange.gather_append borderLogs (by decide) (by decide) rfl
  rw [← hsplit, hnone]
  rfl

theorem findsExactly_border :
    FindsExactly (borderNode.logsIn borderTransport 29) borderAsked borderLogs [⟨5, 20004⟩, ⟨20005, 20006⟩] := by
  intro range hmem
  apply run_logsIn_border
  rcases List.mem_pair.mp hmem with rfl | rfl
  · have hanswer : borderAnswer (borderNode.logsRequest 29 ⟨5, 20004⟩) = logText "0x07" := if_pos rfl
    rw [hanswer, gather_borderLogs]
    decide +kernel
  · have hother : borderNode.logsRequest 29 ⟨20005, 20006⟩ ≠ borderNode.logsRequest 29 ⟨5, 20004⟩ := by
      decide +kernel
    have hanswer : borderAnswer (borderNode.logsRequest 29 ⟨20005, 20006⟩) = logText "0x08" :=
      (if_neg hother).trans (if_pos rfl)
    rw [hanswer]
    decide +kernel

theorem search_in_chunks_border :
    (⟨5, 20006⟩ : BlockRange).Fits ∧
      (searchChunked (borderNode.logsIn borderTransport 29) ⟨5, 20006⟩).run = (do
        forM [⟨5, 20004⟩, ⟨20005, 20006⟩] borderAsked
        return .ok (BlockRange.gather borderLogs ⟨5, 20006⟩)) ∧
      (borderNode.rewardsEvent borderTransport 29).run = (do
        modify (Rpc.request "eth_blockNumber" [] :: ·)
        forM [⟨5, 20004⟩, ⟨20005, 20006⟩] borderAsked
        return readEvent 29 [⟨[29], [8]⟩]) := by
  have hfits : (⟨5, 20006⟩ : BlockRange).Fits :=
    BlockRange.fits_of_le (by decide) fun _ hlast => absurd hlast (by decide)
  obtain ⟨parts, hchunks, -, hsearch, hevent⟩ :=
    search_in_chunks (m := StateT (List String) (Except Fault)) hfits
  obtain rfl : [⟨5, 20004⟩, ⟨20005, 20006⟩] = parts := (Prod.mk.inj (chunks_border.symm.trans hchunks)).1
  have hhead : (Rpc.call borderTransport borderNode.url "eth_blockNumber" [] Rpc.quantityDecoder).run = do
      modify (Rpc.request "eth_blockNumber" [] :: ·)
      return .ok 20006 := by
    have hanswer : Rpc.readAnswer Rpc.quantityDecoder
        (.ok ⟨200, (borderAnswer (Rpc.request "eth_blockNumber" [])).toUTF8.toList⟩) = .ok 20006 := by
      decide +kernel
    have hpost : (Rpc.call borderTransport borderNode.url "eth_blockNumber" [] Rpc.quantityDecoder).run = do
        modify (Rpc.request "eth_blockNumber" [] :: ·)
        return Rpc.readAnswer Rpc.quantityDecoder
          (.ok ⟨200, (borderAnswer (Rpc.request "eth_blockNumber" [])).toUTF8.toList⟩) := rfl
    rw [hpost, hanswer]
  obtain ⟨answer, hrun, -, hlatest⟩ := hevent borderNode borderTransport 29
    (modify (Rpc.request "eth_blockNumber" [] :: ·)) borderAsked borderLogs rfl hhead findsExactly_border
  refine ⟨hfits, hsearch _ _ _ findsExactly_border, ?_⟩
  have hanswer : answer = readEvent 29 [⟨[29], [8]⟩] := by
    refine hlatest 20005 (BlockRange.mem_blocks.mpr ⟨by decide, by decide⟩) ⟨[29], [8]⟩ rfl ?_
    intro later _ hlater
    rw [borderLogs, if_neg (by omega), if_neg (by omega)]
  rw [hrun, hanswer]

end ExecutionNode

end PoolRewards
