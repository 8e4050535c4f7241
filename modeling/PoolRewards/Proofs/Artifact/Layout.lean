/-
Layouts are read back, and a buffer that breaks off is refused.

A reader takes some bytes for a value if it reads the value off them whatever follows, leaving
what follows, and if it fails on whatever is only a beginning of them.  Both halves carry over
from the parts of a layout to the whole together: a beginning of two parts either breaks off in
the first or holds all of it, which is read, and breaks off in the second.

Lengths are words, so a text or a list has to be short enough to be counted by one.
-/
import PoolRewards.Artifact.Layout
import PoolRewards.Proofs.Text.Numerals

namespace PoolRewards.Layout

variable {α β : Type} {read : Reader α} {next : α → Reader β} {written more : List UInt8} {a : α} {b : β}

/-- A reader takes just what is written for a value. -/
structure Takes (read : Reader α) (written : List UInt8) (a : α) : Prop where
  whole : ∀ rest, read.run (written ++ rest) = .ok (a, rest)
  torn : ∀ front back, written = front ++ back → back ≠ [] → ∃ fault, read.run front = .error fault

/-! ### Readers

Readers are put together by `bind`, so it is enough to know of a single byte and of `bind`
what they take.  A beginning of what two readers take is either a beginning of the first
part or all of it with a beginning of the second.
-/

theorem takes_pure (a : α) : Takes (pure a : Reader α) [] a where
  whole _ := rfl
  torn _ _ h hback := absurd (List.append_eq_nil_iff.mp h.symm).2 hback

theorem run_bind_ok {rest rest' : List UInt8} (h : read.run rest = .ok (a, rest')) :
    (read >>= next).run rest = (next a).run rest' := by
  rw [StateT.run_bind, h]
  rfl

theorem run_bind_error {rest : List UInt8} {fault : Fault} (h : read.run rest = .error fault) :
    (read >>= next).run rest = .error fault := by
  rw [StateT.run_bind, h]
  rfl

/-- **Two readers take what is written for both**, one after the other. -/
theorem Takes.bind (h : Takes read written a) (hnext : Takes (next a) more b) :
    Takes (read >>= next) (written ++ more) b where
  whole rest := by
    rw [List.append_assoc, run_bind_ok (h.whole _), hnext.whole]
  torn front back heq hback := by
    rcases List.append_eq_append_iff.mp heq with ⟨rest, rfl, hmore⟩ | ⟨rest, hwritten, rfl⟩
    · obtain ⟨fault, hfault⟩ := hnext.torn rest back hmore hback
      exact ⟨fault, by rw [run_bind_ok (h.whole rest), hfault]⟩
    · by_cases hrest : rest = []
      · -- All of the first part is there, and nothing of the second.
        subst hrest
        rw [List.append_nil] at hwritten
        obtain ⟨fault, hfault⟩ := hnext.torn [] more rfl hback
        have hwhole := h.whole []
        rw [List.append_nil, hwritten] at hwhole
        exact ⟨fault, by rw [run_bind_ok hwhole, hfault]⟩
      · obtain ⟨fault, hfault⟩ := h.torn front rest hwritten hrest
        exact ⟨fault, run_bind_error hfault⟩

theorem Takes.map (f : α → β) (h : Takes read written a) : Takes (f <$> read) written (f a) := by
  have hbind : Takes (read >>= fun a => pure (f a)) (written ++ []) (f a) := h.bind (takes_pure (f a))
  rwa [bind_pure_comp, List.append_nil] at hbind

theorem takes_byte (byte : UInt8) : Takes Reader.byte [byte] byte where
  whole _ := rfl
  torn front back h hback := by
    rcases List.singleton_eq_append_iff.mp h with ⟨rfl, -⟩ | ⟨-, rfl⟩
    · exact ⟨.endOfBuffer, rfl⟩
    · exact absurd rfl hback

theorem takes_bytes (bs : List UInt8) : Takes (Reader.bytes bs.length) bs bs where
  whole rest := by
    show (if bs.length ≤ (bs ++ rest).length then _ else _) = _
    rw [if_pos (by simp), List.take_left, List.drop_left]
  torn front back h hback := by
    have hshort : ¬ bs.length ≤ front.length := by
      have hlength := List.length_pos_iff.mpr hback
      rw [h, List.length_append]
      omega
    exact ⟨.endOfBuffer, if_neg hshort⟩

theorem takes_times {write : α → List UInt8} (as : List α) (h : ∀ a ∈ as, Takes read (write a) a) :
    Takes (Reader.times read as.length) (as.flatMap write) as := by
  induction as with
  | nil => exact takes_pure []
  | cons a rest ih =>
      have hrest := (ih fun other hmem => h other (List.mem_cons_of_mem _ hmem)).map (a :: ·)
      exact (h a List.mem_cons_self).bind hrest

/-! ### Varints

Seven bits are read from a byte, the lowest first.  The last byte that there may be has room
for the one bit that is left of a word, and the induction is on the bytes that may still
come.
-/

/-- What a reader of varints does with the first byte. -/
def afterByte (due : Nat) (byte : UInt8) : Reader Nat :=
  if byte < 128 then if due = 0 && 1 < byte then throw .longVarint else pure byte.toNat
  else (fun rest => byte.toNat - 128 + 128 * rest) <$> readVarint due

theorem readVarint_succ (due : Nat) : readVarint (due + 1) = Reader.byte >>= afterByte due := rfl

theorem toNat_lowByte {n : Nat} (h : n < 256) : (UInt8.ofNat n).toNat = n := by
  rw [UInt8.toNat_ofNat']
  omega

/-- A last byte is taken for its number. -/
theorem takes_lastByte {due n : Nat} (hn : n < 128) (hdue : due = 0 → n ≤ 1) :
    Takes (readVarint (due + 1)) [UInt8.ofNat n] n := by
  have hlow : UInt8.ofNat n < 128 := by
    rw [UInt8.lt_iff_toNat_lt, toNat_lowByte (by omega)]
    exact hn
  have hfits : (due = 0 && 1 < UInt8.ofNat n : Bool) = false := by
    rw [Bool.and_eq_false_iff, decide_eq_false_iff_not, decide_eq_false_iff_not,
      UInt8.lt_iff_toNat_lt, toNat_lowByte (by omega)]
    by_cases hzero : due = 0
    · exact Or.inr (Nat.not_lt.mpr (hdue hzero))
    · exact Or.inl hzero
  have hread : afterByte due (UInt8.ofNat n) = pure n := by
    rw [afterByte, if_pos hlow, hfits, toNat_lowByte (by omega)]
    rfl
  rw [readVarint_succ]
  exact (takes_byte _).bind (hread ▸ takes_pure n)

/-- **A varint is taken for its number** by a reader of enough bytes, the last of which holds one bit. -/
theorem takes_varint {due n : Nat} (h : n < Nat.pow 128 due * 2) : Takes (readVarint (due + 1)) (varint n) n := by
  induction due generalizing n with
  | zero =>
      have hn : n < 2 := h
      rw [varint, if_pos (by omega)]
      exact takes_lastByte (by omega) fun _ => by omega
  | succ due ih =>
      by_cases hn : n < 128
      · rw [varint, if_pos hn]
        exact takes_lastByte hn fun hdue => absurd hdue (Nat.succ_ne_zero due)
      · have hhigh : ¬ UInt8.ofNat (n % 128 + 128) < 128 := by
          rw [UInt8.lt_iff_toNat_lt, toNat_lowByte (by omega)]
          exact Nat.not_lt.mpr (Nat.le_add_left 128 _)
        have hrest : n / 128 < Nat.pow 128 due * 2 := by
          have hpow : Nat.pow 128 (due + 1) = Nat.pow 128 due * 128 := rfl
          omega
        have hmore : Takes (afterByte (due + 1) (UInt8.ofNat (n % 128 + 128))) (varint (n / 128)) n := by
          have hmap := (ih hrest).map fun rest => n % 128 + 128 - 128 + 128 * rest
          rw [show n % 128 + 128 - 128 + 128 * (n / 128) = n by omega] at hmap
          rw [afterByte, if_neg hhigh, toNat_lowByte (by omega)]
          exact hmap
        rw [varint, if_neg hn, readVarint_succ]
        exact (takes_byte _).bind hmore

theorem takes_count {n : Nat} (h : n < UInt64.size) : Takes (readVarint varintBytes) (varint n) n :=
  takes_varint h

/-! ### Layouts

A layout is sound where its reader takes what its writer has written.  Each way of putting
layouts together keeps this, with a condition only where a length has to be counted.
-/

/-- The reader of a layout takes just what is written of a value. -/
def Sound (layout : Layout α) (a : α) : Prop := Takes layout.read (layout.write a) a

variable {layout : Layout α} {layout' : Layout β}

theorem sound_word (n : UInt64) : word.Sound n := by
  have h := (takes_count n.toNat_lt_size).map UInt64.ofNat
  rwa [UInt64.ofNat_toNat] at h

theorem sound_bytes {bs : List UInt8} (h : bs.length < UInt64.size) : bytes.Sound bs :=
  (takes_count h).bind (takes_bytes bs)

theorem Sound.refine (encode : β → α) {decode : α → Except Fault β} (h : layout.Sound (encode b))
    (hdecode : decode (encode b) = .ok b) : (layout.refine encode decode).Sound b := by
  have hlift : Takes (liftM (decode (encode b)) : Reader β) [] b := by
    rw [hdecode]
    exact takes_pure b
  have hbind : Takes (layout.read >>= fun a => liftM (decode a)) (layout.write (encode b) ++ []) b :=
    Takes.bind h hlift
  rwa [List.append_nil] at hbind

theorem Sound.relabel (encode : β → α) {decode : α → β} (h : layout.Sound (encode b))
    (hdecode : decode (encode b) = b) : (layout.relabel encode decode).Sound b :=
  Sound.refine encode h (congrArg Except.ok hdecode)

theorem sound_text {s : String} (h : s.toUTF8.toList.length < UInt64.size) : text.Sound s := by
  refine Sound.refine (fun s : String => s.toUTF8.toList) (sound_bytes h) ?_
  have hbytes : (⟨s.toUTF8.toList.toArray⟩ : ByteArray) = s.toUTF8.toList.toByteArray :=
    ByteArray.ext List.data_toByteArray.symm
  rw [hbytes, Text.fromUTF8?_utf8]

theorem sound_amount (amount : Amount) : Layout.amount.Sound amount := by
  have hlength := amount.length_toText
  refine Sound.refine Amount.toText (sound_text (Nat.lt_of_le_of_lt hlength (by decide))) ?_
  rw [Amount.ofText_toText]
  rfl

theorem sound_octets {count : Nat} (h : count < UInt64.size) (value : Octets count) :
    (octets count).Sound value := by
  have hlength := value.length_toBytes
  refine Sound.refine Octets.toBytes (sound_bytes (by rwa [hlength])) ?_
  rw [Octets.ofBytes?, if_pos hlength, Octets.ofBytes_toBytes]

theorem sound_list {as : List α} (hlength : as.length < UInt64.size) (h : ∀ a ∈ as, layout.Sound a) :
    (list layout).Sound as :=
  (takes_count hlength).bind (takes_times as h)

theorem Sound.pair (h : layout.Sound a) (h' : layout'.Sound b) : (layout.pair layout').Sound (a, b) :=
  Takes.bind h (h'.map (Prod.mk a))

end PoolRewards.Layout
