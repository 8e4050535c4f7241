/-
Numbers and byte strings are read back from their texts.

A decimal text is that of the number without its last digit, and that digit.  So what a reader
has made of a number is known from what it has made of a tenth of it, and the induction follows
the digits in the order in which they are read.  An amount is read in groups of digits: the
groups and the digits of the last one are worth the number so far.

Each byte is two hexadecimal digits, which stand for its halves.
-/
import PoolRewards.Amount
import PoolRewards.Octets
import PoolRewards.Proofs.Text.Utf8

namespace PoolRewards

namespace Text

/-! ### Decimal texts

The text of a number is made by the standard library from a list of characters.  Here it is
told as bytes, by its last digit and what stands before it.
-/

theorem utf8_digitChar {d : Nat} (h : d < 10) :
    String.utf8EncodeChar d.digitChar = [UInt8.ofNat (48 + d)] := by
  have hcode : d.digitChar.toNat = 48 + d := Nat.toNat_digitChar_of_lt_ten h
  rw [utf8EncodeChar_of_lt (by omega), hcode]

theorem decimal_of_lt {n : Nat} (h : n < 10) : (toString n).toUTF8.toList = [UInt8.ofNat (48 + n)] := by
  rw [Nat.toString_eq_ofList_toDigits, utf8_ofList, Nat.toDigits_of_lt_base h, List.flatMap_singleton,
    utf8_digitChar h]

/-- **The text of a number is that of the number without its last digit, and that digit.** -/
theorem decimal_of_le {n : Nat} (h : 10 ≤ n) : (toString n).toUTF8.toList =
    (toString (n / 10)).toUTF8.toList ++ [UInt8.ofNat (48 + n % 10)] := by
  rw [Nat.toString_eq_ofList_toDigits, Nat.toString_eq_ofList_toDigits, utf8_ofList, utf8_ofList,
    Nat.toDigits_of_base_le (by decide) h, List.flatMap_append, List.flatMap_singleton,
    utf8_digitChar (Nat.mod_lt _ (by decide))]

theorem toNat_digit {d : Nat} (h : d < 10) : (UInt8.ofNat (48 + d)).toNat = 48 + d := by
  rw [UInt8.toNat_ofNat']
  omega

theorem mem_decimal {byte : UInt8} {n : Nat} (h : byte ∈ (toString n).toUTF8.toList) :
    48 ≤ byte.toNat ∧ byte.toNat ≤ 57 := by
  induction n using Nat.strongRecOn with
  | _ n ih =>
      by_cases hn : n < 10
      · rw [decimal_of_lt hn, List.mem_singleton] at h
        rw [h, toNat_digit hn]
        omega
      · rw [decimal_of_le (by omega), List.mem_append, List.mem_singleton] at h
        rcases h with h | rfl
        · exact ih (n / 10) (by omega) h
        · rw [toNat_digit (Nat.mod_lt _ (by decide))]
          omega

end Text

namespace Amount

open Text

theorem length_toText (amount : Amount) : amount.toText.toUTF8.toList.length ≤ 78 := by
  have hchars : ∀ n : Nat, (toString n).toUTF8.toList.length = (Nat.toDigits 10 n).length := by
    intro n
    induction n using Nat.strongRecOn with
    | _ n ih =>
        by_cases hn : n < 10
        · rw [decimal_of_lt hn, Nat.toDigits_of_lt_base hn]
          rfl
        · rw [decimal_of_le (by omega), Nat.toDigits_of_base_le (by decide) (by omega),
            List.length_append, List.length_append, ih (n / 10) (by omega)]
          rfl
  rw [toText, hchars, Nat.length_toDigits_le_iff (by decide) (by decide)]
  exact Nat.lt_trans amount.isLt (by decide)

/-! ### Reading amounts

A reader keeps the groups of digits that it has finished and the one that it is in.  What
both are worth is multiplied by ten and added to with every digit, whether or not the digit
finishes a group, and that is the invariant.
-/

theorem digitValue?_digit {d : Nat} (h : d < 10) : digitValue? 10 (UInt8.ofNat (48 + d)) = some d := by
  have hdigit : 48 ≤ 48 + d ∧ 48 + d ≤ 57 := by omega
  have hvalue : 48 + d - 48 = d := by omega
  simp only [digitValue?, toNat_digit h, if_pos hdigit, hvalue, if_pos h]

theorem isSpacer_digit {d : Nat} (h : d < 10) : isSpacer (UInt8.ofNat (48 + d)) = false := by
  rw [isSpacer, decide_eq_false_iff_not]
  intro hspacer
  have hcode := congrArg UInt8.toNat hspacer
  rw [toNat_digit h] at hcode
  have : (95 : UInt8).toNat = 95 := rfl
  omega

theorem addGroup_of_lt {groups group count : Nat} (h : groups * Nat.pow 10 count + group < size) :
    addGroup groups group count = .ok (groups * Nat.pow 10 count + group) := by
  rw [addGroup, if_pos h]

/-- What groups of digits and those of the present one are worth. -/
def worth (groups group count : Nat) : Nat := groups * Nat.pow 10 count + group

theorem worth_digit (groups group count d : Nat) :
    worth groups (group * 10 + d) (count + 1) = worth groups group count * 10 + d := by
  have hpow : groups * Nat.pow 10 (count + 1) = groups * Nat.pow 10 count * 10 := by
    rw [Nat.mul_assoc]
    rfl
  rw [worth, worth, hpow]
  omega

theorem readDecimal_digit (groups group count : Nat) {d : Nat} (hd : d < 10) (hcount : count < groupLength)
    (hsize : worth groups group count * 10 + d < size) (rest : List UInt8) :
    ∃ groups' group' count', count' < groupLength ∧
      worth groups' group' count' = worth groups group count * 10 + d ∧
      readDecimal groups group count (UInt8.ofNat (48 + d) :: rest) =
        readDecimal groups' group' count' rest := by
  rw [readDecimal, isSpacer_digit hd, digitValue?_digit hd]
  by_cases hmore : count + 1 < groupLength
  · exact ⟨groups, group * 10 + d, count + 1, hmore, worth_digit .., by simp [hmore]⟩
  · -- The group is full, and its worth goes to the groups before.
    have hfull : count + 1 = groupLength := by omega
    have hadd : addGroup groups (group * 10 + d) groupLength = .ok (worth groups group count * 10 + d) := by
      rw [← worth_digit, hfull]
      exact addGroup_of_lt (by rwa [← worth_digit, hfull] at hsize)
    refine ⟨worth groups group count * 10 + d, 0, 0, by decide, ?_, ?_⟩
    · exact Nat.mul_one _
    · simp only [hmore, hadd]
      rfl

/-- **The digits of a number that is not too large are worth the number.** -/
theorem readDecimal_decimal {n : Nat} (h : n < size) (rest : List UInt8) :
    ∃ groups group count, count < groupLength ∧ worth groups group count = n ∧
      readDecimal 0 0 0 ((toString n).toUTF8.toList ++ rest) = readDecimal groups group count rest := by
  induction n using Nat.strongRecOn generalizing rest with
  | _ n ih =>
      by_cases hn : n < 10
      · rw [decimal_of_lt hn, List.singleton_append]
        obtain ⟨groups, group, count, hcount, hworth, hread⟩ :=
          readDecimal_digit 0 0 0 hn (by decide)
            (by rw [show worth 0 0 0 = 0 from rfl]; omega) rest
        exact ⟨groups, group, count, hcount, by rw [hworth, show worth 0 0 0 = 0 from rfl]; omega, hread⟩
      · have hsplit : n / 10 * 10 + n % 10 = n := Nat.div_add_mod' n 10
        obtain ⟨groups, group, count, hcount, hworth, hread⟩ :=
          ih (n / 10) (by omega) (by omega) (UInt8.ofNat (48 + n % 10) :: rest)
        obtain ⟨groups', group', count', hcount', hworth', hread'⟩ :=
          readDecimal_digit _ _ _ (Nat.mod_lt n (by decide)) hcount (by rw [hworth, hsplit]; exact h) rest
        refine ⟨groups', group', count', hcount', by rw [hworth', hworth, hsplit], ?_⟩
        rw [decimal_of_le (by omega), List.append_assoc, List.singleton_append, hread, hread']

theorem splitMark_decimal (n : Nat) :
    splitMark (toString n).toUTF8.toList = (10, (toString n).toUTF8.toList) := by
  have hsecond : ∀ {first second : UInt8} {rest : List UInt8},
      (toString n).toUTF8.toList = first :: second :: rest → second.toNat ≤ 57 := by
    intro first second rest h
    exact (mem_decimal (n := n) (by rw [h]; exact List.mem_cons_of_mem _ List.mem_cons_self)).2
  unfold splitMark
  split
  case h_7 => rfl
  all_goals
    next heq => exact absurd (hsecond heq) (by decide)

/-- **An amount is read back from its text.** -/
theorem ofText_toText (amount : Amount) : ofText amount.toText = .ok amount := by
  have hsize : amount.toNat < size := amount.isLt
  obtain ⟨groups, group, count, -, hworth, hread⟩ := readDecimal_decimal hsize []
  rw [List.append_nil, readDecimal, addGroup_of_lt (by rw [← worth, hworth]; exact hsize), ← worth, hworth] at hread
  rw [ofText, toText, splitMark_decimal]
  simp only [if_true, hread]
  exact congrArg Except.ok (BitVec.ofNat_toNat _ _)

end Amount

namespace Hex

open Text

/-! ### Hexadecimal texts

A byte is written as two digits and read back from them; where it stands matters only to the
error of a wrong digit.
-/

theorem digitValue?_digitChar {d : Nat} (h : d < 16) :
    digitValue? (UInt8.ofNat d.digitChar.toNat) = some (UInt8.ofNat d) := by
  have hall : ∀ d : Fin 16, digitValue? (UInt8.ofNat d.val.digitChar.toNat) = some (UInt8.ofNat d.val) := by
    decide
  exact hall ⟨d, h⟩

theorem utf8_digitChar {d : Nat} (h : d < 16) :
    String.utf8EncodeChar d.digitChar = [UInt8.ofNat d.digitChar.toNat] := by
  have hall : ∀ d : Fin 16, d.val.digitChar.toNat < 128 := by decide
  exact utf8EncodeChar_of_lt (hall ⟨d, h⟩)

/-- The digits of a byte, as bytes. -/
def digitBytes (byte : UInt8) : List UInt8 :=
  [UInt8.ofNat (Nat.digitChar (byte.toNat / 16)).toNat, UInt8.ofNat (Nat.digitChar (byte.toNat % 16)).toNat]

theorem utf8_encode (bytes : List UInt8) : (encode bytes).toUTF8.toList = bytes.flatMap digitBytes := by
  rw [encode, utf8_ofList]
  induction bytes with
  | nil => rfl
  | cons byte rest ih =>
      have hbyte : byte.toNat < 256 := byte.toNat_lt
      rw [List.flatMap_cons, List.flatMap_append, ih, List.flatMap_cons, byteDigits, List.flatMap_cons,
        List.flatMap_singleton, utf8_digitChar (by omega), utf8_digitChar (by omega)]
      rfl

/-- **Bytes are read back from their digits.** -/
theorem decodePairs_digits (bytes : List UInt8) :
    ∀ position : Nat, decodePairs position (bytes.flatMap digitBytes) = .ok bytes := by
  induction bytes with
  | nil => exact fun _ => rfl
  | cons byte rest ih =>
      intro position
      have hbyte : byte.toNat < 256 := byte.toNat_lt
      have hhalves : 16 * UInt8.ofNat (byte.toNat / 16) + UInt8.ofNat (byte.toNat % 16) = byte := by
        rw [← UInt8.toNat_inj, UInt8.toNat_add, UInt8.toNat_mul, UInt8.toNat_ofNat', UInt8.toNat_ofNat']
        show (16 * _ % 256 + _) % 256 = _
        omega
      rw [List.flatMap_cons, digitBytes, List.cons_append, List.singleton_append, decodePairs,
        digitValue?_digitChar (by omega), digitValue?_digitChar (by omega)]
      simp only [ih, hhalves]
      rfl

theorem length_digits (bytes : List UInt8) : (bytes.flatMap digitBytes).length = 2 * bytes.length := by
  induction bytes with
  | nil => rfl
  | cons byte rest ih =>
      rw [List.flatMap_cons, List.length_append, ih, List.length_cons]
      show 2 + _ = _
      omega

end Hex

namespace Octets

open Text

/-- **A value is read back from its text.** -/
theorem ofText_toText {count : Nat} (value : Octets count) : ofText value.toText = .ok value := by
  have hmark : (toText value).toUTF8.toList = 48 :: 120 :: value.toBytes.flatMap Hex.digitBytes := by
    have hfront : "0x".toUTF8.toList = [48, 120] := utf8_ofList ['0', 'x']
    rw [toText, utf8_append, Hex.utf8_encode, hfront]
    rfl
  have hlength := Hex.length_digits value.toBytes
  rw [length_toBytes] at hlength
  rw [ofText, hmark, Hex.dropMark, Hex.decodeExactly, if_neg (by omega), if_neg (by omega),
    Hex.decodePairs_digits]
  exact congrArg Except.ok (ofBytes_toBytes value)

end Octets

end PoolRewards
