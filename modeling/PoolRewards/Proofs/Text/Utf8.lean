/-
The bytes of a text.

The bytes of a text are those of its characters, one after the other, and a text is read back
from its bytes.  A character below 128 is one byte with its number.
-/

namespace PoolRewards.Text

theorem toList_byteArray (bytes : ByteArray) : bytes.toList = bytes.data.toList := by
  have hloop : ∀ (i : Nat) (front : List UInt8),
      ByteArray.toList.loop bytes i front = front.reverse ++ bytes.data.toList.drop i := by
    intro i front
    fun_induction ByteArray.toList.loop bytes i front with
    | case1 i front h ih =>
        have hlength : i < bytes.data.toList.length := h
        have hget : bytes.get! i = bytes.data.toList[i] := getElem!_pos bytes.data i h
        rw [ih, List.reverse_cons, List.append_assoc, List.singleton_append, hget,
          List.getElem_cons_drop]
    | case2 i front h =>
        rw [List.drop_eq_nil_of_le (Nat.le_of_not_lt h), List.append_nil]
  exact hloop 0 []

theorem utf8_ofList (characters : List Char) :
    (String.ofList characters).toUTF8.toList = characters.flatMap String.utf8EncodeChar := by
  rw [toList_byteArray, String.toUTF8_eq_toByteArray, String.toByteArray_ofList, List.utf8Encode,
    List.data_toByteArray]

theorem utf8_toList (s : String) : s.toUTF8.toList = s.toList.flatMap String.utf8EncodeChar := by
  rw [← utf8_ofList, String.ofList_toList]

theorem utf8_append (s t : String) : (s ++ t).toUTF8.toList = s.toUTF8.toList ++ t.toUTF8.toList := by
  rw [toList_byteArray, toList_byteArray, toList_byteArray, String.toUTF8_eq_toByteArray,
    String.toUTF8_eq_toByteArray, String.toUTF8_eq_toByteArray, String.toByteArray_append,
    ByteArray.toList_data_append]

theorem fromUTF8?_utf8 (s : String) : String.fromUTF8? s.toUTF8.toList.toByteArray = some s := by
  have hbytes : s.toUTF8.toList.toByteArray = s.toByteArray := by
    refine ByteArray.ext ?_
    rw [toList_byteArray, List.data_toByteArray, Array.toArray_toList, String.toUTF8_eq_toByteArray]
  rw [hbytes, String.fromUTF8?, dif_pos s.isValidUTF8]
  rfl

theorem utf8EncodeChar_of_lt {c : Char} (h : c.toNat < 128) :
    String.utf8EncodeChar c = [UInt8.ofNat c.toNat] := by
  have hval : c.val.toNat ≤ 127 := Nat.le_of_lt_succ h
  rw [String.utf8EncodeChar, if_pos hval]
  rfl

/-- The bytes of a character from 128 on are all from 128 on. -/
theorem le_of_mem_utf8EncodeChar {c : Char} (h : 128 ≤ c.toNat) {byte : UInt8}
    (hmem : byte ∈ String.utf8EncodeChar c) : 128 ≤ byte := by
  have hhigh : ∀ n : Nat, 128 ≤ n ∧ n < 256 → 128 ≤ UInt8.ofNat n := by
    intro n hn
    rw [UInt8.le_iff_toNat_le, UInt8.toNat_ofNat']
    show 128 ≤ n % 256
    omega
  have hval : ¬ c.val.toNat ≤ 127 := Nat.not_le.mpr h
  rw [String.utf8EncodeChar, if_neg hval] at hmem
  split at hmem
  case isTrue =>
    simp only [List.mem_cons, List.not_mem_nil, or_false] at hmem
    rcases hmem with rfl | rfl <;> exact hhigh _ (by omega)
  split at hmem
  case isTrue =>
    simp only [List.mem_cons, List.not_mem_nil, or_false] at hmem
    rcases hmem with rfl | rfl | rfl <;> exact hhigh _ (by omega)
  simp only [List.mem_cons, List.not_mem_nil, or_false] at hmem
  rcases hmem with rfl | rfl | rfl | rfl <;> exact hhigh _ (by omega)

end PoolRewards.Text
