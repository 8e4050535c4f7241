/-
Texts of values are read back token by token.

The values that this library writes are plain: truth values, words, texts, lists, and objects
whose members have names of their own.  The tokens of a plain value are known, and the machine
finds just them in the text of the value.

A number is the one token that is ended by the byte behind it, so it is read right where a byte
follows that ends a number.  A character inside a text is either escaped or stands there
byte by byte; either way the machine adds its bytes and nothing else.
-/
import PoolRewards.Json.Printer
import PoolRewards.Json.Settled
import PoolRewards.Proofs.Text.Numerals

namespace PoolRewards.Json

/-! ### Plain values

Truth values, words, texts, lists and objects are all that the artifacts are made of.  The
tokens of a list and of an object are told together with those of a value, as one recursion
on the three.
-/

/-- A value as this library writes them, which nests at most `room` deep. -/
inductive Plain : (room : Nat) → Json → Prop
  | bool {room : Nat} (b : Bool) : Plain room (.bool b)
  | word {room : Nat} (n : UInt64) : Plain room (.ofWord n)
  | text {room : Nat} (s : String) : Plain room (.ofString s)
  | list {room : Nat} {items : List Json} (h : ∀ item ∈ items, Plain room item) :
      Plain (room + 1) (.ofList items)
  | members {room : Nat} {members : List (String × Json)} (hnames : (members.map (·.1)).Nodup)
      (hfree : embeddedName ∉ members.map (·.1)) (h : ∀ member ∈ members, Plain room member.2) :
      Plain (room + 1) (.ofMembers members)

/-- Members, each with the name that it is written under. -/
def named (members : List (String × Json)) : List (Option String × Json) :=
  members.map fun (name, value) => (some name, value)

theorem named_cons (member : String × Json) (members : List (String × Json)) :
    named (member :: members) = (some member.1, member.2) :: named members := rfl

mutual

/-- The tokens of a plain value. -/
def tokensOf : Json → List Token
  | .bool b => [.bool b]
  | .number n => [.number n]
  | .text s => [.text s]
  | .array items _ => .openArray :: (itemTokens items ++ [.closeArray])
  | .object members _ => .openObject :: (memberTokens members ++ [.closeObject])
  | _ => []

/-- The tokens of items behind commas. -/
def itemTokens : List Json → List Token
  | [] => []
  | item :: rest => tokensOf item ++ (if rest.isEmpty then [] else [.comma]) ++ itemTokens rest

/-- The tokens of members behind commas. -/
def memberTokens : List (Option String × Json) → List Token
  | [] => []
  | (name, value) :: rest =>
    .text (name.getD "") :: .colon :: (tokensOf value ++ (if rest.isEmpty then [] else [.comma]) ++
      memberTokens rest)

end

variable {bytes rest : List UInt8}

/-! ### Texts

The machine keeps the bytes of a text in reverse.  Each character adds its own bytes to
them, by whichever of the ways of writing it, so the induction over a text is over its
characters and not over the bytes that are read.
-/

/-- Whether a byte inside a text stands for itself. -/
abbrev IsVerbatim (byte : UInt8) : Prop := byte ≠ 34 ∧ byte ≠ 92 ∧ 32 ≤ byte

theorem step_text {byte : UInt8} (h : IsVerbatim byte) :
    Reader.step byte (.text ⟨bytes, .clear⟩) = (.text ⟨byte :: bytes, .clear⟩, []) := by
  obtain ⟨hquote, hescape, hcontrol⟩ := h
  rw [Reader.step, if_neg hquote, if_neg hescape, if_neg (UInt8.not_lt.mpr hcontrol)]
  rfl

theorem tokensFrom_verbatim {more : List UInt8} (h : ∀ byte ∈ more, IsVerbatim byte) :
    tokensFrom (.text ⟨bytes, .clear⟩) (more ++ rest) =
      tokensFrom (.text ⟨more.reverse ++ bytes, .clear⟩) rest := by
  induction more generalizing bytes with
  | nil => rfl
  | cons byte more ih =>
      obtain ⟨hbyte, hmore⟩ := List.forall_mem_cons.mp h
      rw [List.cons_append, tokensFrom, step_text hbyte, ih hmore, List.reverse_cons,
        List.append_assoc]
      rfl

theorem hexDigit?_digitChar {d : Nat} (h : d < 16) :
    hexDigit? (UInt8.ofNat d.digitChar.toNat) = some d := by
  have hall : ∀ d : Fin 16, hexDigit? (UInt8.ofNat d.val.digitChar.toNat) = some d.val := by decide
  exact hall ⟨d, h⟩

theorem step_unit {spelling : Spelling} {left value d : Nat} (hd : d < 16) :
    Reader.step (UInt8.ofNat d.digitChar.toNat) (.unit spelling (left + 2) (some value)) =
      (.unit spelling (left + 1) (some (value * 16 + d)), []) := by
  rw [Reader.step, hexDigit?_digitChar hd, if_pos (by omega)]
  rfl

theorem step_lastUnit {spelling : Spelling} {value d : Nat} (hd : d < 16) :
    Reader.step (UInt8.ofNat d.digitChar.toNat) (.unit spelling 1 (some value)) =
      (.text (spelling.addUnit (value * 16 + d)), []) := by
  rw [Reader.step, hexDigit?_digitChar hd, if_neg (by omega)]
  rfl

theorem addUnit_control {n : Nat} (h : n < 32) : Spelling.addUnit ⟨bytes, .clear⟩ n =
    ⟨(String.utf8EncodeChar (Char.ofNat n)).reverse ++ bytes, .clear⟩ := by
  have hsecond : decide (0xDC00 ≤ n) = false := decide_eq_false (by omega)
  have hfirst : decide (0xD800 ≤ n) = false := decide_eq_false (by omega)
  have hbytes := Text.utf8_ofList [Char.ofNat n]
  rw [List.flatMap_singleton] at hbytes
  simp only [Spelling.addUnit, hsecond, hfirst, Bool.false_and, Bool.false_eq_true, if_false,
    Spelling.addCode, String.singleton_eq_ofList, hbytes]

theorem tokensFrom_escapedUnit {n : Nat} (h : n < 32) :
    tokensFrom (.text ⟨bytes, .clear⟩)
        (['\\', 'u', '0', '0', Nat.digitChar (n / 16), Nat.digitChar (n % 16)].flatMap
          String.utf8EncodeChar ++ rest) =
      tokensFrom (.text ⟨(String.utf8EncodeChar (Char.ofNat n)).reverse ++ bytes, .clear⟩) rest := by
  have hvalue : (0 * 16 + n / 16) * 16 + n % 16 = n := by omega
  have hfront : ['\\', 'u', '0', '0', Nat.digitChar (n / 16), Nat.digitChar (n % 16)].flatMap
      String.utf8EncodeChar = [92, 117, 48, 48, UInt8.ofNat (Nat.digitChar (n / 16)).toNat,
        UInt8.ofNat (Nat.digitChar (n % 16)).toNat] := by
    simp only [List.flatMap_cons, List.flatMap_nil, Hex.utf8_digitChar (show n / 16 < 16 by omega),
      Hex.utf8_digitChar (show n % 16 < 16 by omega)]
    rfl
  rw [hfront]
  show tokensFrom (.unit ⟨bytes, .clear⟩ 2 (some 0)) (_ :: _ :: rest) = _
  rw [tokensFrom, step_unit (by omega), tokensFrom, step_lastUnit (by omega), hvalue,
    addUnit_control h]
  rfl

theorem isVerbatim_of_mem {c : Char} (hquote : c ≠ '"') (hescape : c ≠ '\\')
    (hcontrol : ¬ c.toNat < 32) {byte : UInt8} (hmem : byte ∈ String.utf8EncodeChar c) :
    IsVerbatim byte := by
  have hcode : ∀ n : Nat, c.toNat = n → c = Char.ofNat n := by
    intro n hn
    rw [← hn, Char.ofNat_toNat]
  by_cases hascii : c.toNat < 128
  · rw [Text.utf8EncodeChar_of_lt hascii, List.mem_singleton] at hmem
    have hbyte : byte.toNat = c.toNat := by
      rw [hmem, UInt8.toNat_ofNat']
      omega
    refine ⟨?_, ?_, ?_⟩
    · intro h
      exact hquote (hcode 34 (by rw [← hbyte, h]; rfl))
    · intro h
      exact hescape (hcode 92 (by rw [← hbyte, h]; rfl))
    · rw [UInt8.le_iff_toNat_le, hbyte]
      exact Nat.not_lt.mp hcontrol
  · have hhigh := Text.le_of_mem_utf8EncodeChar (Nat.not_lt.mp hascii) hmem
    refine ⟨?_, ?_, UInt8.le_trans (by decide) hhigh⟩
    · rintro rfl
      exact absurd hhigh (by decide)
    · rintro rfl
      exact absurd hhigh (by decide)

theorem tokensFrom_escapeChar (c : Char) :
    tokensFrom (.text ⟨bytes, .clear⟩) ((escapeChar c).flatMap String.utf8EncodeChar ++ rest) =
      tokensFrom (.text ⟨(String.utf8EncodeChar c).reverse ++ bytes, .clear⟩) rest := by
  have hc : Char.ofNat c.toNat = c := Char.ofNat_toNat c
  -- Seven characters have escapes of their own; the machine reads each of them off by itself.
  unfold escapeChar
  split
  next h => subst h; rfl
  split
  next h => subst h; rfl
  split
  next h => rw [← hc, h]; rfl
  split
  next h => rw [← hc, h]; rfl
  split
  next h => rw [← hc, h]; rfl
  split
  next h => rw [← hc, h]; rfl
  split
  next h => rw [← hc, h]; rfl
  split
  next h => rw [tokensFrom_escapedUnit h, hc]
  next hquote hescape _ _ _ _ _ hcontrol =>
    rw [List.flatMap_singleton]
    exact tokensFrom_verbatim fun _ => isVerbatim_of_mem hquote hescape hcontrol

theorem tokensFrom_escaped (characters : List Char) :
    tokensFrom (.text ⟨bytes, .clear⟩)
        ((characters.flatMap escapeChar).flatMap String.utf8EncodeChar ++ rest) =
      tokensFrom (.text ⟨(characters.flatMap String.utf8EncodeChar).reverse ++ bytes, .clear⟩) rest := by
  induction characters generalizing bytes with
  | nil => rfl
  | cons c characters ih =>
      rw [List.flatMap_cons, List.flatMap_append, List.append_assoc, tokensFrom_escapeChar, ih,
        List.flatMap_cons, List.reverse_append, List.append_assoc]

/-- **A text is read back from its quoted form.** -/
theorem tokensFrom_quote (s : String) :
    tokensFrom .between ((quote s).toUTF8.toList ++ rest) = .text s :: tokensFrom .between rest := by
  have hmark : "\"".toUTF8.toList = [34] := Text.utf8_toList _
  rw [quote, Text.utf8_append, Text.utf8_append, hmark, Text.utf8_ofList, List.append_assoc,
    List.append_assoc]
  show tokensFrom (.text ⟨[], .clear⟩)
    ((s.toList.flatMap escapeChar).flatMap String.utf8EncodeChar ++ ([34] ++ rest)) = _
  rw [tokensFrom_escaped, List.append_nil, ← Text.utf8_toList]
  show Spelling.finish _ :: tokensFrom .between rest = _
  rw [Spelling.finish, List.reverse_reverse, Text.fromUTF8?_utf8]

/-! ### Numbers

A number is over only when the machine sees a byte that cannot belong to it, or none.  Until
then the machine's state says what the digits so far are worth; as their worth is a word,
none of them is left out.
-/

/-- Whether a byte cannot belong to a number. -/
abbrev IsApart (byte : UInt8) : Prop := digit? byte = none ∧ byte ≠ 46 ∧ byte ≠ 101 ∧ byte ≠ 69

/-- Whether a number is over where a text goes on like this. -/
def EndsNumber (rest : List UInt8) : Prop := ∀ byte, rest.head? = some byte → IsApart byte

theorem endsNumber_nil : EndsNumber [] := nofun

theorem endsNumber_cons {byte : UInt8} (h : IsApart byte) : EndsNumber (byte :: rest) := by
  intro other hother
  rw [List.head?_cons, Option.some.injEq] at hother
  rwa [← hother]

theorem digit?_digit {d : Nat} (h : d < 10) : digit? (UInt8.ofNat (48 + d)) = some d := by
  have hall : ∀ d : Fin 10, digit? (UInt8.ofNat (48 + d.val)) = some d.val := by decide
  exact hall ⟨d, h⟩

/-- Where the machine stands behind the digits of a number. -/
def behindDigits (n : Nat) : NumberState := if n = 0 then .zero else .whole n 0

theorem start_digit {d : Nat} (h : d < 10) :
    start (UInt8.ofNat (48 + d)) = (.number false (behindDigits d), []) := by
  have hall : ∀ d : Fin 10,
      start (UInt8.ofNat (48 + d.val)) = (.number false (behindDigits d.val), []) := by decide
  exact hall ⟨d, h⟩

/-- The machine keeps count of the digits of a word, none of which is left out. -/
theorem tokensFrom_digits {n : Nat} (h : n < UInt64.size) :
    tokensFrom .between ((toString n).toUTF8.toList ++ rest) =
      tokensFrom (.number false (behindDigits n)) rest := by
  induction n using Nat.strongRecOn generalizing rest with
  | _ n ih =>
      by_cases hn : n < 10
      · rw [Text.decimal_of_lt hn, List.singleton_append, tokensFrom, Reader.step, start_digit hn]
        rfl
      · have hsplit : n / 10 * 10 + n % 10 = n := Nat.div_add_mod' n 10
        have hfront : behindDigits (n / 10) = .whole (n / 10) 0 := if_neg (by omega)
        have hall : behindDigits n = .whole n 0 := if_neg (by omega)
        have hadd : addDigit? (n / 10) (n % 10) = some n := by
          rw [addDigit?, hsplit, if_pos h]
        have hlast : digit? (UInt8.ofNat (48 + n % 10)) = some (n % 10) :=
          digit?_digit (Nat.mod_lt n (by decide))
        rw [Text.decimal_of_le (by omega), List.append_assoc, ih (n / 10) (by omega) (by omega),
          List.singleton_append, tokensFrom, hfront, hall]
        simp only [Reader.step, NumberState.step, hlast, if_true, hadd]
        rfl

/-- A byte that cannot belong to a number ends it. -/
theorem step_behindDigits {n : Nat} {byte : UInt8} (h : IsApart byte) :
    (behindDigits n).step false byte = .ends (.natural (UInt64.ofNat n)) := by
  obtain ⟨hdigit, hpoint, hsmall, hlarge⟩ := h
  unfold behindDigits
  split
  next hzero =>
    simp [NumberState.step, hdigit, hpoint, hsmall, hlarge, Number.ofDigits, hzero]
  next =>
    simp [NumberState.step, hdigit, hpoint, hsmall, hlarge, Number.ofDigits]

/-- **A word is read back from its digits.** -/
theorem tokensFrom_word (n : UInt64) (h : EndsNumber rest) :
    tokensFrom .between ((toString n.toNat).toUTF8.toList ++ rest) =
      .number (.natural n) :: tokensFrom .between rest := by
  rw [tokensFrom_digits n.toNat_lt_size]
  cases rest with
  | nil =>
      rw [tokensFrom, Reader.finish, NumberState.finish, step_behindDigits (by decide),
        UInt64.ofNat_toNat]
      rfl
  | cons byte rest =>
      rw [tokensFrom, Reader.step, step_behindDigits (h byte rfl), UInt64.ofNat_toNat]
      rfl

end PoolRewards.Json
