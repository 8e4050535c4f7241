/-
Checked arithmetic on 64-bit words.

Slots, epochs, times, block numbers, network numbers and counters are words of 64
bits.  A sum or a product that needs more is a fault of the whole computation and
never a wrapped value, and so are a division by zero and a look behind the end of an
array.  Each operation comes with the statement of when it succeeds, as natural numbers,
so that nothing above has to look inside it.
-/
namespace PoolRewards

/-- A step that has no result. -/
inductive Fault where
  | addOverflow
  | mulOverflow
  | divideByZero
  | outOfBounds (length index : Nat)
  deriving DecidableEq, Repr

/-- What a fault says about itself. -/
def Fault.message : Fault → String
  | .addOverflow => "attempt to add with overflow"
  | .mulOverflow => "attempt to multiply with overflow"
  | .divideByZero => "attempt to divide by zero"
  | .outOfBounds length index => s!"index out of bounds: the len is {length} but the index is {index}"

/-- An element of an array, if there are as many. -/
def elementAt {α : Type} (elements : Array α) (index : Nat) : Except Fault α :=
  match elements[index]? with
  | some element => .ok element
  | none => .error (.outOfBounds elements.size index)

theorem elementAt_eq_ok {α : Type} {elements : Array α} {index : Nat} {element : α}
    (h : elements[index]? = some element) : elementAt elements index = .ok element := by
  rw [elementAt, h]

namespace Word

/-- The largest word. -/
def last : UInt64 := 18446744073709551615

/-- The sum, if it is a word. -/
def add (a b : UInt64) : Except Fault UInt64 :=
  if a.toNat + b.toNat < UInt64.size then .ok (a + b) else .error .addOverflow

/-- The product, if it is a word. -/
def mul (a b : UInt64) : Except Fault UInt64 :=
  if a.toNat * b.toNat < UInt64.size then .ok (a * b) else .error .mulOverflow

/-- The quotient, rounded down, if the divisor is not zero. -/
def div (a b : UInt64) : Except Fault UInt64 :=
  if b = 0 then .error .divideByZero else .ok (a / b)

/-- The difference, or zero where the second word is the larger one. -/
def less (a b : UInt64) : UInt64 := if a ≤ b then 0 else a - b

/-! ### Reading -/

/-- Why a text is no word. -/
inductive TextFault where
  | empty
  | digit
  | tooLarge
  deriving DecidableEq, Repr

/-- The wording of a text fault. -/
def TextFault.message : TextFault → String
  | .empty => "cannot parse integer from empty string"
  | .digit => "invalid digit found in string"
  | .tooLarge => "number too large to fit in target type"

/-- The value of a decimal digit. -/
def digitValue? (c : Char) : Option Nat := if c.isDigit then some (c.toNat - 48) else none

/-- The number that decimal digits spell, if they are all digits. -/
def numberOf? (digits : List Char) : Option Nat :=
  digits.foldl (fun n c => do return (← n) * 10 + (← digitValue? c)) (some 0)

/-- Read a word: decimal digits with an optional plus in front. -/
def ofText (text : String) : Except TextFault UInt64 :=
  let digits := match text.toList with
    | '+' :: rest => rest
    | all => all
  if digits.isEmpty then .error (if text.isEmpty then .empty else .digit)
  else match numberOf? digits with
    | none => .error .digit
    | some n => if n < UInt64.size then .ok (UInt64.ofNat n) else .error .tooLarge

/-! ### When the operations succeed -/

theorem add_eq_ok_iff {a b c : UInt64} :
    add a b = .ok c ↔ c.toNat = a.toNat + b.toNat := by
  unfold add
  split
  next h =>
    constructor
    · intro hc
      cases hc
      exact (UInt64.toNat_add a b).trans (Nat.mod_eq_of_lt h)
    · intro hc
      congr 1
      exact UInt64.toNat_inj.mp ((UInt64.toNat_add a b).trans ((Nat.mod_eq_of_lt h).trans hc.symm))
  next h =>
    constructor
    · intro hc
      cases hc
    · intro hc
      exact absurd (hc ▸ c.toNat_lt) h

/-- The next word, unless there is none. -/
theorem add_one {a : UInt64} (h : a.toNat + 1 < UInt64.size) :
    add a 1 = .ok (a + 1) ∧ (a + 1).toNat = a.toNat + 1 := by
  have hadd : add a 1 = .ok (a + 1) := if_pos h
  exact ⟨hadd, add_eq_ok_iff.mp hadd⟩

theorem toNat_of_add_one {a b : UInt64} (h : add a 1 = .ok b) : b.toNat = a.toNat + 1 :=
  add_eq_ok_iff.mp h

theorem mul_eq_ok_iff {a b c : UInt64} :
    mul a b = .ok c ↔ c.toNat = a.toNat * b.toNat := by
  unfold mul
  split
  next h =>
    constructor
    · intro hc
      cases hc
      exact (UInt64.toNat_mul a b).trans (Nat.mod_eq_of_lt h)
    · intro hc
      congr 1
      exact UInt64.toNat_inj.mp ((UInt64.toNat_mul a b).trans ((Nat.mod_eq_of_lt h).trans hc.symm))
  next h =>
    constructor
    · intro hc
      cases hc
    · intro hc
      exact absurd (hc ▸ c.toNat_lt) h

theorem div_eq_ok_iff {a b c : UInt64} : div a b = .ok c ↔ b ≠ 0 ∧ c = a / b := by
  unfold div
  split
  next h => simp [h]
  next h => simp [h, eq_comm]

theorem toNat_less (a b : UInt64) : (less a b).toNat = a.toNat - b.toNat := by
  unfold less
  split
  next h =>
    have : a.toNat ≤ b.toNat := UInt64.le_iff_toNat_le.mp h
    simp [Nat.sub_eq_zero_of_le this]
  next h =>
    have : b ≤ a := by
      rw [UInt64.le_iff_toNat_le] at *
      omega
    exact UInt64.toNat_sub_of_le _ _ this

end Word

end PoolRewards
