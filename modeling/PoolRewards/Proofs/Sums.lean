/-
Amounts as natural numbers, and sums over lists.

An amount is an element of the ring of residues modulo 2^256, so the sum of a list of
amounts is its sum in that ring: it does not depend on the order, and changing one member
changes it by that member alone.  Where the natural numbers stay below 2^256 the sum of
amounts is the sum of the numbers, and a product is the product of the numbers.
-/
import Mathlib.Algebra.BigOperators.Group.List.Basic
import Mathlib.Algebra.Order.BigOperators.Group.List
import Mathlib.Algebra.Order.Group.Nat
import Mathlib.Data.BitVec
import PoolRewards.Amount

namespace PoolRewards

theorem toNat_oneEther : Amount.oneEther.toNat = 1000000000000000000 := rfl

theorem toNat_ofWord (word : UInt64) : (Amount.ofWord word).toNat = word.toNat := by
  have hlt := word.toNat_lt_size
  have hsize : UInt64.size = 2 ^ 64 := rfl
  rw [Amount.ofWord, BitVec.toNat_ofNat]
  exact Nat.mod_eq_of_lt (by omega)

namespace Amount

theorem toNat_pos {a : Amount} (h : a ≠ 0) : 0 < a.toNat := by
  rw [Nat.pos_iff_ne_zero]
  exact fun hzero => h (BitVec.toNat_inj.mp hzero)

theorem toNat_mul_of_lt {a b : Amount} (h : a.toNat * b.toNat < 2 ^ 256) :
    (a * b).toNat = a.toNat * b.toNat := by
  rw [BitVec.toNat_mul, Nat.mod_eq_of_lt h]

theorem toNat_mul_mul_of_lt {a b c : Amount} (h : a.toNat * b.toNat * c.toNat < 2 ^ 256) :
    (a * b * c).toNat = a.toNat * b.toNat * c.toNat := by
  rw [BitVec.toNat_mul, BitVec.toNat_mul, Nat.mod_mul_mod, Nat.mod_eq_of_lt h]

theorem div_eq_ok {a b : Amount} (h : 0 < b.toNat) : div a b = .ok (BitVec.ofNat 256 (a.toNat / b.toNat)) := by
  have hb : b ≠ 0 := by
    intro hzero
    simp [hzero] at h
  have hquotient : a.toNat / b.toNat < 2 ^ 256 := (Nat.div_le_self _ _).trans_lt a.isLt
  unfold div
  rw [if_neg hb]
  congr 1
  apply BitVec.toNat_inj.mp
  rw [BitVec.toNat_udiv, BitVec.toNat_ofNat, Nat.mod_eq_of_lt hquotient]

/-- A division has no result where the divisor is zero, and only there. -/
theorem div_eq_error_iff {a b : Amount} {fault : Fault} :
    div a b = .error fault ↔ fault = .divideByZero ∧ b = 0 := by
  unfold div
  by_cases hzero : b = 0
  · rw [if_pos hzero, Except.error.injEq, eq_comm]
    exact (and_iff_left hzero).symm
  · rw [if_neg hzero]
    refine iff_of_false ?_ fun h => hzero h.2
    intro h
    cases h

theorem sum_eq (amounts : List Amount) : sum amounts = amounts.sum :=
  List.sum_eq_foldl.symm

theorem sum_perm {as bs : List Amount} (h : as.Perm bs) : sum as = sum bs := by
  rw [sum_eq, sum_eq, h.sum_eq]

/-- The sum of amounts is the sum of the numbers, wrapped at 2^256. -/
theorem toNat_sum (amounts : List Amount) :
    amounts.sum.toNat = (amounts.map (·.toNat)).sum % 2 ^ 256 := by
  induction amounts with
  | nil => rfl
  | cons a rest ih =>
      rw [List.sum_cons, List.map_cons, List.sum_cons, BitVec.toNat_add, ih, Nat.add_mod_mod]

theorem toNat_sum_le (amounts : List Amount) :
    amounts.sum.toNat ≤ (amounts.map (·.toNat)).sum := by
  rw [toNat_sum]
  exact Nat.mod_le _ _

theorem toNat_sum_of_lt {amounts : List Amount} (h : (amounts.map (·.toNat)).sum < 2 ^ 256) :
    amounts.sum.toNat = (amounts.map (·.toNat)).sum := by
  rw [toNat_sum, Nat.mod_eq_of_lt h]

theorem toNat_sum_map_of_lt {α : Type*} {f : α → Amount} {l : List α}
    (h : (l.map fun a => (f a).toNat).sum < 2 ^ 256) :
    (l.map f).sum.toNat = (l.map fun a => (f a).toNat).sum := by
  have hmap : (l.map f).map (·.toNat) = l.map fun a => (f a).toNat := List.map_map
  rw [toNat_sum_of_lt] <;> rw [hmap]
  exact h

theorem sum_map_ofNat {α : Type*} (f : α → Nat) (l : List α) :
    (l.map fun a => (BitVec.ofNat 256 (f a) : Amount)).sum = BitVec.ofNat 256 (l.map f).sum := by
  induction l with
  | nil => rfl
  | cons a rest ih => simp [ih, BitVec.ofNat_add]

end Amount

theorem le_sum_map {α : Type*} (f : α → Nat) {l : List α} {a : α} (h : a ∈ l) : f a ≤ (l.map f).sum :=
  List.single_le_sum (fun n _ => Nat.zero_le n) _ (List.mem_map.mpr ⟨a, h, rfl⟩)

theorem sum_map_filter_of_zero {α M : Type*} [AddCommMonoid M] (keep : α → Bool) (g : α → M) {l : List α}
    (h : ∀ a ∈ l, keep a = false → g a = 0) : ((l.filter keep).map g).sum = (l.map g).sum := by
  induction l with
  | nil => rfl
  | cons a rest ih =>
      have hrest := ih fun b hb => h b (List.mem_cons_of_mem _ hb)
      rcases hkeep : keep a with _ | _
      · rw [List.filter_cons_of_neg (by simp [hkeep]), hrest, List.map_cons, List.sum_cons,
          h a List.mem_cons_self hkeep, zero_add]
      · rw [List.filter_cons_of_pos hkeep, List.map_cons, List.map_cons, List.sum_cons, List.sum_cons, hrest]

theorem filter_key_eq_singleton {α κ : Type*} [DecidableEq κ] (key : α → κ) {l : List α} {a : α}
    (hnodup : (l.map key).Nodup) (h : a ∈ l) : (l.filter fun b => key b = key a) = [a] := by
  rw [← List.perm_singleton, List.perm_ext_iff_of_nodup (hnodup.of_map.filter _) (List.nodup_singleton a)]
  intro b
  rw [List.mem_filter, List.mem_singleton, decide_eq_true_eq]
  refine ⟨?_, ?_⟩
  · intro hb
    exact List.inj_on_of_nodup_map hnodup hb.1 h hb.2
  · intro heq
    subst heq
    exact ⟨h, rfl⟩

/-- Parts in proportion to weights, each rounded down, lose less than one for each weight:
what a division leaves is at most one less than the divisor. -/
theorem sum_floors (pot total : Nat) (htotal : 0 < total) (weights : List Nat) :
    total * (weights.map fun w => pot * w / total).sum ≤ pot * weights.sum ∧
      pot * weights.sum + weights.countP (· ≠ 0) ≤ total *
        ((weights.map fun w => pot * w / total).sum + weights.countP (· ≠ 0)) := by
  induction weights with
  | nil => simp
  | cons w rest ih =>
      obtain ⟨hlow, hhigh⟩ := ih
      have hdiv := Nat.div_add_mod (pot * w) total
      have hmod := Nat.mod_lt (pot * w) htotal
      rw [List.map_cons, List.sum_cons, List.sum_cons, Nat.mul_add, Nat.mul_add, List.countP_cons]
      refine ⟨by omega, ?_⟩
      rw [Nat.mul_add, Nat.mul_add, Nat.mul_add]
      rw [Nat.mul_add] at hhigh
      by_cases hw : w = 0
      · subst hw
        rw [if_neg (by simp)]
        simp only [Nat.mul_zero, Nat.zero_div]
        omega
      · rw [if_pos (decide_eq_true hw), Nat.mul_one]
        omega

theorem countP_ne_zero_pos {weights : List Nat} (h : 0 < weights.sum) : 0 < weights.countP (· ≠ 0) := by
  rw [List.countP_pos_iff]
  by_contra hnone
  have hzero : weights.sum = 0 := by
    refine List.sum_eq_zero ?_
    intro w hmem
    by_contra hw
    exact hnone ⟨w, hmem, by simpa using hw⟩
  omega

/-- A pot shared out in whole units: no more than the pot is given, and less than one unit is lost
for each weight that is not nothing. -/
theorem sum_parts (pot : Nat) (weights : List Nat) (hpos : 0 < weights.sum) :
    (weights.map fun w => pot * w / weights.sum).sum ≤ pot ∧
      pot < (weights.map fun w => pot * w / weights.sum).sum + weights.countP (· ≠ 0) := by
  obtain ⟨hlow, hhigh⟩ := sum_floors pot weights.sum hpos weights
  have hcount := countP_ne_zero_pos hpos
  rw [Nat.mul_comm pot] at hlow hhigh
  exact ⟨Nat.le_of_mul_le_mul_left hlow hpos, Nat.lt_of_mul_lt_mul_left (a := weights.sum) (by omega)⟩

/-- A pot that is counted in sixths, shared out in whole units: no more than the pot is given, and
less than one unit is lost for each weight. -/
theorem sum_sixths (pot : Nat) (weights : List Nat) (hpos : 0 < weights.sum) :
    (weights.map fun w => pot * w / (weights.sum * 6)).sum * 6 ≤ pot ∧
      pot < ((weights.map fun w => pot * w / (weights.sum * 6)).sum + weights.length) * 6 := by
  obtain ⟨hlow, hhigh⟩ := sum_floors pot (weights.sum * 6) (by omega) weights
  have hcount := countP_ne_zero_pos hpos
  rw [Nat.mul_assoc, Nat.mul_comm pot] at hlow hhigh
  refine ⟨?_, ?_⟩
  · rw [Nat.mul_comm]
    exact Nat.le_of_mul_le_mul_left hlow hpos
  · have hlength := List.countP_le_length (p := (· ≠ 0)) (l := weights)
    have hlost : pot < 6 * ((weights.map fun w => pot * w / (weights.sum * 6)).sum +
        weights.countP (· ≠ 0)) := Nat.lt_of_mul_lt_mul_left (a := weights.sum) (by omega)
    omega

/-- Changing one member of a list changes a sum over it by that member alone. -/
theorem sum_map_modify {α M : Type*} [AddCommMonoid M] (g : α → M) (f : α → α) :
    ∀ (l : List α) (i : Nat) (x : α), l[i]? = some x →
      ((l.modify i f).map g).sum + g x = (l.map g).sum + g (f x) := by
  intro l
  induction l with
  | nil => intro i x h; simp at h
  | cons y rest ih =>
      intro i x h
      cases i with
      | zero =>
          have hx : y = x := by simpa using h
          subst hx
          simp only [List.modify_zero_cons, List.map_cons, List.sum_cons]
          rw [add_right_comm, add_comm (g y), add_right_comm, add_comm (g (f y)), add_right_comm]
      | succ i =>
          have hx := ih i x (by simpa using h)
          simp only [List.modify_succ_cons, List.map_cons, List.sum_cons, add_assoc, hx]

end PoolRewards
