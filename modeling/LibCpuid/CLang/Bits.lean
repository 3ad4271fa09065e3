import Mathlib.Data.BitVec
import Mathlib.Data.Nat.Bitwise
import Mathlib.Tactic.Ring

/-! Bit fields of natural numbers: `field x lo width` is the number in the `width` bits of `x` from
bit `lo` on, and `setField` replaces it. -/

namespace CLang

/-- The number in bits `lo` to `lo + width - 1` of `x`. -/
def field (x lo width : Nat) : Nat := x / 2 ^ lo % 2 ^ width

/-- `x` with `v` in bits `lo` to `lo + width - 1`. -/
def setField (x lo width v : Nat) : Nat :=
  x / 2 ^ (lo + width) * 2 ^ (lo + width) + v * 2 ^ lo + x % 2 ^ lo

theorem shiftRight_and_mask (x lo width : Nat) :
    x >>> lo &&& ((1 <<< width) - 1) = field x lo width := by
  rw [Nat.one_shiftLeft, Nat.and_two_pow_sub_one_eq_mod, Nat.shiftRight_eq_div_pow, field]

theorem field_lt (x lo width : Nat) : field x lo width < 2 ^ width :=
  Nat.mod_lt _ (Nat.two_pow_pos width)

theorem testBit_field (x lo width i : Nat) :
    (field x lo width).testBit i = (decide (i < width) && x.testBit (lo + i)) := by
  rw [field, Nat.testBit_mod_two_pow, Nat.testBit_div_two_pow, Nat.add_comm i lo]

theorem testBit_setField {x lo width v : Nat} (hv : v < 2 ^ width) (i : Nat) :
    (setField x lo width v).testBit i =
      if i < lo then x.testBit i
      else if i < lo + width then v.testBit (i - lo) else x.testBit i := by
  have hlow : x % 2 ^ lo < 2 ^ lo := Nat.mod_lt _ (Nat.two_pow_pos lo)
  have hmid : v * 2 ^ lo + x % 2 ^ lo < 2 ^ (lo + width) := by
    calc
      v * 2 ^ lo + x % 2 ^ lo < v * 2 ^ lo + 2 ^ lo := by omega
      _ = (v + 1) * 2 ^ lo := by ring
      _ ≤ 2 ^ width * 2 ^ lo := Nat.mul_le_mul_right _ hv
      _ = 2 ^ (lo + width) := by rw [← pow_add, Nat.add_comm]
  have hsum : setField x lo width v =
      2 ^ (lo + width) * (x / 2 ^ (lo + width)) + (2 ^ lo * v + x % 2 ^ lo) := by
    rw [setField]; ring
  rw [hsum, Nat.testBit_two_pow_mul_add _ (by rwa [Nat.mul_comm]),
    Nat.testBit_two_pow_mul_add _ hlow]
  by_cases h1 : i < lo
  · rw [if_pos (by omega), if_pos h1, if_pos h1, Nat.testBit_mod_two_pow]
    simp [h1]
  · by_cases h2 : i < lo + width
    · rw [if_pos h2, if_neg h1, if_neg h1, if_pos h2]
    · rw [if_neg h2, if_neg h1, if_neg h2, Nat.testBit_div_two_pow,
        Nat.sub_add_cancel (Nat.not_lt.mp h2)]

/-- The field that was set. -/
theorem field_setField_self {x lo width v : Nat} (hv : v < 2 ^ width) :
    field (setField x lo width v) lo width = v := by
  apply Nat.eq_of_testBit_eq
  intro i
  rw [testBit_field, testBit_setField hv]
  by_cases h : i < width
  · simp [h]
  · simp [h, Nat.testBit_lt_two_pow (Nat.lt_of_lt_of_le hv
      (Nat.pow_le_pow_right (by decide) (Nat.not_lt.mp h)))]

/-- A field whose bits in the one that was set keep their values. -/
theorem field_setField_of_testBit {x lo width v lo' width' : Nat} (hv : v < 2 ^ width)
    (h : ∀ i, lo' ≤ i → i < lo' + width' → lo ≤ i → i < lo + width →
      v.testBit (i - lo) = x.testBit i) :
    field (setField x lo width v) lo' width' = field x lo' width' := by
  apply Nat.eq_of_testBit_eq
  intro i
  rw [testBit_field, testBit_field, testBit_setField hv]
  by_cases hi : i < width'
  · by_cases h1 : lo' + i < lo
    · rw [if_pos h1]
    · by_cases h2 : lo' + i < lo + width
      · rw [if_neg h1, if_pos h2, h (lo' + i) (by omega) (by omega) (by omega) h2]
      · rw [if_neg h1, if_neg h2]
  · simp [hi]

/-- A field that shares no bit with the one that was set. -/
theorem field_setField_disjoint {x lo width v lo' width' : Nat} (hv : v < 2 ^ width)
    (h : lo' + width' ≤ lo ∨ lo + width ≤ lo') :
    field (setField x lo width v) lo' width' = field x lo' width' := by
  refine field_setField_of_testBit hv fun i h1 h2 h3 h4 => ?_
  omega

/-- A field inside a field. -/
theorem field_field {x lo width lo' width' : Nat} (h : lo' + width' ≤ width) :
    field (field x lo width) lo' width' = field x (lo + lo') width' := by
  apply Nat.eq_of_testBit_eq
  intro i
  rw [testBit_field, testBit_field, testBit_field, Nat.add_assoc]
  by_cases hi : i < width'
  · simp [hi, show lo' + i < width by omega]
  · simp [hi]

theorem setField_lt {x lo width v n : Nat} (hx : x < 2 ^ n) (hv : v < 2 ^ width)
    (hn : lo + width ≤ n) : setField x lo width v < 2 ^ n := by
  apply Nat.lt_pow_two_of_testBit
  intro i hi
  rw [testBit_setField hv, if_neg (by omega), if_neg (by omega)]
  exact Nat.testBit_lt_two_pow (Nat.lt_of_lt_of_le hx (Nat.pow_le_pow_right (by decide) hi))

end CLang
