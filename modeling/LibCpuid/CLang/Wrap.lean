import Mathlib.Data.BitVec
import Mathlib.Data.Nat.Basic

/-! Quotients of products that may wrap around in the arithmetic of an unsigned type. -/

namespace CLang

/-- The quotient of a number reduced modulo `m` is that of the number exactly when the number is
below the modulus, or below the divisor. -/
theorem mod_div_eq_div_iff {x m e : Nat} (hm : 0 < m) (he : 0 < e) :
    x % m / e = x / e ↔ x < m ∨ x < e := by
  constructor
  · intro h
    by_contra hlarge
    obtain ⟨hxm, hxe⟩ : m ≤ x ∧ e ≤ x := by omega
    have hmod := Nat.mod_lt x hm
    have hpos : 0 < x / e := Nat.div_pos hxe he
    have hquot : e ≤ x % m := (Nat.div_pos_iff.mp (h ▸ hpos)).2
    -- the reduction takes away `m`, and so more than the divisor
    have hsub : x % m + e ≤ x := by
      have := Nat.mod_add_div x m
      have := Nat.mul_le_mul_left m (Nat.div_pos hxm hm)
      omega
    have hle := Nat.div_le_div_right (c := e) hsub
    rw [Nat.add_div_right _ he] at hle
    omega
  · rintro (h | h)
    · rw [Nat.mod_eq_of_lt h]
    · rw [Nat.div_eq_of_lt h, Nat.div_eq_of_lt (lt_of_le_of_lt (Nat.mod_le x m) h)]

/-- The same for the multiple of `n` that is left after a division by `n`. -/
theorem mod_div_mul_div_eq_iff {y n m e : Nat} (hm : 0 < m) (he : 0 < e) :
    y % m / n * n / e = y / n * n / e ↔ y < m ∨ y / n * n < e := by
  constructor
  · intro h
    by_contra hlarge
    obtain ⟨hym, hye⟩ : m ≤ y ∧ e ≤ y / n * n := by omega
    have hpos : 0 < y / n * n / e := Nat.div_pos hye he
    have hmod : e ≤ y % m / n * n := (Nat.div_pos_iff.mp (h ▸ hpos)).2
    -- the quotient loses `m / n`, which is at least what is left of it
    have hquot : y % m / n + m / n ≤ y / n := by
      have := Nat.mod_add_div y m
      have := Nat.mul_le_mul_left m (Nat.div_pos hym hm)
      exact Nat.le_trans Nat.div_add_div_le_add_div (Nat.div_le_div_right (by omega))
    have hleft : y % m / n ≤ m / n := Nat.div_le_div_right (Nat.le_of_lt (Nat.mod_lt y hm))
    have hsub : y % m / n * n + e ≤ y / n * n := by
      calc
        y % m / n * n + e ≤ y % m / n * n + y % m / n * n := Nat.add_le_add_left hmod _
        _ ≤ y % m / n * n + m / n * n := Nat.add_le_add_left (Nat.mul_le_mul_right n hleft) _
        _ = (y % m / n + m / n) * n := (Nat.add_mul ..).symm
        _ ≤ y / n * n := Nat.mul_le_mul_right n hquot
    have hle := Nat.div_le_div_right (c := e) hsub
    rw [Nat.add_div_right _ he] at hle
    omega
  · rintro (h | h)
    · rw [Nat.mod_eq_of_lt h]
    · have hle : y % m / n * n ≤ y / n * n :=
        Nat.mul_le_mul_right n (Nat.div_le_div_right (Nat.mod_le y m))
      rw [Nat.div_eq_of_lt h, Nat.div_eq_of_lt (lt_of_le_of_lt hle h)]

section BitVectors

variable {w : Nat}

/-- A product of unsigned words, divided by a third one. -/
theorem toNat_mul_udiv (a b c : BitVec w) :
    (a * b / c).toNat = a.toNat * b.toNat % 2 ^ w / c.toNat := by
  rw [BitVec.toNat_udiv, BitVec.toNat_mul]

end BitVectors

end CLang
