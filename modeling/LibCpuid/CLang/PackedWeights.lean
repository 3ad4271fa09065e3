import Mathlib.Data.Nat.Digits.Lemmas

/-! Weighted sets in one number each.  The digits of base 16 are the weights of the elements, `&&&`
is the intersection of two sets, and the weight of a set of less than 15 is a remainder. -/

namespace CLang

/-! ### Sums of digits -/

/-- The sum of the digits of base 16. -/
def weight (n : Nat) : Nat := (Nat.digits 16 n).sum

theorem weight_zero : weight 0 = 0 := rfl

theorem weight_eq (n : Nat) : weight n = n % 16 + weight (n / 16) := by
  cases n with
  | zero => rfl
  | succ n =>
    rw [weight, Nat.digits_def' (by decide) (Nat.succ_pos n), List.sum_cons]
    rfl

theorem weight_of_lt {n : Nat} (h : n < 16) : weight n = n := by
  rw [weight_eq, Nat.mod_eq_of_lt h, Nat.div_eq_of_lt h, weight_zero, Nat.add_zero]

theorem mod_eq_weight {n : Nat} (h : weight n < 15) : n % 15 = weight n := by
  have hmod : n % 15 = weight n % 15 := Nat.modEq_digits_sum 15 16 (by decide) n
  rw [hmod, Nat.mod_eq_of_lt h]

/-- A subset weighs less. -/
theorem weight_mono {n m : Nat} (h : n &&& m = n) : weight n ≤ weight m := by
  induction n using Nat.strongRecOn generalizing m with
  | ind n ih =>
    by_cases hn : n = 0
    · rw [hn, weight_zero]
      exact Nat.zero_le _
    · have hlow : n % 16 ≤ m % 16 := by
        have : n % 16 &&& m % 16 = n % 16 := by
          rw [← Nat.and_mod_two_pow (n := 4), h]
        rw [← this]
        exact Nat.and_le_right
      have hhigh : n / 16 &&& m / 16 = n / 16 := by
        rw [← Nat.and_div_two_pow (n := 4), h]
      have := ih (n / 16) (by omega) hhigh
      rw [weight_eq n, weight_eq m]
      omega

/-- The digits of two numbers beside each other. -/
theorem weight_add_pow_mul {a k : Nat} (h : a < 16 ^ k) (b : Nat) :
    weight (a + 16 ^ k * b) = weight a + weight b := by
  induction k generalizing a with
  | zero =>
    obtain rfl : a = 0 := by omega
    simp [weight_zero]
  | succ k ih =>
    have hpow : 16 ^ (k + 1) * b = 16 * (16 ^ k * b) := by rw [pow_succ]; ring
    have hlow : (a + 16 ^ (k + 1) * b) % 16 = a % 16 := by rw [hpow]; omega
    have hhigh : (a + 16 ^ (k + 1) * b) / 16 = a / 16 + 16 ^ k * b := by rw [hpow]; omega
    have hlt : a / 16 < 16 ^ k := by
      rw [pow_succ] at h
      omega
    rw [weight_eq, hlow, hhigh, ih hlt, weight_eq a]
    omega

theorem weight_mul_pow {w : Nat} (h : w < 16) (p : Nat) : weight (w * 16 ^ p) = w := by
  have := weight_add_pow_mul (a := 0) (k := p) (by positivity) w
  rwa [Nat.zero_add, weight_zero, Nat.zero_add, weight_of_lt h, Nat.mul_comm] at this

/-- The common elements of two pairs of sets beside each other. -/
theorem and_add_pow_mul {a b k : Nat} (ha : a < 2 ^ k) (hb : b < 2 ^ k) (x y : Nat) :
    (a + 2 ^ k * x) &&& (b + 2 ^ k * y) = (a &&& b) + 2 ^ k * (x &&& y) := by
  apply Nat.eq_of_testBit_eq
  intro i
  rw [Nat.testBit_and, Nat.add_comm a, Nat.add_comm b, Nat.add_comm (a &&& b),
    Nat.testBit_two_pow_mul_add x ha, Nat.testBit_two_pow_mul_add y hb,
    Nat.testBit_two_pow_mul_add _ (Nat.and_lt_two_pow a hb)]
  split <;> simp

/-- A subset of the second set is one of the union. -/
theorem and_or_of_and {a b : Nat} (h : a &&& b = a) (x : Nat) : a &&& (x ||| b) = a := by
  apply Nat.eq_of_testBit_eq
  intro i
  have hi : (a &&& b).testBit i = a.testBit i := congrArg (Nat.testBit · i) h
  rw [Nat.testBit_and] at hi
  rw [Nat.testBit_and, Nat.testBit_or, Bool.and_or_distrib_left, hi]
  cases a.testBit i <;> simp

/-! ### Weighted fields -/

section Pack

variable {width : Nat} {fs gs : List (Int × Nat)}

/-- A field, a value and a weight, as the set of its value.  A negative value stands for none. -/
def packField (width : Nat) (field : Int × Nat) : Nat :=
  if 0 ≤ field.1 then field.2 * 16 ^ (field.1.toNat % width) else 0

/-- The fields of a record as the set of their values, those of each field at its own digits. -/
def pack (width : Nat) : List (Int × Nat) → Nat
  | [] => 0
  | field :: rest => packField width field + 16 ^ width * pack width rest

/-- What the fields with one value in both records weigh. -/
def commonWeight : List (Int × Nat) → List (Int × Nat) → Nat
  | f :: fs, g :: gs => (if 0 ≤ f.1 ∧ f.1 = g.1 then f.2 else 0) + commonWeight fs gs
  | _, _ => 0

theorem weight_packField {field : Int × Nat} (hw : field.2 < 16) :
    weight (packField width field) = if 0 ≤ field.1 then field.2 else 0 := by
  rw [packField]
  split
  · exact weight_mul_pow hw _
  · exact weight_zero

theorem packField_lt (hwidth : 0 < width) {field : Int × Nat} (hw : field.2 < 16) :
    packField width field < 16 ^ width := by
  rw [packField]
  split
  · have hplace := Nat.mod_lt field.1.toNat hwidth
    calc field.2 * 16 ^ (field.1.toNat % width)
        < 16 * 16 ^ (field.1.toNat % width) := Nat.mul_lt_mul_of_pos_right hw (by positivity)
      _ = 16 ^ (field.1.toNat % width + 1) := by rw [pow_succ, Nat.mul_comm]
      _ ≤ 16 ^ width := Nat.pow_le_pow_right (by decide) hplace
  · positivity

/-- A record has its own fields in common with itself. -/
theorem weight_pack (hwidth : 0 < width) (hfs : ∀ f ∈ fs, f.2 < 16) :
    weight (pack width fs) = commonWeight fs fs := by
  induction fs with
  | nil => rfl
  | cons f fs ih =>
    have hf := hfs f List.mem_cons_self
    rw [pack, weight_add_pow_mul (packField_lt hwidth hf), weight_packField hf,
      ih fun f hf => hfs f (List.mem_cons_of_mem _ hf), commonWeight]
    simp

/-- The common fields are in the intersection. -/
theorem commonWeight_le (hwidth : 0 < width) (hfs : ∀ f ∈ fs, f.2 < 16)
    (hsame : fs.map Prod.snd = gs.map Prod.snd) :
    commonWeight fs gs ≤ weight (pack width fs &&& pack width gs) := by
  induction fs generalizing gs with
  | nil => exact Nat.zero_le _
  | cons f fs ih =>
    cases gs with
    | nil => exact Nat.zero_le _
    | cons g gs =>
      rw [List.map_cons, List.map_cons, List.cons.injEq] at hsame
      have hf := hfs f List.mem_cons_self
      have hrest := ih (fun f hf => hfs f (List.mem_cons_of_mem _ hf)) hsame.2
      have hpow : 16 ^ width = 2 ^ (4 * width) := (pow_mul 2 4 width).symm
      have hflt := packField_lt hwidth hf
      have hglt : packField width g < 16 ^ width := packField_lt hwidth (hsame.1 ▸ hf)
      have hfield : (if 0 ≤ f.1 ∧ f.1 = g.1 then f.2 else 0) ≤
          weight (packField width f &&& packField width g) := by
        split
        case isTrue h =>
          obtain rfl : f = g := Prod.ext h.2 hsame.1
          rw [Nat.and_self, weight_packField hf, if_pos h.1]
        case isFalse => exact Nat.zero_le _
      rw [commonWeight, pack, pack, hpow, and_add_pow_mul (hpow ▸ hflt) (hpow ▸ hglt), ← hpow,
        weight_add_pow_mul (Nat.and_le_left.trans_lt hflt)]
      exact Nat.add_le_add hfield hrest

/-- The common fields weigh no more than all fields. -/
theorem commonWeight_le_sum (fs gs : List (Int × Nat)) :
    commonWeight fs gs ≤ (fs.map Prod.snd).sum := by
  induction fs generalizing gs with
  | nil => exact Nat.le_refl 0
  | cons f fs ih =>
    cases gs with
    | nil => exact Nat.zero_le _
    | cons g gs =>
      rw [commonWeight, List.map_cons, List.sum_cons]
      apply Nat.add_le_add _ (ih gs)
      split <;> omega

end Pack

end CLang
