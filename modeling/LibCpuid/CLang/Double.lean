import LibCpuid.CLang.Checked
import Mathlib.Algebra.Order.Archimedean.Basic
import Mathlib.Data.Int.Log
import Mathlib.Data.Rat.Floor
import Mathlib.Tactic.Linarith
import Mathlib.Tactic.Positivity
import Mathlib.Tactic.FieldSimp
import Mathlib.Tactic.Ring

/-! Arithmetic on `double`: each operation rounds its exact result to the nearest number of 53
significant bits, and to the even one of two.  The exponent has no bounds here, so the numbers must
stay away from the ends of the range, and zero has no sign. -/

namespace CLang

/-! ### Rounding to an integer -/

/-- The nearest integer, and the even one of two. -/
def roundHalfEven (x : ℚ) : ℤ :=
  if x - ⌊x⌋ < 1 / 2 then ⌊x⌋
  else if 1 / 2 < x - ⌊x⌋ then ⌊x⌋ + 1
  else if ⌊x⌋ % 2 = 0 then ⌊x⌋
  else ⌊x⌋ + 1

theorem roundHalfEven_intCast (n : ℤ) : roundHalfEven n = n := by
  rw [roundHalfEven, Int.floor_intCast, sub_self, if_pos (by norm_num)]

theorem abs_roundHalfEven_sub_le (x : ℚ) : |(roundHalfEven x : ℚ) - x| ≤ 1 / 2 := by
  have hfract := Int.fract_nonneg x
  have hfract' := (Int.fract_lt_one x).le
  rw [Int.fract] at hfract hfract'
  unfold roundHalfEven
  rw [abs_le]
  split
  · constructor <;> linarith
  · split
    · push_cast
      constructor <;> linarith
    · split
      · constructor <;> linarith
      · push_cast
        constructor <;> linarith

/-! ### Rounding to 53 bits -/

/-- The exponent of the last of 53 bits. -/
def ulpExponent (x : ℚ) : ℤ := Int.log 2 |x| - 52

/-- The nearest number of 53 bits. -/
def roundDouble (x : ℚ) : ℚ := roundHalfEven (x / 2 ^ ulpExponent x) * 2 ^ ulpExponent x

/-- The numbers of 53 bits. -/
def IsDouble (x : ℚ) : Prop := ∃ m e : ℤ, |m| < 2 ^ 53 ∧ x = m * 2 ^ e

theorem two_zpow_pos (e : ℤ) : (0 : ℚ) < 2 ^ e := zpow_pos (by norm_num) e

theorem abs_lt_two_zpow (x : ℚ) : |x| < 2 ^ (ulpExponent x + 53) := by
  have hlt := Int.lt_zpow_succ_log_self (b := 2) (by decide) |x|
  rwa [Nat.cast_ofNat, show Int.log 2 |x| + 1 = ulpExponent x + 53 by unfold ulpExponent; omega]
    at hlt

theorem two_zpow_le_abs {x : ℚ} (hx : x ≠ 0) : 2 ^ (ulpExponent x + 52) ≤ |x| := by
  have hle := Int.zpow_log_le_self (b := 2) (by decide) (abs_pos.mpr hx)
  rwa [Nat.cast_ofNat, show Int.log 2 |x| = ulpExponent x + 52 by unfold ulpExponent; omega] at hle

/-- The error is at most half a unit in the last place. -/
theorem abs_roundDouble_sub_le (x : ℚ) : |roundDouble x - x| ≤ |x| / 2 ^ 53 := by
  by_cases hx : x = 0
  · rw [hx, roundDouble, zero_div, show (0 : ℚ) = (0 : ℤ) from rfl, roundHalfEven_intCast]
    simp
  · have hpos := two_zpow_pos (ulpExponent x)
    have hround := abs_roundHalfEven_sub_le (x / 2 ^ ulpExponent x)
    have heq : roundDouble x - x =
        (roundHalfEven (x / 2 ^ ulpExponent x) - x / 2 ^ ulpExponent x) * 2 ^ ulpExponent x := by
      rw [roundDouble, sub_mul, div_mul_cancel₀ _ hpos.ne']
    have hulp : (2 : ℚ) ^ ulpExponent x ≤ |x| / 2 ^ 52 := by
      have hle := two_zpow_le_abs hx
      rw [zpow_add₀ (by norm_num)] at hle
      rw [le_div_iff₀ (by norm_num)]
      exact_mod_cast hle
    rw [heq, abs_mul, abs_of_pos hpos]
    calc |(roundHalfEven (x / 2 ^ ulpExponent x) : ℚ) - x / 2 ^ ulpExponent x| *
          2 ^ ulpExponent x
        ≤ 1 / 2 * 2 ^ ulpExponent x := mul_le_mul_of_nonneg_right hround hpos.le
      _ ≤ 1 / 2 * (|x| / 2 ^ 52) := mul_le_mul_of_nonneg_left hulp (by norm_num)
      _ = |x| / 2 ^ 53 := by ring

theorem isDouble_zero : IsDouble 0 := ⟨0, 0, by norm_num, by norm_num⟩

/-- A number of 53 bits is not changed. -/
theorem roundDouble_of_isDouble {x : ℚ} (h : IsDouble x) : roundDouble x = x := by
  by_cases hx : x = 0
  · have hle := abs_roundDouble_sub_le x
    rw [hx, abs_zero, zero_div, sub_zero] at hle
    rw [hx]
    exact abs_eq_zero.mp (le_antisymm hle (abs_nonneg _))
  · obtain ⟨m, e, hm, rfl⟩ := h
    -- the last place is not above that of the number
    have hexp : ulpExponent (m * 2 ^ e) ≤ e := by
      have habs : |(m : ℚ) * 2 ^ e| < 2 ^ (53 + e) := by
        rw [abs_mul, abs_of_pos (two_zpow_pos e), zpow_add₀ (by norm_num)]
        refine mul_lt_mul_of_pos_right ?_ (two_zpow_pos e)
        exact_mod_cast hm
      have hlt := (two_zpow_le_abs hx).trans_lt habs
      rw [zpow_lt_zpow_iff_right₀ (by norm_num)] at hlt
      omega
    obtain ⟨d, hd⟩ := Int.eq_ofNat_of_zero_le (sub_nonneg.mpr hexp)
    have hquot : (m : ℚ) * 2 ^ e / 2 ^ ulpExponent (m * 2 ^ e) = (m * 2 ^ d : ℤ) := by
      rw [mul_div_assoc, ← zpow_sub₀ (by norm_num), hd]
      push_cast
      rw [zpow_natCast]
    rw [roundDouble, hquot, roundHalfEven_intCast, ← hquot,
      div_mul_cancel₀ _ (two_zpow_pos _).ne']

theorem isDouble_intCast {n : ℤ} (h : |n| < 2 ^ 53) : IsDouble n := ⟨n, 0, h, by simp⟩

theorem IsDouble.mul_two_zpow {x : ℚ} (h : IsDouble x) (k : ℤ) : IsDouble (x * 2 ^ k) := by
  obtain ⟨m, e, hm, rfl⟩ := h
  exact ⟨m, e + k, hm, by rw [zpow_add₀ (by norm_num), mul_assoc]⟩

/-- The result of a rounding has 53 bits. -/
theorem isDouble_roundDouble (x : ℚ) : IsDouble (roundDouble x) := by
  by_cases hx : x = 0
  · rw [hx, roundDouble_of_isDouble isDouble_zero]
    exact isDouble_zero
  · have hpos := two_zpow_pos (ulpExponent x)
    have hlt : |x / 2 ^ ulpExponent x| < 2 ^ 53 := by
      have hlt := abs_lt_two_zpow x
      rw [zpow_add₀ (by norm_num)] at hlt
      rw [abs_div, abs_of_pos hpos, div_lt_iff₀ hpos, mul_comm]
      exact_mod_cast hlt
    have hround := abs_roundHalfEven_sub_le (x / 2 ^ ulpExponent x)
    have habs : |roundHalfEven (x / 2 ^ ulpExponent x)| ≤ 2 ^ 53 := by
      have htri := abs_sub_abs_le_abs_sub (roundHalfEven (x / 2 ^ ulpExponent x) : ℚ)
        (x / 2 ^ ulpExponent x)
      have hle : ((|roundHalfEven (x / 2 ^ ulpExponent x)| : ℤ) : ℚ) < 2 ^ 53 + 1 := by
        push_cast
        linarith
      have hle' : |roundHalfEven (x / 2 ^ ulpExponent x)| < 2 ^ 53 + 1 := by exact_mod_cast hle
      omega
    rcases lt_or_eq_of_le habs with h | h
    · exact ⟨_, _, h, rfl⟩
    · -- a carry into the next place leaves a power of two
      rcases abs_eq (by norm_num) |>.mp h with h | h
      · refine ⟨1, 53 + ulpExponent x, by norm_num, ?_⟩
        rw [roundDouble, h, zpow_add₀ (by norm_num)]
        norm_num
      · refine ⟨-1, 53 + ulpExponent x, by norm_num, ?_⟩
        rw [roundDouble, h, zpow_add₀ (by norm_num)]
        norm_num

/-- Rounding a number, and then its product with another, stays within four halves of a unit in the
last place. -/
theorem abs_roundDouble_mul_sub_le {x y : ℚ} (c : ℚ) (h : |y - x| ≤ |x| / 2 ^ 53) :
    |roundDouble (y * c) - x * c| ≤ |x * c| / 2 ^ 51 := by
  have hround := abs_roundDouble_sub_le (y * c)
  have hscaled : |y * c - x * c| ≤ |x * c| / 2 ^ 53 := by
    rw [← sub_mul, abs_mul, abs_mul, mul_div_right_comm]
    exact mul_le_mul_of_nonneg_right h (abs_nonneg c)
  have hyc : |y * c| ≤ |x * c| + |x * c| / 2 ^ 53 := by
    have htri := abs_sub_abs_le_abs_sub (y * c) (x * c)
    linarith
  have hpos := abs_nonneg (x * c)
  calc |roundDouble (y * c) - x * c|
      ≤ |roundDouble (y * c) - y * c| + |y * c - x * c| := abs_sub_le _ _ _
    _ ≤ (|x * c| + |x * c| / 2 ^ 53) / 2 ^ 53 + |x * c| / 2 ^ 53 := by
        have := div_le_div_of_nonneg_right hyc (by norm_num : (0 : ℚ) ≤ 2 ^ 53)
        linarith
    _ ≤ |x * c| / 2 ^ 51 := by
        have heq : |x * c| / 2 ^ 51 - ((|x * c| + |x * c| / 2 ^ 53) / 2 ^ 53 + |x * c| / 2 ^ 53) =
            |x * c| * (1 / 2 ^ 51 - ((1 + 1 / 2 ^ 53) / 2 ^ 53 + 1 / 2 ^ 53)) := by ring
        have hnn : 0 ≤ |x * c| * (1 / 2 ^ 51 - ((1 + 1 / 2 ^ 53) / 2 ^ 53 + 1 / 2 ^ 53)) :=
          mul_nonneg hpos (by norm_num)
        linarith

/-- What a computation with one rounding gives for `x`. -/
structure Approximates (y x : ℚ) : Prop where
  near : |y - x| ≤ |x| / 2 ^ 53
  exact : IsDouble x → y = x

theorem approximates_roundDouble (x : ℚ) : Approximates (roundDouble x) x :=
  ⟨abs_roundDouble_sub_le x, roundDouble_of_isDouble⟩

/-- A power of two scales without an error. -/
theorem Approximates.mul_two_zpow {x y : ℚ} (h : Approximates y x) (hy : IsDouble y) (k : ℤ) :
    Approximates (roundDouble (y * 2 ^ k)) (x * 2 ^ k) := by
  have hpos := two_zpow_pos k
  rw [roundDouble_of_isDouble (hy.mul_two_zpow k)]
  constructor
  · rw [← sub_mul, abs_mul, abs_mul, mul_div_right_comm]
    exact mul_le_mul_of_nonneg_right h.near (abs_nonneg _)
  · intro hx
    have hx' := hx.mul_two_zpow (-k)
    rw [mul_assoc, ← zpow_add₀ (by norm_num), add_neg_cancel, zpow_zero, mul_one] at hx'
    rw [h.exact hx']

/-- The floor of a number near a quotient of integers is the quotient, or one below it when the
quotient is exact. -/
theorem floor_of_near {n d : ℕ} (hd : 0 < d) {r : ℚ} (h : |r - n / d| < 1 / d) :
    (⌊r⌋ = (n / d : ℕ) ∨ ⌊r⌋ + 1 = (n / d : ℕ)) ∧ (¬d ∣ n → ⌊r⌋ = (n / d : ℕ)) := by
  have hn := Nat.div_add_mod n d
  have hmod := Nat.mod_lt n hd
  rw [Nat.dvd_iff_mod_eq_zero]
  generalize n / d = k, n % d = m at hn hmod ⊢
  have hd' : (0 : ℚ) < d := by exact_mod_cast hd
  have hdiv : (n : ℚ) / d = k + m / d := by
    rw [← hn]
    push_cast
    rw [add_div, mul_div_cancel_left₀ _ hd'.ne']
  have hone : (m : ℚ) / d + 1 / d ≤ 1 := by
    rw [← add_div, div_le_one hd']
    exact_mod_cast hmod
  have hm : (0 : ℚ) ≤ m / d := div_nonneg (Nat.cast_nonneg _) hd'.le
  rw [hdiv, abs_lt] at h
  obtain ⟨hlow, hhigh⟩ := h
  constructor
  · by_cases hge : (k : ℚ) ≤ r
    · refine .inl (Int.floor_eq_iff.mpr ⟨by exact_mod_cast hge, ?_⟩)
      push_cast
      linarith
    · have hfloor : ⌊r⌋ = (k : ℤ) - 1 := by
        rw [Int.floor_eq_iff]
        push_cast
        constructor <;> linarith
      omega
  · intro hm0
    have hpos : (1 : ℚ) ≤ m := by exact_mod_cast Nat.one_le_iff_ne_zero.mpr hm0
    have hm1 : (1 : ℚ) / d ≤ m / d := div_le_div_of_nonneg_right hpos hd'.le
    rw [Int.floor_eq_iff]
    push_cast
    constructor <;> linarith

/-! ### Numbers -/

/-- The values of a `double`. -/
inductive Double
  | finite (x : ℚ)
  | infinite (isNegative : Bool)
  | nan
  deriving DecidableEq

namespace Double

/-- The conversion from an integer type. -/
def ofInt (n : ℤ) : Double := .finite (roundDouble n)

/-- The constant that is written as the decimal fraction `x`. -/
def ofDecimal (x : ℚ) : Double := .finite (roundDouble x)

/-- `a / b`. -/
def div : Double → Double → Double
  | .finite x, .finite y =>
    if y ≠ 0 then .finite (roundDouble (x / y))
    else if x ≠ 0 then .infinite (x < 0)
    else .nan
  | .finite _, .infinite _ => .finite 0
  | .infinite neg, .finite y => .infinite (neg ^^ decide (y < 0))
  | _, _ => .nan

/-- `a * b`. -/
def mul : Double → Double → Double
  | .finite x, .finite y => .finite (roundDouble (x * y))
  | .finite x, .infinite neg | .infinite neg, .finite x =>
    if x ≠ 0 then .infinite (neg ^^ decide (x < 0)) else .nan
  | .infinite neg, .infinite neg' => .infinite (neg ^^ neg')
  | _, _ => .nan

/-- `a + b`. -/
def add : Double → Double → Double
  | .finite x, .finite y => .finite (roundDouble (x + y))
  | .finite _, .infinite neg | .infinite neg, .finite _ => .infinite neg
  | .infinite neg, .infinite neg' => if neg = neg' then .infinite neg else .nan
  | _, _ => .nan

/-- `a - b`. -/
def sub : Double → Double → Double
  | .finite x, .finite y => .finite (roundDouble (x - y))
  | .finite _, .infinite neg => .infinite !neg
  | .infinite neg, .finite _ => .infinite neg
  | .infinite neg, .infinite neg' => if neg = neg' then .nan else .infinite neg
  | _, _ => .nan

/-- `(int) a`, which has no defined result unless the integer part is an `int`. -/
def toInt : Double → Checked ℤ
  | .finite x =>
    let n := if 0 ≤ x then ⌊x⌋ else ⌈x⌉
    if -2 ^ 31 ≤ n ∧ n < 2 ^ 31 then .ok n else .error .overflow
  | _ => .error .overflow

theorem ofInt_of_lt {n : ℤ} (h : |n| < 2 ^ 53) : ofInt n = .finite n := by
  rw [ofInt, roundDouble_of_isDouble (isDouble_intCast h)]

theorem div_finite {x y : ℚ} (hy : y ≠ 0) :
    div (.finite x) (.finite y) = .finite (roundDouble (x / y)) := if_pos hy

theorem toInt_finite {x : ℚ} (h0 : 0 ≤ x) (h : ⌊x⌋ < 2 ^ 31) : toInt (.finite x) = .ok ⌊x⌋ := by
  have hfloor : 0 ≤ ⌊x⌋ := Int.floor_nonneg.mpr h0
  rw [toInt, if_pos h0]
  exact if_pos ⟨by omega, h⟩

/-- A product that is rounded and truncated, when the first factor approximates a quotient. -/
theorem toInt_mul_ofInt {y : ℚ} {n d c : ℕ} (hd : 0 < d) (h : Approximates y (n / d))
    (hsmall : c * n < 2 ^ 51) (hc : c < 2 ^ 53) (hfit : c * n / d < 2 ^ 31) :
    ∃ m : ℕ, toInt (mul (.finite y) (.ofInt c)) = .ok m ∧
      (m = c * n / d ∨ m + 1 = c * n / d ∧ d ∣ c * n ∧ ¬IsDouble (n / d)) := by
  have hd' : (0 : ℚ) < d := by exact_mod_cast hd
  have hprod : (n : ℚ) / d * c = (c * n : ℕ) / d := by
    push_cast
    ring
  have hnear := abs_roundDouble_mul_sub_le c h.near
  have hnonneg : (0 : ℚ) ≤ (c * n : ℕ) / d := div_nonneg (Nat.cast_nonneg _) hd'.le
  rw [hprod, abs_of_nonneg hnonneg] at hnear
  have hr0 : 0 ≤ roundDouble (y * c) := by
    have hle : ((c * n : ℕ) : ℚ) / d / 2 ^ 51 ≤ (c * n : ℕ) / d :=
      div_le_self hnonneg (by norm_num)
    linarith [(abs_le.mp hnear).1]
  have hlt : ((c * n : ℕ) : ℚ) / d / 2 ^ 51 < 1 / d := by
    rw [div_right_comm]
    refine div_lt_div_of_pos_right ?_ hd'
    rw [div_lt_one (by norm_num)]
    exact_mod_cast hsmall
  obtain ⟨hfloor, hfloor'⟩ := floor_of_near hd (hnear.trans_lt hlt)
  have hfloor0 := Int.floor_nonneg.mpr hr0
  have hmul : mul (.finite y) (.ofInt c) = .finite (roundDouble (y * c)) := by
    rw [ofInt_of_lt (by rw [Nat.abs_cast]; exact_mod_cast hc), Int.cast_natCast, mul]
  refine ⟨⌊roundDouble (y * c)⌋.toNat, ?_, ?_⟩
  · rw [hmul, toInt_finite hr0 (by omega), Int.toNat_of_nonneg hfloor0]
  · by_cases hexact : d ∣ c * n
    · by_cases hdouble : IsDouble ((n : ℚ) / d)
      · -- no operation rounds
        left
        obtain ⟨k, hk⟩ := hexact
        have hk' : c * n / d = k := by rw [hk, Nat.mul_div_cancel_left _ hd]
        have hle : k ≤ c * n := hk' ▸ Nat.div_le_self _ _
        have hyc : y * c = (k : ℤ) := by
          rw [h.exact hdouble, hprod, hk]
          push_cast
          rw [mul_div_cancel_left₀ _ hd'.ne']
        have hk53 : |(k : ℤ)| < 2 ^ 53 := by rw [Nat.abs_cast]; omega
        rw [hyc, roundDouble_of_isDouble (isDouble_intCast hk53), Int.floor_intCast, hk']
        rfl
      · rcases hfloor with hfloor | hfloor
        · exact .inl (by omega)
        · exact .inr ⟨by omega, hexact, hdouble⟩
    · exact .inl (by have := hfloor' hexact; omega)

end Double

end CLang
