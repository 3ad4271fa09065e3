import Mathlib.Algebra.Group.Nat.Defs
import Mathlib.Data.List.Induction
import Mathlib.Data.List.TakeWhile
import Mathlib.Data.Nat.Notation
import Mathlib.Order.Basic
import Mathlib.Tactic.Ring

/-! Numbers as text: what `printf` writes for `%d` and `%x`, and the number that a string of digits
stands for.  Characters are those of the C locale. -/

namespace CLang

/-- The characters of a string literal. -/
@[irreducible] def chars (s : String) : List Char := s.toList

/-- What holds of all characters of a text is tested on these, not on all characters there are. -/
instance (priority := high) decidableForallChars {p : Char → Prop} [DecidablePred p]
    (s : List Char) : Decidable (∀ c ∈ s, p c) := List.decidableBAll p s

/-- `isspace`. -/
def isSpace (c : Char) : Bool := c ∈ [' ', '\t', '\n', '\x0b', '\x0c', '\r']

/-- The value of a digit, and 16 for a character that is none. -/
def digitValue (c : Char) : Nat :=
  if '0' ≤ c ∧ c ≤ '9' then c.toNat - '0'.toNat
  else if 'a' ≤ c ∧ c ≤ 'f' then c.toNat - 'a'.toNat + 10
  else if 'A' ≤ c ∧ c ≤ 'F' then c.toNat - 'A'.toNat + 10
  else 16

/-- The number that digits stand for. -/
def digitsValue (base : Nat) (digits : List Char) : Nat :=
  digits.foldl (fun n c => base * n + digitValue c) 0

/-- `%d`. -/
def printInt (i : Int) : List Char :=
  if i < 0 then '-' :: Nat.toDigits 10 i.natAbs else Nat.toDigits 10 i.natAbs

/-- `PRIi16`, on a number without a sign.  A C library may give it the modifier `h`, which makes the
number signed. -/
def printInt16 (short : Bool) (n : Nat) : List Char :=
  printInt (if short then (n : Int).bmod (2 ^ 16) else n)

/-- `%x`, with leading zeros up to the width. -/
def printHex (width n : Nat) : List Char := (Nat.toDigits 16 n).leftpad width '0'

theorem digitValue_digitChar {d : Nat} (hd : d < 16) : digitValue (Nat.digitChar d) = d := by
  revert d
  decide

/-- A digit is not a character that is none. -/
theorem ne_of_digitValue {c d : Char} (hc : digitValue c < 16) (hd : digitValue d = 16) :
    c ≠ d := by
  rintro rfl
  omega

theorem digitValue_of_isSpace {c : Char} (hc : isSpace c = true) : digitValue c = 16 := by
  have : ∀ c ∈ [' ', '\t', '\n', '\x0b', '\x0c', '\r'], digitValue c = 16 := by decide
  exact this c (by simpa [isSpace] using hc)

section Digits

variable {base : Nat} (h1 : 1 < base) (h16 : base ≤ 16)
include h1 h16

theorem digitValue_of_mem_toDigits (n : Nat) :
    ∀ c ∈ Nat.toDigits base n, digitValue c < base := by
  induction n using Nat.strong_induction_on with
  | _ n ih =>
    intro c hc
    rw [Nat.toDigits_eq_if h1] at hc
    split at hc
    case isTrue hn =>
      obtain rfl := List.mem_singleton.mp hc
      rwa [digitValue_digitChar (hn.trans_le h16)]
    case isFalse hn =>
      rcases List.mem_append.mp hc with hc | hc
      · exact ih _ (Nat.div_lt_self (by omega) h1) c hc
      · obtain rfl := List.mem_singleton.mp hc
        have hlt : n % base < base := Nat.mod_lt _ (by omega)
        rwa [digitValue_digitChar (hlt.trans_le h16)]

theorem digitsValue_toDigits (n : Nat) : digitsValue base (Nat.toDigits base n) = n := by
  induction n using Nat.strong_induction_on with
  | _ n ih =>
    rw [Nat.toDigits_eq_if h1]
    split
    case isTrue hn => simp [digitsValue, digitValue_digitChar (hn.trans_le h16)]
    case isFalse hn =>
      have hlt : n % base < base := Nat.mod_lt _ (by omega)
      have hdiv := ih (n / base) (Nat.div_lt_self (by omega) h1)
      rw [digitsValue] at hdiv ⊢
      rw [List.foldl_append, hdiv]
      simp only [List.foldl_cons, List.foldl_nil, digitValue_digitChar (hlt.trans_le h16)]
      exact Nat.div_add_mod n base

end Digits

/-! ### Leading zeros -/

theorem digitValue_of_mem_leftpad {base width : Nat} {digits : List Char} (hpos : 0 < base)
    (h : ∀ c ∈ digits, digitValue c < base) :
    ∀ c ∈ digits.leftpad width '0', digitValue c < base := by
  intro c hc
  rw [List.leftpad, List.mem_append, List.mem_replicate] at hc
  rcases hc with ⟨-, rfl⟩ | hc
  · exact hpos
  · exact h c hc

theorem digitsValue_leftpad (base width : Nat) (digits : List Char) :
    digitsValue base (digits.leftpad width '0') = digitsValue base digits := by
  have hzeros (k : Nat) :
      (List.replicate k '0').foldl (fun n c => base * n + digitValue c) 0 = 0 := by
    induction k with
    | zero => rfl
    | succ k ih => rwa [List.replicate_succ, List.foldl_cons, show digitValue '0' = 0 from rfl]
  rw [List.leftpad, digitsValue, List.foldl_append, hzeros]
  rfl

theorem digitsValue_append (base : Nat) (ds es : List Char) :
    digitsValue base (ds ++ es) = base ^ es.length * digitsValue base ds + digitsValue base es := by
  induction es using List.reverseRecOn with
  | nil => simp [digitsValue]
  | append_singleton es c ih =>
    have hsnoc (ds : List Char) :
        digitsValue base (ds ++ [c]) = base * digitsValue base ds + digitValue c := by
      rw [digitsValue, List.foldl_append]
      rfl
    rw [← List.append_assoc, hsnoc, hsnoc, ih, List.length_append, List.length_singleton,
      Nat.pow_succ']
    ring

/-- A number is smaller than the power of the base for its digits. -/
theorem digitsValue_lt {base : Nat} {digits : List Char} (h : ∀ c ∈ digits, digitValue c < base) :
    digitsValue base digits < base ^ digits.length := by
  induction digits using List.reverseRecOn with
  | nil => simp [digitsValue]
  | append_singleton digits c ih =>
    have hlt := ih fun c hc => h c (List.mem_append_left _ hc)
    have hc : digitValue c < base := h c (by simp)
    have hvalue : digitsValue base (digits ++ [c]) =
        base * digitsValue base digits + digitValue c := by
      rw [digitsValue_append]
      simp [digitsValue]
    calc
      digitsValue base (digits ++ [c]) < base * (digitsValue base digits + 1) := by
        rw [hvalue, Nat.mul_succ]
        omega
      _ ≤ base ^ (digits ++ [c]).length := by
        rw [List.length_append, List.length_singleton, Nat.pow_succ']
        exact Nat.mul_le_mul_left base hlt

/-! ### Hexadecimal numbers -/

theorem digitValue_of_mem_printHex (width n : Nat) :
    ∀ c ∈ printHex width n, digitValue c < 16 :=
  digitValue_of_mem_leftpad (by decide)
    (digitValue_of_mem_toDigits (by decide) (by decide) n)

theorem digitsValue_printHex (width n : Nat) : digitsValue 16 (printHex width n) = n := by
  rw [printHex, digitsValue_leftpad]
  exact digitsValue_toDigits (by decide) (by decide) n

theorem length_printHex {width n : Nat} (hpos : 0 < width) (hn : n < 16 ^ width) :
    (printHex width n).length = width := by
  have := (Nat.length_toDigits_le_iff (by decide : 1 < 16) hpos).mpr hn
  rw [printHex, List.leftpad, List.length_append, List.length_replicate]
  omega

theorem printHex_ne_nil (width n : Nat) : printHex width n ≠ [] := by
  simp [printHex, List.leftpad]

/-! ### Decimal numbers -/

theorem printInt_natCast (n : Nat) : printInt n = Nat.toDigits 10 n := by
  simp [printInt]

theorem length_printInt_le {n k : Nat} (hpos : 0 < k) (hn : n < 10 ^ k) :
    (printInt n).length ≤ k := by
  rw [printInt_natCast]
  exact (Nat.length_toDigits_le_iff (by decide) hpos).mpr hn

/-- A number of 16 bits is written with its digits, or as a negative number. -/
theorem printInt16_cases (short : Bool) {n : Nat} (hn : n < 2 ^ 16) :
    printInt16 short n = Nat.toDigits 10 n ∨
      n ≥ 2 ^ 15 ∧ printInt16 short n = '-' :: Nat.toDigits 10 (2 ^ 16 - n) := by
  cases short with
  | false => exact .inl (printInt_natCast n)
  | true =>
    unfold printInt16
    rw [if_pos rfl]
    by_cases hsmall : n < 2 ^ 15
    · rw [Int.bmod_eq_of_le (by omega) (by omega)]
      exact .inl (printInt_natCast n)
    · have hmod : (n : Int).bmod (2 ^ 16) = -((2 ^ 16 - n : Nat) : Int) := by
        rw [Int.bmod_def]
        omega
      rw [hmod, printInt, if_pos (by omega), Int.natAbs_neg, Int.natAbs_natCast]
      exact .inr ⟨by omega, rfl⟩

theorem length_printInt16_le (short : Bool) {n : Nat} (hn : n < 2 ^ 16) :
    (printInt16 short n).length ≤ 6 := by
  have hlen {m : Nat} (hm : m < 10 ^ 5) : (Nat.toDigits 10 m).length ≤ 5 :=
    (Nat.length_toDigits_le_iff (by decide) (by decide)).mpr hm
  rcases printInt16_cases short hn with h | ⟨-, h⟩
  · rw [h]
    have := @hlen n (by omega)
    omega
  · rw [h, List.length_cons]
    have := @hlen (2 ^ 16 - n) (by omega)
    omega

theorem mem_printInt16 (short : Bool) {n : Nat} (hn : n < 2 ^ 16) :
    ∀ c ∈ printInt16 short n, c = '-' ∨ digitValue c < 10 := by
  intro c hc
  have hdigits (m : Nat) (hm : c ∈ Nat.toDigits 10 m) : digitValue c < 10 :=
    digitValue_of_mem_toDigits (by decide) (by decide) m c hm
  rcases printInt16_cases short hn with h | ⟨-, h⟩
  · rw [h] at hc
    exact .inr (hdigits n hc)
  · rw [h, List.mem_cons] at hc
    exact hc.imp_right (hdigits _)

end CLang
