import LibCpuid.AffinityMask
import LibCpuid.CLang.Checked
import LibCpuid.Util
import Mathlib.Data.List.OfFn

/-! The text of an affinity mask.  The loop writes two digits and a NUL for a byte when there is
room for the two digits, and it starts with the byte of the highest logical CPUs. -/

namespace LibCpuid

open CLang

/-! ### Printing -/

/-- `__MASK_SETSIZE`. -/
abbrev maskSetsize : Nat := 8192

/-- What `%02X` writes for a byte. -/
def printByte (byte : BitVec 8) : List Char := (printHex 2 byte.toNat).map Char.toUpper

/-- The buffer after some characters are written from an index on. -/
def storeChars {n : Nat} (buffer : Fin n → Char) : Nat → List Char → Checked (Fin n → Char)
  | _, [] => .ok buffer
  | i, c :: rest => do storeChars (← store buffer i c) (i + 1) rest

/-- The variables of the loop in `affinity_mask_str_r`, but for the index of the byte. -/
structure MaskStrState (n : Nat) where
  strIndex : Nat
  doPrint : Bool
  buffer : Fin n → Char

section Print

variable {n : Nat} (m : CpuAffinityMask)

/-- The body of the loop.  `snprintf` has room for two digits and the NUL. -/
def maskStrStep (maskIndex : Nat) (s : MaskStrState n) : Checked (MaskStrState n) := do
  let byte ← load m.bits maskIndex
  if s.doPrint ∨ maskIndex < 4 ∨ byte ≠ 0 then
    let buffer ← storeChars s.buffer s.strIndex (printByte byte ++ ['\x00'])
    .ok ⟨(s.strIndex + 2) % 2 ^ 16, true, buffer⟩
  else .ok s

/-- The loop, from a byte down. -/
def maskStrLoop : Nat → MaskStrState n → Checked (MaskStrState n)
  | 0, s => if s.strIndex + 1 < n then maskStrStep m 0 s else .ok s
  | maskIndex + 1, s =>
    if s.strIndex + 1 < n then do maskStrLoop maskIndex (← maskStrStep m (maskIndex + 1) s)
    else .ok s

/-- `affinity_mask_str_r`, for a buffer of `n` characters. -/
def affinityMaskStrR (buffer : Fin n → Char) : Checked (Fin n → Char) := do
  let s ← maskStrLoop m (maskSetsize - 1) ⟨0, false, buffer⟩
  store s.buffer s.strIndex '\x00'

/-- `affinity_mask_str`, with what its static buffer held before. -/
def affinityMaskStr (buffer : Fin (maskSetsize + 1) → Char) :
    Checked (Fin (maskSetsize + 1) → Char) :=
  affinityMaskStrR m buffer

end Print

/-! ### Characters of the buffer -/

section Buffer

variable {n : Nat} {buffer buffer' : Fin n → Char} {p : List Char}

theorem store_prefix {c : Char} (hp : p <+: List.ofFn buffer) (h : p.length < n) :
    ∃ buffer', store buffer p.length c = .ok buffer' ∧ p ++ [c] <+: List.ofFn buffer' := by
  refine ⟨_, store_of_lt buffer h c, ?_⟩
  rw [List.prefix_iff_getElem?] at hp ⊢
  intro i hi
  rw [List.length_append, List.length_singleton] at hi
  rw [List.getElem?_ofFn]
  by_cases hlast : i = p.length
  · subst hlast
    simp [h]
  · have hlt : i < p.length := by omega
    have hne : (⟨i, by omega⟩ : Fin n) ≠ ⟨p.length, h⟩ := fun heq => hlast (Fin.mk.inj heq)
    have hold := hp i hlt
    rw [List.getElem?_ofFn, dif_pos (by omega)] at hold
    rw [dif_pos (by omega), Function.update_of_ne hne, List.getElem_append_left hlt]
    exact hold

/-- Characters behind those that are there. -/
theorem storeChars_prefix {cs : List Char} (hp : p <+: List.ofFn buffer)
    (h : p.length + cs.length ≤ n) :
    ∃ buffer', storeChars buffer p.length cs = .ok buffer' ∧ p ++ cs <+: List.ofFn buffer' := by
  induction cs generalizing p buffer with
  | nil => exact ⟨buffer, rfl, by rwa [List.append_nil]⟩
  | cons c cs ih =>
    rw [List.length_cons] at h
    obtain ⟨buffer1, hstore, hp1⟩ := store_prefix (c := c) hp (by omega)
    have hlen : (p ++ [c]).length = p.length + 1 := List.length_append
    obtain ⟨buffer2, hstores, hp2⟩ := ih hp1 (by omega)
    rw [hlen] at hstores
    refine ⟨buffer2, ?_, by rwa [List.append_assoc] at hp2⟩
    rw [storeChars, hstore, ok_bind, hstores]

theorem storeChars_error {cs : List Char} {i : Nat} (hne : cs ≠ []) (h : n < i + cs.length) :
    storeChars buffer i cs = .error .outOfBounds := by
  induction cs generalizing i buffer with
  | nil => exact absurd rfl hne
  | cons c cs ih =>
    rw [List.length_cons] at h
    rw [storeChars]
    by_cases hi : i < n
    · rw [store_of_lt _ hi, ok_bind]
      refine ih ?_ (by omega)
      rintro rfl
      simp at h
      omega
    · rw [store_of_le _ (Nat.not_lt.mp hi)]
      rfl

end Buffer

/-! ### The bytes that are printed -/

/-- A byte of a mask, and zero past the last one. -/
def CpuAffinityMask.byteAt (m : CpuAffinityMask) (i : Nat) : BitVec 8 :=
  if h : i < maskSetsize then m.bits ⟨i, h⟩ else 0

/-- The bytes below an index that the loop prints when the buffer does not end it: from the highest
one that is not zero, or from the byte 3. -/
def CpuAffinityMask.printed (m : CpuAffinityMask) : Nat → Bool → List (BitVec 8)
  | 0, _ => []
  | i + 1, doPrint =>
    if doPrint ∨ i < 4 ∨ m.byteAt i ≠ 0 then m.byteAt i :: m.printed i true
    else m.printed i doPrint

theorem length_printByte (byte : BitVec 8) : (printByte byte).length = 2 := by
  rw [printByte, List.length_map]
  exact length_printHex (by decide) byte.isLt

section Step

variable {n : Nat} {m : CpuAffinityMask} {maskIndex : Nat} (hindex : maskIndex < maskSetsize)
  {buffer : Fin n → Char} {p : List Char} {doPrint : Bool}
include hindex

theorem load_bits : load m.bits maskIndex = .ok (m.byteAt maskIndex) := by
  rw [load_of_lt _ hindex, CpuAffinityMask.byteAt, dif_pos hindex]

theorem maskStrStep_skip (h : ¬(doPrint = true ∨ maskIndex < 4 ∨ m.byteAt maskIndex ≠ 0))
    (strIndex : Nat) :
    maskStrStep m maskIndex ⟨strIndex, doPrint, buffer⟩ = .ok ⟨strIndex, doPrint, buffer⟩ := by
  rw [maskStrStep, load_bits hindex, ok_bind]
  exact if_neg h

theorem maskStrStep_print (h : doPrint = true ∨ maskIndex < 4 ∨ m.byteAt maskIndex ≠ 0)
    (hp : p <+: List.ofFn buffer) (hroom : p.length + 3 ≤ n) (hsmall : p.length + 2 < 2 ^ 16) :
    ∃ buffer', maskStrStep m maskIndex ⟨p.length, doPrint, buffer⟩ =
        .ok ⟨(p ++ printByte (m.byteAt maskIndex)).length, true, buffer'⟩ ∧
      p ++ printByte (m.byteAt maskIndex) <+: List.ofFn buffer' := by
  have hlen := length_printByte (m.byteAt maskIndex)
  have hfits : p.length + (printByte (m.byteAt maskIndex) ++ ['\x00']).length ≤ n := by
    rw [List.length_append, hlen, List.length_singleton]
    omega
  obtain ⟨buffer', hstores, hp'⟩ := storeChars_prefix hp hfits
  refine ⟨buffer', ?_, ?_⟩
  · rw [maskStrStep, load_bits hindex, ok_bind, if_pos h]
    dsimp only
    rw [hstores, ok_bind, Nat.mod_eq_of_lt hsmall, List.length_append, hlen]
  · rw [← List.append_assoc] at hp'
    exact (List.prefix_append _ _).trans hp'

theorem maskStrStep_error (h : doPrint = true ∨ maskIndex < 4 ∨ m.byteAt maskIndex ≠ 0)
    {strIndex : Nat} (hroom : n < strIndex + 3) :
    maskStrStep m maskIndex ⟨strIndex, doPrint, buffer⟩ = .error .outOfBounds := by
  have hlen := length_printByte (m.byteAt maskIndex)
  have hstores : storeChars buffer strIndex (printByte (m.byteAt maskIndex) ++ ['\x00']) =
      .error .outOfBounds :=
    storeChars_error (by simp) (by rw [List.length_append, hlen, List.length_singleton]; omega)
  rw [maskStrStep, load_bits hindex, ok_bind, if_pos h]
  dsimp only
  rw [hstores, error_bind]

end Step

section Loop

variable {n : Nat} {m : CpuAffinityMask} {buffer : Fin n → Char} {p : List Char} {doPrint : Bool}

/-- The loop, by the number of bytes that are left. -/
def maskStrFrom (m : CpuAffinityMask) : Nat → MaskStrState n → Checked (MaskStrState n)
  | 0, s => .ok s
  | i + 1, s => if s.strIndex + 1 < n then do maskStrFrom m i (← maskStrStep m i s) else .ok s

theorem maskStrLoop_eq_from (maskIndex : Nat) (s : MaskStrState n) :
    maskStrLoop m maskIndex s = maskStrFrom m (maskIndex + 1) s := by
  induction maskIndex generalizing s with
  | zero =>
    rw [maskStrLoop, maskStrFrom]
    split
    · cases maskStrStep m 0 s <;> rfl
    · rfl
  | succ maskIndex ih =>
    rw [maskStrLoop, maskStrFrom]
    split
    · exact bind_congr ih
    · rfl

/-- The text behind `p` when the bytes below an index are printed, as far as there is room. -/
def textBehind (m : CpuAffinityMask) (n : Nat) (p : List Char) (i : Nat) (doPrint : Bool) :
    List Char :=
  p ++ ((m.printed i doPrint).take ((n - 1 - p.length) / 2)).flatMap printByte

theorem textBehind_print {i : Nat} (h : doPrint = true ∨ i < 4 ∨ m.byteAt i ≠ 0)
    (hroom : p.length + 3 ≤ n) :
    textBehind m n p (i + 1) doPrint = textBehind m n (p ++ printByte (m.byteAt i)) i true := by
  have htake : (n - 1 - p.length) / 2 = (n - 1 - (p.length + 2)) / 2 + 1 := by omega
  rw [textBehind, textBehind, CpuAffinityMask.printed, if_pos h, List.length_append,
    length_printByte, htake, List.take_succ_cons, List.flatMap_cons, List.append_assoc]

theorem textBehind_skip {i : Nat} (h : ¬(doPrint = true ∨ i < 4 ∨ m.byteAt i ≠ 0)) :
    textBehind m n p (i + 1) doPrint = textBehind m n p i doPrint := by
  rw [textBehind, textBehind, CpuAffinityMask.printed, if_neg h]

/-- The loop ends with the text in the buffer and with room for the NUL, if the length of the buffer
is odd or there is room for the text. -/
theorem maskStrFrom_ok {i : Nat} (hi : i ≤ maskSetsize) (hp : p <+: List.ofFn buffer)
    (heven : p.length % 2 = 0) (hlt : p.length < n) (hsmall : p.length + 2 * i < 2 ^ 16)
    (hfit : n % 2 = 1 ∨ p.length + 2 * (m.printed i doPrint).length < n) :
    ∃ s, maskStrFrom m i ⟨p.length, doPrint, buffer⟩ = .ok s ∧
      s.strIndex = (textBehind m n p i doPrint).length ∧ s.strIndex < n ∧
      textBehind m n p i doPrint <+: List.ofFn s.buffer := by
  induction i generalizing p buffer doPrint with
  | zero =>
    have hnone : textBehind m n p 0 doPrint = p := by simp [textBehind, CpuAffinityMask.printed]
    rw [hnone]
    exact ⟨_, rfl, rfl, hlt, hp⟩
  | succ i ih =>
    rw [maskStrFrom]
    dsimp only
    by_cases hguard : p.length + 1 < n
    · rw [if_pos hguard]
      by_cases hprint : doPrint = true ∨ i < 4 ∨ m.byteAt i ≠ 0
      · rw [CpuAffinityMask.printed, if_pos hprint, List.length_cons] at hfit
        obtain ⟨buffer', hstep, hp'⟩ := maskStrStep_print (by omega) hprint hp (by omega) (by omega)
        have hlen : (p ++ printByte (m.byteAt i)).length = p.length + 2 := by
          rw [List.length_append, length_printByte]
        rw [hstep, ok_bind, textBehind_print hprint (by omega)]
        exact ih (by omega) hp' (by omega) (by omega) (by omega) (by omega)
      · rw [CpuAffinityMask.printed, if_neg hprint] at hfit
        rw [maskStrStep_skip (by omega) hprint, ok_bind, textBehind_skip hprint]
        exact ih (by omega) hp heven hlt (by omega) hfit
    · have hnone : textBehind m n p (i + 1) doPrint = p := by
        have hroom : (n - 1 - p.length) / 2 = 0 := by omega
        simp [textBehind, hroom]
      rw [if_neg hguard, hnone]
      exact ⟨_, rfl, rfl, hlt, hp⟩

/-- A buffer of even length takes two digits that leave no room for their NUL. -/
theorem maskStrFrom_error {i : Nat} (hi : i ≤ maskSetsize) (hp : p <+: List.ofFn buffer)
    (heven : p.length % 2 = 0) (hlt : p.length < n) (hsmall : p.length + 2 * i < 2 ^ 16)
    (hn : n % 2 = 0) (hfull : n ≤ p.length + 2 * (m.printed i doPrint).length) :
    maskStrFrom m i ⟨p.length, doPrint, buffer⟩ = .error .outOfBounds := by
  induction i generalizing p buffer doPrint with
  | zero =>
    rw [CpuAffinityMask.printed, List.length_nil] at hfull
    omega
  | succ i ih =>
    rw [maskStrFrom]
    dsimp only
    rw [if_pos (by omega)]
    by_cases hprint : doPrint = true ∨ i < 4 ∨ m.byteAt i ≠ 0
    · by_cases hroom : p.length + 3 ≤ n
      · rw [CpuAffinityMask.printed, if_pos hprint, List.length_cons] at hfull
        obtain ⟨buffer', hstep, hp'⟩ := maskStrStep_print (by omega) hprint hp hroom (by omega)
        have hlen : (p ++ printByte (m.byteAt i)).length = p.length + 2 := by
          rw [List.length_append, length_printByte]
        rw [hstep, ok_bind]
        exact ih (by omega) hp' (by omega) (by omega) (by omega) (by omega)
      · rw [maskStrStep_error (by omega) hprint (by omega), error_bind]
    · rw [CpuAffinityMask.printed, if_neg hprint] at hfull
      rw [maskStrStep_skip (by omega) hprint, ok_bind]
      exact ih (by omega) hp heven hlt (by omega) hfull

end Loop

/-! ### Which bytes are printed -/

section Printed

variable (m : CpuAffinityMask)

theorem length_printed_true (i : Nat) : (m.printed i true).length = i := by
  induction i with
  | zero => rfl
  | succ i ih => rw [CpuAffinityMask.printed, if_pos (.inl rfl), List.length_cons, ih]

/-- The last four bytes are always printed. -/
theorem le_length_printed (i : Nat) (doPrint : Bool) :
    min i 4 ≤ (m.printed i doPrint).length := by
  induction i generalizing doPrint with
  | zero => exact Nat.zero_le _
  | succ i ih =>
    rw [CpuAffinityMask.printed]
    split
    case isTrue =>
      rw [List.length_cons, length_printed_true]
      omega
    case isFalse h =>
      have := ih doPrint
      have : ¬i < 4 := fun hi => h (.inr (.inl hi))
      omega

/-- The bytes in front of those are printed from the first one that is not zero. -/
theorem length_printed_le_iff {c : Nat} (hc : 4 ≤ c) (i : Nat) :
    (m.printed i false).length ≤ c ↔ ∀ j, c ≤ j → j < i → m.byteAt j = 0 := by
  induction i with
  | zero => simp [CpuAffinityMask.printed]
  | succ i ih =>
    rw [CpuAffinityMask.printed]
    split
    case isTrue h =>
      rw [List.length_cons, length_printed_true]
      constructor
      · intro hle j hj hi
        omega
      · intro hzero
        by_contra hlt
        rcases h with h | h | h
        · cases h
        · omega
        · exact h (hzero i (by omega) (Nat.lt_succ_self i))
    case isFalse h =>
      have hbyte : m.byteAt i = 0 := by
        by_contra hne
        exact h (.inr (.inr hne))
      rw [ih]
      constructor
      · intro hzero j hj hi
        rcases Nat.lt_succ_iff_lt_or_eq.mp hi with hi | rfl
        · exact hzero j hj hi
        · exact hbyte
      · exact fun hzero j hj hi => hzero j hj (Nat.lt_succ_of_lt hi)

theorem getAffinityMaskBit_eq_byteAt (cpu : LogicalCpu) :
    getAffinityMaskBit cpu m = (m.byteAt (cpu / 8)).getLsbD (cpu % 8) := by
  have hcpu := cpu.isLt
  have hbyte : cpu.val / 8 < maskSetsize := by
    show cpu.val / 8 < 8192
    omega
  rw [getAffinityMaskBit_eq, CpuAffinityMask.byteAt, dif_pos hbyte]
  rfl

/-- A bound on the bytes that are printed is one on the logical CPUs in the mask. -/
theorem length_printed_le_iff_cpus {c : Nat} (hc : 4 ≤ c) :
    (m.printed maskSetsize false).length ≤ c ↔
      ∀ cpu : LogicalCpu, getAffinityMaskBit cpu m = true → cpu.val / 8 < c := by
  rw [length_printed_le_iff m hc]
  constructor
  · intro hzero cpu hget
    by_contra hle
    have hcpu := cpu.isLt
    have hbyte : cpu.val / 8 < maskSetsize := by
      show cpu.val / 8 < 8192
      omega
    rw [getAffinityMaskBit_eq_byteAt, hzero _ (Nat.not_lt.mp hle) hbyte] at hget
    simp at hget
  · intro hcpus j hj hi
    change j < 8192 at hi
    apply BitVec.eq_of_getLsbD_eq
    intro k hk
    have hcpu := mt (hcpus ⟨8 * j + k, by omega⟩) (by dsimp only; omega)
    rw [Bool.not_eq_true, getAffinityMaskBit_eq_byteAt] at hcpu
    have hdiv : (8 * j + k) / 8 = j := by omega
    have hmod : (8 * j + k) % 8 = k := by omega
    dsimp only at hcpu
    rw [hdiv, hmod] at hcpu
    simpa using hcpu

end Printed

/-! ### The number that is printed -/

section Value

variable (m : CpuAffinityMask)

theorem digitsValue_printByte (byte : BitVec 8) : digitsValue 16 (printByte byte) = byte.toNat := by
  have hall : ∀ n < 256, digitsValue 16 ((printHex 2 n).map Char.toUpper) = n := by decide +kernel
  exact hall byte.toNat byte.isLt

theorem mem_printByte (byte : BitVec 8) :
    ∀ c ∈ printByte byte, digitValue c < 16 ∧ c ≠ '\x00' := by
  have hall : ∀ n < 256, ∀ c ∈ (printHex 2 n).map Char.toUpper,
      digitValue c < 16 ∧ c ≠ '\x00' := by decide +kernel
  exact hall byte.toNat byte.isLt

theorem length_flatMap_printByte (bytes : List (BitVec 8)) :
    (bytes.flatMap printByte).length = 2 * bytes.length := by
  induction bytes with
  | nil => rfl
  | cons byte bytes ih =>
    rw [List.flatMap_cons, List.length_append, ih, length_printByte, List.length_cons]
    omega

/-- The number that the bytes below an index stand for. -/
def CpuAffinityMask.valueBelow : Nat → Nat
  | 0 => 0
  | i + 1 => 2 ^ (8 * i) * (m.byteAt i).toNat + valueBelow i

theorem sixteen_pow (k : Nat) : 16 ^ k = 2 ^ (4 * k) := by
  rw [Nat.pow_mul]

theorem digitsValue_printed (i : Nat) (doPrint : Bool) :
    digitsValue 16 ((m.printed i doPrint).flatMap printByte) = m.valueBelow i := by
  induction i generalizing doPrint with
  | zero => rfl
  | succ i ih =>
    rw [CpuAffinityMask.printed, CpuAffinityMask.valueBelow]
    split
    case isTrue =>
      have hpow : 16 ^ (2 * i) = 2 ^ (8 * i) := by
        rw [sixteen_pow, show 4 * (2 * i) = 8 * i by omega]
      rw [List.flatMap_cons, digitsValue_append, ih, digitsValue_printByte,
        length_flatMap_printByte, length_printed_true, hpow]
    case isFalse h =>
      have hbyte : m.byteAt i = 0 := by
        by_contra hne
        exact h (.inr (.inr hne))
      rw [ih, hbyte]
      simp

theorem valueBelow_lt (i : Nat) : m.valueBelow i < 2 ^ (8 * i) := by
  induction i with
  | zero => exact Nat.one_pos
  | succ i ih =>
    have hbyte := (m.byteAt i).isLt
    calc
      m.valueBelow (i + 1) < 2 ^ (8 * i) * ((m.byteAt i).toNat + 1) := by
        rw [CpuAffinityMask.valueBelow, Nat.mul_succ]
        omega
      _ ≤ 2 ^ (8 * i) * 2 ^ 8 := Nat.mul_le_mul_left _ hbyte
      _ = 2 ^ (8 * (i + 1)) := by rw [← Nat.pow_add, Nat.mul_succ]

theorem testBit_valueBelow (i j : Nat) :
    (m.valueBelow i).testBit j = (decide (j < 8 * i) && (m.byteAt (j / 8)).getLsbD (j % 8)) := by
  induction i with
  | zero => simp [CpuAffinityMask.valueBelow]
  | succ i ih =>
    rw [CpuAffinityMask.valueBelow, Nat.testBit_two_pow_mul_add _ (valueBelow_lt m i), ih]
    by_cases hlow : j < 8 * i
    · have hj : j < 8 * (i + 1) := by omega
      simp [hlow, hj]
    · rw [if_neg hlow, BitVec.testBit_toNat]
      by_cases hj : j < 8 * (i + 1)
      · have hdiv : j / 8 = i := by omega
        have hmod : j % 8 = j - 8 * i := by omega
        rw [hdiv, hmod]
        simp [hj]
      · rw [BitVec.getLsbD_of_ge _ _ (by omega)]
        simp [hj]

end Value

/-! ### The whole text -/

section Text

variable {n : Nat} {m : CpuAffinityMask} (buffer : Fin n → Char)

/-- The digits of the bytes for which there is room. -/
def maskText (m : CpuAffinityMask) (n : Nat) : List Char :=
  ((m.printed maskSetsize false).take ((n - 1) / 2)).flatMap printByte

theorem textBehind_nil : textBehind m n [] maskSetsize false = maskText m n := rfl

theorem mem_maskText : ∀ c ∈ maskText m n, digitValue c < 16 ∧ c ≠ '\x00' := by
  intro c hc
  obtain ⟨byte, -, hc⟩ := List.mem_flatMap.mp hc
  exact mem_printByte byte c hc

theorem affinityMaskStrR_eq :
    affinityMaskStrR m buffer = (do
      let s ← maskStrFrom m maskSetsize ⟨0, false, buffer⟩
      store s.buffer s.strIndex '\x00') := by
  rw [affinityMaskStrR, maskStrLoop_eq_from]
  rfl

theorem affinityMaskStrR_ok (hpos : 0 < n)
    (hfit : n % 2 = 1 ∨ 2 * (m.printed maskSetsize false).length < n) :
    ∃ b, affinityMaskStrR m buffer = .ok b ∧ maskText m n ++ ['\x00'] <+: List.ofFn b := by
  have hnil : [] <+: List.ofFn buffer := List.nil_prefix
  have hroom : n % 2 = 1 ∨
      ([] : List Char).length + 2 * (m.printed maskSetsize false).length < n := by
    rwa [List.length_nil, Nat.zero_add]
  obtain ⟨s, hloop, hindex, hlt, htext⟩ := maskStrFrom_ok le_rfl hnil rfl hpos (by decide) hroom
  rw [textBehind_nil] at hindex htext
  rw [hindex] at hlt
  obtain ⟨b, hstore, hb⟩ := store_prefix (c := '\x00') htext hlt
  refine ⟨b, ?_, hb⟩
  rw [List.length_nil] at hloop
  rw [affinityMaskStrR_eq, hloop, ok_bind, hindex, hstore]

theorem affinityMaskStrR_error (hpos : 0 < n) (heven : n % 2 = 0)
    (hfull : n ≤ 2 * (m.printed maskSetsize false).length) :
    affinityMaskStrR m buffer = .error .outOfBounds := by
  have hnil : [] <+: List.ofFn buffer := List.nil_prefix
  have hroom : n ≤ ([] : List Char).length + 2 * (m.printed maskSetsize false).length := by
    rwa [List.length_nil, Nat.zero_add]
  have hloop := maskStrFrom_error le_rfl hnil rfl hpos (by decide) heven hroom
  rw [List.length_nil] at hloop
  rw [affinityMaskStrR_eq, hloop, error_bind]

/-- What is in the buffer when the text and its NUL are in front. -/
theorem cString_of_text {b : Fin n → Char} {text : List Char} (htext : ∀ c ∈ text, c ≠ '\x00')
    (h : text ++ ['\x00'] <+: List.ofFn b) :
    cString (List.ofFn b) = text ∧ ∃ i, b i = '\x00' := by
  obtain ⟨rest, hrest⟩ := h
  constructor
  · rw [← hrest, cString, List.append_assoc, List.takeWhile_append_of_pos (by simpa using htext)]
    simp
  · have hmem : '\x00' ∈ List.ofFn b := by simp [← hrest]
    exact List.mem_ofFn.mp hmem

end Text

/-! ### Safe and complete -/

section Prints

variable {n : Nat} (m : CpuAffinityMask) (buffer : Fin n → Char)
  (static : Fin (maskSetsize + 1) → Char)

/-- The buffer has room for the digits with a NUL behind each two of them. -/
def HasMaskRoom (n : Nat) (m : CpuAffinityMask) : Prop :=
  n % 2 = 1 ∨
    10 ≤ n ∧ ∀ cpu : LogicalCpu, getAffinityMaskBit cpu m = true → 2 * (cpu.val / 8) + 4 ≤ n

theorem hasMaskRoom_iff :
    HasMaskRoom n m ↔ n % 2 = 1 ∨ 2 * (m.printed maskSetsize false).length < n := by
  by_cases hodd : n % 2 = 1
  · simp [HasMaskRoom, hodd]
  · rw [HasMaskRoom, or_iff_right hodd, or_iff_right hodd]
    have hfour : 4 ≤ (m.printed maskSetsize false).length := le_length_printed m maskSetsize false
    by_cases hten : 10 ≤ n
    · have hcpus := length_printed_le_iff_cpus m (show 4 ≤ n / 2 - 1 by omega)
      constructor
      · intro ⟨_, hroom⟩
        have := hcpus.mpr fun cpu hget => by
          have := hroom cpu hget
          omega
        omega
      · intro hlt
        refine ⟨hten, fun cpu hget => ?_⟩
        have := hcpus.mp (by omega) cpu hget
        omega
    · constructor
      · exact fun h => absurd h.1 hten
      · intro hlt
        omega

theorem affinityMaskStrR_safe_iff (hpos : 0 < n) :
    (∃ b, affinityMaskStrR m buffer = .ok b ∧ ∃ i, b i = '\x00') ↔ HasMaskRoom n m := by
  rw [hasMaskRoom_iff]
  constructor
  · intro ⟨b, hb, _⟩
    by_contra hfull
    have hodd : n % 2 ≠ 1 := fun h => hfull (.inl h)
    rw [affinityMaskStrR_error buffer hpos (by omega)
      (Nat.not_lt.mp fun h => hfull (.inr h))] at hb
    cases hb
  · intro hfit
    obtain ⟨b, hb, htext⟩ := affinityMaskStrR_ok buffer hpos hfit
    exact ⟨b, hb, (cString_of_text (fun c hc => (mem_maskText c hc).2) htext).2⟩

/-- The static buffer has room for the digits of the lower half of the bytes. -/
theorem affinityMaskStr_eq : ∃ b, affinityMaskStr m static = .ok b ∧
    cString (List.ofFn b) = ((m.printed maskSetsize false).take 4096).flatMap printByte := by
  obtain ⟨b, hb, htext⟩ := affinityMaskStrR_ok static (m := m) (by decide) (.inl (by decide))
  exact ⟨b, hb, (cString_of_text (fun c hc => (mem_maskText c hc).2) htext).1⟩

/-- The bits of a number are those of a mask. -/
def StandsFor (value : Nat) (m : CpuAffinityMask) : Prop :=
  ∀ i, value.testBit i = true ↔ ∃ h : i < 2 ^ 16, getAffinityMaskBit ⟨i, h⟩ m = true

theorem standsFor_valueBelow : StandsFor (m.valueBelow maskSetsize) m := by
  intro i
  rw [testBit_valueBelow, Bool.and_eq_true, decide_eq_true_iff]
  constructor
  · intro ⟨hlt, hbit⟩
    exact ⟨hlt, by rwa [getAffinityMaskBit_eq_byteAt]⟩
  · intro ⟨hlt, hget⟩
    rw [getAffinityMaskBit_eq_byteAt] at hget
    exact ⟨hlt, hget⟩

theorem standsFor_maskText_iff :
    StandsFor (digitsValue 16 (((m.printed maskSetsize false).take 4096).flatMap printByte)) m ↔
      ∀ cpu : LogicalCpu, getAffinityMaskBit cpu m = true → cpu.val < 32768 := by
  constructor
  · intro hstands cpu hget
    by_contra hle
    have hdigits : ∀ c ∈ ((m.printed maskSetsize false).take 4096).flatMap printByte,
        digitValue c < 16 := by
      intro c hc
      obtain ⟨byte, -, hc⟩ := List.mem_flatMap.mp hc
      exact (mem_printByte byte c hc).1
    have hlen : (((m.printed maskSetsize false).take 4096).flatMap printByte).length ≤ 8192 := by
      rw [length_flatMap_printByte, List.length_take]
      omega
    have hlt : digitsValue 16 (((m.printed maskSetsize false).take 4096).flatMap printByte) <
        2 ^ cpu.val :=
      calc
        _ < 16 ^ _ := digitsValue_lt hdigits
        _ = 2 ^ (4 * _) := sixteen_pow _
        _ ≤ 2 ^ cpu.val := Nat.pow_le_pow_right (by decide) (by omega)
    have hbit := (hstands cpu.val).mpr ⟨cpu.isLt, hget⟩
    rw [Nat.testBit_eq_false_of_lt hlt] at hbit
    cases hbit
  · intro hcpus
    have hlen : (m.printed maskSetsize false).length ≤ 4096 :=
      (length_printed_le_iff_cpus m (by decide)).mpr fun cpu hget => by
        have := hcpus cpu hget
        omega
    rw [List.take_of_length_le hlen, digitsValue_printed]
    exact standsFor_valueBelow m

end Prints

section PrintsMask

variable {n : Nat} (writes : List (LogicalCpu × Bool)) (m : CpuAffinityMask)
  (buffer : Fin n → Char) (static : Fin (maskSetsize + 1) → Char)

/-- A mask after some calls that set and clear bits prints safely into a buffer and completely into
the static one. -/
structure PrintsMask : Prop where
  written (cpu : LogicalCpu) : getAffinityMaskBit cpu (writeAffinityMask writes m) =
    (lastWritten writes cpu).getD (getAffinityMaskBit cpu m)
  safe : ∃ b, affinityMaskStrR (writeAffinityMask writes m) buffer = .ok b ∧ ∃ i, b i = '\x00'
  complete : ∃ b, affinityMaskStr (writeAffinityMask writes m) static = .ok b ∧
    StandsFor (digitsValue 16 (cString (List.ofFn b))) (writeAffinityMask writes m)

/-- This holds when the buffer has room and no logical CPU of the mask is past the lower half. -/
theorem printsMask_iff (hpos : 1 ≤ n) :
    PrintsMask writes m buffer static ↔
      HasMaskRoom n (writeAffinityMask writes m) ∧
        ∀ cpu : LogicalCpu, getAffinityMaskBit cpu (writeAffinityMask writes m) = true →
          cpu.val < 32768 := by
  obtain ⟨b, hb, htext⟩ := affinityMaskStr_eq (writeAffinityMask writes m) static
  rw [← affinityMaskStrR_safe_iff _ buffer hpos, ← standsFor_maskText_iff, ← htext]
  constructor
  · intro h
    obtain ⟨b', hb', hstands⟩ := h.complete
    obtain rfl : b = b' := Except.ok.inj (hb.symm.trans hb')
    exact ⟨h.safe, hstands⟩
  · intro ⟨hsafe, hstands⟩
    exact ⟨fun cpu => getAffinityMaskBit_writes writes cpu m, hsafe, b, hb, hstands⟩

/-- The mask of the first logical CPU in a buffer for its digits. -/
theorem printsMask_iff_firstCpu :
    PrintsMask [(0, true)] initAffinityMask (fun _ : Fin 9 => ' ') (fun _ => ' ') := by
  refine (printsMask_iff _ _ _ _ (by decide)).mpr ⟨.inl rfl, fun cpu hget => ?_⟩
  rw [getAffinityMaskBit_writes] at hget
  by_cases hcpu : 0 = cpu
  · simp [← hcpu]
  · simp [lastWritten, hcpu] at hget

/-- Two digits fit in a buffer of two characters and their NUL does not.  The digits of the logical
CPU 32768 do not fit in the static buffer with the digits of all bytes below. -/
theorem not_printsMask : ¬PrintsMask [] initAffinityMask (fun _ : Fin 2 => ' ') (fun _ => ' ') ∧
    ¬PrintsMask [(32768, true)] initAffinityMask (fun _ : Fin 9 => ' ') (fun _ => ' ') := by
  constructor
  · intro h
    rcases (affinityMaskStrR_safe_iff _ _ (by decide)).mp h.safe with hodd | ⟨hten, -⟩
    · cases hodd
    · exact absurd hten (by decide)
  · intro h
    obtain ⟨b, hb, htext⟩ := affinityMaskStr_eq (writeAffinityMask [(32768, true)] initAffinityMask)
      fun _ => ' '
    obtain ⟨b', hb', hstands⟩ := h.complete
    obtain rfl : b = b' := Except.ok.inj (hb.symm.trans hb')
    rw [htext, standsFor_maskText_iff] at hstands
    have hlt := hstands 32768 (by rw [getAffinityMaskBit_writes]; rfl)
    exact absurd hlt (by decide)

end PrintsMask

end LibCpuid
