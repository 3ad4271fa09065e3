import LibCpuid.CLang.Bits

/-! The macros `EXTRACTS_BIT` and `EXTRACTS_BITS` of `libcpuid_internal.h`. -/

namespace LibCpuid

open CLang

variable {w : Nat}

/-- `EXTRACTS_BIT(reg, bit)`. -/
def extractsBit (reg : BitVec w) (bit : Nat) : Nat := (reg.toNat >>> bit) &&& 1

/-- `EXTRACTS_BITS(reg, highbit, lowbit)`.  The mask fits in an `unsigned long long`, as the source
needs, when `highbit - lowbit` is below 63. -/
def extractsBits (reg : BitVec w) (highbit lowbit : Nat) : Nat :=
  (reg.toNat >>> lowbit) &&& ((1 <<< (highbit - lowbit + 1)) - 1)

theorem extractsBits_eq_field (reg : BitVec w) (highbit lowbit : Nat) :
    extractsBits reg highbit lowbit = field reg.toNat lowbit (highbit - lowbit + 1) :=
  shiftRight_and_mask _ _ _

theorem extractsBits_lt (reg : BitVec w) (highbit lowbit : Nat) :
    extractsBits reg highbit lowbit < 2 ^ (highbit - lowbit + 1) := by
  rw [extractsBits_eq_field]
  exact field_lt _ _ _

@[simp] theorem extractsBits_zero (highbit lowbit : Nat) :
    extractsBits (0 : BitVec w) highbit lowbit = 0 := by
  simp [extractsBits]

end LibCpuid
