import LibCpuid.Types
import Mathlib.Data.Fintype.Card
import Mathlib.Data.List.Induction

/-! The affinity masks of `libcpuid_util.c`: one bit for each logical CPU, eight to a byte. -/

namespace LibCpuid

/-- `logical_cpu_t`. -/
abbrev LogicalCpu := Fin (2 ^ 16)

instance logicalCpu_neZero : NeZero (2 ^ 16) := ⟨by decide⟩

/-- The byte of a mask that holds the bit of a logical CPU. -/
def maskByte (logicalCpu : LogicalCpu) : Fin 8192 := ⟨logicalCpu / 8, by omega⟩

/-- The bit of a logical CPU in its byte. -/
def maskBit (logicalCpu : LogicalCpu) : BitVec 8 := 1#8 <<< (logicalCpu.val % 8)

/-- `init_affinity_mask`. -/
def initAffinityMask : CpuAffinityMask := ⟨fun _ => 0⟩

/-- `set_affinity_mask_bit`. -/
def setAffinityMaskBit (logicalCpu : LogicalCpu) (m : CpuAffinityMask) : CpuAffinityMask :=
  ⟨Function.update m.bits (maskByte logicalCpu)
    (m.bits (maskByte logicalCpu) ||| maskBit logicalCpu)⟩

/-- `clear_affinity_mask_bit`. -/
def clearAffinityMaskBit (logicalCpu : LogicalCpu) (m : CpuAffinityMask) : CpuAffinityMask :=
  ⟨Function.update m.bits (maskByte logicalCpu)
    (m.bits (maskByte logicalCpu) &&& ~~~maskBit logicalCpu)⟩

/-- `get_affinity_mask_bit`. -/
def getAffinityMaskBit (logicalCpu : LogicalCpu) (m : CpuAffinityMask) : Bool :=
  m.bits (maskByte logicalCpu) &&& maskBit logicalCpu ≠ 0

/-- The number of bits of a mask. -/
def CpuAffinityMask.count (m : CpuAffinityMask) : Nat :=
  (Finset.univ.filter fun i : LogicalCpu => getAffinityMaskBit i m).card

theorem maskBit_getLsbD (logicalCpu : LogicalCpu) (k : Nat) :
    (maskBit logicalCpu).getLsbD k = decide (k = logicalCpu.val % 8) := by
  have h8 : logicalCpu.val % 8 < 8 := Nat.mod_lt _ (by decide)
  rw [maskBit, BitVec.getLsbD_shiftLeft, BitVec.getLsbD_one]
  by_cases hk : k = logicalCpu.val % 8
  · simp [hk, h8]
  · by_cases hlt : k < logicalCpu.val % 8
    · simp [hlt, hk]
    · have : k - logicalCpu.val % 8 ≠ 0 := by omega
      simp [hlt, hk, this]

/-- A bit of a mask is a bit of one of its bytes. -/
theorem getAffinityMaskBit_eq (logicalCpu : LogicalCpu) (m : CpuAffinityMask) :
    getAffinityMaskBit logicalCpu m =
      (m.bits (maskByte logicalCpu)).getLsbD (logicalCpu.val % 8) := by
  have h8 : logicalCpu.val % 8 < 8 := Nat.mod_lt _ (by decide)
  cases hb : (m.bits (maskByte logicalCpu)).getLsbD (logicalCpu.val % 8) with
  | true =>
    have hne : m.bits (maskByte logicalCpu) &&& maskBit logicalCpu ≠ 0 := by
      intro h0
      have := congrArg (fun b : BitVec 8 => b.getLsbD (logicalCpu.val % 8)) h0
      simp [maskBit_getLsbD, hb] at this
    exact decide_eq_true hne
  | false =>
    have h0 : m.bits (maskByte logicalCpu) &&& maskBit logicalCpu = 0 := by
      apply BitVec.eq_of_getLsbD_eq
      intro k hk
      rw [BitVec.getLsbD_and, maskBit_getLsbD]
      by_cases hk8 : k = logicalCpu.val % 8
      · simp [hk8, hb]
      · simp [hk8]
    simp [getAffinityMaskBit, h0]

@[simp] theorem getAffinityMaskBit_init (logicalCpu : LogicalCpu) :
    getAffinityMaskBit logicalCpu initAffinityMask = false := by
  simp [getAffinityMaskBit_eq, initAffinityMask]

/-- Setting a bit changes no other bit. -/
theorem getAffinityMaskBit_set (i j : LogicalCpu) (m : CpuAffinityMask) :
    getAffinityMaskBit j (setAffinityMaskBit i m) = (decide (j = i) || getAffinityMaskBit j m) := by
  rw [getAffinityMaskBit_eq, getAffinityMaskBit_eq, setAffinityMaskBit]
  by_cases hbyte : maskByte j = maskByte i
  · simp only [hbyte, Function.update_self, BitVec.getLsbD_or, maskBit_getLsbD]
    have hdiv : j.val / 8 = i.val / 8 := congrArg Fin.val hbyte
    have hiff : j.val % 8 = i.val % 8 ↔ j = i := by
      rw [Fin.ext_iff]
      omega
    simp [hiff, Bool.or_comm]
  · have hne : j ≠ i := fun h => hbyte (h ▸ rfl)
    simp [Function.update_of_ne hbyte, hne]

/-- Clearing a bit changes no other bit. -/
theorem getAffinityMaskBit_clear (i j : LogicalCpu) (m : CpuAffinityMask) :
    getAffinityMaskBit j (clearAffinityMaskBit i m) =
      (!decide (j = i) && getAffinityMaskBit j m) := by
  have h8 : j.val % 8 < 8 := Nat.mod_lt _ (by decide)
  rw [getAffinityMaskBit_eq, getAffinityMaskBit_eq, clearAffinityMaskBit]
  by_cases hbyte : maskByte j = maskByte i
  · simp only [hbyte, Function.update_self, BitVec.getLsbD_and, BitVec.getLsbD_not,
      maskBit_getLsbD, h8, decide_true, Bool.true_and]
    have hdiv : j.val / 8 = i.val / 8 := congrArg Fin.val hbyte
    have hiff : j.val % 8 = i.val % 8 ↔ j = i := by
      rw [Fin.ext_iff]
      omega
    simp [hiff, Bool.and_comm]
  · have hne : j ≠ i := fun h => hbyte (h ▸ rfl)
    simp [Function.update_of_ne hbyte, hne]

/-! ### Sequences of writes -/

/-- A call that sets a bit, for `true`, or clears it. -/
def writeAffinityMaskBit (w : LogicalCpu × Bool) (m : CpuAffinityMask) : CpuAffinityMask :=
  if w.2 then setAffinityMaskBit w.1 m else clearAffinityMaskBit w.1 m

/-- The mask after some calls. -/
def writeAffinityMask (writes : List (LogicalCpu × Bool)) (m : CpuAffinityMask) :
    CpuAffinityMask :=
  writes.foldl (fun m w => writeAffinityMaskBit w m) m

/-- The last value that is written for a logical CPU. -/
def lastWritten (writes : List (LogicalCpu × Bool)) (logicalCpu : LogicalCpu) : Option Bool :=
  ((writes.filter (·.1 = logicalCpu)).getLast?).map Prod.snd

theorem getAffinityMaskBit_write (w : LogicalCpu × Bool) (j : LogicalCpu) (m : CpuAffinityMask) :
    getAffinityMaskBit j (writeAffinityMaskBit w m) =
      if w.1 = j then w.2 else getAffinityMaskBit j m := by
  obtain ⟨i, value⟩ := w
  by_cases h : i = j
  · cases value <;>
      simp [writeAffinityMaskBit, getAffinityMaskBit_set, getAffinityMaskBit_clear, h]
  · have h' : j ≠ i := Ne.symm h
    cases value <;>
      simp [writeAffinityMaskBit, getAffinityMaskBit_set, getAffinityMaskBit_clear, h, h']

/-- A bit is what was written last, or what it was before. -/
theorem getAffinityMaskBit_writes (writes : List (LogicalCpu × Bool)) (j : LogicalCpu)
    (m : CpuAffinityMask) : getAffinityMaskBit j (writeAffinityMask writes m) =
      (lastWritten writes j).getD (getAffinityMaskBit j m) := by
  induction writes using List.reverseRecOn with
  | nil => rfl
  | append_singleton writes w ih =>
    have hlast : writeAffinityMask (writes ++ [w]) m =
        writeAffinityMaskBit w (writeAffinityMask writes m) := by
      rw [writeAffinityMask, List.foldl_append]
      rfl
    rw [hlast, getAffinityMaskBit_write, ih, lastWritten, lastWritten, List.filter_append]
    by_cases h : w.1 = j
    · simp [h]
    · simp [h]

/-! ### The number of bits -/

/-- A mask with one more bit. -/
theorem count_setAffinityMaskBit {i : LogicalCpu} {m : CpuAffinityMask}
    (h : getAffinityMaskBit i m = false) : (setAffinityMaskBit i m).count = m.count + 1 := by
  have hset : (Finset.univ.filter fun j : LogicalCpu =>
      getAffinityMaskBit j (setAffinityMaskBit i m)) =
      insert i (Finset.univ.filter fun j : LogicalCpu => getAffinityMaskBit j m) := by
    ext j
    simp [getAffinityMaskBit_set]
  rw [CpuAffinityMask.count, hset, Finset.card_insert_of_notMem (by simp [h])]
  rfl

end LibCpuid
