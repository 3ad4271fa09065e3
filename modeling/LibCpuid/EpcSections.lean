import LibCpuid.HostIndependence
import Mathlib.Order.Bounds.Basic

/-! `cpuid_get_epc` against the number of sections that `decode_intel_sgx_features` counts with
it. -/

namespace LibCpuid

/-! ### The accessor -/

/-- `cpu_epc_t`. -/
structure CpuEpc where
  startAddr : BitVec 64
  length : BitVec 64
  deriving DecidableEq

/-- The sub-leaf that `cpuid_get_epc` decodes: of the raw data, or of the host when there is none. -/
def epcRegs (host : Host) (raw : CpuRawData) (index : Nat) : Regs :=
  if h : index < maxIntelFn12hLevel - 2 then raw.intelFn12h ⟨2 + index, epcSubleaf_lt h⟩
  else host.execCpuid 0x12 (.ofNat 32 (2 + index))

/-- `cpuid_get_epc`, on a raw that is given and an index that is not negative. -/
def cpuidGetEpc (host : Host) (raw : CpuRawData) (index : Nat) : CpuEpc :=
  let regs := epcRegs host raw index
  if regs.eax &&& 0xf = 1 then
    { startAddr :=
        (regs.eax &&& 0xfffff000).zeroExtend 64 ||| ((regs.ebx &&& 0x000fffff).zeroExtend 64 <<< 32)
      length :=
        (regs.ecx &&& 0xfffff000).zeroExtend 64 |||
          ((regs.edx &&& 0x000fffff).zeroExtend 64 <<< 32) }
  else { startAddr := 0, length := 0 }

/-- A sub-leaf that leaves both fields of a section zero. -/
def ReportsNothing (regs : Regs) : Prop :=
  regs.eax &&& 0xf = 1 →
    (regs.eax &&& 0xfffff000 = 0 ∧ regs.ebx &&& 0x000fffff = 0) ∧
      (regs.ecx &&& 0xfffff000 = 0 ∧ regs.edx &&& 0x000fffff = 0)

section Accessor

variable {host : Host} {raw : CpuRawData}

/-- The length is the one that the sections are counted with. -/
theorem cpuidGetEpc_length (host : Host) (raw : CpuRawData) (index : Nat) :
    (cpuidGetEpc host raw index).length = cpuidGetEpcLength host raw index := by
  unfold cpuidGetEpc cpuidGetEpcLength
  exact apply_ite CpuEpc.length ..

theorem cpuidGetEpc_length_ne_zero {index : Nat} :
    (cpuidGetEpc host raw index).length ≠ 0 ↔ DescribesSection (epcRegs host raw index) := by
  rw [cpuidGetEpc_length]
  exact cpuidGetEpcLength_ne_zero

theorem cpuidGetEpc_eq_zero {index : Nat} :
    cpuidGetEpc host raw index = { startAddr := 0, length := 0 } ↔
      ReportsNothing (epcRegs host raw index) := by
  unfold cpuidGetEpc ReportsNothing
  dsimp only
  split
  · next h1 =>
    rw [CpuEpc.mk.injEq, zeroExtend_or_shift_eq_zero, zeroExtend_or_shift_eq_zero,
      forall_prop_of_true h1]
  · next h1 => exact iff_of_true rfl fun h => absurd h h1

end Accessor

/-! ### The count -/

/-- The most sections that are counted. -/
def maxEpcSections : Nat := 1000000

/-- The loop of `decode_intel_sgx_features` stops at the first section from `i` on that is empty, or
when its iterations are used up. -/
theorem numEpcSections_isLeast (host : Host) (raw : CpuRawData) (i fuel : Nat) :
    IsLeast {n | i ≤ n ∧ (n = i + fuel ∨ cpuidGetEpcLength host raw n = 0)}
      (numEpcSections host raw i fuel) := by
  induction fuel generalizing i with
  | zero => exact ⟨⟨Nat.le_refl i, .inl rfl⟩, fun n hn => hn.1⟩
  | succ fuel ih =>
    unfold numEpcSections
    split
    · next hempty => exact ⟨⟨Nat.le_refl i, .inr hempty⟩, fun n hn => hn.1⟩
    · next hsection =>
      obtain ⟨⟨hle, hstop⟩, hleast⟩ := ih (i + 1)
      refine ⟨⟨by omega, hstop.imp_left (by omega)⟩, fun n hn => hleast ?_⟩
      obtain ⟨hn, hstop⟩ := hn
      have hne : n ≠ i := by
        rintro rfl
        rcases hstop with hend | hempty
        · omega
        · exact hsection hempty
      exact ⟨by omega, hstop.imp_left (by omega)⟩

/-! ### Enumeration -/

/-- The registers on which `decode_intel_sgx_features` decodes the sub-leaves. -/
def DecodesSgx (raw : CpuRawData) : Prop :=
  0x12 ≤ (raw.basicCpuid 0).eax.toNat ∧ (raw.basicCpuid 0x12).eax ≠ 0

/-- The sections are enumerated faithfully: the count is the number of consecutive indexes from 0
whose section is not empty, and the accessor gives a section for the indexes of the raw data below
the count and zeros for the others. -/
structure EnumeratesSections (host : Host) (raw : CpuRawData) (sgx : CpuSgx) : Prop where
  count : ∃ n : Nat, sgx.numEpcSections = n ∧
    IsLeast {n | n = maxEpcSections ∨ (cpuidGetEpc host raw n).length = 0} n
  inside : ∀ i < maxIntelFn12hLevel - 2, (i : Int) < sgx.numEpcSections →
    (cpuidGetEpc host raw i).length ≠ 0
  outside : ∀ i < maxIntelFn12hLevel - 2, sgx.numEpcSections ≤ i →
    cpuidGetEpc host raw i = { startAddr := 0, length := 0 }

/-- No sub-leaf of the raw data reports an address or a length at an empty section or after one. -/
structure NothingPastEmpty (raw : CpuRawData) : Prop where
  first : ¬DescribesSection (raw.intelFn12h 2) →
    ReportsNothing (raw.intelFn12h 2) ∧ ReportsNothing (raw.intelFn12h 3)
  second : ¬DescribesSection (raw.intelFn12h 3) → ReportsNothing (raw.intelFn12h 3)

section Enumeration

variable {host : Host} {raw : CpuRawData}

theorem decodeIntelSgxFeatures_count (host : Host) (h : DecodesSgx raw) (data : CpuId) :
    ∃ n : Nat, (decodeIntelSgxFeatures host raw data).x86.sgx.numEpcSections = n ∧
      IsLeast {n | n = maxEpcSections ∨ (cpuidGetEpc host raw n).length = 0} n := by
  refine ⟨numEpcSections host raw 0 maxEpcSections, ?_, ?_⟩
  · rw [decodeIntelSgxFeatures, if_neg fun hnot => ?_]
    · rfl
    · exact hnot.elim (Nat.not_lt.mpr h.1) h.2
  · have hleast := numEpcSections_isLeast host raw 0 maxEpcSections
    simpa only [Nat.zero_le, Nat.zero_add, true_and, ← cpuidGetEpc_length] using hleast

theorem epcRegs_zero (host : Host) (raw : CpuRawData) :
    epcRegs host raw 0 = raw.intelFn12h 2 := rfl

theorem epcRegs_one (host : Host) (raw : CpuRawData) :
    epcRegs host raw 1 = raw.intelFn12h 3 := rfl

/-- The count is at most `k` when one of the sections up to `k` is empty. -/
theorem count_le_iff {n k : Nat} (hk : k < maxEpcSections)
    (h : IsLeast {n | n = maxEpcSections ∨ (cpuidGetEpc host raw n).length = 0} n) :
    n ≤ k ↔ ∃ j ≤ k, ¬DescribesSection (epcRegs host raw j) := by
  simp only [← cpuidGetEpc_length_ne_zero, not_not]
  constructor
  · intro hle
    exact ⟨n, hle, h.1.resolve_left (by omega)⟩
  · rintro ⟨j, hj, hempty⟩
    exact (h.2 (.inr hempty)).trans hj

/-- The sections are enumerated faithfully exactly when nothing is reported past an empty one. -/
theorem enumeratesSections_iff (host : Host) {raw : CpuRawData} (h : DecodesSgx raw)
    (data : CpuId) :
    EnumeratesSections host raw (decodeIntelSgxFeatures host raw data).x86.sgx ↔
      NothingPastEmpty raw := by
  obtain ⟨n, hn, hleast⟩ := decodeIntelSgxFeatures_count host h data
  have hzero : n ≤ 0 ↔ ¬DescribesSection (raw.intelFn12h 2) := by
    rw [count_le_iff (by decide) hleast, ← epcRegs_zero host]
    simp
  have hone : n ≤ 1 ↔
      ¬DescribesSection (raw.intelFn12h 2) ∨ ¬DescribesSection (raw.intelFn12h 3) := by
    rw [count_le_iff (by decide) hleast, ← epcRegs_zero host, ← epcRegs_one host]
    simp [Nat.le_one_iff_eq_zero_or_eq_one]
  constructor
  · intro hfaithful
    have hnothing {i : Nat} (hi : i < maxIntelFn12hLevel - 2) (hle : n ≤ i) :
        ReportsNothing (epcRegs host raw i) :=
      cpuidGetEpc_eq_zero.mp (hfaithful.outside i hi (by rw [hn]; exact Int.ofNat_le.mpr hle))
    constructor
    · intro hempty
      have h0 := hzero.mpr hempty
      exact ⟨hnothing (by decide) h0, hnothing (i := 1) (by decide) (Nat.le_succ_of_le h0)⟩
    · intro hempty
      exact hnothing (i := 1) (by decide) (hone.mpr (.inr hempty))
  · intro hpacked
    refine ⟨⟨n, hn, hleast⟩, fun i _ hlt hempty => ?_, fun i hi hle => ?_⟩
    · rw [hn] at hlt
      exact absurd (hleast.2 (.inr hempty)) (by omega)
    · rw [hn] at hle
      rw [cpuidGetEpc_eq_zero]
      obtain rfl | rfl : i = 0 ∨ i = 1 := by
        have : maxIntelFn12hLevel - 2 = 2 := rfl
        omega
      · exact (hpacked.first (hzero.mp (by omega))).1
      · rcases hone.mp (by omega) with hempty | hempty
        · exact (hpacked.first hempty).2
        · exact hpacked.second hempty

end Enumeration

/-- A processor whose section 0 is empty, and whose section 1 is not. -/
def intelSecondSection : CpuRawData :=
  { CpuRawData.zero with
    basicCpuid := fun i =>
      if i = 0 then { eax := 0x12, ebx := 0x756e6547, ecx := 0x6c65746e, edx := 0x49656e69 }
      else if i = 7 then { eax := 0, ebx := 4, ecx := 0, edx := 0 }
      else if i = 0x12 then { eax := 1, ebx := 0, ecx := 0, edx := 0x241f }
      else .zero
    intelFn12h := fun i =>
      if i = 3 then { eax := 0x70200001, ebx := 0, ecx := 0x5d80001, edx := 0 } else .zero }

theorem enumeratesSections_iff_secondSection :
    EnumeratesSections .zero intelSecondSection
        (decodeIntelSgxFeatures .zero intelSecondSection cpuIdConstructor).x86.sgx ↔
      NothingPastEmpty intelSecondSection :=
  enumeratesSections_iff .zero ⟨by decide, by decide⟩ cpuIdConstructor

/-- Section 1 is given, though no section is counted. -/
theorem not_enumeratesSections_intelSecondSection :
    ¬EnumeratesSections .zero intelSecondSection
      (decodeIntelSgxFeatures .zero intelSecondSection cpuIdConstructor).x86.sgx := by
  intro h
  have hcount :
      (decodeIntelSgxFeatures .zero intelSecondSection cpuIdConstructor).x86.sgx.numEpcSections =
        0 := by decide +kernel
  have hzero := h.outside 1 (by decide) (by rw [hcount]; decide)
  revert hzero
  decide

end LibCpuid
