import LibCpuid.ApicIds
import LibCpuid.IdentifyFlags

/-! The registers on which the decoders of the core counts divide by nothing that is zero and give
at least one core and one logical CPU. -/

namespace LibCpuid

open CLang

/-! ### Registers -/

/-- The flag of hyper-threading: bit 28 of EDX in leaf 1. -/
def htFlag (raw : CpuRawData) : Bool :=
  decide (1 ≤ (raw.basicCpuid 0).eax.toNat) && decide ((raw.basicCpuid 1).edx &&& 1#32 <<< 28 ≠ 0)

/-- The number of logical CPUs in leaf 1. -/
def leaf1LogicalCpus (raw : CpuRawData) : Nat := ((raw.basicCpuid 1).ebx.toNat >>> 16) &&& 0xff

/-- The number of cores in leaf 4. -/
def leaf4Cores (raw : CpuRawData) : Nat := 1 + (((raw.basicCpuid 4).eax.toNat >>> 26) &&& 0x3f)

/-- The number of cores in leaf 80000008h. -/
def extLeaf8Cores (raw : CpuRawData) : Nat := 1 + ((raw.extCpuid 8).ecx.toNat &&& 0xff)

/-- The number of threads of a core in leaf 8000001Eh. -/
def threadsPerCore (raw : CpuRawData) : Nat := (((raw.extCpuid 30).ebx.toNat >>> 8) &&& 0xff) + 1

/-- The extended family, which `cpuid_basic_identify` takes from leaf 1. -/
def basicExtFamily (raw : CpuRawData) : Int :=
  if (raw.basicCpuid 0).eax.toInt ≥ 1 then
    (decodeSignature (raw.basicCpuid 1).eax (cpuidVendorIdentify (raw.basicCpuid 0))
      cpuIdConstructor.x86).extFamily
  else 0

/-- The count of the last level of a type that leaf 11 describes. -/
def levelCount (leaves : List Regs) (type : Nat) : Option Nat :=
  ((liveLevels leaves).filter fun r => levelType r = type).getLast?.map fun r =>
    extractsBits r.ebx 15 0

/-- Leaf 1 has a logical CPU when leaf 4 has more than one core. -/
def LegacyCountsPositive (raw : CpuRawData) : Prop :=
  htFlag raw = true → 4 ≤ (raw.basicCpuid 0).eax.toNat → 1 < leaf4Cores raw →
    leaf1LogicalCpus raw ≠ 0

/-- Leaf 11 has neither zero threads nor zero logical CPUs, and the older leaves count where it has
no SMT level or no core level. -/
def IntelCountsPositive (raw : CpuRawData) : Prop :=
  match levelCount (List.ofFn raw.intelFn11) 1, levelCount (List.ofFn raw.intelFn11) 2 with
  | some smt, some core =>
    if 11 ≤ (raw.basicCpuid 0).eax.toNat then smt ≠ 0 ∧ core ≠ 0 else LegacyCountsPositive raw
  | _, _ => LegacyCountsPositive raw

/-- Leaf 1 has a logical CPU when leaf 80000008h has more than one core, and from family 17h on a
core has no more threads than there are cores. -/
def AmdCountsPositive (raw : CpuRawData) : Prop :=
  htFlag raw = true → 8 ≤ (raw.extCpuid 0).eax.toNat → 1 < extLeaf8Cores raw →
    leaf1LogicalCpus raw ≠ 0 ∧
      (23 ≤ basicExtFamily raw → 30 ≤ (raw.extCpuid 0).eax.toNat →
        threadsPerCore raw ≤ extLeaf8Cores raw)

/-- The registers on which the decoder of the vendor counts at least one core and one logical
CPU. -/
def DecodedCountsPositive (raw : CpuRawData) : Prop :=
  match cpuidVendorIdentify (raw.basicCpuid 0) with
  | .intel => IntelCountsPositive raw
  | .amd | .hygon => AmdCountsPositive raw
  | .centaur => LegacyCountsPositive raw
  | _ => True

/-! ### The counts of a record -/

/-- At least one core and one logical CPU. -/
def CpuId.CountsPositive (data : CpuId) : Prop := 1 ≤ data.numCores ∧ 1 ≤ data.numLogicalCpus

section Counts

variable {raw : CpuRawData} {data : CpuId}

theorem decodeNumberOfCoresX86_positive (hht : data.flags .ht = htFlag raw) :
    (decodeNumberOfCoresX86 raw data).CountsPositive ↔ LegacyCountsPositive raw := by
  simp only [decodeNumberOfCoresX86, LegacyCountsPositive, CpuId.CountsPositive, ← hht, leaf4Cores,
    leaf1LogicalCpus]
  generalize (raw.basicCpuid 0).eax.toNat = basic
  generalize ((raw.basicCpuid 1).ebx.toNat >>> 16) &&& 0xff = logicalCpus
  generalize ((raw.basicCpuid 4).eax.toNat >>> 26) &&& 0x3f = cores
  cases hflag : data.flags .ht with
  | false =>
    simp only [Bool.false_eq_true, if_false, false_imp_iff, iff_true]
    constructor <;> split <;> omega
  | true =>
    have hpos : ∀ n : Int, 1 ≤ if n ≥ 1 then n else 1 := by
      intro n
      split <;> omega
    simp only [if_true, true_imp_iff]
    by_cases h4 : 4 ≤ basic
    · rw [if_pos (show basic ≥ 1 ∧ basic ≥ 4 by omega), if_pos (show basic ≥ 1 by omega)]
      by_cases hmany : 1 < 1 + cores
      · rw [if_pos (by omega)]
        dsimp only
        omega
      · rw [if_neg (by omega)]
        exact iff_of_true ⟨le_rfl, hpos _⟩ fun _ h => absurd h hmany
    · rw [if_neg (show ¬(basic ≥ 1 ∧ basic ≥ 4) by omega), if_neg (show ¬(-1 : Int) > 1 by omega)]
      exact iff_of_true ⟨le_rfl, hpos _⟩ fun h => absurd h h4

theorem decodeAmdNumberOfCores_positive (hht : data.flags .ht = htFlag raw)
    (hfamily : data.x86.extFamily = basicExtFamily raw) :
    (decodeAmdNumberOfCores raw data).CountsPositive ↔ AmdCountsPositive raw := by
  simp only [decodeAmdNumberOfCores, AmdCountsPositive, CpuId.CountsPositive, ← hht, ← hfamily,
    extLeaf8Cores, threadsPerCore, leaf1LogicalCpus]
  generalize hbasic : (raw.basicCpuid 0).eax.toNat = basic
  generalize (raw.extCpuid 0).eax.toNat = ext
  generalize ((raw.basicCpuid 1).ebx.toNat >>> 16) &&& 0xff = logicalCpus
  generalize (raw.extCpuid 8).ecx.toNat &&& 0xff = cores
  generalize ((raw.extCpuid 30).ebx.toNat >>> 8) &&& 0xff = threads
  cases hflag : data.flags .ht with
  | false =>
    simp only [Bool.false_eq_true, if_false, false_imp_iff, iff_true]
    exact ⟨le_rfl, le_rfl⟩
  | true =>
    have h1 : 1 ≤ basic := by
      rw [hflag, htFlag, hbasic] at hht
      exact of_decide_eq_true (Bool.and_eq_true_iff.mp hht.symm).1
    have hpos : ∀ n : Int, 1 ≤ if n ≥ 2 then n else 2 := by
      intro n
      split <;> omega
    simp only [if_true, true_imp_iff]
    by_cases h8 : 8 ≤ ext
    · rw [if_pos (show basic ≥ 1 ∧ ext ≥ 8 from ⟨h1, h8⟩), if_pos (show basic ≥ 1 from h1)]
      by_cases hmany : 1 < 1 + cores
      · rw [if_pos (by omega)]
        dsimp only
        by_cases hsmt : data.x86.extFamily ≥ 23 ∧ ext ≥ 30
        · rw [if_pos hsmt, Int.le_ediv_iff_mul_le (by omega)]
          omega
        · rw [if_neg hsmt]
          omega
      · rw [if_neg (by omega)]
        exact iff_of_true ⟨le_rfl, hpos _⟩ fun _ h => absurd h hmany
    · rw [if_neg (show ¬(basic ≥ 1 ∧ ext ≥ 8) from fun h => h8 h.2),
        if_neg (show ¬(-1 : Int) > 1 by omega)]
      exact iff_of_true ⟨le_rfl, hpos _⟩ fun h => absurd h h8

theorem levelCount_cons (regs : Regs) (leaves : List Regs) (type : Nat) :
    levelCount (regs :: leaves) type =
      if LiveLevel regs then
        if levelType regs = type then
          some ((levelCount leaves type).getD (extractsBits regs.ebx 15 0))
        else levelCount leaves type
      else none := by
  rw [levelCount, liveLevels_cons]
  by_cases hlive : LiveLevel regs
  · rw [if_pos hlive, if_pos hlive]
    by_cases htype : levelType regs = type
    · rw [if_pos htype, List.filter_cons_of_pos (by simpa using htype), List.getLast?_cons,
        levelCount]
      cases ((liveLevels leaves).filter fun r => levelType r = type).getLast? <;> rfl
    · rw [if_neg htype, List.filter_cons_of_neg (by simpa using htype)]
      rfl
  · rw [if_neg hlive, if_neg hlive]
    rfl

/-- The counts of leaf 11 are those of the last level of each type. -/
theorem extendedTopologyCounts_eq (leaves : List Regs) (smt core : Int) :
    extendedTopologyCounts leaves (smt, core) =
      ((levelCount leaves 1).elim smt (↑), (levelCount leaves 2).elim core (↑)) := by
  induction leaves generalizing smt core with
  | nil => rfl
  | cons regs leaves ih =>
    simp only [levelCount_cons]
    by_cases hlive : LiveLevel regs
    · rw [extendedTopologyCounts, if_pos (show regs.eax ≠ 0 ∧ regs.ebx ≠ 0 from hlive),
        if_pos hlive, if_pos hlive]
      dsimp only
      rw [← levelType]
      split
      case h_1 h1 =>
        rw [ih, h1, if_pos rfl, if_neg (by decide)]
        cases levelCount leaves 1 <;> rfl
      case h_2 h2 =>
        rw [ih, h2, if_pos rfl, if_neg (by decide)]
        cases levelCount leaves 2 <;> rfl
      case h_3 h1 h2 => rw [ih, if_neg h1, if_neg h2]
    · rw [extendedTopologyCounts, if_neg (show ¬(regs.eax ≠ 0 ∧ regs.ebx ≠ 0) from hlive),
        if_neg hlive, if_neg hlive]
      rfl

theorem decodeIntelNumberOfCores_positive (hht : data.flags .ht = htFlag raw) :
    (∃ data', decodeIntelNumberOfCores raw data = .ok data' ∧ data'.CountsPositive) ↔
      IntelCountsPositive raw := by
  have hlegacy : (∃ data', (.ok (decodeNumberOfCoresX86 raw data) : Checked CpuId) = .ok data' ∧
      data'.CountsPositive) ↔ LegacyCountsPositive raw := by
    rw [← decodeNumberOfCoresX86_positive hht]
    simp
  rw [decodeIntelNumberOfCores, decodeIntelExtendedTopology, extendedTopologyCounts_eq,
    IntelCountsPositive]
  by_cases h11 : 11 ≤ (raw.basicCpuid 0).eax.toNat
  · rw [if_neg (Nat.not_lt.mpr h11)]
    cases levelCount (List.ofFn raw.intelFn11) 1 with
    | none => exact hlegacy
    | some smt =>
      cases levelCount (List.ofFn raw.intelFn11) 2 with
      | none =>
        dsimp only [Option.elim]
        rw [if_pos (.inr rfl)]
        exact hlegacy
      | some core =>
        dsimp only [Option.elim]
        rw [if_neg (by omega), if_pos h11]
        by_cases hsmt : smt = 0
        · rw [if_pos (by omega)]
          simp [hsmt]
        · rw [if_neg (by omega)]
          simp only [ok_bind, Except.ok.injEq, exists_eq_left', CpuId.CountsPositive, hsmt, ne_eq,
            not_false_eq_true, true_and]
          have hcores : ∀ n : Int, 1 ≤ if n ≤ 0 then 1 else n := by
            intro n
            split <;> omega
          rw [and_iff_right (hcores _)]
          omega
  · rw [if_pos (Nat.not_le.mp h11)]
    rw [hlegacy]
    split
    · rw [if_neg h11]
    · exact Iff.rfl

end Counts

/-! ### The record of a vendor -/

section Vendors

variable {host : Host} {raw : CpuRawData} {data data' : CpuId} {internal : InternalIdInfo}

theorem loadFeaturesCommon_ht (raw : CpuRawData) (data : CpuId) :
    (loadFeaturesCommon raw data).flags .ht = (data.flags .ht || htFlag raw) := by
  unfold loadFeaturesCommon
  rw [guessSseSize_flags]
  simp (disch := decide) only [apply_ite CpuId.flags, ite_apply, matchFeatures_flag_of_notMem,
    matchFeatures_flags _ (raw.basicCpuid 1).edx, ite_self]
  by_cases h1 : (raw.basicCpuid 0).eax.toNat ≥ 1 <;> simp [h1, htFlag]

/-- The record that the decoder of the vendor starts from. -/
def basicRecord (host : Host) (raw : CpuRawData) : CpuId :=
  (cpuidBasicIdentify host raw { cpuIdConstructor with architecture := .x86 }).2

theorem basicRecord_ht (hvendor : cpuidVendorIdentify (raw.basicCpuid 0) ≠ .unknown) :
    (basicRecord host raw).flags .ht = htFlag raw := by
  unfold basicRecord cpuidBasicIdentify
  dsimp only
  rw [if_neg hvendor]
  dsimp only
  rw [loadFeaturesCommon_ht]
  split <;> split <;> rfl

theorem guessSseSize_extFamily (data : CpuId) :
    (guessSseSize data).x86.extFamily = data.x86.extFamily := by
  unfold guessSseSize
  split
  · split <;> rfl
  · rfl

theorem loadFeaturesCommon_extFamily (raw : CpuRawData) (data : CpuId) :
    (loadFeaturesCommon raw data).x86.extFamily = data.x86.extFamily := by
  have hmatch := fun rows reg d =>
    @matchFeatures_frame _ (fun d : CpuId => d.x86.extFamily) (fun _ _ => rfl) rows reg d
  unfold loadFeaturesCommon
  rw [guessSseSize_extFamily]
  simp only [apply_ite fun d : CpuId => d.x86.extFamily, hmatch, ite_self]

theorem basicRecord_extFamily (hvendor : cpuidVendorIdentify (raw.basicCpuid 0) ≠ .unknown) :
    (basicRecord host raw).x86.extFamily = basicExtFamily raw := by
  unfold basicRecord cpuidBasicIdentify basicExtFamily
  dsimp only
  rw [if_neg hvendor]
  dsimp only
  rw [loadFeaturesCommon_extFamily]
  split <;> split <;> rfl

theorem loadIntelFeatures_ht (raw : CpuRawData) (data : CpuId) :
    (loadIntelFeatures raw data).flags .ht = data.flags .ht := by
  simp (disch := decide) only [loadIntelFeatures, apply_ite CpuId.flags, ite_apply,
    matchFeatures_flag_of_notMem, ite_self]

theorem loadAmdFeatures_ht (raw : CpuRawData) (data : CpuId) :
    (loadAmdFeatures raw data).flags .ht = data.flags .ht := by
  simp (disch := decide) only [loadAmdFeatures, apply_ite CpuId.flags, ite_apply,
    matchFeatures_flag_of_notMem, ite_self]

theorem loadAmdFeatures_extFamily (raw : CpuRawData) (data : CpuId) :
    (loadAmdFeatures raw data).x86.extFamily = data.x86.extFamily := by
  have hmatch := fun rows reg d =>
    @matchFeatures_frame _ (fun d : CpuId => d.x86.extFamily) (fun _ _ => rfl) rows reg d
  simp only [loadAmdFeatures, apply_ite fun d : CpuId => d.x86.extFamily, hmatch, ite_self]

theorem decodeIntelSgxFeatures_positive (host : Host) (raw : CpuRawData) (data : CpuId) :
    (decodeIntelSgxFeatures host raw data).CountsPositive ↔ data.CountsPositive := by
  unfold decodeIntelSgxFeatures
  dsimp only
  split <;> exact Iff.rfl

theorem matchCpuCodename_positive (rows : List MatchEntry) (data : CpuId) :
    (matchCpuCodename rows data).2.CountsPositive ↔ data.CountsPositive := Iff.rfl

/-- Whether a decoder divides by zero and what it counts. -/
def Counts (x : Checked (CpuId × InternalIdInfo)) : Prop :=
  Avoids .divByZero x ∧ ∀ s, x = .ok s → s.1.CountsPositive

theorem counts_ok {s : CpuId × InternalIdInfo} : Counts (.ok s) ↔ s.1.CountsPositive := by
  simp [Counts]

theorem cpuidIdentifyIntel_counts (hht : data.flags .ht = htFlag raw)
    (hfit : 4 ≤ (raw.basicCpuid 0).eax.toNat → CacheLeavesFit raw.intelFn4) :
    Counts (cpuidIdentifyIntel host raw data internal) ↔ IntelCountsPositive raw := by
  obtain ⟨⟨d1, internal1⟩, hcaches⟩ :=
    (decodeIntelCaches_returns (loadIntelFeatures raw data) internal).mpr hfit
  have hht1 : d1.flags .ht = htFlag raw := by
    rw [decodeIntelCaches_flags hcaches, loadIntelFeatures_ht, hht]
  rw [← decodeIntelNumberOfCores_positive hht1, cpuidIdentifyIntel]
  dsimp only
  rw [hcaches, ok_bind]
  cases hcores : decodeIntelNumberOfCores raw d1 with
  | error f =>
    obtain rfl := decodeIntelNumberOfCores_error hcores
    simp [Counts, Avoids]
  | ok d2 =>
    rw [ok_bind, counts_ok]
    simp only [Except.ok.injEq, exists_eq_left']
    split
    · rw [decodeIntelSgxFeatures_positive, matchCpuCodename_positive]
      exact Iff.rfl
    · rw [matchCpuCodename_positive]
      exact Iff.rfl

theorem cpuidIdentifyAmd_counts (hht : data.flags .ht = htFlag raw)
    (hfamily : data.x86.extFamily = basicExtFamily raw) (hends : AmdPurposeEnds raw) :
    Counts (cpuidIdentifyAmd raw data internal) ↔ AmdCountsPositive raw := by
  obtain ⟨⟨d1, internal1⟩, hcaches⟩ := decodeAmdCaches_ok raw (loadAmdFeatures raw data) internal
  obtain ⟨purpose, hpurpose⟩ : ∃ purpose, cpuidIdentifyPurposeAmd raw = .ok purpose := by
    obtain ⟨s, hs⟩ : ∃ s, cpuidIdentifyAmd raw data internal = .ok s :=
      cpuidIdentifyAmd_returns.mpr hends
    obtain ⟨_, -, hs⟩ := bind_eq_ok.mp hs
    obtain ⟨purpose, hpurpose, -⟩ := bind_eq_ok.mp hs
    exact ⟨purpose, hpurpose⟩
  have hht1 : d1.flags .ht = htFlag raw := by
    rw [decodeAmdCaches_frame (f := CpuId.flags) (fun _ _ _ _ => rfl) hcaches, loadAmdFeatures_ht,
      hht]
  have hfamily1 : d1.x86.extFamily = basicExtFamily raw := by
    rw [decodeAmdCaches_frame (f := CpuId.x86) (fun _ _ _ _ => rfl) hcaches,
      loadAmdFeatures_extFamily, hfamily]
  rw [← decodeAmdNumberOfCores_positive hht1 hfamily1, cpuidIdentifyAmd]
  dsimp only
  rw [hcaches, ok_bind]
  dsimp only
  rw [hpurpose, ok_bind, counts_ok, matchCpuCodename_positive]
  exact Iff.rfl

theorem cpuidIdentifyCentaur_counts (hht : data.flags .ht = htFlag raw)
    (hfit : 4 ≤ (raw.basicCpuid 0).eax.toNat → CacheLeavesFit raw.intelFn4) :
    Counts (cpuidIdentifyCentaur raw data internal) ↔ LegacyCountsPositive raw := by
  obtain ⟨s, hs⟩ : ∃ s, cpuidIdentifyCentaur raw data internal = .ok s :=
    cpuidIdentifyCentaur_returns.mpr hfit
  obtain ⟨⟨d1, internal1⟩, hcaches, -⟩ := bind_eq_ok.mp hs
  have hht1 : d1.flags .ht = htFlag raw := by
    rw [decodeCentaurCaches_frame (f := CpuId.flags) (fun _ _ _ _ => rfl) hcaches, hht]
  rw [← decodeNumberOfCoresX86_positive hht1, cpuidIdentifyCentaur, hcaches, ok_bind]
  dsimp only
  rw [counts_ok, matchCpuCodename_positive]
  exact Iff.rfl

end Vendors

/-! ### `cpu_identify` -/

/-- No division by zero happens while `cpu_identify` decodes a processor, and a record that it gives
has at least one core and one logical CPU. -/
def CoreCountsPositive (host : Host) (raw : CpuRawData) : Prop :=
  Avoids .divByZero (cpuIdentify host raw) ∧
    ∀ r data, cpuIdentify host raw = .ok (r, data) → data.CountsPositive

theorem cpuIdentify_avoids {host : Host} {raw : CpuRawData} :
    Avoids .outOfBounds (cpuIdentify host raw) ↔ IdentInBounds raw := by
  simp only [cpuIdentify, avoids_bind, cpuIdentInternal_avoids, avoids_ok, implies_true, and_true]

theorem coreCountsPositive_map {host : Host} {raw : CpuRawData}
    {x : Checked (CpuId × InternalIdInfo)}
    (h : cpuIdentify host raw = x.map fun s => (.ok, s.1)) :
    CoreCountsPositive host raw ↔ Counts x := by
  rw [CoreCountsPositive, h]
  cases x <;> simp [Except.map, Counts]

/-- The counts of a processor are positive, and decoding them divides by nothing that is zero,
exactly when the registers that they are taken from are consistent, unless the decoder leaves its
arrays and gives no record. -/
theorem coreCountsPositive_iff (host : Host) (raw : CpuRawData)
    (harch : cpuidArchitectureIdentify raw = .x86)
    (hvendor : cpuidVendorIdentify (raw.basicCpuid 0) ∈
      [CpuVendor.intel, .amd, .hygon, .centaur]) :
    CoreCountsPositive host raw ↔ (IdentInBounds raw → DecodedCountsPositive raw) := by
  have hknown : cpuidVendorIdentify (raw.basicCpuid 0) ≠ .unknown := by
    intro h
    rw [h] at hvendor
    exact absurd hvendor (by decide)
  by_cases hin : IdentInBounds raw
  · have hmap := @cpuIdentify_of_vendor host raw harch hknown
    have hht := @basicRecord_ht host raw hknown
    have hfamily := @basicRecord_extFamily host raw hknown
    have hbounds := hin harch
    simp only [hin, true_imp_iff, DecodedCountsPositive]
    simp only [List.mem_cons, List.not_mem_nil, or_false] at hvendor
    rcases hvendor with hv | hv | hv | hv <;> simp only [hv] at hmap hbounds ⊢
    · exact (coreCountsPositive_map hmap).trans (cpuidIdentifyIntel_counts hht hbounds)
    · exact (coreCountsPositive_map hmap).trans (cpuidIdentifyAmd_counts hht hfamily hbounds)
    · exact (coreCountsPositive_map hmap).trans (cpuidIdentifyAmd_counts hht hfamily hbounds)
    · exact (coreCountsPositive_map hmap).trans (cpuidIdentifyCentaur_counts hht hbounds)
  · have herr : cpuIdentify host raw = .error .outOfBounds :=
      not_not.mp (mt cpuIdentify_avoids.mp hin)
    refine iff_of_true ⟨?_, fun r data h => ?_⟩ fun h => absurd h hin
    · rw [herr, avoids_error]
      decide
    · rw [herr] at h
      cases h

theorem coreCountsPositive_iff_twoThreadLevels :
    CoreCountsPositive ⟨fun _ _ => .zero, 2⟩ (twoThreadLevels 0 []) ↔
      (IdentInBounds (twoThreadLevels 0 []) → DecodedCountsPositive (twoThreadLevels 0 [])) :=
  coreCountsPositive_iff _ _ (by decide) (by decide +kernel)

/-- A virtual machine whose leaf 11 has an SMT level with EBX not zero but no thread. -/
def zeroThreadLevels : CpuRawData := intelLevels [⟨1, 0x10000, 0x100, 0⟩, ⟨4, 16, 0x201, 0⟩]

/-- The number of cores is divided by zero. -/
theorem not_coreCountsPositive_zeroThreadLevels :
    cpuidArchitectureIdentify zeroThreadLevels = .x86 ∧
      cpuidVendorIdentify (zeroThreadLevels.basicCpuid 0) = .intel ∧
      ¬CoreCountsPositive ⟨fun _ _ => .zero, 1⟩ zeroThreadLevels := by
  have hrun : (match cpuIdentify ⟨fun _ _ => .zero, 1⟩ zeroThreadLevels with
      | .error .divByZero => true
      | _ => false) = true := by decide +kernel
  refine ⟨by decide, by decide +kernel, fun h => ?_⟩
  split at hrun
  · next herr => exact h.1 herr
  · cases hrun

end LibCpuid
