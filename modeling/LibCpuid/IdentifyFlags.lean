import LibCpuid.IdentifyBounds
import LibCpuid.IdentifyFrame

/-! The flags of a processor that the other decoders leave alone, and the registers on which the
Intel decoder gives a record at all. -/

namespace LibCpuid

open CLang

/-! ### Flags -/

theorem CpuId.setFlag_flags (data : CpuId) (set feature : CpuFeature) :
    (data.setFlag set).flags feature = (data.flags feature || decide (set = feature)) := by
  by_cases h : set = feature
  · simp [CpuId.setFlag, h]
  · simp [CpuId.setFlag, h, Ne.symm h]

/-- A table of features sets the flags whose bits are in the register. -/
theorem matchFeatures_flags (rows : List (Nat × CpuFeature)) (reg : BitVec 32) (data : CpuId)
    (feature : CpuFeature) :
    (matchFeatures rows reg data).flags feature =
      (data.flags feature ||
        rows.any fun row => decide (row.2 = feature) && decide (reg &&& (1#32 <<< row.1) ≠ 0)) := by
  unfold matchFeatures
  induction rows generalizing data with
  | nil => rw [List.foldl_nil, List.any_nil, Bool.or_false]
  | cons row rows ih =>
    rw [List.foldl_cons, ih, List.any_cons, ← Bool.or_assoc]
    congr 1
    split
    · next hreg => rw [CpuId.setFlag_flags, decide_eq_true hreg, Bool.and_true]
    · next hreg => rw [decide_eq_false hreg, Bool.and_false, Bool.or_false]

theorem matchFeatures_flag_of_notMem {rows : List (Nat × CpuFeature)} {feature : CpuFeature}
    (h : feature ∉ rows.map Prod.snd) (reg : BitVec 32) (data : CpuId) :
    (matchFeatures rows reg data).flags feature = data.flags feature := by
  rw [matchFeatures_flags, Bool.or_eq_left_iff_imp]
  simp only [List.any_eq_true, Bool.and_eq_true, decide_eq_true_eq]
  rintro ⟨row, hrow, rfl, -⟩
  exact absurd (List.mem_map_of_mem hrow) h

theorem decodeIntelCaches_flags {raw : CpuRawData} {data data' : CpuId}
    {internal internal' : InternalIdInfo}
    (h : decodeIntelCaches raw data internal = .ok (data', internal')) :
    data'.flags = data.flags :=
  decodeIntelCaches_frame (fun _ _ _ _ => rfl) h

/-- The count of cores clears the flag of hyper-threading and no other. -/
theorem decodeNumberOfCoresX86_flag {feature : CpuFeature} (h : feature ≠ .ht) (raw : CpuRawData)
    (data : CpuId) : (decodeNumberOfCoresX86 raw data).flags feature = data.flags feature := by
  simp only [decodeNumberOfCoresX86, apply_ite CpuId.flags, ite_apply, Function.update_of_ne h,
    ite_self]

theorem decodeIntelExtendedTopology_flags {raw : CpuRawData} {data data' : CpuId}
    (h : decodeIntelExtendedTopology raw data = .ok (some data')) : data'.flags = data.flags := by
  simp only [decodeIntelExtendedTopology] at h
  split at h
  · cases h
  · split at h
    · cases h
    · obtain rfl := Option.some.inj (Except.ok.inj h)
      rfl

theorem decodeIntelNumberOfCores_flag {feature : CpuFeature} (hne : feature ≠ .ht)
    {raw : CpuRawData} {data data' : CpuId}
    (h : decodeIntelNumberOfCores raw data = .ok data') :
    data'.flags feature = data.flags feature := by
  unfold decodeIntelNumberOfCores at h
  split at h
  · rw [← Except.ok.inj h, decodeNumberOfCoresX86_flag hne]
  · obtain ⟨result, hext, h⟩ := bind_eq_ok.mp h
    cases result with
    | none => rw [← Except.ok.inj h, decodeNumberOfCoresX86_flag hne]
    | some data'' => rw [← Except.ok.inj h, decodeIntelExtendedTopology_flags hext]

theorem guessSseSize_flags (data : CpuId) : (guessSseSize data).flags = data.flags := by
  unfold guessSseSize
  split
  · split <;> rfl
  · rfl

/-- The tables that all x86 vendors share have neither of these features. -/
theorem loadFeaturesCommon_flag {feature : CpuFeature} (h : feature = .sgx ∨ feature = .xd)
    (raw : CpuRawData) (data : CpuId) :
    (loadFeaturesCommon raw data).flags feature = data.flags feature := by
  unfold loadFeaturesCommon
  rw [guessSseSize_flags]
  rcases h with rfl | rfl <;>
    simp (disch := decide) only [apply_ite CpuId.flags, ite_apply, matchFeatures_flag_of_notMem,
      ite_self]

theorem cpuidBasicIdentify_flag {feature : CpuFeature} (h : feature = .sgx ∨ feature = .xd)
    (host : Host) (raw : CpuRawData) (data : CpuId) :
    (cpuidBasicIdentify host raw data).2.flags feature = data.flags feature := by
  unfold cpuidBasicIdentify
  dsimp only
  split
  · rfl
  · rw [loadFeaturesCommon_flag h]
    split <;> split <;> rfl

/-- The flag of SGX is bit 2 of EBX in leaf 7. -/
theorem loadIntelFeatures_sgx (raw : CpuRawData) (data : CpuId) :
    (loadIntelFeatures raw data).flags .sgx =
      (data.flags .sgx || (decide (7 ≤ (raw.basicCpuid 0).eax.toNat) &&
        decide ((raw.basicCpuid 7).ebx &&& 1#32 <<< 2 ≠ 0))) := by
  simp (disch := decide) only [loadIntelFeatures, apply_ite CpuId.flags, ite_apply,
    matchFeatures_flag_of_notMem, matchFeatures_flags _ (raw.basicCpuid 7).ebx, ite_self]
  by_cases h7 : (raw.basicCpuid 0).eax.toNat ≥ 7 <;> simp [h7]

/-- The flag of XD is bit 20 of EDX in leaf 80000001h. -/
theorem loadIntelFeatures_xd (raw : CpuRawData) (data : CpuId) :
    (loadIntelFeatures raw data).flags .xd =
      (data.flags .xd || (decide (1 ≤ (raw.extCpuid 0).eax.toNat) &&
        decide ((raw.extCpuid 1).edx &&& 1#32 <<< 20 ≠ 0))) := by
  simp (disch := decide) only [loadIntelFeatures, apply_ite CpuId.flags, ite_apply,
    matchFeatures_flag_of_notMem, matchFeatures_flags _ (raw.extCpuid 1).edx, ite_self]
  by_cases h1 : (raw.extCpuid 0).eax.toNat ≥ 1 <;> simp [h1]

/-! ### Records that the Intel decoder gives -/

/-- Leaf 11 reports cores but no thread for each of them. -/
def ZeroThreads (raw : CpuRawData) : Prop :=
  let counts := extendedTopologyCounts (List.ofFn raw.intelFn11) (-1, -1)
  counts.1 = 0 ∧ counts.2 ≠ -1

/-- The registers on which `cpuid_identify_intel` neither leaves `cache_mask` nor divides by
zero. -/
structure IntelReturns (raw : CpuRawData) : Prop where
  cachesFit : 4 ≤ (raw.basicCpuid 0).eax.toNat → CacheLeavesFit raw.intelFn4
  divides : 11 ≤ (raw.basicCpuid 0).eax.toNat → ¬ZeroThreads raw

theorem decodeDeterministicCacheInfoX86_error {leaves : List Regs} {i : Nat}
    {s : CpuId × InternalIdInfo} {f : Fault}
    (h : decodeDeterministicCacheInfoX86 i leaves s = .error f) : f = .outOfBounds := by
  induction leaves generalizing i s with
  | nil => cases h
  | cons regs leaves ih =>
    obtain ⟨data, internal⟩ := s
    simp only [decodeDeterministicCacheInfoX86] at h
    split at h
    · cases h
    · split at h
      · exact ih h
      · rcases bind_eq_error.mp h with h | ⟨mask, -, h⟩
        · unfold store at h
          split at h
          · cases h
          · exact (Except.error.inj h).symm
        · exact ih h

theorem decodeIntelCaches_error {raw : CpuRawData} {data : CpuId} {internal : InternalIdInfo}
    {f : Fault} (h : decodeIntelCaches raw data internal = .error f) : f = .outOfBounds := by
  unfold decodeIntelCaches at h
  split at h
  · exact decodeDeterministicCacheInfoX86_error h
  · split at h <;> cases h

theorem decodeIntelNumberOfCores_error {raw : CpuRawData} {data : CpuId} {f : Fault}
    (h : decodeIntelNumberOfCores raw data = .error f) : f = .divByZero := by
  unfold decodeIntelNumberOfCores decodeIntelExtendedTopology at h
  dsimp only at h
  split at h
  · cases h
  · split at h
    · cases h
    · split at h
      · exact (Except.error.inj h).symm
      · cases h

theorem decodeIntelCaches_returns {raw : CpuRawData} (data : CpuId) (internal : InternalIdInfo) :
    (∃ s, decodeIntelCaches raw data internal = .ok s) ↔
      (4 ≤ (raw.basicCpuid 0).eax.toNat → CacheLeavesFit raw.intelFn4) := by
  by_cases h4 : (raw.basicCpuid 0).eax.toNat ≥ 4
  · unfold decodeIntelCaches
    rw [if_pos h4, ← decodeDeterministicCacheInfoX86_ofFn_avoids (s := (data, internal))]
    cases h : decodeDeterministicCacheInfoX86 0 (List.ofFn raw.intelFn4) (data, internal) with
    | ok s => simp
    | error f => simp [decodeDeterministicCacheInfoX86_error h, h4]
  · unfold decodeIntelCaches
    rw [if_neg h4]
    refine iff_of_true ?_ fun h => absurd h h4
    split <;> exact ⟨_, rfl⟩

theorem decodeIntelNumberOfCores_returns {raw : CpuRawData} (data : CpuId) :
    (∃ data', decodeIntelNumberOfCores raw data = .ok data') ↔
      (11 ≤ (raw.basicCpuid 0).eax.toNat → ¬ZeroThreads raw) := by
  unfold decodeIntelNumberOfCores decodeIntelExtendedTopology ZeroThreads
  dsimp only
  generalize extendedTopologyCounts (List.ofFn raw.intelFn11) (-1, -1) = counts
  by_cases h11 : (raw.basicCpuid 0).eax.toNat < 11
  · rw [if_pos h11]
    exact iff_of_true ⟨_, rfl⟩ fun h => absurd h11 (Nat.not_lt.mpr h)
  · rw [if_neg h11]
    simp only [Nat.not_lt.mp h11, true_imp_iff]
    by_cases hnone : counts.1 = -1 ∨ counts.2 = -1
    · rw [if_pos hnone]
      refine iff_of_true ⟨_, rfl⟩ ?_
      rintro ⟨h0, h1⟩
      omega
    · rw [if_neg hnone]
      by_cases h0 : counts.1 = 0
      · rw [if_pos h0]
        refine iff_of_false (by simp) fun h => h ⟨h0, fun h1 => hnone (.inr h1)⟩
      · rw [if_neg h0]
        exact iff_of_true ⟨_, rfl⟩ fun h => h0 h.1

theorem cpuidIdentifyIntel_returns (host : Host) {raw : CpuRawData} {data : CpuId}
    {internal : InternalIdInfo} :
    (∃ s, cpuidIdentifyIntel host raw data internal = .ok s) ↔ IntelReturns raw := by
  simp only [cpuidIdentifyIntel, bind_eq_ok]
  constructor
  · rintro ⟨s, ⟨data1, internal1⟩, hcaches, data2, hcores, -⟩
    exact ⟨(decodeIntelCaches_returns _ _).mp ⟨_, hcaches⟩,
      (decodeIntelNumberOfCores_returns _).mp ⟨_, hcores⟩⟩
  · intro h
    obtain ⟨⟨data1, internal1⟩, hcaches⟩ :=
      (decodeIntelCaches_returns (loadIntelFeatures raw data) internal).mpr h.cachesFit
    obtain ⟨data2, hcores⟩ := (decodeIntelNumberOfCores_returns data1).mpr h.divides
    exact ⟨_, _, hcaches, _, hcores, rfl⟩

/-! ### The record of an x86 processor -/

/-- `cpu_identify` gives what the decoder of the vendor gives. -/
theorem cpuIdentify_of_vendor {host : Host} {raw : CpuRawData}
    (harch : cpuidArchitectureIdentify raw = .x86)
    (hvendor : cpuidVendorIdentify (raw.basicCpuid 0) ≠ .unknown) :
    let data := (cpuidBasicIdentify host raw { cpuIdConstructor with architecture := .x86 }).2
    let internal : InternalIdInfo := { score := 0, cacheMask := fun _ => 0 }
    cpuIdentify host raw =
      match cpuidVendorIdentify (raw.basicCpuid 0) with
      | .intel => (cpuidIdentifyIntel host raw data internal).map fun s => (.ok, s.1)
      | .amd | .hygon => (cpuidIdentifyAmd raw data internal).map fun s => (.ok, s.1)
      | .centaur => (cpuidIdentifyCentaur raw data internal).map fun s => (.ok, s.1)
      | _ => .ok (.ok, data) := by
  obtain ⟨-, -, hdata⟩ := cpuidBasicIdentify_facts host raw
    { cpuIdConstructor with architecture := .x86 }
  have hbasic : (cpuidBasicIdentify host raw { cpuIdConstructor with architecture := .x86 }).1 =
      .ok := by
    by_contra hne
    exact hvendor (cpuidBasicIdentify_error hne)
  have hstore (x : Checked (CpuId × InternalIdInfo)) :
      ((x >>= fun s => .ok (CpuError.ok, s)) >>= fun r => .ok (r.1, r.2.1)) =
        x.map fun s => (CpuError.ok, s.1) := by
    cases x <;> rfl
  dsimp only at hdata ⊢
  simp only [cpuIdentify, cpuIdentInternal, harch]
  generalize cpuidBasicIdentify host raw { cpuIdConstructor with architecture := .x86 } = result
    at hdata hbasic ⊢
  obtain ⟨r, data⟩ := result
  dsimp only at hdata hbasic ⊢
  rw [hbasic, ← hdata]
  dsimp only
  cases data.vendor with
  | intel | amd | hygon | centaur => exact hstore _
  | _ => rfl

/-- The registers on which the decoder of the vendor gives a record. -/
def DecoderReturns (raw : CpuRawData) : Prop :=
  match cpuidVendorIdentify (raw.basicCpuid 0) with
  | .intel => IntelReturns raw
  | .amd | .hygon => AmdPurposeEnds raw
  | .centaur => 4 ≤ (raw.basicCpuid 0).eax.toNat → CacheLeavesFit raw.intelFn4
  | _ => True

theorem cpuidIdentifyAmd_returns {raw : CpuRawData} {data : CpuId} {internal : InternalIdInfo} :
    (∃ s, cpuidIdentifyAmd raw data internal = .ok s) ↔ AmdPurposeEnds raw := by
  rw [← cpuidIdentifyPurposeAmd_avoids]
  obtain ⟨s, hs⟩ := decodeAmdCaches_ok raw (loadAmdFeatures raw data) internal
  unfold cpuidIdentifyAmd
  dsimp only
  rw [hs, ok_bind]
  cases hpurpose : cpuidIdentifyPurposeAmd raw with
  | error f =>
    have hf : f = .outOfBounds := by
      unfold cpuidIdentifyPurposeAmd at hpurpose
      split at hpurpose
      · cases hpurpose
      · exact amdPurposeFrom_error hpurpose
    simp [hf]
  | ok purpose => exact iff_of_true ⟨_, rfl⟩ (avoids_ok _ _)

theorem cpuidIdentifyCentaur_returns {raw : CpuRawData} {data : CpuId}
    {internal : InternalIdInfo} :
    (∃ s, cpuidIdentifyCentaur raw data internal = .ok s) ↔
      (4 ≤ (raw.basicCpuid 0).eax.toNat → CacheLeavesFit raw.intelFn4) := by
  unfold cpuidIdentifyCentaur decodeCentaurCaches
  by_cases h4 : (raw.basicCpuid 0).eax.toNat ≥ 4
  · rw [if_pos h4, ← decodeDeterministicCacheInfoX86_ofFn_avoids (s := (data, internal))]
    cases h : decodeDeterministicCacheInfoX86 0 (List.ofFn raw.intelFn4) (data, internal) with
    | ok s => exact iff_of_true ⟨_, rfl⟩ fun _ => avoids_ok _ _
    | error f => simp [decodeDeterministicCacheInfoX86_error h, h4]
  · rw [if_neg h4]
    exact iff_of_true ⟨_, rfl⟩ fun h => absurd h h4

theorem map_returns {α β : Type} {x : Checked α} {f : α → β} :
    (∃ b, (x.map fun a => (CpuError.ok, f a)) = .ok (.ok, b)) ↔ ∃ a, x = .ok a := by
  cases x <;> simp [Except.map]

/-- `cpu_identify` gives the record of a vendor that it knows when the decoder does. -/
theorem cpuIdentify_returns_iff (host : Host) {raw : CpuRawData}
    (harch : cpuidArchitectureIdentify raw = .x86)
    (hvendor : cpuidVendorIdentify (raw.basicCpuid 0) ≠ .unknown) :
    (∃ data, cpuIdentify host raw = .ok (.ok, data)) ↔ DecoderReturns raw := by
  rw [cpuIdentify_of_vendor harch hvendor]
  unfold DecoderReturns
  cases cpuidVendorIdentify (raw.basicCpuid 0) with
  | intel => exact map_returns.trans (cpuidIdentifyIntel_returns host)
  | amd | hygon => exact map_returns.trans cpuidIdentifyAmd_returns
  | centaur => exact map_returns.trans cpuidIdentifyCentaur_returns
  | _ => exact iff_of_true ⟨_, rfl⟩ trivial

end LibCpuid
