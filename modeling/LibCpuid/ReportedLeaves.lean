import LibCpuid.HostIndependence

/-! Which leaves identification reads.  A processor reports its largest basic leaf in leaf 0 and its
largest extended leaf in leaf 80000000h, and answers any other leaf with anything. -/

namespace LibCpuid

open CLang

/-- Two processors that agree on the leaves that they report. -/
structure AgreeOnReported (raw raw' : CpuRawData) : Prop where
  basicZero : raw'.basicCpuid 0 = raw.basicCpuid 0
  extZero : raw'.extCpuid 0 = raw.extCpuid 0
  basic : ∀ n, n.val ≤ (raw.basicCpuid 0).eax.toNat → raw'.basicCpuid n = raw.basicCpuid n
  ext : ∀ n, 0x80000000 + n.val ≤ (raw.extCpuid 0).eax.toNat → raw'.extCpuid n = raw.extCpuid n
  fn4 : 4 ≤ (raw.basicCpuid 0).eax.toNat → raw'.intelFn4 = raw.intelFn4
  fn11 : 11 ≤ (raw.basicCpuid 0).eax.toNat → raw'.intelFn11 = raw.intelFn11
  fn12h : 0x12 ≤ (raw.basicCpuid 0).eax.toNat → raw'.intelFn12h = raw.intelFn12h
  fn8000001dh : 0x8000001d ≤ (raw.extCpuid 0).eax.toNat →
    raw'.amdFn8000001dh = raw.amdFn8000001dh
  fn80000026h : 0x80000026 ≤ (raw.extCpuid 0).eax.toNat →
    raw'.amdFn80000026h = raw.amdFn80000026h

/-- On the host, leaves that the processor does not report have no influence. -/
def ReadsReported (host : Host) (raw : CpuRawData) : Prop :=
  ∀ raw', AgreeOnReported raw raw' → cpuIdentify host raw' = cpuIdentify host raw

section Decoders

variable {raw raw' : CpuRawData} (h : AgreeOnReported raw raw')
include h

/-! ### Decoders whose gates are those of the leaves that they read -/

theorem loadFeaturesCommon_reported (data : CpuId) :
    loadFeaturesCommon raw' data = loadFeaturesCommon raw data := by
  have h1 : 1 ≤ (raw.basicCpuid 0).eax.toNat → _ := h.basic 1
  have h7 : 7 ≤ (raw.basicCpuid 0).eax.toNat → _ := h.basic 7
  have he1 : 0x80000001 ≤ (raw.extCpuid 0).eax.toNat → _ := h.ext 1
  have he7 : 0x80000007 ≤ (raw.extCpuid 0).eax.toNat → _ := h.ext 7
  simp +contextual only [loadFeaturesCommon, h.basicZero, h.extZero, ge_iff_le, h1, h7, he1, he7]

theorem cpuidBasicIdentify_reported (host : Host) (data : CpuId) :
    cpuidBasicIdentify host raw' data = cpuidBasicIdentify host raw data := by
  have h1 (hge : (raw.basicCpuid 0).eax.toInt ≥ 1) : raw'.basicCpuid 1 = raw.basicCpuid 1 := by
    refine h.basic 1 ?_
    rw [BitVec.toInt_eq_toNat_cond] at hge
    split at hge
    · exact_mod_cast hge
    · have := (raw.basicCpuid 0).eax.isLt
      omega
  have h4 (hge : ((raw.extCpuid 0).eax - 0x80000000).toInt ≥ 4) :
      brandBytes raw' = brandBytes raw := by
    have hreported : 0x80000004 ≤ (raw.extCpuid 0).eax.toNat := by
      rw [BitVec.toInt_eq_toNat_cond, BitVec.toNat_sub] at hge
      have := (raw.extCpuid 0).eax.isLt
      simp at hge
      omega
    have h2 := h.ext 2 ((by decide : 0x80000002 ≤ 0x80000004).trans hreported)
    have h3 := h.ext 3 ((by decide : 0x80000003 ≤ 0x80000004).trans hreported)
    simp only [brandBytes, h2, h3, h.ext 4 hreported]
  simp +contextual only [cpuidBasicIdentify, h.basicZero, h.extZero, h1, h4,
    loadFeaturesCommon_reported h]

theorem decodeIntelCaches_reported (data : CpuId) (internal : InternalIdInfo) :
    decodeIntelCaches raw' data internal = decodeIntelCaches raw data internal := by
  have h2 (hge : 2 ≤ (raw.basicCpuid 0).eax.toNat) :
      decodeIntelOldstyleCacheInfo raw' data = decodeIntelOldstyleCacheInfo raw data := by
    have hdescriptors : oldstyleDescriptors raw' = oldstyleDescriptors raw := by
      simp only [oldstyleDescriptors, h.basic 2 hge]
    unfold decodeIntelOldstyleCacheInfo
    rw [hdescriptors]
  simp +contextual only [decodeIntelCaches, h.basicZero, ge_iff_le, h.fn4, h2]

theorem decodeNumberOfCoresX86_reported (data : CpuId) :
    decodeNumberOfCoresX86 raw' data = decodeNumberOfCoresX86 raw data := by
  have h1 : 1 ≤ (raw.basicCpuid 0).eax.toNat → _ := h.basic 1
  have h4 : 4 ≤ (raw.basicCpuid 0).eax.toNat → _ := h.basic 4
  simp +contextual only [decodeNumberOfCoresX86, h.basicZero, ge_iff_le, h1, h4]

theorem decodeIntelNumberOfCores_reported (data : CpuId) :
    decodeIntelNumberOfCores raw' data = decodeIntelNumberOfCores raw data := by
  simp only [decodeIntelNumberOfCores, h.basicZero, decodeNumberOfCoresX86_reported h]
  split
  · rfl
  · next hlt =>
    simp only [decodeIntelExtendedTopology, h.fn11 (Nat.not_lt.mp hlt)]

theorem decodeIntelSgxFeatures_reported (host : Host) (data : CpuId) :
    decodeIntelSgxFeatures host raw' data = decodeIntelSgxFeatures host raw data := by
  simp only [decodeIntelSgxFeatures, h.basicZero]
  by_cases hlt : (raw.basicCpuid 0).eax.toNat < 0x12
  · simp only [hlt, true_or, if_true]
  · have hle := Nat.not_lt.mp hlt
    have hlength (i : Nat) : cpuidGetEpcLength host raw' i = cpuidGetEpcLength host raw i := by
      unfold cpuidGetEpcLength
      rw [h.fn12h hle]
    have hsections (i fuel : Nat) :
        numEpcSections host raw' i fuel = numEpcSections host raw i fuel := by
      induction fuel generalizing i with
      | zero => rfl
      | succ fuel ih => rw [numEpcSections, numEpcSections, hlength, ih]
    rw [h.basic 0x12 hle, h.fn12h hle, hsections]

theorem loadAmdFeatures_reported (data : CpuId) :
    loadAmdFeatures raw' data = loadAmdFeatures raw data := by
  have he1 : 0x80000001 ≤ (raw.extCpuid 0).eax.toNat → _ := h.ext 1
  have he7 : 0x80000007 ≤ (raw.extCpuid 0).eax.toNat → _ := h.ext 7
  have he1a : 0x8000001a ≤ (raw.extCpuid 0).eax.toNat → _ := h.ext 0x1a
  simp +contextual only [loadAmdFeatures, h.extZero, ge_iff_le, he1, he7, he1a]

theorem decodeAmdCacheInfo_reported (data : CpuId) :
    decodeAmdCacheInfo raw' data = decodeAmdCacheInfo raw data := by
  have he5 : 0x80000005 ≤ (raw.extCpuid 0).eax.toNat → _ := h.ext 5
  have he6 : 0x80000006 ≤ (raw.extCpuid 0).eax.toNat → _ := h.ext 6
  simp +contextual only [decodeAmdCacheInfo, h.extZero, ge_iff_le, he5, he6]

/-! ### Decoders that read a leaf without its gate -/

/-- `load_intel_features` compares the largest extended leaf with 1. -/
theorem loadIntelFeatures_reported
    (hxd : (raw.extCpuid 0).eax = 0 ∨ 0x80000001 ≤ (raw.extCpuid 0).eax.toNat) (data : CpuId) :
    loadIntelFeatures raw' data = loadIntelFeatures raw data := by
  have h1 : 1 ≤ (raw.basicCpuid 0).eax.toNat → _ := h.basic 1
  have h7 : 7 ≤ (raw.basicCpuid 0).eax.toNat → _ := h.basic 7
  have he1 (hge : 1 ≤ (raw.extCpuid 0).eax.toNat) : raw'.extCpuid 1 = raw.extCpuid 1 := by
    rcases hxd with hxd | hxd
    · rw [hxd] at hge
      exact absurd hge (by decide)
    · exact h.ext 1 hxd
  simp +contextual only [loadIntelFeatures, h.basicZero, h.extZero, ge_iff_le, h1, h7, he1]

theorem cpuidIdentifyPurposeIntel_reported
    (hpurpose : 0x1a ≤ (raw.basicCpuid 0).eax.toNat ∨
      (7 ≤ (raw.basicCpuid 0).eax.toNat ∧ extractsBit (raw.basicCpuid 7).edx 15 = 0)) :
    cpuidIdentifyPurposeIntel raw' = cpuidIdentifyPurposeIntel raw := by
  unfold cpuidIdentifyPurposeIntel
  rcases hpurpose with h1a | ⟨h7, hbit⟩
  · rw [h.basic 7 ((by decide : 7 ≤ 0x1a).trans h1a), h.basic 0x1a h1a,
      h.fn4 ((by decide : 4 ≤ 0x1a).trans h1a)]
  · rw [h.basic 7 h7, if_neg (by rw [hbit]; decide), if_neg (by rw [hbit]; decide)]

theorem cpuidIdentifyIntel_reported (host : Host) (data : CpuId) (internal : InternalIdInfo)
    (hxd : (raw.extCpuid 0).eax = 0 ∨ 0x80000001 ≤ (raw.extCpuid 0).eax.toNat)
    (hpurpose : 0x1a ≤ (raw.basicCpuid 0).eax.toNat ∨
      (7 ≤ (raw.basicCpuid 0).eax.toNat ∧ extractsBit (raw.basicCpuid 7).edx 15 = 0)) :
    cpuidIdentifyIntel host raw' data internal = cpuidIdentifyIntel host raw data internal := by
  simp only [cpuidIdentifyIntel, loadIntelFeatures_reported h hxd, decodeIntelCaches_reported h,
    decodeIntelNumberOfCores_reported h, decodeIntelSgxFeatures_reported h,
    cpuidIdentifyPurposeIntel_reported h hpurpose]

/-- Leaf 80000026h is the largest that `cpuid_identify_amd` reads. -/
theorem cpuidIdentifyAmd_reported (data : CpuId) (internal : InternalIdInfo)
    (hext : 0x80000026 ≤ (raw.extCpuid 0).eax.toNat) :
    cpuidIdentifyAmd raw' data internal = cpuidIdentifyAmd raw data internal := by
  have h1 : 1 ≤ (raw.basicCpuid 0).eax.toNat → _ := h.basic 1
  have he1 := h.ext 1 ((by decide : 0x80000001 ≤ 0x80000026).trans hext)
  have he8 := h.ext 8 ((by decide : 0x80000008 ≤ 0x80000026).trans hext)
  have he30 := h.ext 30 ((by decide : 0x8000001e ≤ 0x80000026).trans hext)
  have he1d := h.fn8000001dh ((by decide : 0x8000001d ≤ 0x80000026).trans hext)
  have hcaches (data : CpuId) :
      decodeAmdCaches raw' data internal = decodeAmdCaches raw data internal := by
    simp only [decodeAmdCaches, he1, he1d, decodeAmdCacheInfo_reported h]
  have hcores (data : CpuId) :
      decodeAmdNumberOfCores raw' data = decodeAmdNumberOfCores raw data := by
    simp +contextual only [decodeAmdNumberOfCores, h.basicZero, h.extZero, ge_iff_le, h1, he8, he30]
  have hpurpose : cpuidIdentifyPurposeAmd raw' = cpuidIdentifyPurposeAmd raw := by
    simp only [cpuidIdentifyPurposeAmd, h.fn80000026h hext]
  simp only [cpuidIdentifyAmd, loadAmdFeatures_reported h, hcaches, hcores, hpurpose]

end Decoders

/-! ### The condition -/

/-- The leaves that `cpuid_identify_intel` reads without their gates are reported, or hold nothing
that it goes by. -/
structure IntelGatesHold (raw : CpuRawData) : Prop where
  xd : (raw.extCpuid 0).eax = 0 ∨ 0x80000001 ≤ (raw.extCpuid 0).eax.toNat
  purpose : 0x1a ≤ (raw.basicCpuid 0).eax.toNat ∨
    (7 ≤ (raw.basicCpuid 0).eax.toNat ∧ extractsBit (raw.basicCpuid 7).edx 15 = 0)

/-- Every leaf that decides the record is reported.  An Intel processor whose decoder gives no
record reads only reported leaves. -/
def GatesHold (raw : CpuRawData) : Prop :=
  match cpuidVendorIdentify (raw.basicCpuid 0) with
  | .intel => IntelReturns raw → IntelGatesHold raw
  | _ => 0x80000026 ≤ (raw.extCpuid 0).eax.toNat

theorem cpuidIdentifyIntel_outOfBounds {host : Host} {raw : CpuRawData} {data : CpuId}
    {internal : InternalIdInfo}
    (h : ¬(4 ≤ (raw.basicCpuid 0).eax.toNat → CacheLeavesFit raw.intelFn4)) :
    cpuidIdentifyIntel host raw data internal = .error .outOfBounds := by
  unfold cpuidIdentifyIntel
  dsimp only
  cases hcaches : decodeIntelCaches raw (loadIntelFeatures raw data) internal with
  | error f => rw [error_bind, decodeIntelCaches_error hcaches]
  | ok s => exact absurd ((decodeIntelCaches_returns _ _).mp ⟨s, hcaches⟩) h

theorem cpuidIdentifyIntel_divByZero {host : Host} {raw : CpuRawData} {data : CpuId}
    {internal : InternalIdInfo}
    (hfit : 4 ≤ (raw.basicCpuid 0).eax.toNat → CacheLeavesFit raw.intelFn4)
    (h : ¬(11 ≤ (raw.basicCpuid 0).eax.toNat → ¬ZeroThreads raw)) :
    cpuidIdentifyIntel host raw data internal = .error .divByZero := by
  obtain ⟨s, hs⟩ := (decodeIntelCaches_returns (loadIntelFeatures raw data) internal).mpr hfit
  unfold cpuidIdentifyIntel
  dsimp only
  rw [hs, ok_bind]
  cases hcores : decodeIntelNumberOfCores raw s.1 with
  | error f => rw [error_bind, decodeIntelNumberOfCores_error hcores]
  | ok data' => exact absurd ((decodeIntelNumberOfCores_returns _).mp ⟨data', hcores⟩) h

section Reads

variable {host : Host} {raw raw' : CpuRawData}

theorem AgreeOnReported.architecture (h : AgreeOnReported raw raw')
    (harch : cpuidArchitectureIdentify raw = .x86) : cpuidArchitectureIdentify raw' = .x86 := by
  unfold cpuidArchitectureIdentify at harch ⊢
  rw [h.basicZero]
  split at harch
  · next hx86 => rw [if_pos hx86]
  · split at harch <;> cases harch

theorem AgreeOnReported.cachesFit (h : AgreeOnReported raw raw') :
    (4 ≤ (raw'.basicCpuid 0).eax.toNat → CacheLeavesFit raw'.intelFn4) ↔
      (4 ≤ (raw.basicCpuid 0).eax.toNat → CacheLeavesFit raw.intelFn4) := by
  rw [h.basicZero]
  exact imp_congr_right fun h4 => by rw [h.fn4 h4]

theorem AgreeOnReported.divides (h : AgreeOnReported raw raw') :
    (11 ≤ (raw'.basicCpuid 0).eax.toNat → ¬ZeroThreads raw') ↔
      (11 ≤ (raw.basicCpuid 0).eax.toNat → ¬ZeroThreads raw) := by
  rw [h.basicZero]
  exact imp_congr_right fun h11 => by rw [ZeroThreads, ZeroThreads, h.fn11 h11]

/-- An Intel decoder that gives no record stops at a fault that only reported leaves decide. -/
theorem cpuidIdentifyIntel_reported_of_fault (h : AgreeOnReported raw raw')
    (hfault : ¬IntelReturns raw) (data : CpuId) (internal : InternalIdInfo) :
    cpuidIdentifyIntel host raw' data internal = cpuidIdentifyIntel host raw data internal := by
  by_cases hfit : 4 ≤ (raw.basicCpuid 0).eax.toNat → CacheLeavesFit raw.intelFn4
  · have hdivides : ¬(11 ≤ (raw.basicCpuid 0).eax.toNat → ¬ZeroThreads raw) :=
      fun hdivides => hfault ⟨hfit, hdivides⟩
    rw [cpuidIdentifyIntel_divByZero hfit hdivides,
      cpuidIdentifyIntel_divByZero (h.cachesFit.mpr hfit) (mt h.divides.mp hdivides)]
  · rw [cpuidIdentifyIntel_outOfBounds hfit,
      cpuidIdentifyIntel_outOfBounds (mt h.cachesFit.mp hfit)]

theorem readsReported_of_gatesHold (harch : cpuidArchitectureIdentify raw = .x86)
    (hvendor : cpuidVendorIdentify (raw.basicCpuid 0) = .intel ∨
      cpuidVendorIdentify (raw.basicCpuid 0) = .amd)
    (hgates : GatesHold raw) : ReadsReported host raw := by
  intro raw' h
  have hknown : cpuidVendorIdentify (raw.basicCpuid 0) ≠ .unknown := by
    rcases hvendor with hv | hv <;> rw [hv] <;> decide
  rw [cpuIdentify_of_vendor harch hknown,
    cpuIdentify_of_vendor (h.architecture harch) (by rwa [h.basicZero]), h.basicZero,
    cpuidBasicIdentify_reported h]
  unfold GatesHold at hgates
  rcases hvendor with hv | hv <;> rw [hv] at hgates ⊢ <;> dsimp only at hgates ⊢
  · by_cases hreturns : IntelReturns raw
    · have hgates := hgates hreturns
      rw [cpuidIdentifyIntel_reported h host _ _ hgates.xd hgates.purpose]
    · rw [cpuidIdentifyIntel_reported_of_fault h hreturns]
  · rw [cpuidIdentifyAmd_reported h _ _ hgates]

/-! ### Leaves that are not reported -/

theorem ReadsReported.same {raw1 raw2 : CpuRawData} (h : ReadsReported host raw)
    (h1 : AgreeOnReported raw raw1) (h2 : AgreeOnReported raw raw2) :
    cpuIdentify host raw1 = cpuIdentify host raw2 :=
  (h raw1 h1).trans (h raw2 h2).symm

/-- The purpose in the record is the one that the decoder of the vendor finds. -/
theorem cpuIdentify_purpose {data : CpuId} (h : cpuIdentify host raw = .ok (.ok, data)) :
    storedPurpose raw = .ok data.purpose := by
  obtain ⟨⟨r, data', internal⟩, hinternal, hdata⟩ := bind_eq_ok.mp h
  obtain ⟨rfl, rfl⟩ := Prod.mk.inj (Except.ok.inj hdata)
  exact (cpuIdentInternal_facts hinternal).2

theorem cpuIdentify_xd {data : CpuId} (harch : cpuidArchitectureIdentify raw = .x86)
    (hvendor : cpuidVendorIdentify (raw.basicCpuid 0) = .intel)
    (h : cpuIdentify host raw = .ok (.ok, data)) :
    data.flags .xd = (decide (1 ≤ (raw.extCpuid 0).eax.toNat) &&
      decide ((raw.extCpuid 1).edx &&& 1#32 <<< 20 ≠ 0)) := by
  rw [cpuIdentify_of_vendor harch (by rw [hvendor]; decide), hvendor] at h
  dsimp only at h
  rw [cpuidIdentifyIntel_eq] at h
  cases hbefore : identifyIntelBeforeSgx raw
      (cpuidBasicIdentify host raw { cpuIdConstructor with architecture := .x86 }).2
      { score := 0, cacheMask := fun _ => 0 } with
  | error f => rw [hbefore] at h; cases h
  | ok s =>
    rw [hbefore] at h
    obtain rfl : withSgx host raw s.1 = data := (Prod.mk.inj (Except.ok.inj h)).2
    have hsgx : (withSgx host raw s.1).flags = s.1.flags := by
      unfold withSgx decodeIntelSgxFeatures
      dsimp only
      split
      · split <;> rfl
      · rfl
    rw [hsgx, identifyIntelBeforeSgx_flag (by decide) hbefore, loadIntelFeatures_xd,
      cpuidBasicIdentify_flag (.inr rfl)]
    rfl

/-- The processor with another EDX in leaf 80000001h. -/
def CpuRawData.withExtEdx (raw : CpuRawData) (edx : BitVec 32) : CpuRawData :=
  { raw with extCpuid := Function.update raw.extCpuid 1 ⟨0, 0, 0, edx⟩ }

theorem agree_withExtEdx (hlt : (raw.extCpuid 0).eax.toNat < 0x80000001) (edx : BitVec 32) :
    AgreeOnReported raw (raw.withExtEdx edx) where
  basicZero := rfl
  extZero := rfl
  basic _ _ := rfl
  ext n hn := by
    have hne : n ≠ 1 := by
      rintro rfl
      exact absurd hn (Nat.not_le.mpr hlt)
    exact Function.update_of_ne hne _ _
  fn4 _ := rfl
  fn11 _ := rfl
  fn12h _ := rfl
  fn8000001dh _ := rfl
  fn80000026h _ := rfl

/-- The processor with others leaves 7 and 0x1a. -/
def CpuRawData.withHybrid (raw : CpuRawData) (leaf7 leaf1a : Regs) : CpuRawData :=
  { raw with basicCpuid := Function.update (Function.update raw.basicCpuid 7 leaf7) 0x1a leaf1a }

theorem agree_withHybrid (hlt : (raw.basicCpuid 0).eax.toNat < 0x1a) {leaf7 : Regs}
    (h7 : 7 ≤ (raw.basicCpuid 0).eax.toNat → leaf7 = raw.basicCpuid 7) (leaf1a : Regs) :
    AgreeOnReported raw (raw.withHybrid leaf7 leaf1a) where
  basicZero := rfl
  extZero := rfl
  basic n hn := by
    have hne : n ≠ 0x1a := by
      rintro rfl
      exact absurd hn (Nat.not_le.mpr hlt)
    refine (Function.update_of_ne hne _ _).trans ?_
    by_cases h : n = 7
    · subst h
      rw [Function.update_self, h7 hn]
    · exact Function.update_of_ne h _ _
  ext _ _ := rfl
  fn4 _ := rfl
  fn11 _ := rfl
  fn12h _ := rfl
  fn8000001dh _ := rfl
  fn80000026h _ := rfl

theorem cpuidIdentifyPurposeIntel_withHybrid {leaf7 leaf1a : Regs}
    (h7 : extractsBit leaf7.edx 15 = 1) (h1a : leaf1a.eax = 0 ∨ leaf1a.eax = 0x40000000) :
    cpuidIdentifyPurposeIntel (raw.withHybrid leaf7 leaf1a) =
      if leaf1a.eax = 0 then .general else .performance := by
  have hleaf7 : (raw.withHybrid leaf7 leaf1a).basicCpuid 7 = leaf7 := rfl
  have hleaf1a : (raw.withHybrid leaf7 leaf1a).basicCpuid 0x1a = leaf1a := rfl
  unfold cpuidIdentifyPurposeIntel
  rw [hleaf7, hleaf1a, if_pos h7]
  rcases h1a with h1a | h1a <;> rw [h1a] <;> rfl

theorem intelGatesHold_of_readsReported (harch : cpuidArchitectureIdentify raw = .x86)
    (hvendor : cpuidVendorIdentify (raw.basicCpuid 0) = .intel) (hreturns : IntelReturns raw)
    (h : ReadsReported host raw) : IntelGatesHold raw := by
  have hrecord {raw1 : CpuRawData} (h1 : AgreeOnReported raw raw1) :
      ∃ data, cpuIdentify host raw1 = .ok (.ok, data) := by
    rw [cpuIdentify_returns_iff _ (h1.architecture harch)
      (by rw [h1.basicZero, hvendor]; decide), DecoderReturns, h1.basicZero, hvendor]
    exact ⟨h1.cachesFit.mpr hreturns.cachesFit, h1.divides.mpr hreturns.divides⟩
  constructor
  · by_contra hxd
    obtain ⟨hzero, hlt⟩ := not_or.mp hxd
    have hclear := agree_withExtEdx (Nat.not_le.mp hlt) 0
    have hset := agree_withExtEdx (Nat.not_le.mp hlt) 0x100000
    obtain ⟨data, hdata⟩ := hrecord hclear
    have hoff := cpuIdentify_xd (hclear.architecture harch) (by rwa [hclear.basicZero]) hdata
    rw [h.same hclear hset] at hdata
    have hon := cpuIdentify_xd (hset.architecture harch) (by rwa [hset.basicZero]) hdata
    have hge : 1 ≤ (raw.extCpuid 0).eax.toNat := by
      by_contra hlt
      exact hzero (BitVec.eq_of_toNat_eq (by simpa using hlt))
    rw [hoff, hset.extZero, hclear.extZero, decide_eq_true hge] at hon
    exact absurd hon (by simp [CpuRawData.withExtEdx])
  · by_contra hpurpose
    obtain ⟨hlt, h7⟩ := not_or.mp hpurpose
    -- a leaf 7 with the hybrid bit, which is the processor's own when it reports one
    obtain ⟨leaf7, hown, hbit⟩ : ∃ leaf7 : Regs,
        (7 ≤ (raw.basicCpuid 0).eax.toNat → leaf7 = raw.basicCpuid 7) ∧
          extractsBit leaf7.edx 15 = 1 := by
      by_cases hle : 7 ≤ (raw.basicCpuid 0).eax.toNat
      · refine ⟨raw.basicCpuid 7, fun _ => rfl, ?_⟩
        have hne : extractsBit (raw.basicCpuid 7).edx 15 ≠ 0 := fun hz => h7 ⟨hle, hz⟩
        have hlt2 : extractsBit (raw.basicCpuid 7).edx 15 < 2 := by
          unfold extractsBit
          rw [Nat.and_one_is_mod]
          omega
        omega
      · exact ⟨⟨0, 0, 0, 0x8000⟩, fun h => absurd h hle, by decide⟩
    have hgeneral := agree_withHybrid (Nat.not_le.mp hlt) hown ⟨0, 0, 0, 0⟩
    have hperformance := agree_withHybrid (Nat.not_le.mp hlt) hown ⟨0x40000000, 0, 0, 0⟩
    obtain ⟨data, hdata⟩ := hrecord hgeneral
    have h1 := cpuIdentify_purpose hdata
    rw [h.same hgeneral hperformance] at hdata
    have h2 := cpuIdentify_purpose hdata
    simp only [storedPurpose, hgeneral.architecture harch, hperformance.architecture harch,
      hgeneral.basicZero, hperformance.basicZero, hvendor] at h1 h2
    rw [cpuidIdentifyPurposeIntel_withHybrid hbit (by decide)] at h1 h2
    exact absurd (h1.trans h2.symm) (by decide)

/-- The processor with the same sub-leaf throughout leaf 80000026h. -/
def CpuRawData.withTopology (raw : CpuRawData) (leaf : Regs) : CpuRawData :=
  { raw with amdFn80000026h := fun _ => leaf }

theorem agree_withTopology (hlt : (raw.extCpuid 0).eax.toNat < 0x80000026) (leaf : Regs) :
    AgreeOnReported raw (raw.withTopology leaf) where
  basicZero := rfl
  extZero := rfl
  basic _ _ := rfl
  ext _ _ := rfl
  fn4 _ := rfl
  fn11 _ := rfl
  fn12h _ := rfl
  fn8000001dh _ := rfl
  fn80000026h h := absurd h (Nat.not_le.mpr hlt)

theorem amdGatesHold_of_readsReported (harch : cpuidArchitectureIdentify raw = .x86)
    (hvendor : cpuidVendorIdentify (raw.basicCpuid 0) = .amd) (h : ReadsReported host raw) :
    0x80000026 ≤ (raw.extCpuid 0).eax.toNat := by
  by_contra hlt
  have hgeneral := agree_withTopology (Nat.not_le.mp hlt) ⟨0, 0, 0, 0⟩
  have hperformance := agree_withTopology (Nat.not_le.mp hlt) ⟨0x40000001, 1, 0x100, 0⟩
  obtain ⟨data, hdata⟩ : ∃ data, cpuIdentify host (raw.withTopology ⟨0, 0, 0, 0⟩) =
      .ok (.ok, data) := by
    rw [cpuIdentify_returns_iff _ (hgeneral.architecture harch)
      (by rw [hgeneral.basicZero, hvendor]; decide), DecoderReturns, hgeneral.basicZero, hvendor]
    exact .inl rfl
  have h1 := cpuIdentify_purpose hdata
  rw [h.same hgeneral hperformance] at hdata
  have h2 := cpuIdentify_purpose hdata
  simp only [storedPurpose, hgeneral.architecture harch, hperformance.architecture harch,
    hgeneral.basicZero, hperformance.basicZero, hvendor] at h1 h2
  have hfirst : cpuidIdentifyPurposeAmd (raw.withTopology ⟨0, 0, 0, 0⟩) = .ok .general := rfl
  have hsecond : cpuidIdentifyPurposeAmd (raw.withTopology ⟨0x40000001, 1, 0x100, 0⟩) =
      .ok .performance := by
    have hscan : amdPurposeFrom (List.ofFn fun _ : Fin 4 => (⟨0x40000001, 1, 0x100, 0⟩ : Regs)) =
        .ok .performance := by
      decide +kernel
    exact (if_neg (show (0x40000001 : BitVec 32) ≠ 0 by decide)).trans hscan
  rw [hfirst] at h1
  rw [hsecond] at h2
  exact absurd (Except.ok.inj (h1.trans h2.symm)) (by decide)

/-- An Intel or AMD processor is identified by what it reports exactly when the gates that the
decoders leave out would hold. -/
theorem readsReported_iff_gatesHold (harch : cpuidArchitectureIdentify raw = .x86)
    (hvendor : cpuidVendorIdentify (raw.basicCpuid 0) = .intel ∨
      cpuidVendorIdentify (raw.basicCpuid 0) = .amd) :
    ReadsReported host raw ↔ GatesHold raw := by
  refine ⟨fun h => ?_, readsReported_of_gatesHold harch hvendor⟩
  unfold GatesHold
  rcases hvendor with hv | hv <;> rw [hv]
  · exact fun hreturns => intelGatesHold_of_readsReported harch hv hreturns h
  · exact amdGatesHold_of_readsReported harch hv h

end Reads

/-- An AMD processor whose largest extended leaf is 8000001Eh, which answers leaf 80000026h with
the sub-leaf given. -/
def amdZen (leaf : Regs) : CpuRawData :=
  { CpuRawData.zero with
    basicCpuid := fun i =>
      if i = 0 then { eax := 0xd, ebx := 0x68747541, ecx := 0x444d4163, edx := 0x69746e65 }
      else .zero
    extCpuid := fun i =>
      if i = 0 then { eax := 0x8000001e, ebx := 0x68747541, ecx := 0x444d4163, edx := 0x69746e65 }
      else .zero
    amdFn80000026h := fun _ => leaf }

theorem readsReported_iff_gatesHold_amdZen :
    ReadsReported .zero (amdZen .zero) ↔ GatesHold (amdZen .zero) :=
  readsReported_iff_gatesHold (by decide) (.inr (by decide +kernel))

theorem unreported_purpose_amdZen :
    AgreeOnReported (amdZen .zero) (amdZen ⟨0x40000001, 1, 0x100, 0⟩) ∧
      cpuIdentify .zero (amdZen ⟨0x40000001, 1, 0x100, 0⟩) ≠ cpuIdentify .zero (amdZen .zero) := by
  refine ⟨@agree_withTopology (amdZen .zero) (by decide) _, fun hsame => ?_⟩
  have hvendor : cpuidVendorIdentify ((amdZen .zero).basicCpuid 0) = .amd := by decide +kernel
  obtain ⟨data, hdata⟩ : ∃ data, cpuIdentify .zero (amdZen .zero) = .ok (.ok, data) := by
    rw [cpuIdentify_returns_iff _ (by decide) (by rw [hvendor]; decide), DecoderReturns, hvendor]
    exact .inl rfl
  have h1 := cpuIdentify_purpose hdata
  rw [← hsame] at hdata
  have h2 := cpuIdentify_purpose hdata
  have hfirst : storedPurpose (amdZen .zero) = .ok .general := by decide +kernel
  have hsecond : storedPurpose (amdZen ⟨0x40000001, 1, 0x100, 0⟩) = .ok .performance := by
    decide +kernel
  rw [hfirst] at h1
  rw [hsecond] at h2
  exact absurd (Except.ok.inj (h1.trans h2.symm)) (by decide)

end LibCpuid
