import LibCpuid.AffinityMask
import LibCpuid.Identify

/-! What the decoders leave alone in the record of a processor, and the purpose that
`cpu_ident_internal` stores. -/

namespace LibCpuid

open CLang

/-- The later record has the affinity mask, the purpose and the vendor of the earlier one. -/
def CpuId.Keeps (before after : CpuId) : Prop :=
  after.affinityMask = before.affinityMask ∧ after.purpose = before.purpose ∧
    after.vendor = before.vendor

namespace CpuId.Keeps

theorem refl (d : CpuId) : d.Keeps d := ⟨rfl, rfl, rfl⟩

theorem trans {d1 d2 d3 : CpuId} (h1 : d1.Keeps d2) (h2 : d2.Keeps d3) : d1.Keeps d3 :=
  ⟨h2.1.trans h1.1, h2.2.1.trans h1.2.1, h2.2.2.trans h1.2.2⟩

/-- A decoder that goes through a list. -/
theorem foldl {α : Type} {step : CpuId → α → CpuId} (h : ∀ d a, CpuId.Keeps d (step d a))
    (l : List α) (d : CpuId) : d.Keeps (l.foldl step d) := by
  induction l generalizing d with
  | nil => exact refl d
  | cons a l ih => exact (h d a).trans (ih _)

end CpuId.Keeps

/-! ### Shared decoders -/

theorem matchFeatures_keeps (rows : List (Nat × CpuFeature)) (reg : BitVec 32) (d : CpuId) :
    d.Keeps (matchFeatures rows reg d) := by
  refine .foldl (fun d row => ?_) rows d
  split <;> exact ⟨rfl, rfl, rfl⟩

theorem assignCacheData_keeps (on : Bool) (cache : CacheType) (size assoc linesize : Int)
    (d : CpuId) : d.Keeps (assignCacheData on cache size assoc linesize d) := by
  unfold assignCacheData
  split <;> exact ⟨rfl, rfl, rfl⟩

theorem decodeNumberOfCoresX86_keeps (raw : CpuRawData) (d : CpuId) :
    d.Keeps (decodeNumberOfCoresX86 raw d) := by
  simp only [decodeNumberOfCoresX86]
  repeat' split
  all_goals exact ⟨rfl, rfl, rfl⟩

theorem matchCpuCodename_keeps (rows : List MatchEntry) (d : CpuId) :
    d.Keeps (matchCpuCodename rows d).2 := ⟨rfl, rfl, rfl⟩

theorem decodeDeterministicCacheInfoX86_keeps {i : Nat} {rest : List Regs}
    {d d' : CpuId} {internal internal' : InternalIdInfo}
    (h : decodeDeterministicCacheInfoX86 i rest (d, internal) = .ok (d', internal')) :
    d.Keeps d' := by
  induction rest generalizing i d internal with
  | nil =>
    obtain ⟨rfl, -⟩ := Prod.mk.inj (Except.ok.inj h)
    exact .refl _
  | cons regs rest ih =>
    simp only [decodeDeterministicCacheInfoX86] at h
    split at h
    · obtain ⟨rfl, -⟩ := Prod.mk.inj (Except.ok.inj h)
      exact .refl _
    · split at h
      · exact ih h
      · obtain ⟨mask, -, h⟩ := bind_eq_ok.mp h
        exact (assignCacheData_keeps _ _ _ _ _ _).trans (ih h)

/-! ### Basic identification -/

theorem guessSseSize_keeps (d : CpuId) : d.Keeps (guessSseSize d) := by
  unfold guessSseSize
  split
  · split <;> exact ⟨rfl, rfl, rfl⟩
  · exact .refl d

theorem loadFeaturesCommon_keeps (raw : CpuRawData) (d : CpuId) :
    d.Keeps (loadFeaturesCommon raw d) := by
  refine .trans ?_ (guessSseSize_keeps _)
  have hmatch := fun rows reg d => matchFeatures_keeps rows reg d
  simp only [CpuId.Keeps] at hmatch ⊢
  refine ⟨?_, ?_, ?_⟩
  · simp only [apply_ite CpuId.affinityMask, hmatch, ite_self]
  · simp only [apply_ite CpuId.purpose, hmatch, ite_self]
  · simp only [apply_ite CpuId.vendor, hmatch, ite_self]

theorem cpuidBasicIdentify_facts (host : Host) (raw : CpuRawData) (d : CpuId) :
    let data := (cpuidBasicIdentify host raw d).2
    data.affinityMask = d.affinityMask ∧ data.purpose = d.purpose ∧
      data.vendor = cpuidVendorIdentify (raw.basicCpuid 0) := by
  have hload := fun d => loadFeaturesCommon_keeps raw d
  simp only [CpuId.Keeps, cpuidBasicIdentify] at hload ⊢
  refine ⟨?_, ?_, ?_⟩ <;> (repeat' split) <;> simp only [hload]

/-! ### Intel -/

theorem loadIntelFeatures_keeps (raw : CpuRawData) (d : CpuId) :
    d.Keeps (loadIntelFeatures raw d) := by
  have hmatch := fun rows reg d => matchFeatures_keeps rows reg d
  simp only [CpuId.Keeps, loadIntelFeatures] at hmatch ⊢
  refine ⟨?_, ?_, ?_⟩
  · simp only [apply_ite CpuId.affinityMask, hmatch, ite_self]
  · simp only [apply_ite CpuId.purpose, hmatch, ite_self]
  · simp only [apply_ite CpuId.vendor, hmatch, ite_self]

theorem decodeIntelOldstyleCacheInfo_keeps (raw : CpuRawData) (d : CpuId) :
    d.Keeps (decodeIntelOldstyleCacheInfo raw d) := by
  have hfold : d.Keeps _ := .foldl (fun d (row : Nat × CacheType × Int × Int × Int) =>
    assignCacheData_keeps (decide (row.1 ∈ oldstyleDescriptors raw)) row.2.1 row.2.2.1
      row.2.2.2.1 row.2.2.2.2 d) oldstyleCaches d
  refine hfold.trans ?_
  unfold decodeIntelOldstyleCacheInfo
  dsimp only
  split
  · exact (assignCacheData_keeps _ _ _ _ _ _).trans ⟨rfl, rfl, rfl⟩
  · exact assignCacheData_keeps _ _ _ _ _ _

theorem decodeIntelCaches_keeps {raw : CpuRawData} {d d' : CpuId}
    {internal internal' : InternalIdInfo}
    (h : decodeIntelCaches raw d internal = .ok (d', internal')) : d.Keeps d' := by
  unfold decodeIntelCaches at h
  split at h
  · exact decodeDeterministicCacheInfoX86_keeps h
  · split at h
    · obtain ⟨rfl, -⟩ := Prod.mk.inj (Except.ok.inj h)
      exact decodeIntelOldstyleCacheInfo_keeps raw d
    · obtain ⟨rfl, -⟩ := Prod.mk.inj (Except.ok.inj h)
      exact .refl d

theorem decodeIntelExtendedTopology_keeps {raw : CpuRawData} {d d' : CpuId}
    (h : decodeIntelExtendedTopology raw d = .ok (some d')) : d.Keeps d' := by
  simp only [decodeIntelExtendedTopology] at h
  split at h
  · cases h
  · split at h
    · cases h
    · obtain rfl := Option.some.inj (Except.ok.inj h)
      exact ⟨rfl, rfl, rfl⟩

theorem decodeIntelNumberOfCores_keeps {raw : CpuRawData} {d d' : CpuId}
    (h : decodeIntelNumberOfCores raw d = .ok d') : d.Keeps d' := by
  unfold decodeIntelNumberOfCores at h
  split at h
  · exact Except.ok.inj h ▸ decodeNumberOfCoresX86_keeps raw d
  · obtain ⟨result, hext, h⟩ := bind_eq_ok.mp h
    cases result with
    | none => exact Except.ok.inj h ▸ decodeNumberOfCoresX86_keeps raw d
    | some d'' => exact Except.ok.inj h ▸ decodeIntelExtendedTopology_keeps hext

theorem decodeIntelSgxFeatures_keeps (host : Host) (raw : CpuRawData) (d : CpuId) :
    d.Keeps (decodeIntelSgxFeatures host raw d) := by
  simp only [decodeIntelSgxFeatures]
  split <;> exact ⟨rfl, rfl, rfl⟩

/-- `cpuid_identify_intel` stores the purpose that `cpuid_identify_purpose_intel` finds. -/
theorem cpuidIdentifyIntel_facts {host : Host} {raw : CpuRawData} {d d' : CpuId}
    {internal internal' : InternalIdInfo}
    (h : cpuidIdentifyIntel host raw d internal = .ok (d', internal')) :
    d'.affinityMask = d.affinityMask ∧ d'.purpose = cpuidIdentifyPurposeIntel raw := by
  simp only [cpuidIdentifyIntel, bind_eq_ok, Except.ok.injEq, Prod.mk.injEq, Prod.exists] at h
  obtain ⟨d1, internal1, hcaches, d2, hcores, hd, -⟩ := h
  have hmask : d2.affinityMask = d.affinityMask :=
    (((loadIntelFeatures_keeps raw d).trans (decodeIntelCaches_keeps hcaches)).trans
      (decodeIntelNumberOfCores_keeps hcores)).1
  have hname := fun d3 => matchCpuCodename_keeps cpudbIntel d3
  have hsgx := fun d3 => decodeIntelSgxFeatures_keeps host raw d3
  simp only [CpuId.Keeps] at hname hsgx
  rw [← hd]
  constructor
  · simp only [apply_ite CpuId.affinityMask, hsgx, hname, ite_self]
    exact hmask
  · simp only [apply_ite CpuId.purpose, hsgx, hname, ite_self]

/-! ### AMD and Hygon -/

theorem loadAmdFeatures_keeps (raw : CpuRawData) (d : CpuId) :
    d.Keeps (loadAmdFeatures raw d) := by
  have hmatch := fun rows reg d => matchFeatures_keeps rows reg d
  simp only [CpuId.Keeps, loadAmdFeatures] at hmatch ⊢
  refine ⟨?_, ?_, ?_⟩
  · simp only [apply_ite CpuId.affinityMask, hmatch, ite_self]
  · simp only [apply_ite CpuId.purpose, hmatch, ite_self]
  · simp only [apply_ite CpuId.vendor, hmatch, ite_self]

theorem decodeAmdCacheInfo_keeps (raw : CpuRawData) (d : CpuId) :
    d.Keeps (decodeAmdCacheInfo raw d) := by
  have hassign := fun on cache size assoc linesize d =>
    assignCacheData_keeps on cache size assoc linesize d
  simp only [CpuId.Keeps, decodeAmdCacheInfo] at hassign ⊢
  refine ⟨?_, ?_, ?_⟩
  · simp only [apply_ite CpuId.affinityMask, hassign, ite_self]
  · simp only [apply_ite CpuId.purpose, hassign, ite_self]
  · simp only [apply_ite CpuId.vendor, hassign, ite_self]

theorem decodeAmdCaches_keeps {raw : CpuRawData} {d d' : CpuId}
    {internal internal' : InternalIdInfo}
    (h : decodeAmdCaches raw d internal = .ok (d', internal')) : d.Keeps d' := by
  unfold decodeAmdCaches at h
  split at h
  · exact decodeDeterministicCacheInfoX86_keeps h
  · obtain ⟨rfl, -⟩ := Prod.mk.inj (Except.ok.inj h)
    exact decodeAmdCacheInfo_keeps raw d

theorem decodeAmdNumberOfCores_keeps (raw : CpuRawData) (d : CpuId) :
    d.Keeps (decodeAmdNumberOfCores raw d) := by
  unfold decodeAmdNumberOfCores
  dsimp only
  repeat' split
  all_goals exact ⟨rfl, rfl, rfl⟩

/-- `cpuid_identify_amd` stores the purpose that `cpuid_identify_purpose_amd` finds. -/
theorem cpuidIdentifyAmd_facts {raw : CpuRawData} {d d' : CpuId}
    {internal internal' : InternalIdInfo}
    (h : cpuidIdentifyAmd raw d internal = .ok (d', internal')) :
    d'.affinityMask = d.affinityMask ∧ cpuidIdentifyPurposeAmd raw = .ok d'.purpose := by
  simp only [cpuidIdentifyAmd, bind_eq_ok, Except.ok.injEq, Prod.mk.injEq, Prod.exists] at h
  obtain ⟨d1, internal1, hcaches, purpose, hpurpose, hd, -⟩ := h
  have hmask : (decodeAmdNumberOfCores raw d1).affinityMask = d.affinityMask :=
    (((loadAmdFeatures_keeps raw d).trans (decodeAmdCaches_keeps hcaches)).trans
      (decodeAmdNumberOfCores_keeps raw d1)).1
  rw [← hd, (matchCpuCodename_keeps cpudbAmd _).1, (matchCpuCodename_keeps cpudbAmd _).2.1]
  exact ⟨hmask, hpurpose⟩

/-! ### Centaur -/

theorem cpuidIdentifyCentaur_keeps {raw : CpuRawData} {d d' : CpuId}
    {internal internal' : InternalIdInfo}
    (h : cpuidIdentifyCentaur raw d internal = .ok (d', internal')) : d.Keeps d' := by
  simp only [cpuidIdentifyCentaur, bind_eq_ok, Except.ok.injEq, Prod.mk.injEq, Prod.exists] at h
  obtain ⟨d1, internal1, hcaches, hd, -⟩ := h
  have hkeeps : d.Keeps d1 := by
    unfold decodeCentaurCaches at hcaches
    split at hcaches
    · exact decodeDeterministicCacheInfoX86_keeps hcaches
    · obtain ⟨rfl, -⟩ := Prod.mk.inj (Except.ok.inj hcaches)
      exact .refl d
  have hcores : d1.Keeps (decodeArchitectureVersionX86 (decodeNumberOfCoresX86 raw d1)) :=
    decodeNumberOfCoresX86_keeps raw d1
  rw [← hd]
  exact (hkeeps.trans hcores).trans (matchCpuCodename_keeps _ _)

/-! ### ARM -/

theorem setFeatureStatus_keeps (isPresent : Bool) (feature : CpuFeature)
    (optionalFrom mandatoryFrom : CpuFeatureLevel) (s : CpuId × ArmArchExtension) :
    s.1.Keeps (setFeatureStatus isPresent feature optionalFrom mandatoryFrom s).1 := by
  unfold setFeatureStatus
  dsimp only
  split <;> exact ⟨rfl, rfl, rfl⟩

theorem matchFeaturesMap_keeps (raw : CpuRawData) (rows : List (CpuFeature × ArmFeatureMap))
    (s : CpuId × ArmArchExtension) : s.1.Keeps (matchFeaturesMap raw rows s).1 := by
  unfold matchFeaturesMap
  induction rows generalizing s with
  | nil => exact .refl _
  | cons row rows ih => exact (setFeatureStatus_keeps _ _ _ _ s).trans (ih _)

theorem loadArmFeaturePauth_keeps (s : CpuId × ArmArchExtension) :
    s.1.Keeps (loadArmFeaturePauth s).1 :=
  setFeatureStatus_keeps _ _ _ _ s

theorem loadArmFeatureMpam_keeps (raw : CpuRawData) (s : CpuId × ArmArchExtension) :
    s.1.Keeps (loadArmFeatureMpam raw s).1 := by
  unfold loadArmFeatureMpam
  dsimp only
  split
  · exact ((setFeatureStatus_keeps _ _ _ _ s).trans (setFeatureStatus_keeps _ _ _ _ _)).trans
      (setFeatureStatus_keeps _ _ _ _ _)
  · exact .refl _

theorem loadArmFeatureMte4_keeps (raw : CpuRawData) (s : CpuId × ArmArchExtension) :
    s.1.Keeps (loadArmFeatureMte4 raw s).1 := by
  unfold loadArmFeatureMte4
  refine .trans ?_ (setFeatureStatus_keeps _ _ _ _ _)
  split
  · exact ((setFeatureStatus_keeps _ _ _ _ s).trans (setFeatureStatus_keeps _ _ _ _ _)).trans
      (setFeatureStatus_keeps _ _ _ _ _)
  · exact .refl _

theorem loadArmFeatures_keeps (raw : CpuRawData) (s : CpuId × ArmArchExtension) :
    s.1.Keeps (loadArmFeatures raw s).1 := by
  have hearly : s.1.Keeps (loadArmFeatureJazelle (loadArmFeatureThumb s)).1 :=
    (setFeatureStatus_keeps _ _ _ _ s).trans (setFeatureStatus_keeps _ _ _ _ _)
  have hmap := hearly.trans (matchFeaturesMap_keeps raw featuresMap _)
  exact ((hmap.trans (loadArmFeaturePauth_keeps _)).trans (loadArmFeatureMpam_keeps raw _)).trans
    (loadArmFeatureMte4_keeps raw _)

theorem cpuidIdentifyArm_facts (raw : CpuRawData) (d : CpuId) :
    (cpuidIdentifyArm raw d).affinityMask = d.affinityMask ∧
      (cpuidIdentifyArm raw d).purpose = cpuidIdentifyPurposeArm raw := by
  have hload := loadArmFeatures_keeps raw (decodeArmMidr raw d, .zero)
  unfold cpuidIdentifyArm
  dsimp only
  split <;> exact ⟨hload.1, hload.2.1⟩

/-! ### The record that `cpu_ident_internal` stores -/

/-- The purpose that the decoder of the vendor stores. -/
def storedPurpose (raw : CpuRawData) : Checked CpuPurpose :=
  match cpuidArchitectureIdentify raw with
  | .x86 =>
    match cpuidVendorIdentify (raw.basicCpuid 0) with
    | .intel => .ok (cpuidIdentifyPurposeIntel raw)
    | .amd | .hygon => cpuidIdentifyPurposeAmd raw
    | _ => .ok .general
  | .arm => .ok (cpuidIdentifyPurposeArm raw)
  | .unknown => .ok .general

/-- A record that `cpu_ident_internal` accepts has an empty affinity mask and the purpose of its
vendor's decoder. -/
theorem cpuIdentInternal_facts {host : Host} {raw : CpuRawData} {data : CpuId}
    {idInfo : InternalIdInfo} (h : cpuIdentInternal host raw = .ok (.ok, data, idInfo)) :
    data.affinityMask = initAffinityMask ∧ storedPurpose raw = .ok data.purpose := by
  simp only [cpuIdentInternal] at h
  cases harch : cpuidArchitectureIdentify raw with
  | unknown => simp [harch] at h
  | arm =>
    simp only [harch, Except.ok.injEq, Prod.mk.injEq, true_and] at h
    obtain ⟨rfl, -⟩ := h
    obtain ⟨hmask, hpurpose⟩ := cpuidIdentifyArm_facts raw
      { cpuIdConstructor with architecture := .arm }
    exact ⟨hmask, by rw [storedPurpose, harch, hpurpose]⟩
  | x86 =>
    simp only [harch] at h
    obtain ⟨hmask, hpurpose, hvendor⟩ := cpuidBasicIdentify_facts host raw
      { cpuIdConstructor with architecture := .x86 }
    split at h
    · next d hbasic =>
      rw [hbasic] at hmask hpurpose hvendor
      dsimp only at hmask hpurpose hvendor
      rw [storedPurpose, harch]
      dsimp only
      rw [← hvendor]
      cases hv : d.vendor with
      | intel =>
        simp only [hv, bind_eq_ok, Except.ok.injEq, Prod.mk.injEq, Prod.exists] at h
        obtain ⟨d', internal', hid, -, rfl, -⟩ := h
        obtain ⟨hmask', hpurpose'⟩ := cpuidIdentifyIntel_facts hid
        exact ⟨hmask'.trans hmask, congrArg Except.ok hpurpose'.symm⟩
      | amd | hygon =>
        simp only [hv, bind_eq_ok, Except.ok.injEq, Prod.mk.injEq, Prod.exists] at h
        obtain ⟨d', internal', hid, -, rfl, -⟩ := h
        obtain ⟨hmask', hpurpose'⟩ := cpuidIdentifyAmd_facts hid
        exact ⟨hmask'.trans hmask, hpurpose'⟩
      | centaur =>
        simp only [hv, bind_eq_ok, Except.ok.injEq, Prod.mk.injEq, Prod.exists] at h
        obtain ⟨d', internal', hid, -, rfl, -⟩ := h
        have hkeeps := cpuidIdentifyCentaur_keeps hid
        exact ⟨hkeeps.1.trans hmask, congrArg Except.ok (hkeeps.2.1.trans hpurpose).symm⟩
      | _ =>
        simp only [hv, Except.ok.injEq, Prod.mk.injEq, true_and] at h
        obtain ⟨rfl, -⟩ := h
        exact ⟨hmask, congrArg Except.ok hpurpose.symm⟩
    · next r d hne hbasic =>
      simp only [Except.ok.injEq, Prod.mk.injEq] at h
      exact (hne h.1).elim

end LibCpuid
