import LibCpuid.Identify

/-! The fields of a record that the decoders never change. -/

namespace LibCpuid

open CLang

/-- What `f` reads of a record is not changed by a feature, a signature, a cache, a core count, a
level, a purpose or a name. -/
structure Untouched {α : Type} (f : CpuId → α) : Prop where
  flags : ∀ d flags, f { d with flags } = f d
  x86 : ∀ d x86, f { d with x86 } = f d
  caches : ∀ d cache assoc cacheline, f { d with cache, assoc, cacheline } = f d
  cores : ∀ d numCores numLogicalCpus, f { d with numCores, numLogicalCpus } = f d
  level : ∀ d featureLevel, f { d with featureLevel } = f d
  purpose : ∀ d purpose, f { d with purpose } = f d
  hints : ∀ d detectionHints, f { d with detectionHints } = f d
  names : ∀ d cpuCodename technologyNode, f { d with cpuCodename, technologyNode } = f d

theorem untouched_vendor : Untouched CpuId.vendor := by constructor <;> intros <;> rfl

theorem untouched_instances : Untouched CpuId.instances := by constructor <;> intros <;> rfl

/-! ### Features -/

section Features

variable {α : Type} {f : CpuId → α} (hf : ∀ d flags, f { d with flags } = f d)
include hf

theorem matchFeatures_frame (rows : List (Nat × CpuFeature)) (reg : BitVec 32) (d : CpuId) :
    f (matchFeatures rows reg d) = f d := by
  unfold matchFeatures
  induction rows generalizing d with
  | nil => rfl
  | cons row rows ih =>
    rw [List.foldl_cons, ih]
    split
    · exact hf d _
    · rfl

theorem setFeatureStatus_frame (isPresent : Bool) (feature : CpuFeature)
    (optionalFrom mandatoryFrom : CpuFeatureLevel) (s : CpuId × ArmArchExtension) :
    f (setFeatureStatus isPresent feature optionalFrom mandatoryFrom s).1 = f s.1 := by
  unfold setFeatureStatus
  dsimp only
  split
  · exact hf s.1 _
  · rfl

theorem matchFeaturesMap_frame (raw : CpuRawData) (rows : List (CpuFeature × ArmFeatureMap))
    (s : CpuId × ArmArchExtension) : f (matchFeaturesMap raw rows s).1 = f s.1 := by
  unfold matchFeaturesMap
  induction rows generalizing s with
  | nil => rfl
  | cons row rows ih =>
    rw [List.foldl_cons, ih]
    exact setFeatureStatus_frame hf _ _ _ _ s

theorem loadArmFeatures_frame (raw : CpuRawData) (s : CpuId × ArmArchExtension) :
    f (loadArmFeatures raw s).1 = f s.1 := by
  have hstatus := fun p feature o m s => setFeatureStatus_frame hf p feature o m s
  have hmpam (s : CpuId × ArmArchExtension) : f (loadArmFeatureMpam raw s).1 = f s.1 := by
    unfold loadArmFeatureMpam
    dsimp only
    split
    · simp only [hstatus]
    · rfl
  have hmte (s : CpuId × ArmArchExtension) : f (loadArmFeatureMte4 raw s).1 = f s.1 := by
    unfold loadArmFeatureMte4
    dsimp only
    rw [hstatus]
    split
    · simp only [hstatus]
    · rfl
  simp only [loadArmFeatures, hmte, hmpam, loadArmFeaturePauth, hstatus,
    matchFeaturesMap_frame hf, loadArmFeatureJazelle, loadArmFeatureThumb]

end Features

/-! ### Caches -/

section Caches

variable {α : Type} {f : CpuId → α}
  (hf : ∀ d cache assoc cacheline, f { d with cache, assoc, cacheline } = f d)
  {raw : CpuRawData} {d d' : CpuId} {internal internal' : InternalIdInfo}
include hf

theorem assignCacheData_frame (on : Bool) (cache : CacheType) (size assoc linesize : Int)
    (d : CpuId) : f (assignCacheData on cache size assoc linesize d) = f d := by
  unfold assignCacheData
  split
  · exact hf d _ _ _
  · rfl

theorem cache_frame (d : CpuId) (cache : CacheType → Int) : f { d with cache } = f d :=
  hf d cache d.assoc d.cacheline

theorem decodeDeterministicCacheInfoX86_frame {i : Nat} {rest : List Regs}
    (h : decodeDeterministicCacheInfoX86 i rest (d, internal) = .ok (d', internal')) :
    f d' = f d := by
  induction rest generalizing i d internal with
  | nil =>
    obtain ⟨rfl, -⟩ := Prod.mk.inj (Except.ok.inj h)
    rfl
  | cons regs rest ih =>
    simp only [decodeDeterministicCacheInfoX86] at h
    split at h
    · obtain ⟨rfl, -⟩ := Prod.mk.inj (Except.ok.inj h)
      rfl
    · split at h
      · exact ih h
      · obtain ⟨mask, -, h⟩ := bind_eq_ok.mp h
        exact (ih h).trans (assignCacheData_frame hf _ _ _ _ _ _)

theorem decodeIntelOldstyleCacheInfo_frame (raw : CpuRawData) (d : CpuId) :
    f (decodeIntelOldstyleCacheInfo raw d) = f d := by
  have hfold (rows : List (Nat × CacheType × Int × Int × Int)) (d : CpuId) :
      f (rows.foldl (fun data row => assignCacheData
        (row.1 ∈ oldstyleDescriptors raw) row.2.1 row.2.2.1 row.2.2.2.1 row.2.2.2.2 data) d) =
        f d := by
    induction rows generalizing d with
    | nil => rfl
    | cons row rows ih => rw [List.foldl_cons, ih, assignCacheData_frame hf]
  unfold decodeIntelOldstyleCacheInfo
  dsimp only
  split
  · rw [cache_frame hf, assignCacheData_frame hf, hfold]
  · rw [assignCacheData_frame hf, hfold]

theorem decodeIntelCaches_frame (h : decodeIntelCaches raw d internal = .ok (d', internal')) :
    f d' = f d := by
  unfold decodeIntelCaches at h
  split at h
  · exact decodeDeterministicCacheInfoX86_frame hf h
  · split at h
    · obtain ⟨rfl, -⟩ := Prod.mk.inj (Except.ok.inj h)
      exact decodeIntelOldstyleCacheInfo_frame hf raw d
    · obtain ⟨rfl, -⟩ := Prod.mk.inj (Except.ok.inj h)
      rfl

theorem decodeAmdCacheInfo_frame (raw : CpuRawData) (d : CpuId) :
    f (decodeAmdCacheInfo raw d) = f d := by
  have hassign := fun on cache size assoc linesize d =>
    assignCacheData_frame hf on cache size assoc linesize d
  simp only [decodeAmdCacheInfo, apply_ite f, cache_frame hf, hassign, ite_self]

theorem decodeAmdCaches_frame (h : decodeAmdCaches raw d internal = .ok (d', internal')) :
    f d' = f d := by
  unfold decodeAmdCaches at h
  split at h
  · exact decodeDeterministicCacheInfoX86_frame hf h
  · obtain ⟨rfl, -⟩ := Prod.mk.inj (Except.ok.inj h)
    exact decodeAmdCacheInfo_frame hf raw d

theorem decodeCentaurCaches_frame (h : decodeCentaurCaches raw d internal = .ok (d', internal')) :
    f d' = f d := by
  unfold decodeCentaurCaches at h
  split at h
  · exact decodeDeterministicCacheInfoX86_frame hf h
  · obtain ⟨rfl, -⟩ := Prod.mk.inj (Except.ok.inj h)
    rfl

end Caches

/-! ### Shared decoders -/

namespace Untouched

variable {α : Type} {f : CpuId → α} (hf : Untouched f) {raw : CpuRawData} {d d' : CpuId}
  {internal internal' : InternalIdInfo}
include hf

theorem decodeNumberOfCoresX86 (raw : CpuRawData) (d : CpuId) :
    f (decodeNumberOfCoresX86 raw d) = f d := by
  have hsingle (d : CpuId) (numCores numLogicalCpus : Int) (flags : CpuFeature → Bool) :
      f { d with numCores, numLogicalCpus, flags } = f d :=
    (hf.flags { d with numCores, numLogicalCpus } flags).trans (hf.cores d numCores numLogicalCpus)
  simp only [LibCpuid.decodeNumberOfCoresX86, apply_ite f, hf.cores, hsingle, ite_self]

theorem decodeArchitectureVersionX86 (d : CpuId) : f (decodeArchitectureVersionX86 d) = f d :=
  hf.level d _

theorem matchCpuCodename (rows : List MatchEntry) (d : CpuId) :
    f (matchCpuCodename rows d).2 = f d := hf.names d _ _

theorem guessSseSize (d : CpuId) : f (guessSseSize d) = f d := by
  unfold LibCpuid.guessSseSize
  split
  · split <;> exact hf.x86 d _
  · rfl

theorem loadFeaturesCommon (raw : CpuRawData) (d : CpuId) :
    f (loadFeaturesCommon raw d) = f d := by
  have hmatch := fun rows reg d => matchFeatures_frame hf.flags rows reg d
  simp only [LibCpuid.loadFeaturesCommon, hf.guessSseSize, apply_ite f, hmatch, ite_self]

/-! ### Intel -/

theorem loadIntelFeatures (raw : CpuRawData) (d : CpuId) : f (loadIntelFeatures raw d) = f d := by
  have hmatch := fun rows reg d => matchFeatures_frame hf.flags rows reg d
  simp only [LibCpuid.loadIntelFeatures, apply_ite f, hmatch, ite_self]

theorem decodeIntelNumberOfCores (h : decodeIntelNumberOfCores raw d = .ok d') : f d' = f d := by
  unfold LibCpuid.decodeIntelNumberOfCores at h
  split at h
  · exact Except.ok.inj h ▸ hf.decodeNumberOfCoresX86 raw d
  · obtain ⟨result, hext, h⟩ := bind_eq_ok.mp h
    cases result with
    | none => exact Except.ok.inj h ▸ hf.decodeNumberOfCoresX86 raw d
    | some d'' =>
      obtain rfl := Except.ok.inj h
      simp only [decodeIntelExtendedTopology] at hext
      split at hext
      · cases hext
      · split at hext
        · cases hext
        · obtain rfl := Option.some.inj (Except.ok.inj hext)
          exact hf.cores d _ _

theorem decodeIntelSgxFeatures (host : Host) (raw : CpuRawData) (d : CpuId) :
    f (decodeIntelSgxFeatures host raw d) = f d := by
  simp only [LibCpuid.decodeIntelSgxFeatures]
  split
  · rfl
  · exact hf.x86 d _

theorem cpuidIdentifyIntel {host : Host}
    (h : cpuidIdentifyIntel host raw d internal = .ok (d', internal')) : f d' = f d := by
  simp only [LibCpuid.cpuidIdentifyIntel, bind_eq_ok, Except.ok.injEq, Prod.mk.injEq,
    Prod.exists] at h
  obtain ⟨d1, internal1, hcaches, d2, hcores, rfl, -⟩ := h
  simp only [apply_ite f, hf.decodeIntelSgxFeatures, hf.matchCpuCodename, ite_self]
  rw [hf.purpose, hf.decodeArchitectureVersionX86, hf.decodeIntelNumberOfCores hcores,
    decodeIntelCaches_frame hf.caches hcaches, hf.loadIntelFeatures]

/-! ### AMD -/

theorem loadAmdFeatures (raw : CpuRawData) (d : CpuId) : f (loadAmdFeatures raw d) = f d := by
  have hmatch := fun rows reg d => matchFeatures_frame hf.flags rows reg d
  have hsize (d : CpuId) (x86 : X86Id) (detectionHints : CpuHint → Bool) :
      f { d with x86, detectionHints } = f d :=
    (hf.hints { d with x86 } detectionHints).trans (hf.x86 d x86)
  simp only [LibCpuid.loadAmdFeatures, apply_ite f, hsize, hmatch, ite_self]

theorem decodeAmdNumberOfCores (raw : CpuRawData) (d : CpuId) :
    f (decodeAmdNumberOfCores raw d) = f d := by
  simp only [LibCpuid.decodeAmdNumberOfCores, apply_ite f, hf.cores, ite_self]

theorem cpuidIdentifyAmd (h : cpuidIdentifyAmd raw d internal = .ok (d', internal')) :
    f d' = f d := by
  simp only [LibCpuid.cpuidIdentifyAmd, bind_eq_ok, Except.ok.injEq, Prod.mk.injEq,
    Prod.exists] at h
  obtain ⟨d1, internal1, hcaches, purpose, -, rfl, -⟩ := h
  rw [hf.matchCpuCodename, hf.purpose, hf.decodeArchitectureVersionX86,
    hf.decodeAmdNumberOfCores, decodeAmdCaches_frame hf.caches hcaches, hf.loadAmdFeatures]

/-! ### Centaur -/

theorem cpuidIdentifyCentaur (h : cpuidIdentifyCentaur raw d internal = .ok (d', internal')) :
    f d' = f d := by
  simp only [LibCpuid.cpuidIdentifyCentaur, bind_eq_ok, Except.ok.injEq, Prod.mk.injEq,
    Prod.exists] at h
  obtain ⟨d1, internal1, hcaches, rfl, -⟩ := h
  rw [hf.matchCpuCodename, hf.decodeArchitectureVersionX86, hf.decodeNumberOfCoresX86,
    decodeCentaurCaches_frame hf.caches hcaches]

end Untouched

end LibCpuid
