import LibCpuid.Amd.Database

/-! The decoders of `recog_amd.c`, which Hygon processors share. -/

namespace LibCpuid

open CLang

/-- `load_amd_features`. -/
def loadAmdFeatures (raw : CpuRawData) (data : CpuId) : CpuId :=
  let ext := (raw.extCpuid 0).eax.toNat
  let data :=
    if ext ≥ 0x80000001 then
      let data := matchFeatures
        [(20, .nx), (22, .mmxext), (25, .fxsrOpt), (30, .threeDNowExt), (31, .threeDNow)]
        (raw.extCpuid 1).edx data
      matchFeatures
        [(1, .cmpLegacy), (2, .svm), (6, .sse4a), (7, .misalignsse), (8, .threeDNowPrefetch),
          (9, .osvw), (10, .ibs), (11, .xop), (12, .skinit), (13, .wdt), (16, .fma4),
          (21, .tbm)] (raw.extCpuid 1).ecx data
    else data
  let data :=
    if ext ≥ 0x80000007 then
      matchFeatures
        [(0, .ts), (1, .fid), (2, .vid), (3, .ttp), (4, .tmAmd), (5, .stc),
          (6, .hundredMhzSteps), (7, .hwpstate), (9, .cpb), (10, .aperfmperf), (11, .pfi),
          (12, .pa)] (raw.extCpuid 7).edx data
    else data
  if ext ≥ 0x8000001a then
    let eax := (raw.extCpuid 0x1a).eax.toNat
    let sseSize :=
      if (eax >>> 2) &&& 1 ≠ 0 then 256
      else if eax &&& 1 ≠ 0 then 128
      else 64
    { data with
      detectionHints := Function.update data.detectionHints .sseSizeAuth true
      x86 := { data.x86 with sseSize } }
  else data

/-- `assoc_table` of `decode_amd_cache_info`. -/
def amdAssocTable : List Int := [0, 1, 2, 0, 4, 0, 8, 0, 16, 16, 32, 48, 64, 96, 128, 255]

/-- The associativity in bits 12 to 15 of a register of leaf 80000006h. -/
def amdAssoc (reg : BitVec 32) : Int := amdAssocTable.getD ((reg.toNat >>> 12) &&& 0xf) 0

/-- `decode_amd_cache_info`. -/
def decodeAmdCacheInfo (raw : CpuRawData) (data : CpuId) : CpuId :=
  let n := (raw.extCpuid 0).eax.toNat
  let data :=
    if n ≥ 0x80000005 then
      let l1 (cache : CacheType) (reg : BitVec 32) (data : CpuId) : CpuId :=
        assignCacheData true cache (extractsBits reg 31 24) (extractsBits reg 23 16)
          (extractsBits reg 7 0) data
      l1 .l1i (raw.extCpuid 5).edx (l1 .l1d (raw.extCpuid 5).ecx data)
    else data
  if n ≥ 0x80000006 then
    let ecx := (raw.extCpuid 6).ecx
    let edx := (raw.extCpuid 6).edx
    let data := assignCacheData true .l2 ((ecx.toNat >>> 16) &&& 0xffff : Nat) (amdAssoc ecx)
      (ecx.toNat &&& 0xff : Nat) data
    let l3Result := edx.toNat >>> 18
    if l3Result > 0 then
      assignCacheData true .l3 (l3Result * 512 : Nat) (amdAssoc edx) (edx.toNat &&& 0xff : Nat)
        data
    else { data with cache := Function.update data.cache .l3 (-1) }
  else data

/-- `decode_amd_number_of_cores`. -/
def decodeAmdNumberOfCores (raw : CpuRawData) (data : CpuId) : CpuId :=
  let basic := (raw.basicCpuid 0).eax.toNat
  let ext := (raw.extCpuid 0).eax.toNat
  let logicalCpus : Int :=
    if basic ≥ 1 then (((raw.basicCpuid 1).ebx.toNat >>> 16) &&& 0xff : Nat) else -1
  let numCores : Int :=
    if basic ≥ 1 ∧ ext ≥ 8 then 1 + ((raw.extCpuid 8).ecx.toNat &&& 0xff : Nat) else -1
  if data.flags .ht then
    if numCores > 1 then
      let threadsPerCore : Int := (((raw.extCpuid 30).ebx.toNat >>> 8) &&& 0xff : Nat) + 1
      { data with
        numCores :=
          if data.x86.extFamily ≥ 23 ∧ ext ≥ 30 then numCores / threadsPerCore else numCores
        numLogicalCpus := logicalCpus }
    else
      { data with
        numCores := 1
        numLogicalCpus := if logicalCpus ≥ 2 then logicalCpus else 2 }
  else { data with numCores := 1, numLogicalCpus := 1 }

/-- The loop of `cpuid_identify_purpose_amd` over the sub-leaves.  It reads a sub-leaf before it
compares the index with the bound, so it faults when it gets to the end of the array. -/
def amdPurposeFrom : List Regs → Checked CpuPurpose
  | [] => .error .outOfBounds
  | regs :: rest =>
    if regs.ebx ≠ 0 ∧ regs.ecx ≠ 0 then
      if extractsBit regs.eax 30 = 1 ∧ extractsBits regs.ecx 15 8 = 1 then
        match extractsBits regs.ebx 31 28 with
        | 0 => .ok .performance
        | 1 => .ok .efficiency
        | _ => .ok .general
      else amdPurposeFrom rest
    else .ok .general

/-- `cpuid_identify_purpose_amd`. -/
def cpuidIdentifyPurposeAmd (raw : CpuRawData) : Checked CpuPurpose :=
  if (raw.amdFn80000026h 0).eax = 0 then .ok .general
  else amdPurposeFrom (List.ofFn raw.amdFn80000026h)

/-- The caches of an AMD processor: leaf 8000001Dh with topology extensions, else the older
leaves. -/
def decodeAmdCaches (raw : CpuRawData) (data : CpuId) (internal : InternalIdInfo) :
    Checked (CpuId × InternalIdInfo) :=
  if extractsBit (raw.extCpuid 1).ecx 22 = 1 ∧
      extractsBits (raw.amdFn8000001dh 0).eax 4 0 ≠ 0 then
    decodeDeterministicCacheInfoX86 0 (List.ofFn raw.amdFn8000001dh) (data, internal)
  else .ok (decodeAmdCacheInfo raw data, internal)

/-- `cpuid_identify_amd`. -/
def cpuidIdentifyAmd (raw : CpuRawData) (data : CpuId) (internal : InternalIdInfo) :
    Checked (CpuId × InternalIdInfo) := do
  let data := loadAmdFeatures raw data
  let (data, internal) ← decodeAmdCaches raw data internal
  let data := decodeAmdNumberOfCores raw data
  let data := decodeArchitectureVersionX86 data
  let purpose ← cpuidIdentifyPurposeAmd raw
  let named := matchCpuCodename cpudbAmd { data with purpose }
  .ok (named.2, { internal with score := named.1 })

end LibCpuid
