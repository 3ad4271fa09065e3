import LibCpuid.Intel.Database

/-! The decoders of `recog_intel.c`. -/

namespace LibCpuid

open CLang

/-- `load_intel_features`. -/
def loadIntelFeatures (raw : CpuRawData) (data : CpuId) : CpuId :=
  let basic := (raw.basicCpuid 0).eax.toNat
  let data :=
    if basic ≥ 1 then
      let data := matchFeatures
        [(18, .pn), (21, .dts), (22, .acpi), (27, .ss), (29, .tm), (30, .ia64), (31, .pbe)]
        (raw.basicCpuid 1).edx data
      matchFeatures
        [(2, .dts64), (4, .dsCpl), (5, .vmx), (6, .smx), (7, .est), (8, .tm2), (10, .cid),
          (14, .xtpr), (15, .pdcm), (18, .dca)] (raw.basicCpuid 1).ecx data
    else data
  let data :=
    if (raw.extCpuid 0).eax.toNat ≥ 1 then
      matchFeatures [(20, .xd)] (raw.extCpuid 1).edx data
    else data
  if basic ≥ 7 then
    matchFeatures [(2, .sgx), (4, .hle), (11, .rtm), (26, .avx512pf), (27, .avx512er)]
      (raw.basicCpuid 7).ebx data
  else data

/-- The descriptors that `decode_intel_oldstyle_cache_info` finds in leaf 2. -/
def oldstyleDescriptors (raw : CpuRawData) : List Nat :=
  let regs := raw.basicCpuid 2
  [regs.eax, regs.ebx, regs.ecx, regs.edx].flatMap fun (x : BitVec 32) =>
    if x &&& 0x80000000 ≠ 0 then []
    else [0, 8, 16, 24].map fun shift => (x.toNat >>> shift) &&& 0xff

/-- The caches that the descriptors of leaf 2 mean: size in KB, associativity and line size. -/
def oldstyleCaches : List (Nat × CacheType × Int × Int × Int) :=
  [(0x06, .l1i, 8, 4, 32), (0x08, .l1i, 16, 4, 32), (0x0A, .l1d, 8, 2, 32),
    (0x0C, .l1d, 16, 4, 32), (0x22, .l3, 512, 4, 64), (0x23, .l3, 1024, 8, 64),
    (0x25, .l3, 2048, 8, 64), (0x29, .l3, 4096, 8, 64), (0x2C, .l1d, 32, 8, 64),
    (0x30, .l1i, 32, 8, 64), (0x39, .l2, 128, 4, 64), (0x3A, .l2, 192, 6, 64),
    (0x3B, .l2, 128, 2, 64), (0x3C, .l2, 256, 4, 64), (0x3D, .l2, 384, 6, 64),
    (0x3E, .l2, 512, 4, 64), (0x41, .l2, 128, 4, 32), (0x42, .l2, 256, 4, 32),
    (0x43, .l2, 512, 4, 32), (0x44, .l2, 1024, 4, 32), (0x45, .l2, 2048, 4, 32),
    (0x46, .l3, 4096, 4, 64), (0x47, .l3, 8192, 8, 64), (0x4A, .l3, 6144, 12, 64),
    (0x4B, .l3, 8192, 16, 64), (0x4C, .l3, 12288, 12, 64), (0x4D, .l3, 16384, 16, 64),
    (0x4E, .l2, 6144, 24, 64), (0x60, .l1d, 16, 8, 64), (0x66, .l1d, 8, 4, 64),
    (0x67, .l1d, 16, 4, 64), (0x68, .l1d, 32, 4, 64),
    -- trace caches, for which the line size is not specified
    (0x70, .l1i, 12, 8, -1), (0x71, .l1i, 16, 8, -1), (0x72, .l1i, 32, 8, -1),
    (0x73, .l1i, 64, 8, -1),
    (0x78, .l2, 1024, 4, 64), (0x79, .l2, 128, 8, 64), (0x7A, .l2, 256, 8, 64),
    (0x7B, .l2, 512, 8, 64), (0x7C, .l2, 1024, 8, 64), (0x7D, .l2, 2048, 8, 64),
    (0x7F, .l2, 512, 2, 64), (0x82, .l2, 256, 8, 32), (0x83, .l2, 512, 8, 32),
    (0x84, .l2, 1024, 8, 32), (0x85, .l2, 2048, 8, 32), (0x86, .l2, 512, 4, 64),
    (0x87, .l2, 1024, 8, 64)]

/-- `decode_intel_oldstyle_cache_info`. -/
def decodeIntelOldstyleCacheInfo (raw : CpuRawData) (data : CpuId) : CpuId :=
  let f := oldstyleDescriptors raw
  let data := oldstyleCaches.foldl
    (fun data row =>
      assignCacheData (row.1 ∈ f) row.2.1 row.2.2.1 row.2.2.2.1 row.2.2.2.2 data) data
  -- descriptor 0x49 is an L3 cache on a Xeon MP and an L2 cache elsewhere
  let data :=
    assignCacheData (0x49 ∈ f) (if data.x86.family = 0xf ∧ data.x86.model = 0x6 then .l3 else .l2)
      4096 16 64 data
  if 0x40 ∈ f then
    let cache : CacheType := if data.cache .l2 = -1 then .l2 else .l3
    { data with cache := Function.update data.cache cache 0 }
  else data

/-- The loop of `decode_intel_extended_topology`: `num_smt` and `num_core`. -/
def extendedTopologyCounts : List Regs → Int × Int → Int × Int
  | [], counts => counts
  | regs :: rest, (numSmt, numCore) =>
    if regs.eax ≠ 0 ∧ regs.ebx ≠ 0 then
      let count : Int := extractsBits regs.ebx 15 0
      match extractsBits regs.ecx 15 8 with
      | 1 => extendedTopologyCounts rest (count, numCore)
      | 2 => extendedTopologyCounts rest (numSmt, count)
      | _ => extendedTopologyCounts rest (numSmt, numCore)
    else (numSmt, numCore)

/-- `decode_intel_extended_topology`: `none` stands for the return value 0. -/
def decodeIntelExtendedTopology (raw : CpuRawData) (data : CpuId) : Checked (Option CpuId) :=
  let (numSmt, numCore) := extendedTopologyCounts (List.ofFn raw.intelFn11) (-1, -1)
  if numSmt = -1 ∨ numCore = -1 then .ok none
  else if numSmt = 0 then .error .divByZero
  else
    let numCores := numCore / numSmt
    .ok (some { data with
      numLogicalCpus := numCore
      numCores := if numCores ≤ 0 then 1 else numCores })

theorem epcSubleaf_lt {index : Nat} (h : index < maxIntelFn12hLevel - 2) :
    2 + index < maxIntelFn12hLevel := by omega

/-- The length of the section that `cpuid_get_epc` decodes. -/
def cpuidGetEpcLength (host : Host) (raw : CpuRawData) (index : Nat) : BitVec 64 :=
  let regs :=
    if h : index < maxIntelFn12hLevel - 2 then raw.intelFn12h ⟨2 + index, epcSubleaf_lt h⟩
    else host.execCpuid 0x12 (.ofNat 32 (2 + index))
  if regs.eax &&& 0xf = 1 then
    (regs.ecx &&& 0xfffff000).zeroExtend 64 ||| ((regs.edx &&& 0x000fffff).zeroExtend 64 <<< 32)
  else 0

/-- The loop of `decode_intel_sgx_features` from section `i` on, with the iterations that are left:
the first section that is empty. -/
def numEpcSections (host : Host) (raw : CpuRawData) (i : Nat) : Nat → Nat
  | 0 => i
  | fuel + 1 =>
    if cpuidGetEpcLength host raw i = 0 then i else numEpcSections host raw (i + 1) fuel

/-- `decode_intel_sgx_features`. -/
def decodeIntelSgxFeatures (host : Host) (raw : CpuRawData) (data : CpuId) : CpuId :=
  let regs := raw.basicCpuid 0x12
  if (raw.basicCpuid 0).eax.toNat < 0x12 ∨ regs.eax = 0 then data
  else
    let old := data.x86.sgx
    let flags := fun feature => match feature with
      | .sgx1 => old.flags .sgx1 || decide (regs.eax &&& 1 ≠ 0)
      | .sgx2 => old.flags .sgx2 || decide (regs.eax &&& 2 ≠ 0)
    let sgx : CpuSgx :=
      { present := if flags .sgx1 || flags .sgx2 then 1 else old.present
        maxEnclave32bit := regs.edx.extractLsb' 0 8
        maxEnclave64bit := regs.edx.extractLsb' 8 8
        flags
        numEpcSections := numEpcSections host raw 0 1000000
        miscSelect := regs.ebx
        secsAttributes :=
          (raw.intelFn12h 1).eax.zeroExtend 64 ||| ((raw.intelFn12h 1).ebx.zeroExtend 64 <<< 32)
        secsXfrm :=
          (raw.intelFn12h 1).ecx.zeroExtend 64 ||| ((raw.intelFn12h 1).edx.zeroExtend 64 <<< 32) }
    { data with x86 := { data.x86 with sgx } }

/-- `cpuid_identify_purpose_intel`. -/
def cpuidIdentifyPurposeIntel (raw : CpuRawData) : CpuPurpose :=
  if extractsBit (raw.basicCpuid 0x7).edx 15 = 1 then
    match extractsBits (raw.basicCpuid 0x1a).eax 31 24 with
    | 0x20 =>
      if extractsBits (raw.intelFn4 3).eax 31 0 ≠ 0 then .efficiency else .lpEfficiency
    | 0x40 => .performance
    | _ => .general
  else .general

/-- The core counts of an Intel processor: leaf 11 when it gives both, else the older leaves. -/
def decodeIntelNumberOfCores (raw : CpuRawData) (data : CpuId) : Checked CpuId :=
  if (raw.basicCpuid 0).eax.toNat < 11 then .ok (decodeNumberOfCoresX86 raw data)
  else do
    match ← decodeIntelExtendedTopology raw data with
    | some data => .ok data
    | none => .ok (decodeNumberOfCoresX86 raw data)

/-- The caches of an Intel processor: leaf 4 when there is one, else the descriptors of leaf 2. -/
def decodeIntelCaches (raw : CpuRawData) (data : CpuId) (internal : InternalIdInfo) :
    Checked (CpuId × InternalIdInfo) :=
  if (raw.basicCpuid 0).eax.toNat ≥ 4 then
    decodeDeterministicCacheInfoX86 0 (List.ofFn raw.intelFn4) (data, internal)
  else if (raw.basicCpuid 0).eax.toNat ≥ 2 then
    .ok (decodeIntelOldstyleCacheInfo raw data, internal)
  else .ok (data, internal)

/-- `cpuid_identify_intel`. -/
def cpuidIdentifyIntel (host : Host) (raw : CpuRawData) (data : CpuId)
    (internal : InternalIdInfo) : Checked (CpuId × InternalIdInfo) := do
  let data := loadIntelFeatures raw data
  let (data, internal) ← decodeIntelCaches raw data internal
  let data ← decodeIntelNumberOfCores raw data
  let data := decodeArchitectureVersionX86 data
  let named := matchCpuCodename cpudbIntel
    { data with purpose := cpuidIdentifyPurposeIntel raw }
  let data := named.2
  let data := if data.flags .sgx then decodeIntelSgxFeatures host raw data else data
  .ok (data, { internal with score := named.1 })

end LibCpuid
