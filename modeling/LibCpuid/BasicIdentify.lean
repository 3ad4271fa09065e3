import LibCpuid.Util

/-! The part of identification in `cpuid_main.c` that every x86 processor goes through: the
architecture, the vendor, the signature, the brand string and the common features. -/

namespace LibCpuid

/-- `cpu_id_t_constructor`. -/
def cpuIdConstructor : CpuId where
  architecture := .unknown
  featureLevel := .unknown
  vendorStr := []
  brandStr := []
  vendor := .unknown
  flags _ := false
  x86 :=
    { family := 0, model := 0, stepping := 0, extFamily := 0, extModel := 0, sseSize := -1
      sgx :=
        { present := 0, maxEnclave32bit := 0, maxEnclave64bit := 0, flags := fun _ => false
          numEpcSections := 0, miscSelect := 0, secsAttributes := 0, secsXfrm := 0 } }
  arm := { implementer := 0, variant := 0, partNum := 0, revision := 0 }
  numCores := 0
  numLogicalCpus := 0
  totalLogicalCpus := 0
  cache _ := -1
  assoc _ := -1
  cacheline _ := -1
  instances _ := -1
  cpuCodename := []
  detectionHints _ := false
  affinityMask := ⟨fun _ => 0⟩
  purpose := .general
  technologyNode := []

/-- `cpuid_architecture_identify`. -/
def cpuidArchitectureIdentify (raw : CpuRawData) : CpuArchitecture :=
  if raw.basicCpuid 0 ≠ .zero then .x86
  else if raw.armMidr ≠ 0 then .arm
  else .unknown

/-- The bytes of a register in memory, the lowest first. -/
def regBytes (reg : BitVec 32) : List Char :=
  [0, 8, 16, 24].map fun shift => Char.ofNat (reg.toNat >>> shift % 256)

/-- `NUM_CPU_VENDORS`. -/
def numCpuVendors : Nat := 29

/-- The vendors of the table in `cpuid_vendor_identify`.  The array has `NUM_CPU_VENDORS` rows, so
the rows after those of the source hold zeros: the empty string and the first vendor. -/
def vendorMatchtable : List (CpuVendor × String) :=
  let rows : List (CpuVendor × String) :=
    [(.intel, "GenuineIntel"), (.amd, "AuthenticAMD"), (.cyrix, "CyrixInstead"),
      (.nexgen, "NexGenDriven"), (.transmeta, "GenuineTMx86"), (.umc, "UMC UMC UMC "),
      (.centaur, "CentaurHauls"), (.rise, "RiseRiseRise"), (.sis, "SiS SiS SiS "),
      (.nsc, "Geode by NSC"), (.hygon, "HygonGenuine")]
  rows ++ List.replicate (numCpuVendors - rows.length) (.intel, "")

/-- The vendor string that `cpuid_vendor_identify` stores. -/
def vendorString (rawVendor : Regs) : List Char :=
  cString (regBytes rawVendor.ebx ++ regBytes rawVendor.edx ++ regBytes rawVendor.ecx)

/-- `cpuid_vendor_identify`, on the registers of leaf 0. -/
def cpuidVendorIdentify (rawVendor : Regs) : CpuVendor :=
  match vendorMatchtable.find? (fun row => vendorString rawVendor = row.2.toList) with
  | some row => row.1
  | none => .unknown

/-- The guess of `load_features_common` at the width of the SSE unit. -/
def guessSseSize (data : CpuId) : CpuId :=
  if data.flags .sse then
    match data.vendor with
    | .amd =>
      let wide := data.x86.extFamily ≥ 16 ∧ data.x86.extFamily ≠ 17
      { data with x86 := { data.x86 with sseSize := if wide then 128 else 64 } }
    | .intel =>
      let wide := data.x86.family = 6 ∧ data.x86.extModel ≥ 15
      { data with x86 := { data.x86 with sseSize := if wide then 128 else 64 } }
    | _ => data
  else data

/-- `load_features_common`. -/
def loadFeaturesCommon (raw : CpuRawData) (data : CpuId) : CpuId :=
  let basic := (raw.basicCpuid 0).eax.toNat
  let ext := (raw.extCpuid 0).eax.toNat
  let data :=
    if basic ≥ 1 then
      let data := matchFeatures
        [(0, .fpu), (1, .vme), (2, .de), (3, .pse), (4, .tsc), (5, .msr), (6, .pae), (7, .mce),
          (8, .cx8), (9, .apic), (11, .sep), (12, .mtrr), (13, .pge), (14, .mca), (15, .cmov),
          (16, .pat), (17, .pse36), (19, .clflush), (23, .mmx), (24, .fxsr), (25, .sse),
          (26, .sse2), (28, .ht)] (raw.basicCpuid 1).edx data
      matchFeatures
        [(0, .pni), (1, .pclmul), (3, .monitor), (9, .ssse3), (12, .fma3), (13, .cx16),
          (19, .sse4_1), (20, .sse4_2), (21, .x2apic), (22, .movbe), (23, .popcnt), (25, .aes),
          (26, .xsave), (27, .osxsave), (28, .avx), (29, .f16c), (30, .rdrand),
          (31, .hypervisor)] (raw.basicCpuid 1).ecx data
    else data
  let data :=
    if basic ≥ 7 then
      let data := matchFeatures
        [(3, .bmi1), (5, .avx2), (8, .bmi2), (16, .avx512f), (17, .avx512dq), (18, .rdseed),
          (19, .adx), (28, .avx512cd), (29, .shaNi), (30, .avx512bw), (31, .avx512vl)]
        (raw.basicCpuid 7).ebx data
      matchFeatures [(1, .avx512vbmi), (6, .avx512vbmi2), (11, .avx512vnni)]
        (raw.basicCpuid 7).ecx data
    else data
  let data :=
    if ext ≥ 0x80000001 then
      let data := matchFeatures [(11, .syscall), (27, .rdtscp), (29, .lm)]
        (raw.extCpuid 1).edx data
      matchFeatures [(0, .lahfLm), (5, .abm)] (raw.extCpuid 1).ecx data
    else data
  let data :=
    if ext ≥ 0x80000007 then matchFeatures [(8, .constantTsc)] (raw.extCpuid 7).edx data
    else data
  guessSseSize data

/-- The 48 bytes of the brand string in three extended leaves. -/
def brandBytes (raw : CpuRawData) : List Char :=
  [raw.extCpuid 2, raw.extCpuid 3, raw.extCpuid 4].flatMap fun regs =>
    regBytes regs.eax ++ regBytes regs.ebx ++ regBytes regs.ecx ++ regBytes regs.edx

/-- The signature that `cpuid_basic_identify` takes from leaf 1. -/
def decodeSignature (eax : BitVec 32) (vendor : CpuVendor) (x86 : X86Id) : X86Id :=
  let family := (eax.toNat >>> 8) &&& 0xf
  let model := (eax.toNat >>> 4) &&& 0xf
  let xmodel := (eax.toNat >>> 16) &&& 0xf
  let xfamily := (eax.toNat >>> 20) &&& 0xff
  { x86 with
    family := family
    model := model
    stepping := (eax.toNat &&& 0xf : Nat)
    extFamily := if vendor = .amd ∧ family < 0xf then family else (family + xfamily : Nat)
    extModel := (model + (xmodel <<< 4) : Nat) }

/-- `cpuid_basic_identify`.  The source compares the largest leaves as signed numbers. -/
def cpuidBasicIdentify (host : Host) (raw : CpuRawData) (data : CpuId) : CpuError × CpuId :=
  let data := { data with
    vendor := cpuidVendorIdentify (raw.basicCpuid 0)
    vendorStr := vendorString (raw.basicCpuid 0) }
  if data.vendor = .unknown then (.cpuUnkn, data)
  else
    let basic := (raw.basicCpuid 0).eax.toInt
    let data :=
      if basic ≥ 1 then
        { data with x86 := decodeSignature (raw.basicCpuid 1).eax data.vendor data.x86 }
      else data
    let ext := ((raw.extCpuid 0).eax - 0x80000000).toInt
    let data :=
      if ext ≥ 4 then
        { data with brandStr := cString ((brandBytes raw).dropWhile (· = ' ')) }
      else data
    let data := loadFeaturesCommon raw data
    (.ok, { data with totalLogicalCpus := host.totalCpus })

end LibCpuid
