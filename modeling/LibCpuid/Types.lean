import LibCpuid.Constants
import LibCpuid.CLang.Checked
import Mathlib.Data.BitVec

/-! The records of `libcpuid.h`, `libcpuid_types.h` and `libcpuid_internal.h` that identification
and the dump files use.  A C array of fixed length is a function from its indices, and a C string is
the list of its characters, one `Char` for each byte. -/

namespace LibCpuid

/-- The four registers that CPUID answers in. -/
structure Regs where
  eax : BitVec 32
  ebx : BitVec 32
  ecx : BitVec 32
  edx : BitVec 32
  deriving DecidableEq

/-- Four registers that hold zero. -/
def Regs.zero : Regs := ⟨0, 0, 0, 0⟩

abbrev maxCpuidLevel : Nat := 32
abbrev maxExtCpuidLevel : Nat := 32
abbrev maxIntelFn4Level : Nat := 8
abbrev maxIntelFn11Level : Nat := 4
abbrev maxIntelFn12hLevel : Nat := 4
abbrev maxIntelFn14hLevel : Nat := 4
abbrev maxAmdFn8000001dhLevel : Nat := 4
abbrev maxAmdFn80000026hLevel : Nat := 4
abbrev maxArmIdAfrRegs : Nat := 1
abbrev maxArmIdDfrRegs : Nat := 2
abbrev maxArmIdIsarRegs : Nat := 7
abbrev maxArmIdMmfrRegs : Nat := 6
abbrev maxArmIdPfrRegs : Nat := 3
abbrev maxArmIdAa64AfrRegs : Nat := 2
abbrev maxArmIdAa64DfrRegs : Nat := 3
abbrev maxArmIdAa64FpfrRegs : Nat := 1
abbrev maxArmIdAa64IsarRegs : Nat := 4
abbrev maxArmIdAa64MmfrRegs : Nat := 5
abbrev maxArmIdAa64PfrRegs : Nat := 3
abbrev maxArmIdAa64SmfrRegs : Nat := 1
abbrev maxArmIdAa64ZfrRegs : Nat := 1

/-! An array has an element 0.  There is an instance for each length above. -/

instance : NeZero maxCpuidLevel := ⟨by decide⟩
instance : NeZero maxIntelFn4Level := ⟨by decide⟩
instance : NeZero maxIntelFn11Level := ⟨by decide⟩
instance : NeZero maxArmIdAfrRegs := ⟨by decide⟩
instance : NeZero maxArmIdDfrRegs := ⟨by decide⟩
instance : NeZero maxArmIdIsarRegs := ⟨by decide⟩
instance : NeZero maxArmIdMmfrRegs := ⟨by decide⟩
instance : NeZero maxArmIdPfrRegs := ⟨by decide⟩
instance : NeZero maxArmIdAa64MmfrRegs := ⟨by decide⟩

/-- `cpu_raw_data_t`: the registers of one logical CPU. -/
structure CpuRawData where
  basicCpuid : Fin maxCpuidLevel → Regs
  extCpuid : Fin maxExtCpuidLevel → Regs
  intelFn4 : Fin maxIntelFn4Level → Regs
  intelFn11 : Fin maxIntelFn11Level → Regs
  intelFn12h : Fin maxIntelFn12hLevel → Regs
  intelFn14h : Fin maxIntelFn14hLevel → Regs
  amdFn8000001dh : Fin maxAmdFn8000001dhLevel → Regs
  amdFn80000026h : Fin maxAmdFn80000026hLevel → Regs
  armMidr : BitVec 64
  armMpidr : BitVec 64
  armRevidr : BitVec 64
  armIdAfr : Fin maxArmIdAfrRegs → BitVec 32
  armIdDfr : Fin maxArmIdDfrRegs → BitVec 32
  armIdIsar : Fin maxArmIdIsarRegs → BitVec 32
  armIdMmfr : Fin maxArmIdMmfrRegs → BitVec 32
  armIdPfr : Fin maxArmIdPfrRegs → BitVec 32
  armIdAa64Afr : Fin maxArmIdAa64AfrRegs → BitVec 64
  armIdAa64Dfr : Fin maxArmIdAa64DfrRegs → BitVec 64
  armIdAa64Fpfr : Fin maxArmIdAa64FpfrRegs → BitVec 64
  armIdAa64Isar : Fin maxArmIdAa64IsarRegs → BitVec 64
  armIdAa64Mmfr : Fin maxArmIdAa64MmfrRegs → BitVec 64
  armIdAa64Pfr : Fin maxArmIdAa64PfrRegs → BitVec 64
  armIdAa64Smfr : Fin maxArmIdAa64SmfrRegs → BitVec 64
  armIdAa64Zfr : Fin maxArmIdAa64ZfrRegs → BitVec 64

/-- `raw_data_t_constructor`: every register is zero. -/
def CpuRawData.zero : CpuRawData where
  basicCpuid _ := .zero
  extCpuid _ := .zero
  intelFn4 _ := .zero
  intelFn11 _ := .zero
  intelFn12h _ := .zero
  intelFn14h _ := .zero
  amdFn8000001dh _ := .zero
  amdFn80000026h _ := .zero
  armMidr := 0
  armMpidr := 0
  armRevidr := 0
  armIdAfr _ := 0
  armIdDfr _ := 0
  armIdIsar _ := 0
  armIdMmfr _ := 0
  armIdPfr _ := 0
  armIdAa64Afr _ := 0
  armIdAa64Dfr _ := 0
  armIdAa64Fpfr _ := 0
  armIdAa64Isar _ := 0
  armIdAa64Mmfr _ := 0
  armIdAa64Pfr _ := 0
  armIdAa64Smfr _ := 0
  armIdAa64Zfr _ := 0

/-- `cpu_raw_data_array_t`.  `num_raw` is the length of `raw`, which fits in a `logical_cpu_t`. -/
structure CpuRawDataArray where
  withAffinity : Bool
  raw : List CpuRawData
  numRaw_lt : raw.length < 2 ^ 16

theorem numRaw_nil_lt : ([] : List CpuRawData).length < 2 ^ 16 := by decide

theorem numRaw_singleton_lt (raw : CpuRawData) : [raw].length < 2 ^ 16 := by
  rw [List.length_singleton]
  decide

/-- `num_raw`. -/
def CpuRawDataArray.numRaw (a : CpuRawDataArray) : Nat := a.raw.length

/-- What a decoder asks of the machine that it runs on: the answer of the CPUID instruction to a
leaf in EAX and a sub-leaf in ECX, and the number of online CPUs. -/
structure Host where
  execCpuid : BitVec 32 → BitVec 32 → Regs
  totalCpus : Int

/-- `cache_type_t`. -/
inductive CacheType
  | l1i | l1d | l2 | l3 | l4
  deriving DecidableEq

/-- `NUM_CACHE_TYPES`. -/
abbrev numCacheTypes : Nat := 5

/-- The values of `cache_type_t` in the order of the enumeration. -/
def CacheType.all : List CacheType := [.l1i, .l1d, .l2, .l3, .l4]

/-- The value of a cache type in C. -/
def CacheType.index : CacheType → Fin numCacheTypes
  | .l1i => 0
  | .l1d => 1
  | .l2 => 2
  | .l3 => 3
  | .l4 => 4

/-- `cpu_affinity_mask_t`: a byte for each eight logical CPUs. -/
structure CpuAffinityMask where
  bits : Fin 8192 → BitVec 8

/-- `cpu_sgx_t`. -/
structure CpuSgx where
  present : BitVec 32
  maxEnclave32bit : BitVec 8
  maxEnclave64bit : BitVec 8
  flags : CpuSgxFeature → Bool
  numEpcSections : Int
  miscSelect : BitVec 32
  secsAttributes : BitVec 64
  secsXfrm : BitVec 64

/-- `x86_id_t`. -/
structure X86Id where
  family : Int
  model : Int
  stepping : Int
  extFamily : Int
  extModel : Int
  sseSize : Int
  sgx : CpuSgx

/-- `arm_id_t`. -/
structure ArmId where
  implementer : Nat
  variant : Nat
  partNum : Nat
  revision : Nat

/-- `cpu_id_t`.  A flag holds 1 when it is `true` and 0 otherwise.  The fields that the source has
for each cache are functions of the cache type. -/
structure CpuId where
  architecture : CpuArchitecture
  featureLevel : CpuFeatureLevel
  vendorStr : List Char
  brandStr : List Char
  vendor : CpuVendor
  flags : CpuFeature → Bool
  x86 : X86Id
  arm : ArmId
  numCores : Int
  numLogicalCpus : Int
  totalLogicalCpus : Int
  cache : CacheType → Int
  assoc : CacheType → Int
  cacheline : CacheType → Int
  instances : CacheType → Int
  cpuCodename : List Char
  detectionHints : CpuHint → Bool
  affinityMask : CpuAffinityMask
  purpose : CpuPurpose
  technologyNode : List Char

/-- `system_id_t`.  `num_cpu_types` is the length of `cpu_types`. -/
structure SystemId where
  cpuTypes : List CpuId
  totalInstances : CacheType → Int

/-- `internal_id_info_t`. -/
structure InternalIdInfo where
  score : Int
  cacheMask : Fin numCacheTypes → BitVec 32

/-- `internal_topology_t`, but for the cache ids, which only `update_cache_instances` sets and
uses. -/
structure InternalTopology where
  apicId : BitVec 32
  packageId : BitVec 32
  coreId : BitVec 32
  smtId : BitVec 32
  logicalCpu : Nat

end LibCpuid
