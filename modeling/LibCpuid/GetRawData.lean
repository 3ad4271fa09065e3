import LibCpuid.Dump.Deserialize

/-! `cpuid_get_raw_data_core` and `cpuid_get_all_raw_data`: the thread is bound to a logical CPU,
the registers are read there, and the affinity that was saved is restored. -/

namespace LibCpuid

open CLang

/-! ### Reading the registers -/

/-- The processor that the library is built for. -/
inductive Platform
  | x86 | aarch32 | aarch64 | other
  deriving DecidableEq

/-- The kernel driver for ARM registers.  A request that it does not answer leaves the field. -/
structure CpuidDriver where
  arm : ArmRegister → Option (BitVec 64)
  aarch32 : (a : AArch32Array) → Fin a.size → Option (BitVec 32)
  aarch64 : (a : AArch64Array) → Fin a.size → Option (BitVec 64)

/-- What the logical CPU that the thread runs on answers, and the driver if it can be opened. -/
structure Machine where
  cpuidPresent : Bool
  execCpuid : BitVec 32 → BitVec 32 → Regs
  driver : Option CpuidDriver
  execMrs : ArmRegister → BitVec 64
  execMrsArray : (a : AArch64Array) → Fin a.size → BitVec 64

/-- The leaf and the sub-leaf that are asked for an element of an array. -/
def X86Array.request : X86Array → Nat → BitVec 32 × BitVec 32
  | .basicCpuid, i => (.ofNat 32 i, 0)
  | .extCpuid, i => (0x80000000 + .ofNat 32 i, 0)
  | .intelFn4, i => (4, .ofNat 32 i)
  | .intelFn11, i => (11, .ofNat 32 i)
  | .intelFn12h, i => (0x12, .ofNat 32 i)
  | .intelFn14h, i => (0x14, .ofNat 32 i)
  | .amdFn8000001dh, i => (0x8000001d, .ofNat 32 i)
  | .amdFn80000026h, i => (0x80000026, .ofNat 32 i)

/-- The loops over the CPUID leaves. -/
def readX86 (m : Machine) (data : CpuRawData) : CpuRawData :=
  x86Arrays.foldl (fun data a =>
    data.setX86 a fun i => m.execCpuid (a.request i).1 (a.request i).2) data

/-- The requests to the kernel driver. -/
def readDriver (platform : Platform) (driver : CpuidDriver) (data : CpuRawData) : CpuRawData :=
  let data := armRegisters.foldl (fun data reg =>
    data.setArm reg ((driver.arm reg).getD (data.arm reg))) data
  let data := aarch32Arrays.foldl (fun data a =>
    data.setAArch32 a fun i => (driver.aarch32 a i).getD (data.aarch32 a i)) data
  if platform = .aarch64 then
    aarch64Arrays.foldl (fun data a =>
      data.setAArch64 a fun i => (driver.aarch64 a i).getD (data.aarch64 a i)) data
  else data

/-- The MRS instructions. -/
def readMrs (m : Machine) (data : CpuRawData) : CpuRawData :=
  let data := armRegisters.foldl (fun data reg => data.setArm reg (m.execMrs reg)) data
  aarch64Arrays.foldl (fun data a => data.setAArch64 a (m.execMrsArray a)) data

/-- The section of `cpuid_get_raw_data_core` that reads the registers; it has no result when the
function returns `ERR_NO_CPUID`. -/
def readRegisters (platform : Platform) (m : Machine) (data : CpuRawData) : Option CpuRawData :=
  match platform with
  | .x86 => if m.cpuidPresent then some (readX86 m data) else none
  | .aarch64 =>
    match m.driver with
    | some driver => some (readDriver platform driver data)
    | none => if m.cpuidPresent then some (readMrs m data) else none
  | .aarch32 => m.driver.map fun driver => readDriver platform driver data
  | .other => some data

/-! ### Affinity -/

/-- The system, as the thread that reads the registers meets it.  `set_cpu_affinity` is the function
of the platform; whether the other calls succeed may differ from one logical CPU to the next. -/
structure ThreadHost (Affinity : Type) where
  platform : Platform
  hasSetCpuAffinity : Bool
  setCpuAffinity : BitVec 16 → Affinity → Checked (Bool × Affinity)
  saveOk : BitVec 16 → Bool
  restoreOk : BitVec 16 → Bool
  reallocOk : BitVec 16 → Bool
  machine : BitVec 16 → Affinity → Machine

/-- The affinity of the thread, and the variable that `save_cpu_affinity` sets. -/
structure ThreadState (Affinity : Type) where
  affinity : Affinity
  savedAffinity : Affinity

/-- `(logical_cpu_t) -1`, for which the thread is not bound. -/
def anyLogicalCpu : BitVec 16 := -1

section Thread

variable {Affinity : Type} (host : ThreadHost Affinity)

/-- `save_cpu_affinity`. -/
def saveCpuAffinity (logicalCpu : BitVec 16) (s : ThreadState Affinity) :
    Bool × ThreadState Affinity :=
  if host.saveOk logicalCpu then (true, { s with savedAffinity := s.affinity }) else (false, s)

/-- `restore_cpu_affinity`. -/
def restoreCpuAffinity (logicalCpu : BitVec 16) (s : ThreadState Affinity) :
    ThreadState Affinity :=
  if host.restoreOk logicalCpu then { s with affinity := s.savedAffinity } else s

/-- The first part of `cpuid_get_raw_data_core`: `affinity_saved`, or nothing when the logical CPU
is invalid. -/
def bindThread (logicalCpu : BitVec 16) (s : ThreadState Affinity) :
    Checked (Option Bool × ThreadState Affinity) :=
  if logicalCpu = anyLogicalCpu then .ok (some false, s)
  else do
    let (isSet, affinity) ← host.setCpuAffinity logicalCpu s.affinity
    let s := { s with affinity }
    if isSet then
      let (affinitySaved, s) := saveCpuAffinity host logicalCpu s
      .ok (some affinitySaved, s)
    else if logicalCpu > 0 then .ok (none, s)
    else .ok (some false, s)

/-- `cpuid_get_raw_data_core`: the return value, what it stores, and the state it leaves. -/
def cpuidGetRawDataCore (data : CpuRawData) (logicalCpu : BitVec 16)
    (s : ThreadState Affinity) : Checked (CpuError × CpuRawData × ThreadState Affinity) := do
  let (affinitySaved, s) ← bindThread host logicalCpu s
  match affinitySaved with
  | none => .ok (.invCnb, data, s)
  | some affinitySaved =>
    match readRegisters host.platform (host.machine logicalCpu s.affinity) data with
    | none => .ok (.noCpuid, data, s)
    | some data =>
      .ok (.ok, data, if affinitySaved then restoreCpuAffinity host logicalCpu s else s)

/-- `cpuid_grow_raw_data_array`, which leaves the array when there is no memory for it. -/
def growRawDataArray (logicalCpu : BitVec 16) (data : CpuRawDataArray) : CpuRawDataArray :=
  if host.reallocOk logicalCpu then cpuidGrowRawDataArray data (logicalCpu + 1) else data

/-- The array with another element. -/
def CpuRawDataArray.setRaw (data : CpuRawDataArray) (i : Nat) (raw : CpuRawData) :
    CpuRawDataArray :=
  { data with
    raw := data.raw.set i raw
    numRaw_lt := by simpa using data.numRaw_lt }

/-- The loop of `cpuid_get_all_raw_data`.  The counter has 16 bits, but an element past the end of
the array is met before it wraps. -/
def getAllLoop (logicalCpu : BitVec 16) (data : CpuRawDataArray) (s : ThreadState Affinity) :
    Checked (CpuError × CpuRawDataArray × ThreadState Affinity) :=
  match cpuidGetRawDataCore host .zero logicalCpu s with
  | .error f => .error f
  | .ok (r, rawTmp, s) =>
    if r ≠ .ok then .ok (r, data, s)
    else
      let grown := growRawDataArray host logicalCpu data
      if h : logicalCpu.toNat < grown.raw.length then
        getAllLoop (logicalCpu + 1) (grown.setRaw logicalCpu.toNat rawTmp) s
      else .error .outOfBounds
termination_by 2 ^ 16 - logicalCpu.toNat
decreasing_by
  have hlt := grown.numRaw_lt
  have hsucc : (logicalCpu + 1).toNat = logicalCpu.toNat + 1 := by
    rw [BitVec.toNat_add]
    exact Nat.mod_eq_of_lt (show logicalCpu.toNat + 1 < 2 ^ 16 by omega)
  omega

/-- `cpu_raw_data_array_t_constructor`. -/
def cpuRawDataArrayConstructor (withAffinity : Bool) : CpuRawDataArray where
  withAffinity := host.hasSetCpuAffinity && withAffinity
  raw := []
  numRaw_lt := numRaw_nil_lt

/-- `cpuid_get_all_raw_data`.  An invalid logical CPU ends the loop in the normal way. -/
def cpuidGetAllRawData (s : ThreadState Affinity) :
    Checked (CpuError × CpuRawDataArray × ThreadState Affinity) := do
  let (r, data, s) ← getAllLoop host 0 (cpuRawDataArrayConstructor host true) s
  .ok (if r = .invCnb then .ok else r, data, s)

end Thread

end LibCpuid
