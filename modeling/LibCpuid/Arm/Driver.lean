import LibCpuid.GetRawData

/-! The kernel driver for ARM registers: the requests of `libcpuid_arm_driver.h`, the kernel's side
of `ARM_IOC_READ_REG` in `drivers/arm/linux/cpuid.c`, built for AArch64, and the library's side in
`rdcpuid.c`. -/

namespace LibCpuid

open CLang

/-! ### The requests -/

/-- The registers that `libcpuid_arm_driver.h` names, in the order of `reg_request_t`. -/
inductive RegName
  | midr | mpidr | revidr | idAfr0 | idDfr0 | idDfr1 | idIsar0 | idIsar1 | idIsar2 | idIsar3
  | idIsar4 | idIsar5 | idIsar6 | idMmfr0 | idMmfr1 | idMmfr2 | idMmfr3 | idMmfr4 | idMmfr5
  | idPfr0 | idPfr1 | idPfr2 | idAa64Afr0 | idAa64Afr1 | idAa64Dfr0 | idAa64Dfr1 | idAa64Dfr2
  | idAa64Fpfr0 | idAa64Isar0 | idAa64Isar1 | idAa64Isar2 | idAa64Isar3 | idAa64Mmfr0
  | idAa64Mmfr1 | idAa64Mmfr2 | idAa64Mmfr3 | idAa64Mmfr4 | idAa64Pfr0 | idAa64Pfr1 | idAa64Pfr2
  | idAa64Smfr0 | idAa64Zfr0
  deriving DecidableEq

/-- A system register of the identification space: `S3_0_C0_C<crm>_<op2>`. -/
structure SysReg where
  crm : Nat
  op2 : Nat
  deriving DecidableEq

/-- The macros `AARCH64_REG_...`. -/
def RegName.sysReg : RegName → SysReg
  | .midr => ⟨0, 0⟩
  | .mpidr => ⟨0, 5⟩
  | .revidr => ⟨0, 6⟩
  | .idAfr0 => ⟨1, 3⟩
  | .idDfr0 => ⟨1, 2⟩
  | .idDfr1 => ⟨3, 5⟩
  | .idIsar0 => ⟨2, 0⟩
  | .idIsar1 => ⟨2, 1⟩
  | .idIsar2 => ⟨2, 2⟩
  | .idIsar3 => ⟨2, 3⟩
  | .idIsar4 => ⟨2, 4⟩
  | .idIsar5 => ⟨2, 5⟩
  | .idIsar6 => ⟨2, 7⟩
  | .idMmfr0 => ⟨1, 4⟩
  | .idMmfr1 => ⟨1, 5⟩
  | .idMmfr2 => ⟨1, 6⟩
  | .idMmfr3 => ⟨1, 7⟩
  | .idMmfr4 => ⟨2, 6⟩
  | .idMmfr5 => ⟨3, 6⟩
  | .idPfr0 => ⟨1, 0⟩
  | .idPfr1 => ⟨1, 1⟩
  | .idPfr2 => ⟨3, 4⟩
  | .idAa64Afr0 => ⟨5, 4⟩
  | .idAa64Afr1 => ⟨5, 5⟩
  | .idAa64Dfr0 => ⟨5, 0⟩
  | .idAa64Dfr1 => ⟨5, 1⟩
  | .idAa64Dfr2 => ⟨5, 2⟩
  | .idAa64Fpfr0 => ⟨4, 7⟩
  | .idAa64Isar0 => ⟨6, 0⟩
  | .idAa64Isar1 => ⟨6, 1⟩
  | .idAa64Isar2 => ⟨6, 2⟩
  | .idAa64Isar3 => ⟨6, 3⟩
  | .idAa64Mmfr0 => ⟨7, 0⟩
  | .idAa64Mmfr1 => ⟨7, 1⟩
  | .idAa64Mmfr2 => ⟨7, 2⟩
  | .idAa64Mmfr3 => ⟨7, 3⟩
  | .idAa64Mmfr4 => ⟨7, 4⟩
  | .idAa64Pfr0 => ⟨4, 0⟩
  | .idAa64Pfr1 => ⟨4, 1⟩
  | .idAa64Pfr2 => ⟨4, 2⟩
  | .idAa64Smfr0 => ⟨4, 5⟩
  | .idAa64Zfr0 => ⟨4, 4⟩

/-- The requests for AArch32 registers and for the registers of both states, which every build of
the header has. -/
def commonRequests : List RegName :=
  [.midr, .mpidr, .revidr, .idAfr0, .idDfr0, .idDfr1, .idIsar0, .idIsar1, .idIsar2, .idIsar3,
    .idIsar4, .idIsar5, .idIsar6, .idMmfr0, .idMmfr1, .idMmfr2, .idMmfr3, .idMmfr4, .idMmfr5,
    .idPfr0, .idPfr1, .idPfr2]

/-- The requests that the header has when it is compiled for AArch64 alone. -/
def aarch64Requests : List RegName :=
  [.idAa64Afr0, .idAa64Afr1, .idAa64Dfr0, .idAa64Dfr1, .idAa64Dfr2, .idAa64Fpfr0, .idAa64Isar0,
    .idAa64Isar1, .idAa64Isar2, .idAa64Isar3, .idAa64Mmfr0, .idAa64Mmfr1, .idAa64Mmfr2,
    .idAa64Mmfr3, .idAa64Mmfr4, .idAa64Pfr0, .idAa64Pfr1, .idAa64Pfr2, .idAa64Smfr0, .idAa64Zfr0]

/-- `reg_request_t`, as a build of the header numbers it. -/
def regRequests (isAarch64 : Bool) : List RegName :=
  if isAarch64 then commonRequests ++ aarch64Requests else commonRequests

/-- `REQ_INVALID`. -/
def reqInvalid : Int := -1

/-- `REQ_...`, the number of a register in a build of the header. -/
def RegName.request (isAarch64 : Bool) (reg : RegName) : Int := (regRequests isAarch64).idxOf reg

/-! ### The kernel's side -/

/-- `read_reg_t`.  The union holds its `value_32b` in the low half of `value_64b`. -/
structure ReadReg where
  request : Int
  value : BitVec 64

/-- The registers that the driver reads through `value_32b`. -/
def RegName.is32b : RegName → Bool
  | .midr | .mpidr | .revidr => false
  | reg => reg ∈ commonRequests

/-- The `case` of a request in the `switch` of the driver: the register of the same name. -/
def requestCase (request : Int) : Option RegName :=
  if 0 ≤ request then (regRequests true)[request.toNat]? else none

/-- `__read_reg_on_cpu`, on the registers of the CPU that runs it. -/
def readRegOnCpu (sysReg : SysReg → BitVec 64) (readReg : ReadReg) : ReadReg :=
  match requestCase readReg.request with
  | some reg =>
    { readReg with
      value :=
        if reg.is32b then ((sysReg reg.sysReg).setWidth 32).setWidth 64 else sysReg reg.sysReg }
  | none => ⟨reqInvalid, 0⟩

/-- The machine, as the driver sees it. -/
structure ArmKernel where
  online : Nat → Bool
  sysReg : Nat → SysReg → BitVec 64

/-- `cpuid_ioctl` for `ARM_IOC_READ_REG`, on the file of a CPU: nothing when it fails.
`smp_call_function_single` fails when the CPU is offline. -/
def cpuidIoctl (kernel : ArmKernel) (cpu : Nat) (readReg : ReadReg) : Option ReadReg :=
  if kernel.online cpu then some (readRegOnCpu (kernel.sysReg cpu) readReg) else none

/-! ### The library's side -/

/-- The answer to a request in `cpu_read_arm_register_32b` and `cpu_read_arm_register_64b`.  The
value that the library sends is not initialised. -/
def requestRegister (ioctl : ReadReg → Option ReadReg) (uninit : BitVec 64) (request : Int) :
    Except CpuError (BitVec 64) :=
  match ioctl ⟨request, uninit⟩ with
  | none => .error .ioctl
  | some readReg => if readReg.request = reqInvalid then .error .request else .ok readReg.value

/-- `cpu_read_arm_register_64b`, with a handle. -/
def cpuReadArmRegister64b (ioctl : ReadReg → Option ReadReg) (uninit : BitVec 64) (request : Int) :
    Except CpuError (BitVec 64) := requestRegister ioctl uninit request

/-- `cpu_read_arm_register_32b`, with a handle. -/
def cpuReadArmRegister32b (ioctl : ReadReg → Option ReadReg) (uninit : BitVec 64) (request : Int) :
    Except CpuError (BitVec 32) := do
  let value ← requestRegister ioctl uninit request
  .ok (value.setWidth 32)

/-- The request for a register that is not in an array. -/
def ArmRegister.name : ArmRegister → RegName
  | .midr => .midr
  | .mpidr => .mpidr
  | .revidr => .revidr

/-- The request to which `cpuid_get_raw_data_core` adds the index. -/
def AArch32Array.firstName : AArch32Array → RegName
  | .afr => .idAfr0
  | .dfr => .idDfr0
  | .isar => .idIsar0
  | .mmfr => .idMmfr0
  | .pfr => .idPfr0

def AArch64Array.firstName : AArch64Array → RegName
  | .afr => .idAa64Afr0
  | .dfr => .idAa64Dfr0
  | .fpfr => .idAa64Fpfr0
  | .isar => .idAa64Isar0
  | .mmfr => .idAa64Mmfr0
  | .pfr => .idAa64Pfr0
  | .smfr => .idAa64Smfr0
  | .zfr => .idAa64Zfr0

/-- The requests that `cpuid_get_raw_data_core` makes through a handle, in a library that is built
for AArch64 or for AArch32.  A request that fails stores nothing. -/
def CpuidDriver.ofKernel (isAarch64 : Bool) (kernel : ArmKernel) (cpu : Nat) (uninit : BitVec 64) :
    CpuidDriver where
  arm reg :=
    (cpuReadArmRegister64b (cpuidIoctl kernel cpu) uninit (reg.name.request isAarch64)).toOption
  aarch32 a i :=
    (cpuReadArmRegister32b (cpuidIoctl kernel cpu) uninit
      (a.firstName.request isAarch64 + i)).toOption
  aarch64 a i :=
    (cpuReadArmRegister64b (cpuidIoctl kernel cpu) uninit
      (a.firstName.request isAarch64 + i)).toOption

/-- What `load_driver` and `open` meet at the path of a device file. -/
structure DeviceFile where
  present : Bool
  readable : Bool
  isRoot : Bool
  modprobeOk : Bool
  openOk : Bool
  openFailsWithEio : Bool
  mallocOk : Bool

/-- `load_driver`. -/
def loadDriver (file : DeviceFile) : Bool :=
  if file.present && file.readable then true
  else if file.present && !file.readable then false
  else if !file.isRoot then false
  else file.modprobeOk

/-- `cpu_cpuid_driver_open_core`: the CPU of the handle.  The number of CPUs is compared as an
unsigned integer. -/
def cpuCpuidDriverOpenCore (totalCpus : BitVec 32) (file : Nat → DeviceFile)
    (coreNum : BitVec 32) : Except CpuError Nat :=
  let cpu := coreNum.toNat
  if totalCpus ≤ coreNum then .error .invCnb
  else if !loadDriver (file cpu) then .error .noDriver
  else if !(file cpu).openOk then
    .error (if (file cpu).openFailsWithEio then .noCpuid else .noDriver)
  else if !(file cpu).mallocOk then .error .noMem
  else .ok cpu

/-- The handle that `cpuid_get_raw_data_core` asks for, for a logical CPU. -/
def driverFor (isAarch64 : Bool) (kernel : ArmKernel) (totalCpus : BitVec 32)
    (file : Nat → DeviceFile) (uninit : BitVec 64) (logicalCpu : BitVec 16) : Option CpuidDriver :=
  (cpuCpuidDriverOpenCore totalCpus file (logicalCpu.setWidth 32)).toOption.map fun cpu =>
    .ofKernel isAarch64 kernel cpu uninit

/-! ### The MRS instructions -/

/-- The registers of an array, in the order of the MRS instructions of `cpuid_get_raw_data_core`. -/
def AArch64Array.names : AArch64Array → List RegName
  | .afr => [.idAa64Afr0, .idAa64Afr1]
  | .dfr => [.idAa64Dfr0, .idAa64Dfr1, .idAa64Dfr2]
  | .fpfr => [.idAa64Fpfr0]
  | .isar => [.idAa64Isar0, .idAa64Isar1, .idAa64Isar2, .idAa64Isar3]
  | .mmfr => [.idAa64Mmfr0, .idAa64Mmfr1, .idAa64Mmfr2, .idAa64Mmfr3, .idAa64Mmfr4]
  | .pfr => [.idAa64Pfr0, .idAa64Pfr1, .idAa64Pfr2]
  | .smfr => [.idAa64Smfr0]
  | .zfr => [.idAa64Zfr0]

/-- The register that an element of the record is for. -/
def AArch64Array.name (a : AArch64Array) (i : Fin a.size) : RegName := a.names.getD i .midr

end LibCpuid
