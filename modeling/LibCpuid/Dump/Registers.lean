import LibCpuid.Types

/-! The registers of a raw record as the dump files group them: arrays of CPUID answers, single ARM
registers, and arrays of AArch32 and of AArch64 registers. -/

namespace LibCpuid

open CLang

/-- The arrays of CPUID answers. -/
inductive X86Array
  | basicCpuid | extCpuid | intelFn4 | intelFn11 | intelFn12h | intelFn14h | amdFn8000001dh
  | amdFn80000026h
  deriving DecidableEq

/-- The ARM registers that are not in an array. -/
inductive ArmRegister
  | midr | mpidr | revidr
  deriving DecidableEq

/-- The arrays of AArch32 registers. -/
inductive AArch32Array
  | afr | dfr | isar | mmfr | pfr
  deriving DecidableEq

/-- The arrays of AArch64 registers. -/
inductive AArch64Array
  | afr | dfr | fpfr | isar | mmfr | pfr | smfr | zfr
  deriving DecidableEq

/-- The arrays, in the order of the record. -/
def x86Arrays : List X86Array :=
  [.basicCpuid, .extCpuid, .intelFn4, .intelFn11, .intelFn12h, .intelFn14h, .amdFn8000001dh,
    .amdFn80000026h]

def armRegisters : List ArmRegister := [.midr, .mpidr, .revidr]

def aarch32Arrays : List AArch32Array := [.afr, .dfr, .isar, .mmfr, .pfr]

def aarch64Arrays : List AArch64Array := [.afr, .dfr, .fpfr, .isar, .mmfr, .pfr, .smfr, .zfr]

/-- The number of elements that the record has room for. -/
def X86Array.size : X86Array → Nat
  | .basicCpuid => maxCpuidLevel
  | .extCpuid => maxExtCpuidLevel
  | .intelFn4 => maxIntelFn4Level
  | .intelFn11 => maxIntelFn11Level
  | .intelFn12h => maxIntelFn12hLevel
  | .intelFn14h => maxIntelFn14hLevel
  | .amdFn8000001dh => maxAmdFn8000001dhLevel
  | .amdFn80000026h => maxAmdFn80000026hLevel

def AArch32Array.size : AArch32Array → Nat
  | .afr => maxArmIdAfrRegs
  | .dfr => maxArmIdDfrRegs
  | .isar => maxArmIdIsarRegs
  | .mmfr => maxArmIdMmfrRegs
  | .pfr => maxArmIdPfrRegs

def AArch64Array.size : AArch64Array → Nat
  | .afr => maxArmIdAa64AfrRegs
  | .dfr => maxArmIdAa64DfrRegs
  | .fpfr => maxArmIdAa64FpfrRegs
  | .isar => maxArmIdAa64IsarRegs
  | .mmfr => maxArmIdAa64MmfrRegs
  | .pfr => maxArmIdAa64PfrRegs
  | .smfr => maxArmIdAa64SmfrRegs
  | .zfr => maxArmIdAa64ZfrRegs

namespace CpuRawData

variable (raw : CpuRawData)

/-- The array of a record. -/
def x86 : (a : X86Array) → Fin a.size → Regs
  | .basicCpuid => raw.basicCpuid
  | .extCpuid => raw.extCpuid
  | .intelFn4 => raw.intelFn4
  | .intelFn11 => raw.intelFn11
  | .intelFn12h => raw.intelFn12h
  | .intelFn14h => raw.intelFn14h
  | .amdFn8000001dh => raw.amdFn8000001dh
  | .amdFn80000026h => raw.amdFn80000026h

def arm : ArmRegister → BitVec 64
  | .midr => raw.armMidr
  | .mpidr => raw.armMpidr
  | .revidr => raw.armRevidr

def aarch32 : (a : AArch32Array) → Fin a.size → BitVec 32
  | .afr => raw.armIdAfr
  | .dfr => raw.armIdDfr
  | .isar => raw.armIdIsar
  | .mmfr => raw.armIdMmfr
  | .pfr => raw.armIdPfr

def aarch64 : (a : AArch64Array) → Fin a.size → BitVec 64
  | .afr => raw.armIdAa64Afr
  | .dfr => raw.armIdAa64Dfr
  | .fpfr => raw.armIdAa64Fpfr
  | .isar => raw.armIdAa64Isar
  | .mmfr => raw.armIdAa64Mmfr
  | .pfr => raw.armIdAa64Pfr
  | .smfr => raw.armIdAa64Smfr
  | .zfr => raw.armIdAa64Zfr

/-- The record with another array. -/
def setX86 : (a : X86Array) → (Fin a.size → Regs) → CpuRawData
  | .basicCpuid, v => { raw with basicCpuid := v }
  | .extCpuid, v => { raw with extCpuid := v }
  | .intelFn4, v => { raw with intelFn4 := v }
  | .intelFn11, v => { raw with intelFn11 := v }
  | .intelFn12h, v => { raw with intelFn12h := v }
  | .intelFn14h, v => { raw with intelFn14h := v }
  | .amdFn8000001dh, v => { raw with amdFn8000001dh := v }
  | .amdFn80000026h, v => { raw with amdFn80000026h := v }

def setArm : ArmRegister → BitVec 64 → CpuRawData
  | .midr, v => { raw with armMidr := v }
  | .mpidr, v => { raw with armMpidr := v }
  | .revidr, v => { raw with armRevidr := v }

def setAArch32 : (a : AArch32Array) → (Fin a.size → BitVec 32) → CpuRawData
  | .afr, v => { raw with armIdAfr := v }
  | .dfr, v => { raw with armIdDfr := v }
  | .isar, v => { raw with armIdIsar := v }
  | .mmfr, v => { raw with armIdMmfr := v }
  | .pfr, v => { raw with armIdPfr := v }

def setAArch64 : (a : AArch64Array) → (Fin a.size → BitVec 64) → CpuRawData
  | .afr, v => { raw with armIdAa64Afr := v }
  | .dfr, v => { raw with armIdAa64Dfr := v }
  | .fpfr, v => { raw with armIdAa64Fpfr := v }
  | .isar, v => { raw with armIdAa64Isar := v }
  | .mmfr, v => { raw with armIdAa64Mmfr := v }
  | .pfr, v => { raw with armIdAa64Pfr := v }
  | .smfr, v => { raw with armIdAa64Smfr := v }
  | .zfr, v => { raw with armIdAa64Zfr := v }

@[simp] theorem x86_setX86 (a : X86Array) (v : Fin a.size → Regs) : (raw.setX86 a v).x86 a = v := by
  cases a <;> rfl

@[simp] theorem setX86_setX86 (a : X86Array) (v w : Fin a.size → Regs) :
    (raw.setX86 a v).setX86 a w = raw.setX86 a w := by
  cases a <;> rfl

@[simp] theorem setX86_x86 (a : X86Array) : raw.setX86 a (raw.x86 a) = raw := by
  cases a <;> rfl

@[simp] theorem aarch32_setAArch32 (a : AArch32Array) (v : Fin a.size → BitVec 32) :
    (raw.setAArch32 a v).aarch32 a = v := by
  cases a <;> rfl

@[simp] theorem setAArch32_setAArch32 (a : AArch32Array) (v w : Fin a.size → BitVec 32) :
    (raw.setAArch32 a v).setAArch32 a w = raw.setAArch32 a w := by
  cases a <;> rfl

@[simp] theorem setAArch32_aarch32 (a : AArch32Array) :
    raw.setAArch32 a (raw.aarch32 a) = raw := by
  cases a <;> rfl

@[simp] theorem aarch64_setAArch64 (a : AArch64Array) (v : Fin a.size → BitVec 64) :
    (raw.setAArch64 a v).aarch64 a = v := by
  cases a <;> rfl

@[simp] theorem setAArch64_setAArch64 (a : AArch64Array) (v w : Fin a.size → BitVec 64) :
    (raw.setAArch64 a v).setAArch64 a w = raw.setAArch64 a w := by
  cases a <;> rfl

@[simp] theorem setAArch64_aarch64 (a : AArch64Array) :
    raw.setAArch64 a (raw.aarch64 a) = raw := by
  cases a <;> rfl

end CpuRawData

end LibCpuid
