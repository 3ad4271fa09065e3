import LibCpuid.AffinityVariants
import LibCpuid.Arm.Driver

/-! Registers through the kernel driver: every field of a record gets the register that it is for,
and `cpuid_get_all_raw_data` reads each CPU, while `cpuid_get_raw_data`, which names no CPU, never
opens the driver. -/

namespace LibCpuid

open CLang

/-! ### One request -/

/-- The registers that the elements of an AArch32 array are for. -/
def AArch32Array.names : AArch32Array → List RegName
  | .afr => [.idAfr0]
  | .dfr => [.idDfr0, .idDfr1]
  | .isar => [.idIsar0, .idIsar1, .idIsar2, .idIsar3, .idIsar4, .idIsar5, .idIsar6]
  | .mmfr => [.idMmfr0, .idMmfr1, .idMmfr2, .idMmfr3, .idMmfr4, .idMmfr5]
  | .pfr => [.idPfr0, .idPfr1, .idPfr2]

def AArch32Array.name (a : AArch32Array) (i : Fin a.size) : RegName := a.names.getD i .midr

/-- The library counts from the first request of an array; the driver finds the register of the
element, also when the library is built for the other state. -/
theorem requestCase_aarch32 (isAarch64 : Bool) (a : AArch32Array) (i : Fin a.size) :
    requestCase (a.firstName.request isAarch64 + i) = some (a.name i) := by
  revert i
  cases a <;> cases isAarch64 <;> decide

theorem requestCase_aarch64 (a : AArch64Array) (i : Fin a.size) :
    requestCase (a.firstName.request true + i) = some (a.name i) := by
  revert i
  cases a <;> decide

theorem requestCase_arm (isAarch64 : Bool) (reg : ArmRegister) :
    requestCase (reg.name.request isAarch64) = some reg.name := by
  cases reg <;> cases isAarch64 <;> decide

theorem is32b_aarch32 (a : AArch32Array) (i : Fin a.size) : (a.name i).is32b = true := by
  revert i
  cases a <;> decide

theorem is32b_aarch64 (a : AArch64Array) (i : Fin a.size) : (a.name i).is32b = false := by
  revert i
  cases a <;> decide

section Kernel

variable {kernel : ArmKernel} {cpu : Nat} (uninit : BitVec 64)

theorem requestRegister_eq (honline : kernel.online cpu = true) {request : Int} {reg : RegName}
    (hcase : requestCase request = some reg) :
    requestRegister (cpuidIoctl kernel cpu) uninit request =
      .ok (if reg.is32b then ((kernel.sysReg cpu reg.sysReg).setWidth 32).setWidth 64
        else kernel.sysReg cpu reg.sysReg) := by
  have hvalid : request ≠ reqInvalid := by
    rintro rfl
    cases hcase
  rw [requestRegister, cpuidIoctl, if_pos honline, readRegOnCpu]
  simp only [hcase, if_neg hvalid]

theorem ofKernel_arm (honline : kernel.online cpu = true) (isAarch64 : Bool) (reg : ArmRegister) :
    (CpuidDriver.ofKernel isAarch64 kernel cpu uninit).arm reg =
      some (kernel.sysReg cpu reg.name.sysReg) := by
  have h64 : reg.name.is32b = false := by cases reg <;> rfl
  simp only [CpuidDriver.ofKernel, cpuReadArmRegister64b,
    requestRegister_eq uninit honline (requestCase_arm isAarch64 reg), h64]
  rfl

theorem ofKernel_aarch32 (honline : kernel.online cpu = true) (isAarch64 : Bool)
    (a : AArch32Array) (i : Fin a.size) :
    (CpuidDriver.ofKernel isAarch64 kernel cpu uninit).aarch32 a i =
      some ((kernel.sysReg cpu (a.name i).sysReg).setWidth 32) := by
  simp only [CpuidDriver.ofKernel, cpuReadArmRegister32b,
    requestRegister_eq uninit honline (requestCase_aarch32 isAarch64 a i), is32b_aarch32, if_true,
    ok_bind, Except.toOption]
  rw [BitVec.setWidth_setWidth_of_le _ (by decide), BitVec.setWidth_eq]

theorem ofKernel_aarch64 (honline : kernel.online cpu = true) (a : AArch64Array)
    (i : Fin a.size) :
    (CpuidDriver.ofKernel true kernel cpu uninit).aarch64 a i =
      some (kernel.sysReg cpu (a.name i).sysReg) := by
  simp only [CpuidDriver.ofKernel, cpuReadArmRegister64b,
    requestRegister_eq uninit honline (requestCase_aarch64 a i), is32b_aarch64]
  rfl

end Kernel

/-! ### One record -/

section Record

variable (platform : Platform) (driver : CpuidDriver) (data : CpuRawData)

/-- The record that a library for AArch32 reads. -/
theorem readDriver_of_ne (h : platform ≠ .aarch64) : readDriver platform driver data =
    { data with
      armMidr := (driver.arm .midr).getD data.armMidr
      armMpidr := (driver.arm .mpidr).getD data.armMpidr
      armRevidr := (driver.arm .revidr).getD data.armRevidr
      armIdAfr := fun i => (driver.aarch32 .afr i).getD (data.armIdAfr i)
      armIdDfr := fun i => (driver.aarch32 .dfr i).getD (data.armIdDfr i)
      armIdIsar := fun i => (driver.aarch32 .isar i).getD (data.armIdIsar i)
      armIdMmfr := fun i => (driver.aarch32 .mmfr i).getD (data.armIdMmfr i)
      armIdPfr := fun i => (driver.aarch32 .pfr i).getD (data.armIdPfr i) } := by
  simp only [readDriver, if_neg h, armRegisters, aarch32Arrays, List.foldl_cons, List.foldl_nil,
    CpuRawData.setArm, CpuRawData.setAArch32, CpuRawData.arm, CpuRawData.aarch32]
  rfl

/-- The record that a library for AArch64 reads. -/
theorem readDriver_of_eq (h : platform = .aarch64) : readDriver platform driver data =
    { data with
      armMidr := (driver.arm .midr).getD data.armMidr
      armMpidr := (driver.arm .mpidr).getD data.armMpidr
      armRevidr := (driver.arm .revidr).getD data.armRevidr
      armIdAfr := fun i => (driver.aarch32 .afr i).getD (data.armIdAfr i)
      armIdDfr := fun i => (driver.aarch32 .dfr i).getD (data.armIdDfr i)
      armIdIsar := fun i => (driver.aarch32 .isar i).getD (data.armIdIsar i)
      armIdMmfr := fun i => (driver.aarch32 .mmfr i).getD (data.armIdMmfr i)
      armIdPfr := fun i => (driver.aarch32 .pfr i).getD (data.armIdPfr i)
      armIdAa64Afr := fun i => (driver.aarch64 .afr i).getD (data.armIdAa64Afr i)
      armIdAa64Dfr := fun i => (driver.aarch64 .dfr i).getD (data.armIdAa64Dfr i)
      armIdAa64Fpfr := fun i => (driver.aarch64 .fpfr i).getD (data.armIdAa64Fpfr i)
      armIdAa64Isar := fun i => (driver.aarch64 .isar i).getD (data.armIdAa64Isar i)
      armIdAa64Mmfr := fun i => (driver.aarch64 .mmfr i).getD (data.armIdAa64Mmfr i)
      armIdAa64Pfr := fun i => (driver.aarch64 .pfr i).getD (data.armIdAa64Pfr i)
      armIdAa64Smfr := fun i => (driver.aarch64 .smfr i).getD (data.armIdAa64Smfr i)
      armIdAa64Zfr := fun i => (driver.aarch64 .zfr i).getD (data.armIdAa64Zfr i) } := by
  simp only [readDriver, if_pos h, armRegisters, aarch32Arrays, aarch64Arrays, List.foldl_cons,
    List.foldl_nil, CpuRawData.setArm, CpuRawData.setAArch32, CpuRawData.setAArch64,
    CpuRawData.arm, CpuRawData.aarch32, CpuRawData.aarch64]
  rfl

theorem readDriver_arm (reg : ArmRegister) :
    (readDriver platform driver data).arm reg = (driver.arm reg).getD (data.arm reg) := by
  by_cases h : platform = .aarch64
  · rw [readDriver_of_eq _ _ _ h]
    cases reg <;> rfl
  · rw [readDriver_of_ne _ _ _ h]
    cases reg <;> rfl

theorem readDriver_aarch32 (a : AArch32Array) (i : Fin a.size) :
    (readDriver platform driver data).aarch32 a i =
      (driver.aarch32 a i).getD (data.aarch32 a i) := by
  by_cases h : platform = .aarch64
  · rw [readDriver_of_eq _ _ _ h]
    cases a <;> rfl
  · rw [readDriver_of_ne _ _ _ h]
    cases a <;> rfl

theorem readDriver_aarch64 (a : AArch64Array) (i : Fin a.size) :
    (readDriver platform driver data).aarch64 a i =
      if platform = .aarch64 then (driver.aarch64 a i).getD (data.aarch64 a i)
      else data.aarch64 a i := by
  split
  case isTrue h =>
    rw [readDriver_of_eq _ _ _ h]
    cases a <;> rfl
  case isFalse h =>
    rw [readDriver_of_ne _ _ _ h]
    cases a <;> rfl

theorem readDriver_x86 (a : X86Array) :
    (readDriver platform driver data).x86 a = data.x86 a := by
  by_cases h : platform = .aarch64
  · rw [readDriver_of_eq _ _ _ h]
    cases a <;> rfl
  · rw [readDriver_of_ne _ _ _ h]
    cases a <;> rfl

end Record

/-- The record of a CPU holds its registers, each in the field that is for it. -/
structure HoldsRegisters (isAarch64 : Bool) (sysReg : SysReg → BitVec 64) (raw : CpuRawData) :
    Prop where
  arm : ∀ reg, raw.arm reg = sysReg reg.name.sysReg
  aarch32 : ∀ a i, raw.aarch32 a i = (sysReg (a.name i).sysReg).setWidth 32
  aarch64 : ∀ a i, raw.aarch64 a i = if isAarch64 then sysReg (a.name i).sysReg else 0
  x86 : ∀ a i, raw.x86 a i = .zero

/-- The platform of a library that is built for one of the two states. -/
def armPlatform (isAarch64 : Bool) : Platform := if isAarch64 then .aarch64 else .aarch32

theorem holdsRegisters_readDriver {kernel : ArmKernel} {cpu : Nat}
    (honline : kernel.online cpu = true) (isAarch64 : Bool) (uninit : BitVec 64) :
    HoldsRegisters isAarch64 (kernel.sysReg cpu)
      (readDriver (armPlatform isAarch64) (.ofKernel isAarch64 kernel cpu uninit) .zero) where
  arm reg := by rw [readDriver_arm, ofKernel_arm uninit honline, Option.getD_some]
  aarch32 a i := by rw [readDriver_aarch32, ofKernel_aarch32 uninit honline, Option.getD_some]
  aarch64 a i := by
    rw [readDriver_aarch64]
    cases isAarch64 with
    | true =>
      have hplatform : armPlatform true = .aarch64 := rfl
      rw [if_pos hplatform, ofKernel_aarch64 uninit honline, Option.getD_some, if_pos rfl]
    | false => cases a <;> rfl
  x86 a i := by
    rw [readDriver_x86]
    cases a <;> rfl

/-! ### All logical CPUs -/

section Loop

variable {Affinity : Type} {host : ThreadHost Affinity} {n : Nat} {raws : Nat → CpuRawData}

theorem growRawDataArray_withAffinity (host : ThreadHost Affinity) (logicalCpu : BitVec 16)
    (data : CpuRawDataArray) :
    (growRawDataArray host logicalCpu data).withAffinity = data.withAffinity := by
  unfold growRawDataArray cpuidGrowRawDataArray
  split
  · split <;> rfl
  · rfl

/-- A loop that can bind the thread to each of `n` CPUs and read it there ends behind the last. -/
theorem getAllLoop_ends (hn : n < 65535) (hrealloc : ∀ c, host.reallocOk c = true)
    (hread : ∀ i < n, ∀ affinity, ∃ affinity',
      host.setCpuAffinity (.ofNat 16 i) affinity = .ok (true, affinity') ∧
        readRegisters host.platform (host.machine (.ofNat 16 i) affinity') .zero =
          some (raws i))
    (hlast : ∀ affinity, host.setCpuAffinity (.ofNat 16 n) affinity = .ok (false, affinity)) :
    ∀ (d i : Nat) (data : CpuRawDataArray) (s : ThreadState Affinity), i + d = n → 0 < n →
      data.raw.length = i →
      ∃ data' s', getAllLoop host (.ofNat 16 i) data s = .ok (.invCnb, data', s') ∧
        data'.raw = data.raw ++ (List.range' i d).map raws ∧
        data'.withAffinity = data.withAffinity := by
  intro d
  induction d with
  | zero =>
    intro i data s hi hpos hlen
    obtain rfl : i = n := by omega
    have hzero : BitVec.ofNat 16 i > 0 := by
      rw [gt_iff_lt, BitVec.lt_def, toNat_ofNat_of_lt (by omega)]
      exact hpos
    refine ⟨data, s, ?_, by simp, rfl⟩
    rw [getAllLoop, cpuidGetRawDataCore, bindThread, if_neg (ofNat_ne_any hn), hlast]
    simp only [ok_bind, Bool.false_eq_true, if_false, if_pos hzero]
    rfl
  | succ d ih =>
    intro i data s hi hpos hlen
    have hi16 : (BitVec.ofNat 16 i).toNat = i := toNat_ofNat_of_lt (by omega)
    have hne : BitVec.ofNat 16 i ≠ anyLogicalCpu := ofNat_ne_any (by omega)
    obtain ⟨affinity, hset, hregs⟩ := hread i (by omega) s.affinity
    obtain ⟨s1, hcore⟩ := cpuidGetRawDataCore_of_set hne hset hregs
    have hgrown := growRawDataArray_succ hrealloc hne (hlen.trans hi16.symm)
    have hstored : ((growRawDataArray host (.ofNat 16 i) data).setRaw (BitVec.ofNat 16 i).toNat
        (raws i)).raw = data.raw ++ [raws i] := by
      simp only [CpuRawDataArray.setRaw, hgrown]
      rw [hi16, ← hlen, List.set_append_right _ _ (le_refl _), Nat.sub_self, List.set_cons_zero]
    obtain ⟨data', s', hloop, hraw, haffinity⟩ := ih (i + 1)
      ((growRawDataArray host (.ofNat 16 i) data).setRaw (BitVec.ofNat 16 i).toNat (raws i)) s1
      (by omega) hpos (by rw [hstored, List.length_append, hlen, List.length_singleton])
    refine ⟨data', s', ?_, ?_, haffinity.trans (growRawDataArray_withAffinity host _ data)⟩
    · rw [getAllLoop, hcore]
      simp only [ne_eq, not_true_eq_false, if_false]
      rw [dif_pos (by rw [hgrown, List.length_append, List.length_singleton]; omega)]
      rw [show BitVec.ofNat 16 i + 1 = .ofNat 16 (i + 1) from (BitVec.ofNat_add ..).symm]
      exact hloop
    · rw [hraw, hstored, List.range'_succ, List.map_cons, List.append_assoc]
      rfl

/-- `cpuid_get_all_raw_data` on a system of `n` CPUs gets the record of each. -/
theorem cpuidGetAllRawData_ends (hpos : 0 < n) (hn : n < 65535)
    (hrealloc : ∀ c, host.reallocOk c = true)
    (hread : ∀ i < n, ∀ affinity, ∃ affinity',
      host.setCpuAffinity (.ofNat 16 i) affinity = .ok (true, affinity') ∧
        readRegisters host.platform (host.machine (.ofNat 16 i) affinity') .zero =
          some (raws i))
    (hlast : ∀ affinity, host.setCpuAffinity (.ofNat 16 n) affinity = .ok (false, affinity))
    (s : ThreadState Affinity) :
    ∃ a s', cpuidGetAllRawData host s = .ok (.ok, a, s') ∧ a.raw = (List.range n).map raws ∧
      a.withAffinity = host.hasSetCpuAffinity := by
  obtain ⟨a, s', hloop, hraw, haffinity⟩ := getAllLoop_ends hn hrealloc hread hlast n 0
    (cpuRawDataArrayConstructor host true) s (Nat.zero_add n) hpos rfl
  refine ⟨a, s', ?_, ?_, haffinity.trans (Bool.and_true _)⟩
  · rw [cpuidGetAllRawData, show (0 : BitVec 16) = .ofNat 16 0 from rfl, hloop]
    rfl
  · rw [hraw, List.range_eq_range']
    rfl

end Loop

/-- A machine of `n` CPUs, all online, with a driver that the user may read. -/
structure DriverServes (kernel : ArmKernel) (file : Nat → DeviceFile) (n : Nat) : Prop where
  online : ∀ cpu < n, kernel.online cpu = true
  present : ∀ cpu < n, (file cpu).present = true
  readable : ∀ cpu < n, (file cpu).readable = true
  openOk : ∀ cpu < n, (file cpu).openOk = true
  mallocOk : ∀ cpu < n, (file cpu).mallocOk = true

/-- A thread of a library that reads ARM registers through the driver, on a system that binds it to
each of `n` CPUs. -/
structure ArmThread {Affinity : Type} (host : ThreadHost Affinity) (isAarch64 : Bool)
    (kernel : ArmKernel) (file : Nat → DeviceFile) (uninit : BitVec 64) (n : Nat) : Prop where
  platform : host.platform = armPlatform isAarch64
  driver : ∀ logicalCpu affinity, (host.machine logicalCpu affinity).driver =
    driverFor isAarch64 kernel (.ofNat 32 n) file uninit logicalCpu
  reallocOk : ∀ c, host.reallocOk c = true
  setOk : ∀ i < n, ∀ affinity, ∃ affinity',
    host.setCpuAffinity (.ofNat 16 i) affinity = .ok (true, affinity')
  setFails : ∀ affinity, host.setCpuAffinity (.ofNat 16 n) affinity = .ok (false, affinity)

section Thread

variable {Affinity : Type} {host : ThreadHost Affinity} {isAarch64 : Bool} {kernel : ArmKernel}
  {file : Nat → DeviceFile} {uninit : BitVec 64} {n : Nat}

theorem driverFor_of_lt (hserves : DriverServes kernel file n) {i : Nat} (hi : i < n)
    (hn : n < 65535) :
    driverFor isAarch64 kernel (.ofNat 32 n) file uninit (.ofNat 16 i) =
      some (.ofKernel isAarch64 kernel i uninit) := by
  have hcore : ((BitVec.ofNat 16 i).setWidth 32).toNat = i := by
    rw [BitVec.toNat_setWidth, toNat_ofNat_of_lt (by omega)]
    omega
  have hle : ¬BitVec.ofNat 32 n ≤ (BitVec.ofNat 16 i).setWidth 32 := by
    rw [BitVec.le_def, hcore, BitVec.toNat_ofNat]
    omega
  simp [driverFor, cpuCpuidDriverOpenCore, loadDriver, hcore, hle, hserves.present i hi,
    hserves.readable i hi, hserves.openOk i hi, hserves.mallocOk i hi, Except.toOption]

/-- The CPU number of `cpuid_get_raw_data` is too large to be opened. -/
theorem driverFor_any (hn : n < 65535) :
    driverFor isAarch64 kernel (.ofNat 32 n) file uninit anyLogicalCpu = none := by
  have hle : BitVec.ofNat 32 n ≤ anyLogicalCpu.setWidth 32 := by
    have hany : (anyLogicalCpu.setWidth 32).toNat = 65535 := rfl
    rw [BitVec.le_def, hany, BitVec.toNat_ofNat]
    omega
  simp [driverFor, cpuCpuidDriverOpenCore, hle, Except.toOption]

theorem readRegisters_of_driver {m : Machine} {driver : CpuidDriver}
    (hdriver : m.driver = some driver) (data : CpuRawData) :
    readRegisters (armPlatform isAarch64) m data =
      some (readDriver (armPlatform isAarch64) driver data) := by
  cases isAarch64 <;> simp [readRegisters, armPlatform, hdriver]

theorem ArmThread.reads (h : ArmThread host isAarch64 kernel file uninit n)
    (hserves : DriverServes kernel file n) (hn : n < 65535) :
    ∀ i < n, ∀ affinity, ∃ affinity',
      host.setCpuAffinity (.ofNat 16 i) affinity = .ok (true, affinity') ∧
        readRegisters host.platform (host.machine (.ofNat 16 i) affinity') .zero =
          some (readDriver (armPlatform isAarch64) (.ofKernel isAarch64 kernel i uninit)
            .zero) := by
  intro i hi affinity
  obtain ⟨affinity', hset⟩ := h.setOk i hi affinity
  refine ⟨affinity', hset, ?_⟩
  rw [h.platform]
  exact readRegisters_of_driver ((h.driver _ _).trans (driverFor_of_lt hserves hi hn)) _

/-- With the driver `cpuid_get_all_raw_data` gets the registers of every CPU.
`cpuid_get_raw_data` asks for a CPU that the driver does not have, so that a library for AArch32
never gets a record from it. -/
theorem capture_arm (h : ArmThread host isAarch64 kernel file uninit n)
    (hserves : DriverServes kernel file n) (hpos : 0 < n) (hn : n < 65535)
    (s : ThreadState Affinity) :
    (∃ a s', cpuidGetAllRawData host s = .ok (.ok, a, s') ∧ a.raw.length = n ∧
      ∀ i < n, ∃ raw, a.raw[i]? = some raw ∧
        HoldsRegisters isAarch64 (kernel.sysReg i) raw) ∧
    (isAarch64 = false → ∀ data,
      cpuidGetRawDataCore host data anyLogicalCpu s = .ok (.noCpuid, data, s)) := by
  constructor
  · obtain ⟨a, s', hall, hraw, -⟩ := cpuidGetAllRawData_ends hpos hn h.reallocOk
      (h.reads hserves hn) h.setFails s
    exact ⟨a, s', hall, by simp [hraw], fun i hi => ⟨_, by simp [hraw, hi],
      holdsRegisters_readDriver (hserves.online i hi) isAarch64 uninit⟩⟩
  · rintro rfl data
    have hdriver : (host.machine anyLogicalCpu s.affinity).driver = none :=
      (h.driver _ _).trans (driverFor_any hn)
    rw [cpuidGetRawDataCore, bindThread, if_pos rfl, ok_bind, h.platform]
    simp [readRegisters, armPlatform, hdriver]

end Thread

/-- The registers of a Cortex-A53 core that are not zero.  `MPIDR_EL1` has the number of the core. -/
def cortexA53Regs (cpu : Nat) : List (RegName × BitVec 64) :=
  [(.midr, 0x410fd034), (.mpidr, .ofNat 64 (0x80000000 + cpu)), (.idDfr0, 0x03010066),
    (.idIsar0, 0x02101110), (.idIsar1, 0x13112111), (.idIsar2, 0x21232042), (.idIsar3, 0x01112131),
    (.idIsar4, 0x00011142), (.idIsar5, 0x00011121), (.idMmfr0, 0x10201105), (.idMmfr1, 0x40000000),
    (.idMmfr2, 0x01260000), (.idMmfr3, 0x02102211), (.idPfr0, 0x00000131), (.idPfr1, 0x10011011),
    (.idAa64Dfr0, 0x10305106), (.idAa64Isar0, 0x00011120), (.idAa64Mmfr0, 0x00001122),
    (.idAa64Pfr0, 0x00002222)]

/-- Two online CPUs. -/
def twoCpus : ArmKernel where
  online cpu := cpu < 2
  sysReg cpu reg := (((cortexA53Regs cpu).find? fun r => r.1.sysReg = reg).map Prod.snd).getD 0

/-- The device files that the driver makes, all of them readable. -/
def readableFile (_ : Nat) : DeviceFile := ⟨true, true, false, false, true, false, true⟩

/-- A thread of a library for AArch32 on two CPUs. -/
def twoCpusThread : ThreadHost Nat where
  platform := .aarch32
  hasSetCpuAffinity := true
  setCpuAffinity c affinity := .ok (if c.toNat < 2 then (true, c.toNat) else (false, affinity))
  saveOk _ := true
  restoreOk _ := true
  reallocOk _ := true
  machine c _ :=
    { cpuidPresent := false
      execCpuid _ _ := .zero
      driver := driverFor false twoCpus (.ofNat 32 2) readableFile 0 c
      execMrs _ := 0
      execMrsArray _ _ := 0 }

theorem armThread_twoCpus : ArmThread twoCpusThread false twoCpus readableFile 0 2 where
  platform := rfl
  driver _ _ := rfl
  reallocOk _ := rfl
  setOk i hi affinity := ⟨(BitVec.ofNat 16 i).toNat, by
    simp only [twoCpusThread]
    rw [if_pos (by rw [toNat_ofNat_of_lt (by omega)]; exact hi)]⟩
  setFails _ := rfl

theorem driverServes_twoCpus : DriverServes twoCpus readableFile 2 where
  online _ h := decide_eq_true h
  present _ _ := rfl
  readable _ _ := rfl
  openOk _ _ := rfl
  mallocOk _ _ := rfl

theorem capture_arm_twoCpus :
    (∃ a s', cpuidGetAllRawData twoCpusThread ⟨0, 0⟩ = .ok (.ok, a, s') ∧ a.raw.length = 2 ∧
      ∀ i < 2, ∃ raw, a.raw[i]? = some raw ∧ HoldsRegisters false (twoCpus.sysReg i) raw) ∧
    (false = false → ∀ data, cpuidGetRawDataCore twoCpusThread data anyLogicalCpu ⟨0, 0⟩ =
      .ok (.noCpuid, data, ⟨0, 0⟩)) :=
  capture_arm armThread_twoCpus driverServes_twoCpus (by decide) (by decide) ⟨0, 0⟩

end LibCpuid
