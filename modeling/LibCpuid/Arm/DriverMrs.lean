import LibCpuid.IdentifyAlike
import LibCpuid.Arm.Armv9
import LibCpuid.Arm.DriverCapture
import LibCpuid.Dump.RoundTrip

/-! The two ways to the registers of an AArch64 processor: the kernel driver, and the MRS
instructions, which do not read the AArch32 registers.  They give the same identification exactly
when the level does not come from the AArch32 registers. -/

namespace LibCpuid

open CLang

/-! ### Records without AArch32 registers -/

/-- The record without its AArch32 registers, which the MRS instructions leave at zero. -/
def CpuRawData.withoutAArch32 (raw : CpuRawData) : CpuRawData :=
  { raw with
    armIdAfr := fun _ => 0
    armIdDfr := fun _ => 0
    armIdIsar := fun _ => 0
    armIdMmfr := fun _ => 0
    armIdPfr := fun _ => 0 }

/-- The CPU answers MRS instructions with its registers, and there is no driver. -/
structure AnswersMrs (m : Machine) (sysReg : SysReg → BitVec 64) : Prop where
  cpuidPresent : m.cpuidPresent = true
  noDriver : m.driver = none
  arm : ∀ reg, m.execMrs reg = sysReg reg.name.sysReg
  aarch64 : ∀ a i, m.execMrsArray a i = sysReg (a.name i).sysReg

theorem readMrs_eq (m : Machine) (data : CpuRawData) : readMrs m data =
    { data with
      armMidr := m.execMrs .midr
      armMpidr := m.execMrs .mpidr
      armRevidr := m.execMrs .revidr
      armIdAa64Afr := m.execMrsArray .afr
      armIdAa64Dfr := m.execMrsArray .dfr
      armIdAa64Fpfr := m.execMrsArray .fpfr
      armIdAa64Isar := m.execMrsArray .isar
      armIdAa64Mmfr := m.execMrsArray .mmfr
      armIdAa64Pfr := m.execMrsArray .pfr
      armIdAa64Smfr := m.execMrsArray .smfr
      armIdAa64Zfr := m.execMrsArray .zfr } := by
  simp only [readMrs, armRegisters, aarch64Arrays, List.foldl_cons, List.foldl_nil,
    CpuRawData.setArm, CpuRawData.setAArch64]

/-- The MRS instructions read what the driver reads, but for the AArch32 registers. -/
theorem readMrs_eq_withoutAArch32 {m : Machine} {sysReg : SysReg → BitVec 64} {raw : CpuRawData}
    (hm : AnswersMrs m sysReg) (hraw : HoldsRegisters true sysReg raw) :
    readMrs m .zero = raw.withoutAArch32 := by
  rw [readMrs_eq]
  refine CpuRawData.eq_of_registers (fun a => ?_) (fun reg => ?_) (fun a => ?_) fun a => ?_
  · funext i
    have hx86 := hraw.x86 a i
    cases a <;> exact hx86.symm
  · have harm := (hm.arm reg).trans (hraw.arm reg).symm
    cases reg <;> exact harm
  · cases a <;> rfl
  · funext i
    have harray := (hm.aarch64 a i).trans (hraw.aarch64 a i).symm
    cases a <;> exact harray

section Identify

variable {raw : CpuRawData}

theorem earlyArmLevel_withoutAArch32 (raw : CpuRawData) :
    earlyArmLevel raw.withoutAArch32 = .unknown := by
  simp only [earlyArmLevel, CpuRawData.withoutAArch32, extractsBits_zero]
  rfl

/-- In AArch64 the fields of the map name AArch64 registers. -/
theorem matchArmFields_withoutAArch32 (fields : List ArmFeatureField) (featureIsPresent : Bool) :
    matchArmFields true raw.withoutAArch32 fields featureIsPresent =
      matchArmFields true raw fields featureIsPresent := by
  induction fields generalizing featureIsPresent with
  | nil => rfl
  | cons field rest ih =>
    have hreg : field.regValue true raw.withoutAArch32 = field.regValue true raw := by
      have hreg64 : raw.withoutAArch32.reg64 = raw.reg64 := by
        funext r
        cases r <;> rfl
      rw [ArmFeatureField.regValue, ArmFeatureField.regValue, if_pos rfl, if_pos rfl, hreg64]
    rw [matchArmFields, matchArmFields, hreg]
    cases field.regValue true raw with
    | none => rfl
    | some regValue => exact ih _

theorem loadArmFeatures_withoutAArch32 (hmode : isAarch64Mode raw = true)
    (s : CpuId × ArmArchExtension) :
    loadArmFeatures raw.withoutAArch32 s = loadArmFeatures raw s := by
  have hmode' : isAarch64Mode raw.withoutAArch32 = true := hmode
  have hmatch (rows : List (CpuFeature × ArmFeatureMap)) (s : CpuId × ArmArchExtension) :
      matchFeaturesMap raw.withoutAArch32 rows s = matchFeaturesMap raw rows s := by
    simp only [matchFeaturesMap, matchArmFeatures, hmode, hmode', matchArmFields_withoutAArch32]
  unfold loadArmFeatures
  dsimp only
  rw [hmatch]
  rfl

/-- The level comes from the MIDR, or not from the AArch32 registers. -/
def LevelAgrees (raw : CpuRawData) : Prop :=
  decodeArmArchitectureVersionByMidr raw ≠ none ∨ earlyArmLevel raw = .unknown

instance (raw : CpuRawData) : Decidable (LevelAgrees raw) :=
  inferInstanceAs (Decidable (_ ∨ _))

/-- The ladders have no level that the AArch32 registers give. -/
theorem decodeArmArchitectureVersionByCpuid_ne {ext : ArmArchExtension}
    (hearly : earlyArmLevel raw ≠ .unknown) :
    decodeArmArchitectureVersionByCpuid raw.withoutAArch32 ext ≠ earlyArmLevel raw := by
  have hladder : ∀ L ∈ architectureArmV9a ++ architectureArmV8a, earlyArmLevel raw ≠ L := by
    unfold earlyArmLevel
    dsimp only
    repeat' split
    all_goals decide
  have hclimbs {rungs : List CpuFeatureLevel}
      (hrungs : rungs ⊆ architectureArmV9a ++ architectureArmV8a) :
      ladderLevel ext rungs .unknown ≠ earlyArmLevel raw := by
    intro heq
    rcases List.mem_cons.mp (heq ▸ ladderLevel_mem) with h | h
    · exact hearly h
    · exact hladder _ (hrungs h) rfl
  unfold decodeArmArchitectureVersionByCpuid
  rw [earlyArmLevel_withoutAArch32]
  dsimp only
  rw [if_neg (fun h => h rfl)]
  split
  · exact hclimbs (List.subset_append_left _ _)
  · split
    · exact hclimbs (List.subset_append_right _ _)
    · exact hearly.symm

theorem cpuidIdentifyArm_withoutAArch32 (hmode : isAarch64Mode raw = true) (data : CpuId) :
    cpuidIdentifyArm raw.withoutAArch32 data = cpuidIdentifyArm raw data ↔ LevelAgrees raw := by
  have hmidr : decodeArmMidr raw.withoutAArch32 data = decodeArmMidr raw data := rfl
  have hversion : decodeArmArchitectureVersionByMidr raw.withoutAArch32 =
      decodeArmArchitectureVersionByMidr raw := rfl
  unfold cpuidIdentifyArm
  rw [hmidr, hversion, loadArmFeatures_withoutAArch32 hmode]
  generalize loadArmFeatures raw (decodeArmMidr raw data, .zero) = loaded
  unfold LevelAgrees
  cases decodeArmArchitectureVersionByMidr raw with
  | some level => simp
  | none =>
    by_cases hearly : earlyArmLevel raw = .unknown
    · simp only [hearly, or_true, iff_true]
      unfold decodeArmArchitectureVersionByCpuid
      rw [earlyArmLevel_withoutAArch32, hearly]
    · refine iff_of_false (fun h => ?_) (by simp [hearly])
      have hlevel := congrArg CpuId.featureLevel h
      have hdriver : decodeArmArchitectureVersionByCpuid raw loaded.2 = earlyArmLevel raw := by
        rw [decodeArmArchitectureVersionByCpuid, if_pos hearly]
      exact decodeArmArchitectureVersionByCpuid_ne hearly (hlevel.trans hdriver)

/-- Without a MIDR the level is not looked for. -/
theorem levelAgrees_of_midr (h : raw.armMidr = 0) : LevelAgrees raw := by
  refine .inl ?_
  unfold decodeArmArchitectureVersionByMidr
  rw [h]
  decide

theorem cpuIdentInternal_withoutAArch32 (host : Host) (hmode : isAarch64Mode raw = true)
    (hx86 : raw.basicCpuid 0 = .zero) (hlevel : LevelAgrees raw) :
    cpuIdentInternal host raw.withoutAArch32 = cpuIdentInternal host raw := by
  have harch : cpuidArchitectureIdentify raw.withoutAArch32 = cpuidArchitectureIdentify raw := rfl
  have hx86' : cpuidArchitectureIdentify raw ≠ .x86 := by
    unfold cpuidArchitectureIdentify
    rw [if_neg (not_not.mpr hx86)]
    split <;> decide
  unfold cpuIdentInternal
  rw [harch]
  cases hraw : cpuidArchitectureIdentify raw with
  | x86 => exact absurd hraw hx86'
  | arm => simp only [(cpuidIdentifyArm_withoutAArch32 hmode _).mpr hlevel]
  | unknown => rfl

/-- The two ways give the same result exactly when the level agrees. -/
theorem cpuIdentify_withoutAArch32_iff (host : Host) (hmode : isAarch64Mode raw = true)
    (hx86 : raw.basicCpuid 0 = .zero) :
    cpuIdentify host raw.withoutAArch32 = cpuIdentify host raw ↔ LevelAgrees raw := by
  by_cases hmidr : raw.armMidr = 0
  · refine iff_of_true ?_ (levelAgrees_of_midr hmidr)
    rw [cpuIdentify, cpuIdentify,
      cpuIdentInternal_withoutAArch32 host hmode hx86 (levelAgrees_of_midr hmidr)]
  · have harm : cpuidArchitectureIdentify raw = .arm := by
      rw [cpuidArchitectureIdentify, if_neg (not_not.mpr hx86), if_pos hmidr]
    have harm' : cpuidArchitectureIdentify raw.withoutAArch32 = .arm := harm
    rw [cpuIdentify_arm host harm, cpuIdentify_arm host harm']
    simp only [Except.ok.injEq, Prod.mk.injEq, true_and]
    exact cpuidIdentifyArm_withoutAArch32 hmode _

/-- `cpu_identify_all` cannot tell the two records apart when the level agrees. -/
theorem alike_withoutAArch32 (host : Host) (hmode : isAarch64Mode raw = true)
    (hx86 : raw.basicCpuid 0 = .zero) (hlevel : LevelAgrees raw) :
    Alike host host raw raw.withoutAArch32 ∧ Alike host host raw.withoutAArch32 raw := by
  have hrecord := cpuIdentInternal_withoutAArch32 host hmode hx86 hlevel
  refine ⟨⟨rfl, fun _ => rfl, ?_⟩, ⟨rfl, fun _ => rfl, ?_⟩⟩
  all_goals
    rw [hrecord]
    exact fun result hresult => ⟨result, hresult, rfl, rfl, rfl⟩

end Identify

/-! ### Two captures of one machine -/

/-- A thread of a library for AArch64 without a driver: it executes the MRS instructions on the CPU
that it is bound to, and the CPU answers with its registers. -/
structure MrsThread {Affinity : Type} (host : ThreadHost Affinity) (kernel : ArmKernel) (n : Nat) :
    Prop where
  platform : host.platform = .aarch64
  reallocOk : ∀ c, host.reallocOk c = true
  setOk : ∀ i < n, ∀ affinity, ∃ affinity',
    host.setCpuAffinity (.ofNat 16 i) affinity = .ok (true, affinity') ∧
      AnswersMrs (host.machine (.ofNat 16 i) affinity') (kernel.sysReg i)
  setFails : ∀ affinity, host.setCpuAffinity (.ofNat 16 n) affinity = .ok (false, affinity)

/-- Identification does not see how the records of the array were read: it gives the same system for
the array without the AArch32 registers, and does so for each record whose level agrees only. -/
structure IdentifiesAlike (host : Host) (a a' : CpuRawDataArray) : Prop where
  raw : a'.raw = a.raw.map (·.withoutAArch32)
  record : ∀ raw ∈ a.raw, isAarch64Mode raw = true →
    (cpuIdentify host raw.withoutAArch32 = cpuIdentify host raw ↔ LevelAgrees raw)
  system : (∀ raw ∈ a.raw, isAarch64Mode raw = true ∧ LevelAgrees raw) → ∀ system,
    cpuIdentifyAll host a' = .ok (.ok, system) ↔ cpuIdentifyAll host a = .ok (.ok, system)

section Captures

variable {Affinity Affinity' : Type} {host : ThreadHost Affinity} {host' : ThreadHost Affinity'}
  {kernel : ArmKernel} {file : Nat → DeviceFile} {uninit : BitVec 64} {n : Nat}

/-- The driver and the MRS instructions agree on what is identified, for each CPU exactly when the
level does not come from the AArch32 registers. -/
theorem capture_mrs (h : ArmThread host true kernel file uninit n)
    (hserves : DriverServes kernel file n) (h' : MrsThread host' kernel n)
    (hbuild : host'.hasSetCpuAffinity = host.hasSetCpuAffinity) (hpos : 0 < n) (hn : n < 65535)
    (identHost : Host) (s : ThreadState Affinity) (s' : ThreadState Affinity') :
    ∃ a t a' t', cpuidGetAllRawData host s = .ok (.ok, a, t) ∧
      cpuidGetAllRawData host' s' = .ok (.ok, a', t') ∧ a.raw.length = n ∧
      IdentifiesAlike identHost a a' := by
  obtain ⟨a, t, hall, hraw, haffinity⟩ := cpuidGetAllRawData_ends hpos hn h.reallocOk
    (h.reads hserves hn) h.setFails s
  have hholds (i : Nat) (hi : i < n) := holdsRegisters_readDriver (hserves.online i hi) true uninit
  have hread : ∀ i < n, ∀ affinity, ∃ affinity',
      host'.setCpuAffinity (.ofNat 16 i) affinity = .ok (true, affinity') ∧
        readRegisters host'.platform (host'.machine (.ofNat 16 i) affinity') .zero =
          some (readDriver .aarch64 (.ofKernel true kernel i uninit) .zero).withoutAArch32 := by
    intro i hi affinity
    obtain ⟨affinity', hset, hm⟩ := h'.setOk i hi affinity
    refine ⟨affinity', hset, ?_⟩
    rw [h'.platform, readRegisters, hm.noDriver, hm.cpuidPresent, if_pos rfl]
    exact congrArg some (readMrs_eq_withoutAArch32 hm (hholds i hi))
  obtain ⟨a', t', hall', hraw', haffinity'⟩ := cpuidGetAllRawData_ends hpos hn h'.reallocOk hread
    h'.setFails s'
  have hmap : a'.raw = a.raw.map (·.withoutAArch32) := by
    rw [hraw', hraw, List.map_map]
    rfl
  have hx86 : ∀ raw ∈ a.raw, raw.basicCpuid 0 = .zero := by
    intro raw hmem
    rw [hraw, List.mem_map] at hmem
    obtain ⟨i, hi, rfl⟩ := hmem
    exact (hholds i (List.mem_range.mp hi)).x86 .basicCpuid (0 : Fin maxCpuidLevel)
  refine ⟨a, t, a', t', hall, hall', by simp [hraw], hmap, ?_, ?_⟩
  · exact fun raw hmem hmode => cpuIdentify_withoutAArch32_iff identHost hmode (hx86 raw hmem)
  · intro hagree system
    have haff : a'.withAffinity = a.withAffinity := by rw [haffinity, haffinity', hbuild]
    have halike := fun raw hmem => alike_withoutAArch32 identHost (hagree raw hmem).1
      (hx86 raw hmem) (hagree raw hmem).2
    constructor
    · refine cpuIdentifyAll_alike haff ?_
      rw [hmap, List.forall₂_map_left_iff, List.forall₂_same]
      exact fun raw hmem => (halike raw hmem).2
    · refine cpuIdentifyAll_alike haff.symm ?_
      rw [hmap, List.forall₂_map_right_iff, List.forall₂_same]
      exact fun raw hmem => (halike raw hmem).1

end Captures

/-- A thread of a library for AArch64 on the two CPUs, with or without the driver. -/
def twoCpusThread64 (hasDriver : Bool) : ThreadHost Nat :=
  { twoCpusThread with
    platform := .aarch64
    machine := fun c affinity =>
      { cpuidPresent := true
        execCpuid _ _ := .zero
        driver := if hasDriver then driverFor true twoCpus (.ofNat 32 2) readableFile 0 c else none
        execMrs reg := twoCpus.sysReg affinity reg.name.sysReg
        execMrsArray a i := twoCpus.sysReg affinity (a.name i).sysReg } }

theorem armThread_twoCpus64 :
    ArmThread (twoCpusThread64 true) true twoCpus readableFile 0 2 where
  platform := rfl
  driver _ _ := rfl
  reallocOk := armThread_twoCpus.reallocOk
  setOk := armThread_twoCpus.setOk
  setFails := armThread_twoCpus.setFails

theorem mrsThread_twoCpus64 : MrsThread (twoCpusThread64 false) twoCpus 2 where
  platform := rfl
  reallocOk := armThread_twoCpus.reallocOk
  setOk i hi affinity := by
    have hi16 : (BitVec.ofNat 16 i).toNat = i := toNat_ofNat_of_lt (by omega)
    refine ⟨i, ?_, rfl, rfl, fun _ => rfl, fun _ _ => rfl⟩
    simp only [twoCpusThread64, twoCpusThread, hi16, if_pos hi]
  setFails := armThread_twoCpus.setFails

/-- What the driver reads of one of the two CPUs. -/
def twoCpusRecord (cpu : Nat) : CpuRawData :=
  readDriver .aarch64 (.ofKernel true twoCpus cpu 0) .zero

/-- Its level comes from the AArch64 registers. -/
theorem levelAgrees_twoCpus : ∀ i < 2,
    isAarch64Mode (twoCpusRecord i) = true ∧ LevelAgrees (twoCpusRecord i) := by
  decide +kernel

/-- The array that is captured through the driver. -/
def twoCpusArray : CpuRawDataArray where
  withAffinity := true
  raw := (List.range 2).map twoCpusRecord
  numRaw_lt := by decide

theorem cpuIdentifyAll_twoCpus :
    ∃ system, cpuIdentifyAll .zero twoCpusArray = .ok (.ok, system) :=
  exists_of_yields_fst (by decide +kernel)

theorem capture_mrs_twoCpus :
    ∃ a t a' t' system, cpuidGetAllRawData (twoCpusThread64 true) ⟨0, 0⟩ = .ok (.ok, a, t) ∧
      cpuidGetAllRawData (twoCpusThread64 false) ⟨0, 0⟩ = .ok (.ok, a', t') ∧ a.raw.length = 2 ∧
      IdentifiesAlike .zero a a' ∧ cpuIdentifyAll .zero a = .ok (.ok, system) ∧
      cpuIdentifyAll .zero a' = .ok (.ok, system) := by
  obtain ⟨a, t, a', t', hall, hall', hlen, halike⟩ := capture_mrs armThread_twoCpus64
    driverServes_twoCpus mrsThread_twoCpus64 rfl (by decide) (by decide) .zero ⟨0, 0⟩ ⟨0, 0⟩
  obtain ⟨⟨withAffinity, raw, numRaw_lt⟩, u, hread, hraw, haffinity⟩ := cpuidGetAllRawData_ends
    (by decide) (by decide) armThread_twoCpus64.reallocOk
    (armThread_twoCpus64.reads driverServes_twoCpus (by decide)) armThread_twoCpus64.setFails ⟨0, 0⟩
  obtain rfl : raw = twoCpusArray.raw := hraw
  obtain rfl : withAffinity = true := haffinity
  have hread : cpuidGetAllRawData (twoCpusThread64 true) ⟨0, 0⟩ = .ok (.ok, twoCpusArray, u) := hread
  obtain ⟨rfl, rfl⟩ : a = twoCpusArray ∧ t = u := by simpa using hall.symm.trans hread
  obtain ⟨system, hsystem⟩ := cpuIdentifyAll_twoCpus
  have hagree : ∀ raw ∈ twoCpusArray.raw, isAarch64Mode raw = true ∧ LevelAgrees raw := by
    intro raw hmem
    obtain ⟨i, hi, rfl⟩ := List.mem_map.mp hmem
    exact levelAgrees_twoCpus i (List.mem_range.mp hi)
  exact ⟨twoCpusArray, t, a', t', system, hall, hall', hlen, halike, hsystem,
    (halike.system hagree system).mpr hsystem⟩

end LibCpuid
