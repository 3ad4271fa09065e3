import LibCpuid.CLang.Closest
import LibCpuid.CLang.Double
import LibCpuid.Dump.Deserialize
import LibCpuid.Identify

/-! `rdmsr.c`: the model-specific registers that a driver reads, what `cpu_msrinfo` makes of them,
and the dump that `msr_serialize_raw_data` writes.  Between calls the functions keep static
variables. -/

namespace LibCpuid

open CLang

/-! ### Registers -/

/-- `CPU_INVALID_VALUE`. -/
def cpuInvalidValue : Int := 0x3fffffff

/-- The MSRs of AMD: `MSR_PSTATE_L`, `MSR_PSTATE_S`, and the first and the last P-state. -/
def msrPstateL : BitVec 32 := 0xc0010061
def msrPstateS : BitVec 32 := 0xc0010063
def msrPstate0 : BitVec 32 := 0xc0010064
def msrPstate7 : BitVec 32 := 0xc001006b

/-- `amd_msr`, without the entry that ends it. -/
def amdMsr : List (BitVec 32) :=
  [msrPstateL, msrPstateS, msrPstate0, 0xc0010065, 0xc0010066, 0xc0010067, 0xc0010068, 0xc0010069,
    0xc001006a, msrPstate7]

/-- The MSRs of Intel.  `MSR_PERF_STATUS` is `IA32_PERF_STATUS`. -/
def ia32Mperf : BitVec 32 := 0xe7
def ia32Aperf : BitVec 32 := 0xe8
def ia32PerfStatus : BitVec 32 := 0x198
def ia32ThermStatus : BitVec 32 := 0x19c
def msrEblCrPoweron : BitVec 32 := 0x2a
def msrTurboRatioLimit : BitVec 32 := 0x1ad
def msrTemperatureTarget : BitVec 32 := 0x1a2
def msrPerfStatus : BitVec 32 := 0x198
def msrPlatformInfo : BitVec 32 := 0xce

/-- `intel_msr`, without the entry that ends it. -/
def intelMsr : List (BitVec 32) :=
  [ia32Mperf, ia32Aperf, ia32PerfStatus, ia32ThermStatus, msrEblCrPoweron, msrTurboRatioLimit,
    msrTemperatureTarget, msrPerfStatus, msrPlatformInfo]

/-- The values of `cpu_error_t`. -/
def CpuError.code : CpuError → Int
  | .ok => 0
  | .noCpuid => -1
  | .noRdtsc => -2
  | .noMem => -3
  | .open => -4
  | .badFmt => -5
  | .notImp => -6
  | .cpuUnkn => -7
  | .noRdmsr => -8
  | .noDriver => -9
  | .noPerms => -10
  | .extract => -11
  | .handle => -12
  | .invMsr => -13
  | .invCnb => -14
  | .handleR => -15
  | .invRange => -16
  | .notFound => -17
  | .ioctl => -18
  | .request => -19

/-- What the registers of the CPU of a handle answer while a function runs.  A register that cannot
be read has no answer. -/
abbrev MsrDriver := BitVec 32 → Option (BitVec 64)

/-- `cpu_rdmsr`: the return value, and what is then in the variable for the result. -/
def cpuRdmsr (handle : Option MsrDriver) (msrIndex : BitVec 32) (result : BitVec 64) :
    CpuError × BitVec 64 :=
  match handle with
  | none => (.handle, result)
  | some driver =>
    match driver msrIndex with
    | some value => (.ok, value)
    | none => (.invMsr, result)

/-- `cpu_rdmsr_range`. -/
def cpuRdmsrRange (handle : Option MsrDriver) (msrIndex : BitVec 32) (highbit lowbit : BitVec 8)
    (result : BitVec 64) : CpuError × BitVec 64 :=
  let bits := highbit - lowbit + 1
  if highbit > 63 ∨ lowbit > highbit then (.invRange, result)
  else
    let (err, result) := cpuRdmsr handle msrIndex result
    if err = .ok ∧ bits < 64 then
      (err, (result >>> lowbit.toNat) &&& ((1#64 <<< bits.toNat) - 1#64))
    else (err, result)

section Range

variable {driver : MsrDriver} {msrIndex : BitVec 32} {highbit lowbit : BitVec 8}

/-- A range of bits of a register that can be read. -/
theorem cpuRdmsrRange_some {value : BitVec 64} (hread : driver msrIndex = some value)
    (hhigh : highbit ≤ 63) (hle : lowbit ≤ highbit) (result : BitVec 64) :
    cpuRdmsrRange (some driver) msrIndex highbit lowbit result =
      (.ok, .ofNat 64 (extractsBits value highbit.toNat lowbit.toNat)) := by
  have h63 : highbit.toNat ≤ 63 := BitVec.le_def.mp hhigh
  have hle' : lowbit.toNat ≤ highbit.toNat := BitVec.le_def.mp hle
  have hbits : (highbit - lowbit + 1).toNat = highbit.toNat - lowbit.toNat + 1 := by
    have hone : (1 : BitVec 8).toNat = 1 := rfl
    rw [BitVec.toNat_add, BitVec.toNat_sub, hone]
    omega
  have hcond : ¬(highbit > 63 ∨ lowbit > highbit) :=
    fun h => h.elim (BitVec.not_lt.mpr hhigh) (BitVec.not_lt.mpr hle)
  rw [cpuRdmsrRange]
  dsimp only
  rw [if_neg hcond]
  simp only [cpuRdmsr, hread, true_and]
  split
  · next hlt =>
    have hlt' : highbit.toNat - lowbit.toNat + 1 < 64 := hbits ▸ BitVec.lt_def.mp hlt
    have hmask : ((1#64 <<< (highbit - lowbit + 1).toNat) - 1#64).toNat =
        (1 <<< (highbit.toNat - lowbit.toNat + 1)) - 1 := by
      have hpow : 2 ^ (highbit.toNat - lowbit.toNat + 1) < 2 ^ 64 :=
        Nat.pow_lt_pow_right (by decide) hlt'
      have hpos := Nat.two_pow_pos (highbit.toNat - lowbit.toNat + 1)
      have hone : (1#64).toNat = 1 := rfl
      rw [hbits, BitVec.toNat_sub, BitVec.toNat_shiftLeft, hone, Nat.one_shiftLeft,
        Nat.mod_eq_of_lt hpow]
      omega
    refine congrArg _ (BitVec.eq_of_toNat_eq ?_)
    rw [BitVec.toNat_ofNat, BitVec.toNat_and, BitVec.toNat_ushiftRight, hmask, extractsBits]
    refine (Nat.mod_eq_of_lt (Nat.and_le_left.trans_lt ?_)).symm
    rw [Nat.shiftRight_eq_div_pow]
    exact (Nat.div_le_self _ _).trans_lt value.isLt
  · next hlt =>
    -- the whole register
    have hge : 64 ≤ highbit.toNat - lowbit.toNat + 1 := by
      rw [← hbits]
      exact Nat.not_lt.mp fun h => hlt (BitVec.lt_def.mpr h)
    have hlow : lowbit.toNat = 0 := by omega
    have hwidth : highbit.toNat - 0 + 1 = 64 := by omega
    rw [extractsBits_eq_field, hlow, hwidth, field, Nat.pow_zero, Nat.div_one,
      Nat.mod_eq_of_lt value.isLt, BitVec.ofNat_toNat, BitVec.setWidth_eq]

theorem cpuRdmsrRange_none (hread : driver msrIndex = none) (hhigh : highbit ≤ 63)
    (hle : lowbit ≤ highbit) (result : BitVec 64) :
    cpuRdmsrRange (some driver) msrIndex highbit lowbit result = (.invMsr, result) := by
  have hcond : ¬(highbit > 63 ∨ lowbit > highbit) :=
    fun h => h.elim (BitVec.not_lt.mpr hhigh) (BitVec.not_lt.mpr hle)
  have hno : ¬(CpuError.invMsr = .ok ∧ highbit - lowbit + 1 < 64) := fun h => by cases h.1
  rw [cpuRdmsrRange]
  dsimp only
  rw [if_neg hcond]
  simp only [cpuRdmsr, hread, if_neg hno]

end Range

/-! ### The variables between calls -/

/-- The static variables of `cpu_msrinfo` and of the functions that it calls.  The flags
`supported` are -1 until they are found, which is `none` here. -/
structure MsrStatics where
  err : Int
  init : Bool
  id : CpuId
  cpuClock : Int
  platformInfoSupported : Option Bool
  intelCoreSupported : Option Bool
  lastAddr : BitVec 32

/-- The variables when the process starts.  The record is not read before it is written. -/
def MsrStatics.start : MsrStatics where
  err := 0
  init := false
  id := cpuIdConstructor
  cpuClock := 0
  platformInfoSupported := none
  intelCoreSupported := none
  lastAddr := 0

/-- `msr_platform_info`, a family and a model in each row. -/
def msrPlatformInfoCores : List (Int × Int) :=
  [(6, 92), (6, 122), (6, 26), (6, 30), (6, 37), (6, 44), (6, 42), (6, 45), (6, 58), (6, 62),
    (6, 60), (6, 63), (6, 69), (6, 70), (6, 61), (6, 71), (6, 79), (6, 78), (6, 85), (6, 94),
    (6, 142), (6, 158), (6, 102), (6, 142), (6, 158), (6, 85), (6, 142), (6, 165), (6, 106),
    (6, 108), (6, 126), (6, 167), (6, 138), (6, 150), (6, 156), (6, 140), (6, 151), (6, 154),
    (6, 190), (6, 183), (6, 186), (6, 191), (6, 143), (6, 207), (6, 170), (6, 198), (6, 189),
    (0x6, 0x55), (0x6, 0x57), (0x6, 0x85)]

/-- `msr_perf_status`. -/
def msrPerfStatusCores : List (Int × Int) :=
  [(6, 42), (6, 45), (6, 58), (6, 62), (6, 60), (6, 63), (6, 69), (6, 70), (6, 61), (6, 71),
    (6, 79), (6, 78), (6, 85), (6, 94), (6, 142), (6, 158), (6, 102), (6, 142), (6, 158), (6, 85),
    (6, 142), (6, 165), (6, 106), (6, 108), (6, 126), (6, 167), (6, 138), (6, 150), (6, 156),
    (6, 140), (6, 151), (6, 154), (6, 190), (6, 183), (6, 186), (6, 191), (6, 143), (6, 207),
    (6, 170), (0x6, 0x55), (0x6, 0x57), (0x6, 0x85)]

/-- The search of a table for the processor. -/
def listsCore (cores : List (Int × Int)) (id : CpuId) : Bool :=
  decide (id.vendor = .intel) &&
    cores.any fun core => decide (id.x86.extFamily = core.1) && decide (id.x86.extModel = core.2)

/-- `msr_platform_info_supported`. -/
def msrPlatformInfoSupported (s : MsrStatics) : Bool × MsrStatics :=
  match s.platformInfoSupported with
  | some supported => (supported, s)
  | none =>
    let supported := listsCore msrPlatformInfoCores s.id
    (supported, { s with platformInfoSupported := some supported })

/-- `msr_intel_core_supported`. -/
def msrIntelCoreSupported (s : MsrStatics) : Bool × MsrStatics :=
  match s.intelCoreSupported with
  | some supported => (supported, s)
  | none =>
    let supported := listsCore msrPerfStatusCores s.id
    (supported, { s with intelCoreSupported := some supported })

/-- The loop of `get_amd_last_pstate_addr`, from the address `MSR_PSTATE_0 + n` on. -/
def lastPstateLoop (handle : Option MsrDriver) : Nat → BitVec 64 → BitVec 32
  | 0, _ => msrPstate0
  | n + 1, reg =>
    if reg = 0 then
      lastPstateLoop handle n (cpuRdmsrRange handle (msrPstate0 + .ofNat 32 n) 63 63 reg).2
    else msrPstate0 + .ofNat 32 (n + 1)

/-- `get_amd_last_pstate_addr`. -/
def getAmdLastPstateAddr (handle : Option MsrDriver) (s : MsrStatics) : BitVec 32 × MsrStatics :=
  if s.lastAddr ≠ 0 then (s.lastAddr, s)
  else
    let lastAddr := lastPstateLoop handle 8 0
    (lastAddr, { s with lastAddr })

/-! ### The values -/

/-- `cpu_msrinfo_request_t`. -/
inductive CpuMsrinfoRequest
  | mperf | aperf | minMultiplier | curMultiplier | maxMultiplier | temperature | throttling
  | voltage | bclk | busClock
  deriving DecidableEq

/-- What a call of `cpu_msrinfo` meets: what `cpuid_get_raw_data`, identification and
`cpu_clock_measure` give if the call is the first one, the registers, the same registers and the two
readings of the clock around the delay of `perfmsr_measure`, and what a variable holds that is not
initialised. -/
structure MsrCall where
  rawData : CpuError × CpuRawData
  host : Host
  cpuClock : Int
  driver : MsrDriver
  later : MsrDriver
  clockBefore : BitVec 64
  clockAfter : BitVec 64
  uninit : BitVec 64

namespace MsrCall

variable (call : MsrCall)

/-- A range of bits of a register, read into a variable that is not initialised. -/
def range (msrIndex : BitVec 32) (highbit lowbit : BitVec 8) : CpuError × BitVec 64 :=
  cpuRdmsrRange (some call.driver) msrIndex highbit lowbit call.uninit

/-- `perfmsr_measure`. -/
def perfmsrMeasure (msr : BitVec 32) : Int :=
  let (err, x) := cpuRdmsr (some call.driver) msr call.uninit
  if err ≠ .ok then cpuInvalidValue
  else
    let y := (cpuRdmsr (some call.later) msr call.uninit).2
    if call.clockBefore ≥ call.clockAfter ∨ x > y then cpuInvalidValue
    else (((y - x) / (call.clockAfter - call.clockBefore)).setWidth 32).toInt

end MsrCall

/-- A `uint64_t` as a `double`. -/
def doubleOfUInt64 (x : BitVec 64) : Double := .ofInt x.toNat

/-- `divisor_t` of `get_amd_multipliers`. -/
def divisorT : List (BitVec 64 × ℚ) :=
  [(0x0, 1), (0x1, 3 / 2), (0x2, 2), (0x3, 3), (0x4, 4), (0x5, 6), (0x6, 8), (0x7, 12), (0x8, 16)]

section Amd

variable (id : CpuId)

/-- `magic_constant` of `get_amd_multipliers`. -/
def magicConstant : Int := if id.x86.extFamily = 0x11 then 0x8 else 0x10

/-- `divisor` of `get_amd_multipliers`. -/
def apuDivisor : ℚ :=
  if strstr id.brandStr "APU".toList || strstr id.brandStr "Radeon ".toList then 1 else 2

/-- `get_amd_multipliers`: the sum of the errors, and the multiplier that is stored, if one is. -/
def getAmdMultipliers (call : MsrCall) (cpuClock : Int) (pstate : BitVec 32) :
    Checked (Int × Option Double) :=
  let range := call.range pstate
  if pstate < msrPstate0 ∨ msrPstate7 < pstate then .ok (1, none)
  else if id.x86.extFamily = 0x12 then
    let (err, cpuFid) := range 8 4
    let (err', cpuDid) := range 3 0
    match divisorT.find? fun row => row.1 = cpuDid with
    | some row =>
      .ok (err.code + err'.code,
        some ((doubleOfUInt64 (cpuFid + .ofInt 64 (magicConstant id))).div (.ofDecimal row.2)))
    | none => .ok (err.code + err'.code + 1, none)
  else if id.x86.extFamily = 0x14 then do
    let (err, cpuDid) := range 8 4
    let (err', cpuDidLSD) := range 3 0
    let clock ← intResult (cpuClock + 5)
    let divisor := ((doubleOfUInt64 cpuDid).add
      ((doubleOfUInt64 cpuDidLSD).mul (.ofDecimal (1 / 4)))).add (.ofInt 1)
    .ok (err.code + err'.code,
      some ((Double.ofInt (clock.tdiv 100 + magicConstant id)).div divisor))
  else if id.x86.extFamily ∈ [(0x10 : Int), 0x11, 0x15, 0x16] then
    let (err, cpuDid) := range 8 6
    let (err', cpuFid) := range 5 0
    if cpuDid < 64 then
      .ok (err.code + err'.code,
        some (((doubleOfUInt64 (cpuFid + .ofInt 64 (magicConstant id))).div
          (doubleOfUInt64 (1#64 <<< cpuDid.toNat))).div (.ofDecimal (apuDivisor id))))
    else .error .shiftTooFar
  else if id.x86.extFamily ∈ [(0x17 : Int), 0x18, 0x19] then
    let (err, cpuDid) := range 13 8
    let (err', cpuFid) := range 7 0
    .ok (err.code + err'.code,
      some (((doubleOfUInt64 cpuFid).div (doubleOfUInt64 cpuDid)).mul (.ofInt 2)))
  else .ok (1, none)

end Amd

/-- `(double) CPU_INVALID_VALUE / 100`. -/
def invalidDouble : Double := (Double.ofInt cpuInvalidValue).div (.ofInt 100)

/-- The multiplier of a P-state, when there was no error before and in `get_amd_multipliers`. -/
def amdMultiplier (call : MsrCall) (id : CpuId) (cpuClock : Int) (err : CpuError)
    (pstate : BitVec 32) : Checked (Option Double) := do
  let (err', mult) ← getAmdMultipliers id call cpuClock pstate
  .ok (if err.code + err' = 0 then mult else none)

/-- A field of a register as a `double`, when it can be read. -/
def fieldDouble (read : CpuError × BitVec 64) : Option Double :=
  if read.1 = .ok then some (doubleOfUInt64 read.2) else none

/-- Whether the processor is one of AMD or Hygon. -/
def isAmdOrHygon (id : CpuId) : Bool := id.vendor = .amd || id.vendor = .hygon

/-- `get_info_min_multiplier`, which has no value when the source returns
`(double) CPU_INVALID_VALUE / 100`. -/
def getInfoMinMultiplier (call : MsrCall) (s : MsrStatics) :
    Checked (Option Double × MsrStatics) := do
  let (supported, s) := msrPlatformInfoSupported s
  if supported then .ok (fieldDouble (call.range msrPlatformInfo 47 40), s)
  else if isAmdOrHygon s.id then
    let (addr, s) := getAmdLastPstateAddr (some call.driver) s
    .ok (← amdMultiplier call s.id s.cpuClock .ok addr, s)
  else .ok (none, s)

/-- `get_info_cur_multiplier`. -/
def getInfoCurMultiplier (call : MsrCall) (s : MsrStatics) :
    Checked (Option Double × MsrStatics) := do
  if s.id.vendor = .intel then
    let (supported, s) := msrIntelCoreSupported s
    if supported then .ok (fieldDouble (call.range ia32PerfStatus 15 8), s)
    else
      let (err, reg) := cpuRdmsr (some call.driver) msrEblCrPoweron call.uninit
      .ok (fieldDouble (err, (reg >>> 22) &&& 0x1f), s)
  else if isAmdOrHygon s.id then
    let (err, reg) := call.range msrPstateS 2 0
    .ok (← amdMultiplier call s.id s.cpuClock err (msrPstate0 + reg.setWidth 32), s)
  else .ok (none, s)

/-- `get_info_max_multiplier`. -/
def getInfoMaxMultiplier (call : MsrCall) (s : MsrStatics) :
    Checked (Option Double × MsrStatics) := do
  if s.id.vendor = .intel then
    let (supported, s) := msrIntelCoreSupported s
    if supported then .ok (fieldDouble (call.range msrTurboRatioLimit 7 0), s)
    else
      let (err, reg) := cpuRdmsr (some call.driver) ia32PerfStatus call.uninit
      .ok (fieldDouble (err, (reg >>> 40) &&& 0x1f), s)
  else if isAmdOrHygon s.id then .ok (← amdMultiplier call s.id s.cpuClock .ok msrPstate0, s)
  else .ok (none, s)

/-- `get_info_temperature`. -/
def getInfoTemperature (call : MsrCall) (s : MsrStatics) : Int × MsrStatics :=
  let (supported, s) := msrIntelCoreSupported s
  if supported then
    let (err, digitalReadout) := call.range ia32ThermStatus 22 16
    let (err', readingValid) := call.range ia32ThermStatus 31 31
    let (err'', temperatureTarget) := call.range msrTemperatureTarget 23 16
    if err.code + err'.code + err''.code = 0 ∧ readingValid ≠ 0 then
      (((temperatureTarget - digitalReadout).setWidth 32).toInt, s)
    else (cpuInvalidValue, s)
  else (cpuInvalidValue, s)

/-- `VIDStep` of `get_info_voltage`. -/
def vidStep (id : CpuId) : ℚ :=
  if id.x86.extFamily < 0x15 ∨ (id.x86.extFamily = 0x15 ∧ id.x86.extModel < 0x10) then 125 / 10000
  else 625 / 100000

/-- `get_info_voltage`. -/
def getInfoVoltage (call : MsrCall) (s : MsrStatics) : Option Double × MsrStatics :=
  let (supported, s) := msrIntelCoreSupported s
  if supported then
    let read := call.range msrPerfStatus 47 32
    ((fieldDouble read).map (·.div (.ofInt 8192)), s)
  else if isAmdOrHygon s.id then
    let (err, reg) := call.range msrPstateS 2 0
    let pstate := msrPstate0 + reg.setWidth 32
    let (err', cpuVid) :=
      if s.id.x86.extFamily < 0x17 then call.range pstate 15 9 else call.range pstate 21 14
    if err.code + err'.code = 0 ∧ pstate ≤ msrPstate7 then
      (some ((Double.ofDecimal (155 / 100)).sub
        ((Double.ofDecimal (vidStep s.id)).mul (doubleOfUInt64 cpuVid))), s)
    else (none, s)
  else (none, s)

/-- `get_info_bus_clock`. -/
def getInfoBusClock (call : MsrCall) (s : MsrStatics) : Checked (Option Double × MsrStatics) := do
  let (supported, s) := msrPlatformInfoSupported s
  if supported then
    .ok ((fieldDouble (call.range msrPlatformInfo 15 8)).map (Double.ofInt s.cpuClock).div, s)
  else if isAmdOrHygon s.id then
    let (addr, s) := getAmdLastPstateAddr (some call.driver) s
    let (err, reg) := call.range msrPstateL 6 4
    let mult ← amdMultiplier call s.id s.cpuClock err (addr - reg.setWidth 32)
    .ok (mult.map (Double.ofInt s.cpuClock).div, s)
  else .ok (none, s)

/-- `(int) (value * 100)`. -/
def hundredths (value : Option Double) : Checked Int :=
  ((value.getD invalidDouble).mul (.ofInt 100)).toInt

/-- The first call of `cpu_msrinfo`, which identifies the processor and measures its clock. -/
def msrInit (call : MsrCall) (s : MsrStatics) : Checked MsrStatics :=
  if s.init then .ok s
  else do
    let (r, id, _) ← cpuIdentInternal call.host call.rawData.2
    .ok { s with
      err := call.rawData.1.code + r.code
      id
      cpuClock := call.cpuClock
      init := true }

/-- The `switch` of `cpu_msrinfo`. -/
def msrSwitch (call : MsrCall) (which : CpuMsrinfoRequest) (s : MsrStatics) :
    Checked (Int × MsrStatics) :=
  match which with
  | .mperf => .ok (call.perfmsrMeasure ia32Mperf, s)
  | .aperf => .ok (call.perfmsrMeasure ia32Aperf, s)
  | .minMultiplier => do
    let (value, s) ← getInfoMinMultiplier call s
    .ok (← hundredths value, s)
  | .curMultiplier => do
    let (value, s) ← getInfoCurMultiplier call s
    .ok (← hundredths value, s)
  | .maxMultiplier => do
    let (value, s) ← getInfoMaxMultiplier call s
    .ok (← hundredths value, s)
  | .temperature => .ok (getInfoTemperature call s)
  | .throttling => .ok (cpuInvalidValue, s)
  | .voltage => do
    let (value, s) := getInfoVoltage call s
    .ok (← hundredths value, s)
  | .bclk | .busClock => do
    let (value, s) ← getInfoBusClock call s
    .ok (← hundredths value, s)

/-- `cpu_msrinfo`, for a handle that is not NULL: the return value and the static variables. -/
def cpuMsrinfo (call : MsrCall) (which : CpuMsrinfoRequest) (s : MsrStatics) :
    Checked (Int × MsrStatics) := do
  let s ← msrInit call s
  if s.err ≠ 0 then .ok (cpuInvalidValue, s) else msrSwitch call which s

end LibCpuid
