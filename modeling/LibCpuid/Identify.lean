import LibCpuid.BasicIdentify
import LibCpuid.Intel.Recog
import LibCpuid.Amd.Recog
import LibCpuid.Centaur
import LibCpuid.Arm.Recog

/-! The identification of one logical CPU in `cpuid_main.c`: its topology ids, its record and its
purpose. -/

namespace LibCpuid

open CLang

/-! ### Topology -/

/-- `topology_t_constructor`. -/
def topologyConstructor (logicalCpu : Nat) : InternalTopology :=
  { apicId := -1, packageId := -1, coreId := -1, smtId := -1, logicalCpu }

/-- `(-1) << shift`. -/
def highMask (shift : Nat) : BitVec 32 := -1#32 <<< shift

/-- The first loop of `cpu_ident_id_x86`, with `mask_core_shift`.  It reads a sub-leaf before it
compares the index with the bound, so it faults when it gets to the end of the array. -/
def maskCoreShift : List Regs → Nat → Checked Nat
  | [], _ => .error .outOfBounds
  | regs :: rest, shift =>
    if regs.eax ≠ 0 ∧ regs.ebx ≠ 0 then maskCoreShift rest (extractsBits regs.eax 4 0)
    else .ok shift

/-- What the second loop of `cpu_ident_id_x86` changes. -/
structure LevelState where
  levelType : Nat
  smtMask : BitVec 32
  topology : InternalTopology

/-- One sub-leaf of the second loop of `cpu_ident_id_x86`. -/
def levelStep (maskCoreShift : Nat) (regs : Regs) (s : LevelState) : LevelState :=
  let levelType := extractsBits regs.ecx 15 8
  let topology := { s.topology with apicId := regs.edx }
  match levelType with
  | 1 =>
    let smtMask := ~~~highMask (extractsBits regs.eax 4 0)
    { levelType, smtMask, topology := { topology with smtId := topology.apicId &&& smtMask } }
  | 2 =>
    let coreMask := ~~~highMask maskCoreShift ^^^ s.smtMask
    { levelType, smtMask := s.smtMask
      topology := { topology with coreId := topology.apicId &&& coreMask } }
  | _ => { levelType, smtMask := s.smtMask, topology }

/-- The second loop of `cpu_ident_id_x86`, which reads as the first one does. -/
def levelLoop (maskCoreShift : Nat) : List Regs → LevelState → Checked LevelState
  | [], _ => .error .outOfBounds
  | regs :: rest, s =>
    if regs.eax ≠ 0 ∧ regs.ebx ≠ 0 then
      levelLoop maskCoreShift rest (levelStep maskCoreShift regs s)
    else .ok s

/-- Whether `cpu_ident_id_x86` goes on to the sub-leaves of leaf 11. -/
def isApicIdSupported (raw : CpuRawData) : Bool :=
  let vendor := cpuidVendorIdentify (raw.basicCpuid 0)
  (vendor = .intel || vendor = .amd) && ¬(raw.basicCpuid 0).eax.toNat < 11 &&
    extractsBits (raw.basicCpuid 11).ebx 15 0 ≠ 0

/-- `cpu_ident_id_x86`. -/
def cpuIdentIdX86 (raw : CpuRawData) (topology : InternalTopology) :
    Checked (Bool × InternalTopology) :=
  if isApicIdSupported raw then do
    let shift ← maskCoreShift (List.ofFn raw.intelFn11) 0
    let s ← levelLoop shift (List.ofFn raw.intelFn11) { levelType := 0, smtMask := 0, topology }
    .ok (s.levelType > 0,
      { s.topology with packageId := s.topology.apicId &&& highMask shift })
  else .ok (false, topology)

/-- `cpu_ident_id_arm`. -/
def cpuIdentIdArm (raw : CpuRawData) (topology : InternalTopology) : Bool × InternalTopology :=
  let aff (highbit lowbit : Nat) : BitVec 32 := .ofNat 32 (extractsBits raw.armMpidr highbit lowbit)
  if raw.armMpidr = 0 then (false, topology)
  else if extractsBit raw.armMpidr 30 = 1 then
    (true, { topology with smtId := -1, coreId := 0, packageId := -1 })
  else if extractsBit raw.armMpidr 24 = 1 then
    (true, { topology with smtId := aff 7 0, coreId := aff 15 8, packageId := aff 23 16 })
  else
    (true, { topology with smtId := -1, coreId := aff 7 0, packageId := aff 15 8 })

/-- `cpu_ident_id`. -/
def cpuIdentId (logicalCpu : Nat) (raw : CpuRawData) : Checked (Bool × InternalTopology) :=
  let topology := topologyConstructor logicalCpu
  match cpuidArchitectureIdentify raw with
  | .x86 => cpuIdentIdX86 raw topology
  | .arm => .ok (cpuIdentIdArm raw topology)
  | .unknown => .ok (false, topology)

/-! ### The record -/

/-- `cpu_ident_internal`: the return value and what it stores. -/
def cpuIdentInternal (host : Host) (raw : CpuRawData) :
    Checked (CpuError × CpuId × InternalIdInfo) :=
  let data := { cpuIdConstructor with architecture := cpuidArchitectureIdentify raw }
  let internal : InternalIdInfo := { score := 0, cacheMask := fun _ => 0 }
  match data.architecture with
  | .x86 =>
    match cpuidBasicIdentify host raw data with
    | (.ok, data) =>
      match data.vendor with
      | .intel => do .ok (.ok, ← cpuidIdentifyIntel host raw data internal)
      | .amd | .hygon => do .ok (.ok, ← cpuidIdentifyAmd raw data internal)
      | .centaur => do .ok (.ok, ← cpuidIdentifyCentaur raw data internal)
      | _ => .ok (.ok, data, internal)
    | (r, data) => .ok (r, data, internal)
  | .arm => .ok (.ok, cpuidIdentifyArm raw data, internal)
  | .unknown => .ok (.cpuUnkn, data, internal)

/-- `cpu_identify`. -/
def cpuIdentify (host : Host) (raw : CpuRawData) : Checked (CpuError × CpuId) := do
  let (r, data, _) ← cpuIdentInternal host raw
  .ok (r, data)

/-- `cpu_ident_purpose`. -/
def cpuIdentPurpose (raw : CpuRawData) : Checked CpuPurpose :=
  match cpuidArchitectureIdentify raw with
  | .x86 =>
    match cpuidVendorIdentify (raw.basicCpuid 0) with
    | .amd => cpuidIdentifyPurposeAmd raw
    | .intel => .ok (cpuidIdentifyPurposeIntel raw)
    | _ => .ok .general
  | .arm => .ok (cpuidIdentifyPurposeArm raw)
  | .unknown => .ok .general

end LibCpuid
