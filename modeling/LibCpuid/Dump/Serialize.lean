import LibCpuid.BasicIdentify
import LibCpuid.CLang.Digits
import LibCpuid.CLang.Lines
import LibCpuid.Dump.Registers

/-! `cpuid_serialize_raw_data_internal`: the text of a dump file.  A line is written without the
newline that ends it. -/

namespace LibCpuid

open CLang

/-- The name of an array in the lines that are written. -/
def X86Array.dumpName : X86Array → String
  | .basicCpuid => "basic_cpuid"
  | .extCpuid => "ext_cpuid"
  | .intelFn4 => "intel_fn4"
  | .intelFn11 => "intel_fn11"
  | .intelFn12h => "intel_fn12h"
  | .intelFn14h => "intel_fn14h"
  | .amdFn8000001dh => "amd_fn8000001dh"
  | .amdFn80000026h => "amd_fn80000026h"

def ArmRegister.dumpName : ArmRegister → String
  | .midr => "arm_midr"
  | .mpidr => "arm_mpidr"
  | .revidr => "arm_revidr"

def AArch32Array.dumpName : AArch32Array → String
  | .afr => "arm_id_afr"
  | .dfr => "arm_id_dfr"
  | .isar => "arm_id_isar"
  | .mmfr => "arm_id_mmfr"
  | .pfr => "arm_id_pfr"

def AArch64Array.dumpName : AArch64Array → String
  | .afr => "arm_id_aa64afr"
  | .dfr => "arm_id_aa64dfr"
  | .fpfr => "arm_id_aa64fpfr"
  | .isar => "arm_id_aa64isar"
  | .mmfr => "arm_id_aa64mmfr"
  | .pfr => "arm_id_aa64pfr"
  | .smfr => "arm_id_aa64smfr"
  | .zfr => "arm_id_aa64zfr"

/-- `name[%d]=%08x %08x %08x %08x`. -/
def x86Line (name : String) (i : Nat) (regs : Regs) : List Char :=
  chars name ++ '[' :: (printInt i ++ ']' :: '=' :: (printHex 8 regs.eax.toNat ++
    ' ' :: (printHex 8 regs.ebx.toNat ++ ' ' :: (printHex 8 regs.ecx.toNat ++
      ' ' :: printHex 8 regs.edx.toNat))))

/-- `name=%016x`. -/
def armLine (name : String) (value : BitVec 64) : List Char :=
  chars name ++ '=' :: printHex 16 value.toNat

/-- `name%d=%08x`, or `name%d=%016x` for an AArch64 register. -/
def armArrayLine (name : String) (width i value : Nat) : List Char :=
  chars name ++ (printInt i ++ '=' :: printHex width value)

/-- The lines of an array. -/
def dumpX86 (raw : CpuRawData) (a : X86Array) : List (List Char) :=
  (List.finRange a.size).map fun i : Fin a.size => x86Line a.dumpName i (raw.x86 a i)

def dumpArm (raw : CpuRawData) (r : ArmRegister) : List Char := armLine r.dumpName (raw.arm r)

def dumpAArch32 (raw : CpuRawData) (a : AArch32Array) : List (List Char) :=
  (List.finRange a.size).map fun i : Fin a.size =>
    armArrayLine a.dumpName 8 i (raw.aarch32 a i).toNat

def dumpAArch64 (raw : CpuRawData) (a : AArch64Array) : List (List Char) :=
  (List.finRange a.size).map fun i : Fin a.size =>
    armArrayLine a.dumpName 16 i (raw.aarch64 a i).toNat

/-- The lines of a record. -/
def dumpRaw (raw : CpuRawData) : CpuArchitecture → List (List Char)
  | .x86 => x86Arrays.flatMap (dumpX86 raw)
  | .arm =>
    armRegisters.map (dumpArm raw) ++ aarch32Arrays.flatMap (dumpAArch32 raw) ++
      aarch64Arrays.flatMap (dumpAArch64 raw)
  | .unknown => []

/-- What the build decides: `VERSION`, and whether `PRIi16` has the modifier `h`. -/
structure BuildConfig where
  version : List Char
  shortModifier : Bool

variable (config : BuildConfig)

/-- The line that announces a logical CPU. -/
def logicalCpuLine (logicalCpu : Nat) : List Char :=
  chars "_________________ Logical CPU #" ++
    (printInt16 config.shortModifier logicalCpu ++ chars " _________________")

/-- The loop over the logical CPUs, from one of them on.  The line before an announcement is
empty. -/
def dumpAll (architecture : CpuArchitecture) : Nat → List CpuRawData → List (List Char)
  | _, [] => []
  | logicalCpu, raw :: rest =>
    [] :: logicalCpuLine config logicalCpu ::
      (dumpRaw raw architecture ++ dumpAll architecture (logicalCpu + 1) rest)

/-- `version=%s`. -/
def versionLine : List Char := chars "version=" ++ config.version

/-- `cpuid_serialize_raw_data_internal`: the text that it writes.  An array without records counts
as none. -/
def cpuidSerializeRawDataInternal (singleRaw : Option CpuRawData) (rawArray : List CpuRawData) :
    Checked (List Char) :=
  match rawArray, singleRaw with
  | first :: rest, _ =>
    .ok (unlines (versionLine config ::
      dumpAll config (cpuidArchitectureIdentify first) 0 (first :: rest)))
  | [], some raw =>
    .ok (unlines (versionLine config :: dumpRaw raw (cpuidArchitectureIdentify raw)))
  | [], none => .error .nullPointer

/-- `cpuid_serialize_raw_data`. -/
def cpuidSerializeRawData (raw : CpuRawData) : Checked (List Char) :=
  cpuidSerializeRawDataInternal config (some raw) []

/-- `cpuid_serialize_all_raw_data`. -/
def cpuidSerializeAllRawData (rawArray : CpuRawDataArray) : Checked (List Char) :=
  cpuidSerializeRawDataInternal config none rawArray.raw

end LibCpuid
