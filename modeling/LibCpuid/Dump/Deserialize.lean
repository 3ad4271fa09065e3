import LibCpuid.CLang.Lines
import LibCpuid.CLang.Scan
import LibCpuid.Dump.Registers

/-! `cpuid_deserialize_raw_data_internal`: the parser of dump files, its own and those of AIDA64. -/

namespace LibCpuid

open CLang

/-! ### Registers -/

/-- The name of an array in the patterns of the parser. -/
def X86Array.scanName : X86Array → String
  | .basicCpuid => "basic_cpuid"
  | .extCpuid => "ext_cpuid"
  | .intelFn4 => "intel_fn4"
  | .intelFn11 => "intel_fn11"
  | .intelFn12h => "intel_fn12h"
  | .intelFn14h => "intel_fn14h"
  | .amdFn8000001dh => "amd_fn8000001dh"
  | .amdFn80000026h => "amd_fn80000026h"

def ArmRegister.scanName : ArmRegister → String
  | .midr => "arm_midr"
  | .mpidr => "arm_mpidr"
  | .revidr => "arm_revidr"

def AArch32Array.scanName : AArch32Array → String
  | .afr => "arm_id_afr"
  | .dfr => "arm_id_dfr"
  | .isar => "arm_id_isar"
  | .mmfr => "arm_id_mmfr"
  | .pfr => "arm_id_pfr"

def AArch64Array.scanName : AArch64Array → String
  | .afr => "arm_id_aa64afr"
  | .dfr => "arm_id_aa64dfr"
  | .fpfr => "arm_id_aa64fpfr"
  | .isar => "arm_id_aa64isar"
  | .mmfr => "arm_id_aa64mmfr"
  | .pfr => "arm_id_aa64pfr"
  | .smfr => "arm_id_aa64smfr"
  | .zfr => "arm_id_aa64zfr"

/-- What a line stores, and where. -/
inductive RegisterLine
  | x86 (a : X86Array) (i : Int) (regs : Regs)
  | arm (r : ArmRegister) (value : BitVec 64)
  | aarch32 (a : AArch32Array) (i : Int) (value : BitVec 32)
  | aarch64 (a : AArch64Array) (i : Int) (value : BitVec 64)

/-- The array after `a[i] = v`, for an `int` index. -/
def storeInt {α : Type} {n : Nat} (a : Fin n → α) (i : Int) (v : α) : Checked (Fin n → α) :=
  if i < 0 then .error .outOfBounds else store a i.toNat v

/-- The macros `RAW_ASSIGN_LINE_X86`, `RAW_ASSIGN_LINE_AARCH32` and `RAW_ASSIGN_LINE_AARCH64`. -/
def RegisterLine.store (raw : CpuRawData) : RegisterLine → Checked CpuRawData
  | .x86 a i regs => (storeInt (raw.x86 a) i regs).map (raw.setX86 a)
  | .arm r value => .ok (raw.setArm r value)
  | .aarch32 a i value => (storeInt (raw.aarch32 a) i value).map (raw.setAArch32 a)
  | .aarch64 a i value => (storeInt (raw.aarch64 a) i value).map (raw.setAArch64 a)

/-- The four answers that a line holds. -/
def scannedRegs (eax ebx ecx edx : Int) : Regs :=
  ⟨.ofInt 32 eax, .ofInt 32 ebx, .ofInt 32 ecx, .ofInt 32 edx⟩

/-- `name[%d]=%x%x%x%x`. -/
def scanX86 (a : X86Array) (line : List Char) : Option (Int × Regs) :=
  match sscanf (text (chars a.scanName) ++
    [.lit '[', .d, .lit ']', .lit '=', .x 32, .x 32, .x 32, .x 32]) line with
  | [.int i, .int eax, .int ebx, .int ecx, .int edx] => some (i, scannedRegs eax ebx ecx edx)
  | _ => none

/-- The test of the index that a line of CPUID answers must pass. -/
def scanX86Register (line : List Char) (a : X86Array) : Option RegisterLine :=
  match scanX86 a line with
  | some (i, regs) => if 0 ≤ i ∧ i < a.size then some (.x86 a i regs) else none
  | none => none

/-- `name=%x`. -/
def scanArmRegister (line : List Char) (r : ArmRegister) : Option RegisterLine :=
  match sscanf (text (chars r.scanName) ++ [.lit '=', .x 64]) line with
  | [.int value] => some (.arm r (.ofInt 64 value))
  | _ => none

/-- `name%d=%x`. -/
def scanAArch32Register (line : List Char) (a : AArch32Array) : Option RegisterLine :=
  match sscanf (text (chars a.scanName) ++ [.d, .lit '=', .x 32]) line with
  | [.int i, .int value] => some (.aarch32 a i (.ofInt 32 value))
  | _ => none

def scanAArch64Register (line : List Char) (a : AArch64Array) : Option RegisterLine :=
  match sscanf (text (chars a.scanName) ++ [.d, .lit '=', .x 64]) line with
  | [.int i, .int value] => some (.aarch64 a i (.ofInt 64 value))
  | _ => none

/-- The first pattern that a line matches. -/
def scanRegister (line : List Char) : Option RegisterLine :=
  (x86Arrays.findSome? (scanX86Register line)).or <|
    (armRegisters.findSome? (scanArmRegister line)).or <|
      (aarch32Arrays.findSome? (scanAArch32Register line)).or <|
        aarch64Arrays.findSome? (scanAArch64Register line)

/-- The array of the sub-leaves of a leaf. -/
def subleafArray (addr : Int) : Option X86Array :=
  [(0x00000004, X86Array.intelFn4), (0x0000000B, .intelFn11), (0x00000012, .intelFn12h),
    (0x00000014, .intelFn14h), (0x8000001D, .amdFn8000001dh),
    (0x80000026, .amdFn80000026h)].lookup addr

/-- `CPUID %x: %x-%x-%x-%x [SL %02i]`, and the same with white space for the colon. -/
def aida64Format (colon : String) : List Directive :=
  text (chars "CPUID ") ++ .x 32 :: (text (chars colon) ++ .x 32 :: .lit '-' :: .x 32 :: .lit '-' ::
    .x 32 :: .lit '-' :: .x 32 :: (text (chars " [SL ") ++ [.i 2, .lit ']']))

/-- What is stored for a leaf whose sub-leaf is 0. -/
def leafStore (addr : Int) (regs : Regs) : Option RegisterLine :=
  if addr < maxCpuidLevel then some (.x86 .basicCpuid addr regs)
  else if 0x80000000 ≤ addr ∧ addr < 0x80000000 + maxExtCpuidLevel then
    some (.x86 .extCpuid (addr - 0x80000000) regs)
  else none

/-- What a line of an AIDA64 dump stores: a leaf, a sub-leaf, or both. -/
def aida64Stores (line : List Char) : List RegisterLine :=
  let assigned := sscanf (aida64Format ": ") line
  let assigned := if assigned.length = 1 then sscanf (aida64Format "  \t ") line else assigned
  match assigned with
  | [.int addr, .int eax, .int ebx, .int ecx, .int edx] =>
    (leafStore addr (scannedRegs eax ebx ecx edx)).toList
  | [.int addr, .int eax, .int ebx, .int ecx, .int edx, .int subleaf] =>
    let regs := scannedRegs eax ebx ecx edx
    (if subleaf = 0 then (leafStore addr regs).toList else []) ++
      ((subleafArray addr).map fun a => .x86 a subleaf regs).toList
  | _ => []

/-! ### State -/

/-- The variables of the parser that outlive a line.  In the single form the array holds the one
record that `single_raw` points to. -/
structure DumpState where
  isHeader : Bool
  isLibcpuidDump : Bool
  isAida64Dump : Bool
  logicalCpuOffset : BitVec 16
  rawArray : CpuRawDataArray
  rawPtr : Option Nat

/-- `cpuid_grow_raw_data_array`. -/
def cpuidGrowRawDataArray (rawArray : CpuRawDataArray) (n : BitVec 16) : CpuRawDataArray :=
  if h : n.toNat ≤ 0 ∨ n.toNat < rawArray.numRaw then rawArray
  else
    { rawArray with
      raw := rawArray.raw ++ List.replicate (n.toNat - rawArray.numRaw) .zero
      numRaw_lt := by
        have := n.isLt
        rw [List.length_append, List.length_replicate, CpuRawDataArray.numRaw]
        rw [CpuRawDataArray.numRaw] at h
        omega }

namespace DumpState

/-- `raw_ptr = &raw_array->raw[i]`. -/
def pointTo (s : DumpState) (i : Nat) : Checked DumpState :=
  if i < s.rawArray.numRaw then .ok { s with rawPtr := some i } else .error .outOfBounds

/-- The array grows until it has room for a logical CPU, and `raw_ptr` points there. -/
def selectCpu (s : DumpState) (logicalCpu : BitVec 16) (withAffinity : Bool) :
    Checked DumpState := do
  let rawArray := cpuidGrowRawDataArray s.rawArray (logicalCpu + 1)
  let s ← { s with rawArray }.pointTo logicalCpu.toNat
  pure { s with rawArray := { s.rawArray with withAffinity } }

/-- The state with another record in the array. -/
def setRecord (s : DumpState) (p : Nat) (raw : CpuRawData) : DumpState :=
  { s with rawArray :=
    { s.rawArray with
      raw := s.rawArray.raw.set p raw
      numRaw_lt := by simpa using s.rawArray.numRaw_lt } }

/-- An assignment through `raw_ptr`. -/
def storeLine (s : DumpState) (line : RegisterLine) : Checked DumpState :=
  match s.rawPtr with
  | none => .error .nullPointer
  | some p => do
    let raw ← loadList s.rawArray.raw p
    let raw ← line.store raw
    pure (s.setRecord p raw)

end DumpState

/-! ### Lines -/

/-- `strstr`. -/
def strstr (haystack needle : List Char) : Bool :=
  haystack.tails.any fun tail => needle.isPrefixOf tail

/-- A line by which a dump of AIDA64 is recognized. -/
def isAida64Header (line : List Char) : Bool :=
  line = chars "------[ Versions ]------" || line = chars "------[ Logical CPU #0 ]------" ||
    line = chars "------[ CPUID Registers / Logical CPU #0 ]------" ||
    line = chars "CPUID Registers (CPU #1):" || strstr line (chars "CPU#000 AffMask: 0x")

/-- The number that the first of some patterns assigns. -/
def scanLogicalCpu (formats : List (List Directive)) (line : List Char) : Option (BitVec 16) :=
  formats.findSome? fun format =>
    match sscanf format line with
    | [.int logicalCpu] => some (.ofInt 16 logicalCpu)
    | _ => none

/-- The pattern that announces a logical CPU. -/
def libcpuidCpuFormats : List (List Directive) :=
  [text (chars "_________________ Logical CPU #") ++ Directive.hu :: text (chars " _________________")]

/-- The patterns that announce a logical CPU in a dump of AIDA64. -/
def aida64CpuFormats : List (List Directive) :=
  [text (chars "------[ Logical CPU #") ++ Directive.hu :: text (chars " ]------"),
    text (chars "------[ CPUID Registers / Logical CPU #") ++ Directive.hu :: text (chars " ]------"),
    text (chars "CPUID Registers (CPU #") ++ [Directive.hu],
    text (chars "CPU#") ++ Directive.hu :: (text (chars " AffMask: 0x") ++ [.skipX])]

/-- The part of the loop for the header, and whether it goes on with the next line. -/
def parseHeader (useRawArray : Bool) (line : List Char) (s : DumpState) :
    Checked (DumpState × Bool) :=
  if !s.isHeader then .ok (s, false)
  else
    match sscanf (text (chars "version=") ++ [Directive.s]) line with
    | [.str version] =>
      -- the token and its NUL go to an array of 8 characters
      if version.length < 8 then
        .ok ({ s with isLibcpuidDump := true, isAida64Dump := false }, true)
      else .error .outOfBounds
    | _ =>
      if (scanX86 .basicCpuid line).isSome then do
        let s := { s with isHeader := false, isLibcpuidDump := true, isAida64Dump := false }
        let s ← if useRawArray then s.selectCpu 0 false else .ok s
        .ok (s, false)
      else if isAida64Header line then
        .ok ({ s with isHeader := false, isLibcpuidDump := false, isAida64Dump := true }, false)
      else .ok (s, false)

/-- The part of the loop for the dumps of this library. -/
def parseLibcpuidLine (useRawArray : Bool) (line : List Char) (s : DumpState) :
    Checked DumpState :=
  match if useRawArray then scanLogicalCpu libcpuidCpuFormats line else none with
  | some logicalCpu => { s with isHeader := false }.selectCpu logicalCpu true
  | none =>
    match scanRegister line with
    | some register => s.storeLine register
    | none => .ok s

/-- The part of the loop for the dumps of AIDA64.  Some of them count the logical CPUs from 1. -/
def parseAida64Line (useRawArray : Bool) (line : List Char) (s : DumpState) :
    Checked DumpState :=
  match if useRawArray then scanLogicalCpu aida64CpuFormats line else none with
  | some logicalCpu =>
    let logicalCpuOffset :=
      if s.rawArray.numRaw = 0 ∧ logicalCpu.toNat ≥ 1 then logicalCpu else s.logicalCpuOffset
    { s with logicalCpuOffset }.selectCpu (logicalCpu - logicalCpuOffset) true
  | none => (aida64Stores line).foldlM DumpState.storeLine s

/-- The rest of the loop, for the kind of dump that was recognized. -/
def parseBody (useRawArray : Bool) (line : List Char) (s : DumpState) : Checked DumpState :=
  if s.isLibcpuidDump then parseLibcpuidLine useRawArray line s
  else if s.isAida64Dump then parseAida64Line useRawArray line s
  else .ok s

/-- The body of the loop, for a line that is not empty and does not end the dump. -/
def parseLine (useRawArray : Bool) (line : List Char) (s : DumpState) : Checked DumpState := do
  let (s, isDone) ← parseHeader useRawArray line s
  if isDone then .ok s else parseBody useRawArray line s

/-- The line that ends a dump: test results follow. -/
def testResultsLine : List Char := List.replicate 80 '-'

/-- The loop over the lines. -/
def parseLines (useRawArray : Bool) : List (List Char) → DumpState → Checked DumpState
  | [], s => .ok s
  | line :: rest, s =>
    if line = [] then parseLines useRawArray rest s
    else if line = testResultsLine then .ok s
    else do
      let s ← parseLine useRawArray line s
      parseLines useRawArray rest s

/-- The state before the first line. -/
def DumpState.initial (rawArray : CpuRawDataArray) (rawPtr : Option Nat) : DumpState where
  isHeader := true
  isLibcpuidDump := true
  isAida64Dump := false
  logicalCpuOffset := 0
  rawArray
  rawPtr

/-- The state before the first line: an array without records and a NULL pointer, or the one record
that `raw_data_t_constructor` has cleared. -/
def DumpState.start (useRawArray : Bool) : DumpState :=
  if useRawArray then .initial ⟨false, [], numRaw_nil_lt⟩ none
  else .initial ⟨false, [.zero], numRaw_singleton_lt .zero⟩ (some 0)

/-- The size of `line`, without the NUL. -/
def lineRoom : Nat := 99

/-- The lines of a file, as the loop sees them. -/
def dumpLines (file : List Char) : List (List Char) := (fgets lineRoom file).map cutLine

/-- `cpuid_deserialize_raw_data`. -/
def cpuidDeserializeRawData (file : List Char) : Checked (CpuError × CpuRawData) := do
  let s ← parseLines false (dumpLines file) (.start false)
  let raw ← loadList s.rawArray.raw 0
  pure (.ok, raw)

/-- `cpuid_deserialize_all_raw_data`. -/
def cpuidDeserializeAllRawData (file : List Char) : Checked (CpuError × CpuRawDataArray) := do
  let s ← parseLines true (dumpLines file) (.start true)
  pure (if s.rawArray.numRaw = 0 then .badFmt else .ok, s.rawArray)

end LibCpuid
