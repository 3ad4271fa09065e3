import LibCpuid.Dump.RoundTrip

/-! The dump of a single record, read by the function for arrays.  No line announces a logical CPU
there, so the array gets its record from the first line of registers, if the parser knows it. -/

namespace LibCpuid

open CLang

/-- An array with one record, without affinity. -/
def CpuRawDataArray.single (raw : CpuRawData) : CpuRawDataArray where
  withAffinity := false
  raw := [raw]
  numRaw_lt := by
    rw [List.length_singleton]
    decide

/-- The state that the line of the first CPUID leaf leaves. -/
def DumpState.single : DumpState where
  isHeader := false
  isLibcpuidDump := true
  isAida64Dump := false
  logicalCpuOffset := 0
  rawArray := .single .zero
  rawPtr := some 0

theorem atRecord_single : AtRecord true .single 0 .zero where
  isLibcpuidDump := rfl
  isHeader _ := rfl
  rawPtr := rfl
  record := rfl

/-- The line of a CPUID leaf ends the header and makes the record. -/
theorem parseHeader_basicLine (i : Fin maxCpuidLevel) (regs : Regs) :
    parseHeader true (x86Line "basic_cpuid" i regs) (.start true) = .ok (.single, false) := by
  have hline : IsRegisterLine (x86Line "basic_cpuid" i regs) _ :=
    isRegisterLine_x86Line .basicCpuid i regs
  have hscan : scanX86 .basicCpuid (x86Line "basic_cpuid" i regs) = some ((i : Int), regs) :=
    scanX86_line .basicCpuid (i.isLt.trans (by decide)) regs
  have hheader : (DumpState.start true).isHeader = true := rfl
  unfold parseHeader
  rw [hheader, hline.version, hscan]
  rfl

/-- The first line of an x86 record is parsed as if the header were already behind. -/
theorem parseLines_basicLine (i : Fin maxCpuidLevel) (regs : Regs) (rest : List (List Char)) :
    parseLines true (x86Line "basic_cpuid" i regs :: rest) (.start true) =
      parseLines true (x86Line "basic_cpuid" i regs :: rest) .single := by
  have hline : parseLine true (x86Line "basic_cpuid" i regs) (.start true) =
      parseLine true (x86Line "basic_cpuid" i regs) .single := by
    rw [parseLine, parseHeader_basicLine, parseLine]
    rfl
  have hregister : IsRegisterLine (x86Line "basic_cpuid" i regs) _ :=
    isRegisterLine_x86Line .basicCpuid i regs
  rw [parseLines, if_neg hregister.ne_nil, if_neg hregister.ne_testResults, hline, parseLines,
    if_neg hregister.ne_nil, if_neg hregister.ne_testResults]

theorem deserializeAll_x86 {config : BuildConfig} (hvalid : config.IsValid) {raw : CpuRawData}
    (h : raw.IsX86) :
    ∃ file, cpuidSerializeRawData config raw = .ok file ∧
      cpuidDeserializeAllRawData file = .ok (.ok, .single raw) := by
  refine ⟨_, rfl, ?_⟩
  obtain ⟨s, hreads, hat, hraw, haff⟩ := fills_dumpRaw_x86 h.noArm true .single 0 atRecord_single
  have hfirst : dumpRaw raw .x86 =
      x86Line "basic_cpuid" ((0 : Fin maxCpuidLevel) : Nat) (raw.basicCpuid 0) ::
        (dumpRaw raw .x86).tail := rfl
  have hparse : parseLines true (dumpRaw raw .x86) (.start true) = .ok s := by
    rw [hfirst, parseLines_basicLine, ← hfirst, hreads.parseLines_eq]
  have hlines : ∀ line ∈ versionLine config :: dumpRaw raw (cpuidArchitectureIdentify raw),
      IsLine lineRoom line :=
    List.forall_mem_cons.mpr ⟨isLine_versionLine hvalid, isLine_dumpRaw raw _⟩
  have harray : s.rawArray = .single raw := by
    rcases hs : s.rawArray with ⟨w, r, hr⟩
    rw [hs] at hraw haff
    obtain rfl : r = [raw] := hraw
    obtain rfl : w = false := haff
    rfl
  rw [cpuidDeserializeAllRawData, dumpLines_unlines hlines, h.architecture,
    ← List.singleton_append, reads_versionLine hvalid true, hparse, ok_bind, harray]
  rfl

/-- An ARM register is stored through `raw_ptr`, which no line has set. -/
theorem parseLine_armLine (r : ArmRegister) (value : BitVec 64) :
    parseLine true (armLine r.dumpName value) (.start true) = .error .nullPointer := by
  have hline := isRegisterLine_armLine r value
  have hbasic : scanX86 .basicCpuid (armLine r.dumpName value) = none :=
    scanX86_of_ne r.dumpName_mem (by cases r <;> decide) _
  have hheader : parseHeader true (armLine r.dumpName value) (.start true) =
      .ok (.start true, false) := by
    have hheader : (DumpState.start true).isHeader = true := rfl
    unfold parseHeader
    rw [hheader, hline.version, hbasic, hline.aida64]
    rfl
  rw [parseLine, hheader, ok_bind]
  show parseLibcpuidLine true (armLine r.dumpName value) (.start true) = _
  rw [parseLibcpuidLine, if_pos rfl, hline.logicalCpu, hline.register]
  rfl

theorem deserializeAll_arm {config : BuildConfig} (hvalid : config.IsValid) {raw : CpuRawData}
    (h : raw.IsArm) {file : List Char} (hfile : cpuidSerializeRawData config raw = .ok file) :
    cpuidDeserializeAllRawData file = .error .nullPointer := by
  have hlines : ∀ line ∈ versionLine config :: dumpRaw raw (cpuidArchitectureIdentify raw),
      IsLine lineRoom line :=
    List.forall_mem_cons.mpr ⟨isLine_versionLine hvalid, isLine_dumpRaw raw _⟩
  have hfirst : dumpRaw raw .arm = armLine ArmRegister.midr.dumpName raw.armMidr ::
      (dumpRaw raw .arm).tail := rfl
  have hregister := isRegisterLine_armLine .midr raw.armMidr
  obtain rfl := Except.ok.inj hfile
  rw [cpuidDeserializeAllRawData, dumpLines_unlines hlines, h.architecture,
    ← List.singleton_append, reads_versionLine hvalid true, hfirst, parseLines,
    if_neg hregister.ne_nil, if_neg hregister.ne_testResults, parseLine_armLine, error_bind,
    error_bind]

/-- The dump of a single record loads as an array of one exactly for x86. -/
theorem deserializeAll_serialize_iff {config : BuildConfig} (hvalid : config.IsValid)
    {raw : CpuRawData} (h : IsUniform [raw]) :
    (∃ file, cpuidSerializeRawData config raw = .ok file ∧
      cpuidDeserializeAllRawData file = .ok (.ok, .single raw)) ↔
        cpuidArchitectureIdentify raw = .x86 := by
  rcases h with h | h
  · have h := h raw (List.mem_singleton_self raw)
    exact iff_of_true (deserializeAll_x86 hvalid h) h.architecture
  · have h := h raw (List.mem_singleton_self raw)
    refine iff_of_false ?_ (by rw [h.architecture]; decide)
    rintro ⟨file, hfile, hload⟩
    rw [deserializeAll_arm hvalid h hfile] at hload
    cases hload

/-- The version that the examples are written by. -/
def version071 : BuildConfig := { version := ['0', '.', '7', '.', '1'], shortModifier := false }

theorem isValid_version071 : version071.IsValid := ⟨by decide, by decide⟩

/-- A Pentium, whose largest leaf is 1. -/
def pentium : CpuRawData :=
  { CpuRawData.zero with
    basicCpuid := fun i =>
      if i = 0 then { eax := 1, ebx := 0x756e6547, ecx := 0x6c65746e, edx := 0x49656e69 }
      else if i = 1 then { eax := 0x52c, ebx := 0, ecx := 0, edx := 0x1bf }
      else .zero }

theorem isX86_pentium : pentium.IsX86 where
  leaf0 := by decide
  arm r := by cases r <;> rfl
  aarch32 a i := by cases a <;> rfl
  aarch64 a i := by cases a <;> rfl

theorem deserializeAll_serialize_iff_pentium :
    (∃ file, cpuidSerializeRawData version071 pentium = .ok file ∧
      cpuidDeserializeAllRawData file = .ok (.ok, .single pentium)) ↔
        cpuidArchitectureIdentify pentium = .x86 := by
  refine deserializeAll_serialize_iff isValid_version071 (.inl fun raw hmem => ?_)
  rw [List.mem_singleton.mp hmem]
  exact isX86_pentium

theorem deserializeAll_nullPointer_cortexA53 :
    ∃ file, cpuidSerializeRawData version071 { CpuRawData.zero with armMidr := 0x410fd034 } =
        .ok file ∧
      cpuidDeserializeAllRawData file = .error .nullPointer :=
  ⟨_, rfl, deserializeAll_arm isValid_version071 ⟨by decide, fun a i => by cases a <;> rfl⟩ rfl⟩

end LibCpuid
