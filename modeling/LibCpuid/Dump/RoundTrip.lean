import LibCpuid.Dump.DumpLines

/-! A dump reads back as the records it was written from. -/

namespace LibCpuid

open CLang

/-! ### Reading lines -/

/-- The loop takes the state `s` to `s'` over some lines, whatever comes behind them. -/
def Reads (useRawArray : Bool) (lines : List (List Char)) (s s' : DumpState) : Prop :=
  ∀ rest, parseLines useRawArray (lines ++ rest) s = parseLines useRawArray rest s'

section Reads

variable {useRawArray : Bool} {lines lines' : List (List Char)} {s s' s'' : DumpState}

theorem Reads.nil : Reads useRawArray [] s s := fun _ => rfl

theorem Reads.append (h : Reads useRawArray lines s s') (h' : Reads useRawArray lines' s' s'') :
    Reads useRawArray (lines ++ lines') s s'' := fun rest => by
  rw [List.append_assoc, h, h']

/-- An empty line is skipped. -/
theorem reads_empty : Reads useRawArray [[]] s s := fun rest => by
  rw [List.singleton_append, parseLines, if_pos rfl]

theorem reads_of_parseLine {line : List Char} (hne : line ≠ []) (hend : line ≠ testResultsLine)
    (h : parseLine useRawArray line s = .ok s') : Reads useRawArray [line] s s' := fun rest => by
  rw [List.singleton_append, parseLines, if_neg hne, if_neg hend, h, ok_bind]

theorem Reads.parseLines_eq (h : Reads useRawArray lines s s') :
    parseLines useRawArray lines s = .ok s' := by
  have := h []
  rwa [List.append_nil, parseLines] at this

end Reads

/-! ### Filling a record -/

/-- `raw_ptr` points to the record `r`, and the next register goes there. -/
structure AtRecord (useRawArray : Bool) (s : DumpState) (p : Nat) (r : CpuRawData) : Prop where
  isLibcpuidDump : s.isLibcpuidDump = true
  isHeader : useRawArray = true → s.isHeader = false
  rawPtr : s.rawPtr = some p
  record : s.rawArray.raw[p]? = some r

/-- Some lines take the record at `raw_ptr` from `r` to `r'`, and leave the others alone. -/
def Fills (lines : List (List Char)) (r r' : CpuRawData) : Prop :=
  ∀ useRawArray s p, AtRecord useRawArray s p r → ∃ s', Reads useRawArray lines s s' ∧
    AtRecord useRawArray s' p r' ∧ s'.rawArray.raw = s.rawArray.raw.set p r' ∧
    s'.rawArray.withAffinity = s.rawArray.withAffinity

theorem Fills.nil (r : CpuRawData) : Fills [] r r := by
  intro u s p hat
  obtain ⟨hlt, heq⟩ := List.getElem?_eq_some_iff.mp hat.record
  exact ⟨s, .nil, hat, by rw [← heq, List.set_getElem_self], rfl⟩

theorem Fills.append {lines lines' : List (List Char)} {r r' r'' : CpuRawData}
    (h : Fills lines r r') (h' : Fills lines' r' r'') : Fills (lines ++ lines') r r'' := by
  intro u s p hat
  obtain ⟨s1, hreads1, hat1, hraw1, haff1⟩ := h u s p hat
  obtain ⟨s2, hreads2, hat2, hraw2, haff2⟩ := h' u s1 p hat1
  exact ⟨s2, hreads1.append hreads2, hat2, by rw [hraw2, hraw1, List.set_set], by rw [haff2, haff1]⟩

theorem fills_flatMap {α : Type} {lines : α → List (List Char)} {step : CpuRawData → α → CpuRawData}
    (h : ∀ r a, Fills (lines a) r (step r a)) (as : List α) (r : CpuRawData) :
    Fills (as.flatMap lines) r (as.foldl step r) := by
  induction as generalizing r with
  | nil => exact Fills.nil r
  | cons a as ih => exact Fills.append (h r a) (ih _)

section RegisterLine

variable {useRawArray : Bool} {s : DumpState} {p : Nat} {r r' : CpuRawData} {line : List Char}
  {register : RegisterLine}

theorem AtRecord.setRecord (hat : AtRecord useRawArray s p r) (r' : CpuRawData) :
    AtRecord useRawArray (s.setRecord p r') p r' := by
  obtain ⟨hlt, -⟩ := List.getElem?_eq_some_iff.mp hat.record
  exact ⟨hat.isLibcpuidDump, hat.isHeader, hat.rawPtr, List.getElem?_set_self hlt⟩

theorem AtRecord.parseLibcpuidLine (hat : AtRecord useRawArray s p r)
    (hline : IsRegisterLine line register) (hstore : register.store r = .ok r') :
    parseLibcpuidLine useRawArray line s = .ok (s.setRecord p r') := by
  simp only [LibCpuid.parseLibcpuidLine, hline.logicalCpu, ite_self, hline.register,
    DumpState.storeLine, hat.rawPtr, loadList_eq_ok.mpr hat.record, ok_bind, hstore, pure_eq_ok]

/-- The part for the header lets a register through; a header may still be under way when there is
a single record. -/
theorem AtRecord.parseHeader (hat : AtRecord useRawArray s p r)
    (hline : IsRegisterLine line register) : ∃ s', parseHeader useRawArray line s = .ok (s', false) ∧
      AtRecord useRawArray s' p r ∧ s'.rawArray = s.rawArray := by
  unfold LibCpuid.parseHeader
  cases hheader : s.isHeader with
  | false => exact ⟨s, rfl, hat, rfl⟩
  | true =>
    have hsingle : useRawArray = false := Bool.eq_false_iff.mpr fun hu => by
      rw [hat.isHeader hu] at hheader
      cases hheader
    subst hsingle
    rw [hline.version, hline.aida64]
    by_cases hbasic : (scanX86 .basicCpuid line).isSome
    · exact ⟨{ s with isHeader := false, isLibcpuidDump := true, isAida64Dump := false },
        by simp [hbasic], ⟨rfl, fun _ => rfl, hat.rawPtr, hat.record⟩, rfl⟩
    · exact ⟨s, by simp [hbasic], hat, rfl⟩

/-- A register goes to the record. -/
theorem fills_register (hline : IsRegisterLine line register)
    (hstore : register.store r = .ok r') : Fills [line] r r' := by
  intro u s p hat
  obtain ⟨s1, hheader, hat1, hraw⟩ := hat.parseHeader hline
  refine ⟨s1.setRecord p r', reads_of_parseLine hline.ne_nil hline.ne_testResults ?_,
    hat1.setRecord r', ?_, ?_⟩
  · rw [parseLine, hheader, ok_bind]
    dsimp only
    rw [if_neg Bool.false_ne_true, parseBody, if_pos hat1.isLibcpuidDump,
      hat1.parseLibcpuidLine hline hstore]
  · rw [← hraw]
    rfl
  · rw [← hraw]
    rfl

end RegisterLine

/-! ### Filling the arrays -/

theorem storeInt_fin {α : Type} {n : Nat} (a : Fin n → α) (i : Fin n) (v : α) :
    storeInt a (i : Int) v = .ok (Function.update a i v) := by
  rw [storeInt, if_neg (by omega), Int.toNat_natCast, store_of_lt a i.isLt]

theorem foldl_update_finRange {α : Type} {n : Nat} (a v : Fin n → α) :
    (List.finRange n).foldl (fun a i => Function.update a i (v i)) a = v := by
  have hfold (is : List (Fin n)) (a : Fin n → α) (j : Fin n) :
      is.foldl (fun a i => Function.update a i (v i)) a j = if j ∈ is then v j else a j := by
    induction is generalizing a with
    | nil => rfl
    | cons i is ih =>
      rw [List.foldl_cons, ih]
      by_cases hji : j = i
      · subst hji
        simp
      · simp [hji]
  funext j
  rw [hfold, if_pos (List.mem_finRange j)]

/-- The lines of an array, for the ways to read and to replace it in a record. -/
theorem fills_array {α : Type} {n : Nat} {line : Fin n → List Char}
    (get : CpuRawData → Fin n → α) (set : CpuRawData → (Fin n → α) → CpuRawData)
    (hget : ∀ r a, get (set r a) = a) (hset : ∀ r a b, set (set r a) b = set r b)
    (hself : ∀ r, set r (get r) = r) (v : Fin n → α)
    (hline : ∀ r i, Fills [line i] r (set r (Function.update (get r) i (v i)))) (r : CpuRawData) :
    Fills ((List.finRange n).map line) r (set r v) := by
  have hfold (is : List (Fin n)) (r : CpuRawData) :
      is.foldl (fun r i => set r (Function.update (get r) i (v i))) r =
        set r (is.foldl (fun a i => Function.update a i (v i)) (get r)) := by
    induction is generalizing r with
    | nil => exact (hself r).symm
    | cons i is ih => rw [List.foldl_cons, List.foldl_cons, ih, hget, hset]
  have hfills := fills_flatMap hline (List.finRange n) r
  rw [hfold, foldl_update_finRange] at hfills
  rwa [← List.map_eq_flatMap] at hfills

section Arrays

variable (raw : CpuRawData)

theorem fills_dumpX86 (r : CpuRawData) (a : X86Array) :
    Fills (dumpX86 raw a) r (r.setX86 a (raw.x86 a)) := by
  refine fills_array (·.x86 a) (fun r => r.setX86 a) (by simp) (by simp) (by simp)
    (raw.x86 a) (fun r i => ?_) r
  refine fills_register (isRegisterLine_x86Line a i (raw.x86 a i)) ?_
  rw [RegisterLine.store, storeInt_fin]
  rfl

theorem fills_dumpArm (r : CpuRawData) (a : ArmRegister) :
    Fills [dumpArm raw a] r (r.setArm a (raw.arm a)) :=
  fills_register (isRegisterLine_armLine a (raw.arm a)) rfl

theorem fills_dumpAArch32 (r : CpuRawData) (a : AArch32Array) :
    Fills (dumpAArch32 raw a) r (r.setAArch32 a (raw.aarch32 a)) := by
  refine fills_array (·.aarch32 a) (fun r => r.setAArch32 a) (by simp) (by simp)
    (by simp) (raw.aarch32 a) (fun r i => ?_) r
  refine fills_register (isRegisterLine_aarch32Line a i (raw.aarch32 a i)) ?_
  rw [RegisterLine.store, storeInt_fin]
  rfl

theorem fills_dumpAArch64 (r : CpuRawData) (a : AArch64Array) :
    Fills (dumpAArch64 raw a) r (r.setAArch64 a (raw.aarch64 a)) := by
  refine fills_array (·.aarch64 a) (fun r => r.setAArch64 a) (by simp) (by simp)
    (by simp) (raw.aarch64 a) (fun r i => ?_) r
  refine fills_register (isRegisterLine_aarch64Line a i (raw.aarch64 a i)) ?_
  rw [RegisterLine.store, storeInt_fin]
  rfl

end Arrays

/-! ### Filling a record from zero -/

/-- The record of an x86 processor: every ARM register is zero. -/
structure CpuRawData.IsX86 (raw : CpuRawData) : Prop where
  leaf0 : raw.basicCpuid 0 ≠ .zero
  arm : ∀ r, raw.arm r = 0
  aarch32 : ∀ a i, raw.aarch32 a i = 0
  aarch64 : ∀ a i, raw.aarch64 a i = 0

/-- The record of an ARM processor: every CPUID answer is zero. -/
structure CpuRawData.IsArm (raw : CpuRawData) : Prop where
  midr : raw.armMidr ≠ 0
  x86 : ∀ a i, raw.x86 a i = .zero

/-- Two records with the same registers. -/
theorem CpuRawData.eq_of_registers {raw raw' : CpuRawData} (hx86 : ∀ a, raw.x86 a = raw'.x86 a)
    (harm : ∀ r, raw.arm r = raw'.arm r) (h32 : ∀ a, raw.aarch32 a = raw'.aarch32 a)
    (h64 : ∀ a, raw.aarch64 a = raw'.aarch64 a) : raw = raw' := by
  obtain ⟨⟩ := raw
  obtain ⟨⟩ := raw'
  simp only [CpuRawData.mk.injEq]
  exact ⟨hx86 .basicCpuid, hx86 .extCpuid, hx86 .intelFn4, hx86 .intelFn11, hx86 .intelFn12h,
    hx86 .intelFn14h, hx86 .amdFn8000001dh, hx86 .amdFn80000026h, harm .midr, harm .mpidr,
    harm .revidr, h32 .afr, h32 .dfr, h32 .isar, h32 .mmfr, h32 .pfr, h64 .afr, h64 .dfr,
    h64 .fpfr, h64 .isar, h64 .mmfr, h64 .pfr, h64 .smfr, h64 .zfr⟩

theorem CpuRawData.IsX86.architecture {raw : CpuRawData} (h : raw.IsX86) :
    cpuidArchitectureIdentify raw = .x86 := if_pos h.leaf0

theorem CpuRawData.IsArm.architecture {raw : CpuRawData} (h : raw.IsArm) :
    cpuidArchitectureIdentify raw = .arm := by
  have h0 : raw.basicCpuid 0 = .zero := h.x86 .basicCpuid (0 : Fin maxCpuidLevel)
  rw [cpuidArchitectureIdentify, if_neg (not_not.mpr h0), if_pos h.midr]

/-- The record that the arrays of CPUID answers are stored into. -/
def fillX86 (raw r : CpuRawData) : CpuRawData :=
  x86Arrays.foldl (fun r a => r.setX86 a (raw.x86 a)) r

/-- The record that the ARM registers are stored into. -/
def fillArm (raw r : CpuRawData) : CpuRawData :=
  aarch64Arrays.foldl (fun r a => r.setAArch64 a (raw.aarch64 a))
    (aarch32Arrays.foldl (fun r a => r.setAArch32 a (raw.aarch32 a))
      (armRegisters.foldl (fun r a => r.setArm a (raw.arm a)) r))

theorem fillX86_eq (raw r : CpuRawData) : fillX86 raw r =
    { r with
      basicCpuid := raw.basicCpuid
      extCpuid := raw.extCpuid
      intelFn4 := raw.intelFn4
      intelFn11 := raw.intelFn11
      intelFn12h := raw.intelFn12h
      intelFn14h := raw.intelFn14h
      amdFn8000001dh := raw.amdFn8000001dh
      amdFn80000026h := raw.amdFn80000026h } := by
  simp only [fillX86, x86Arrays, List.foldl_cons, List.foldl_nil, CpuRawData.setX86,
    CpuRawData.x86]

theorem fillArm_eq (raw r : CpuRawData) : fillArm raw r =
    { raw with
      basicCpuid := r.basicCpuid
      extCpuid := r.extCpuid
      intelFn4 := r.intelFn4
      intelFn11 := r.intelFn11
      intelFn12h := r.intelFn12h
      intelFn14h := r.intelFn14h
      amdFn8000001dh := r.amdFn8000001dh
      amdFn80000026h := r.amdFn80000026h } := by
  simp only [fillArm, armRegisters, aarch32Arrays, aarch64Arrays, List.foldl_cons, List.foldl_nil,
    CpuRawData.setArm, CpuRawData.setAArch32, CpuRawData.setAArch64, CpuRawData.arm,
    CpuRawData.aarch32, CpuRawData.aarch64]

/-- Every ARM register of the record is zero. -/
structure CpuRawData.NoArm (raw : CpuRawData) : Prop where
  arm : ∀ r, raw.arm r = 0
  aarch32 : ∀ a i, raw.aarch32 a i = 0
  aarch64 : ∀ a i, raw.aarch64 a i = 0

theorem CpuRawData.IsX86.noArm {raw : CpuRawData} (h : raw.IsX86) : raw.NoArm :=
  ⟨h.arm, h.aarch32, h.aarch64⟩

theorem fillX86_zero {raw : CpuRawData} (h : raw.NoArm) : fillX86 raw .zero = raw := by
  rw [fillX86_eq]
  refine CpuRawData.eq_of_registers (fun a => by cases a <;> rfl) (fun r => ?_) (fun a => ?_)
    (fun a => ?_)
  · rw [h.arm r]
    cases r <;> rfl
  · funext i
    rw [h.aarch32 a i]
    cases a <;> rfl
  · funext i
    rw [h.aarch64 a i]
    cases a <;> rfl

theorem fillArm_zero {raw : CpuRawData} (h : raw.IsArm) : fillArm raw .zero = raw := by
  rw [fillArm_eq]
  refine CpuRawData.eq_of_registers (fun a => ?_) (fun r => by cases r <;> rfl)
    (fun a => by cases a <;> rfl) (fun a => by cases a <;> rfl)
  funext i
  rw [h.x86 a i]
  cases a <;> rfl

theorem fills_dumpRaw_x86 {raw : CpuRawData} (h : raw.NoArm) :
    Fills (dumpRaw raw .x86) .zero raw := by
  have hfills := fills_flatMap (fills_dumpX86 raw) x86Arrays .zero
  rwa [← fillX86, fillX86_zero h] at hfills

theorem fills_dumpRaw_arm {raw : CpuRawData} (h : raw.IsArm) :
    Fills (dumpRaw raw .arm) .zero raw := by
  have harm := fills_flatMap (fills_dumpArm raw) armRegisters
  have h32 := fills_flatMap (fills_dumpAArch32 raw) aarch32Arrays
  have h64 := fills_flatMap (fills_dumpAArch64 raw) aarch64Arrays
  have hfills := ((harm .zero).append (h32 _)).append (h64 _)
  rwa [← List.map_eq_flatMap, ← fillArm, fillArm_zero h] at hfills

/-! ### Lines between the records -/

/-- What `VERSION` may be: the parser has room for 7 characters. -/
structure BuildConfig.IsValid (config : BuildConfig) : Prop where
  length_le : config.version.length ≤ 7
  noSpace : ∀ c ∈ config.version, isSpace c = false ∧ c ≠ '\x00'

section Between

variable {config : BuildConfig}

theorem head_versionLine (config : BuildConfig) : (versionLine config).head? = some 'v' := by
  rw [versionLine, List.head?_append, head_otherLines.1, Option.some_or]

theorem head_logicalCpuLine (config : BuildConfig) (logicalCpu : Nat) :
    (logicalCpuLine config logicalCpu).head? = some '_' := by
  rw [logicalCpuLine, List.head?_append, head_otherLines.2.1, Option.some_or]

/-- The lines between the records neither are empty nor end the dump. -/
theorem ne_of_head {line : List Char} {c : Char} (hhead : line.head? = some c) (hc : c ≠ '-') :
    line ≠ [] ∧ line ≠ testResultsLine := by
  constructor
  · rintro rfl
    cases hhead
  · rintro rfl
    rw [head_otherLines.2.2] at hhead
    exact hc (Option.some.inj hhead).symm

theorem isLine_versionLine (hvalid : config.IsValid) : IsLine lineRoom (versionLine config) := by
  have hchars : (chars "version=").length = 8 ∧
      ∀ c ∈ chars "version=", c ≠ '\x00' ∧ c ≠ '\n' := by simp [chars]
  refine ⟨?_, fun c hc => ?_⟩
  · rw [versionLine, List.length_append, hchars.1, lineRoom]
    have := hvalid.length_le
    omega
  · rcases List.mem_append.mp hc with hc | hc
    · exact hchars.2 c hc
    · obtain ⟨hspace, hnul⟩ := hvalid.noSpace c hc
      refine ⟨hnul, ?_⟩
      rintro rfl
      cases hspace

theorem isLine_logicalCpuLine (config : BuildConfig) {logicalCpu : Nat}
    (hlt : logicalCpu < 2 ^ 16) : IsLine lineRoom (logicalCpuLine config logicalCpu) := by
  have hchars : ((chars "_________________ Logical CPU #").length = 31 ∧
      (chars " _________________").length = 18) ∧
      ∀ c ∈ chars "_________________ Logical CPU #" ++ chars " _________________",
        c ≠ '\x00' ∧ c ≠ '\n' := by simp [chars]
  have hlen := length_printInt16_le config.shortModifier hlt
  refine ⟨?_, fun c hc => ?_⟩
  · simp only [logicalCpuLine, List.length_append, hchars.1, lineRoom]
    omega
  · rw [logicalCpuLine, List.mem_append, List.mem_append] at hc
    rcases hc with hc | hc | hc
    · exact hchars.2 c (List.mem_append_left _ hc)
    · rcases mem_printInt16 config.shortModifier hlt c hc with rfl | hdigit
      · decide
      · have hlt16 : digitValue c < 16 := hdigit.trans (by decide)
        exact ⟨ne_of_digitValue hlt16 (by decide), ne_of_digitValue hlt16 (by decide)⟩
    · exact hchars.2 c (List.mem_append_right _ hc)

/-- The version may be missing. -/
theorem parseLine_noVersion (useRawArray : Bool) {s : DumpState} (hheader : s.isHeader = true)
    (hlib : s.isLibcpuidDump = true) : parseLine useRawArray (chars "version=") s = .ok s := by
  have hscan : sscanf (text (chars "version=") ++ [Directive.s]) (chars "version=") = [] := by
    decide +kernel
  have hbasic : scanX86 .basicCpuid (chars "version=") = none := by decide +kernel
  have haida : isAida64Header (chars "version=") = false := by decide +kernel
  have hcpu : scanLogicalCpu libcpuidCpuFormats (chars "version=") = none := by decide +kernel
  have hregister : (scanRegister (chars "version=")).isNone = true := by decide +kernel
  simp only [parseLine, parseHeader, hheader, hscan, hbasic, haida, ok_bind, parseBody, hlib,
    parseLibcpuidLine, hcpu, Option.isNone_iff_eq_none.mp hregister, Bool.not_true,
    Bool.false_eq_true, Option.isSome_none, if_false, if_true, ite_self]

theorem parseLine_version (hvalid : config.IsValid) (hne : config.version ≠ [])
    (useRawArray : Bool) {s : DumpState} (hheader : s.isHeader = true) :
    parseLine useRawArray (versionLine config) s =
      .ok { s with isLibcpuidDump := true, isAida64Dump := false } := by
  have hspaces : ∀ c ∈ chars "version=", isSpace c = false := by simp [chars, isSpace]
  have hscan : sscanf (text (chars "version=") ++ [Directive.s]) (versionLine config) =
      [.str config.version] := by
    rw [versionLine, sscanf_text hspaces,
      sscanf_cons (scan_s hne fun c hc => (hvalid.noSpace c hc).1)]
    rfl
  have hlen : config.version.length < 8 := Nat.lt_succ_of_le hvalid.length_le
  simp only [parseLine, parseHeader, hheader, hscan, hlen, ok_bind, Bool.not_true,
    Bool.false_eq_true, if_false, if_true]

/-- The line of the version leaves the state as it is. -/
theorem reads_versionLine (hvalid : config.IsValid) (useRawArray : Bool) :
    Reads useRawArray [versionLine config] (.start useRawArray) (.start useRawArray) := by
  have hparse : parseLine useRawArray (versionLine config) (.start useRawArray) =
      .ok (.start useRawArray) := by
    by_cases hne : config.version = []
    · rw [versionLine, hne, List.append_nil]
      exact parseLine_noVersion _ (by cases useRawArray <;> rfl) (by cases useRawArray <;> rfl)
    · rw [parseLine_version hvalid hne _ (by cases useRawArray <;> rfl)]
      cases useRawArray <;> rfl
  obtain ⟨hnil, hend⟩ := ne_of_head (head_versionLine config) (by decide)
  exact reads_of_parseLine hnil hend hparse

theorem scanLogicalCpu_of_sscanf {format : List Directive} {formats : List (List Directive)}
    {line : List Char} {logicalCpu : Nat} (h : sscanf format line = [.int logicalCpu]) :
    scanLogicalCpu (format :: formats) line = some (.ofNat 16 logicalCpu) := by
  rw [scanLogicalCpu, List.findSome?_cons, h]
  simp

theorem scanLogicalCpu_line (config : BuildConfig) {logicalCpu : Nat} (hlt : logicalCpu < 2 ^ 16) :
    scanLogicalCpu libcpuidCpuFormats (logicalCpuLine config logicalCpu) =
      some (.ofNat 16 logicalCpu) := by
  have hend : EndsNumber (chars " _________________") := by
    have hhead : (chars " _________________").head? = some ' ' := by simp [chars]
    obtain ⟨s, hs⟩ := List.head?_eq_some_iff.mp hhead
    rw [hs]
    exact endsNumber_of_mem (by decide) s
  have hspaced : spacedOut (chars "_________________ Logical CPU #") = true := by
    simp [chars, spacedOut, isSpace]
  have hscan : sscanf (text (chars "_________________ Logical CPU #") ++
      Directive.hu :: text (chars " _________________")) (logicalCpuLine config logicalCpu) =
        [.int logicalCpu] := by
    rw [logicalCpuLine, sscanf_spacedOut hspaced, sscanf_cons (scan_hu_printInt16 _ hend hlt),
      sscanf_text_nil, List.append_nil]
  rw [libcpuidCpuFormats, scanLogicalCpu_of_sscanf hscan]

/-- The array grows by one record. -/
theorem selectCpu_next {s : DumpState} (hlt : s.rawArray.numRaw + 1 < 2 ^ 16) :
    ∃ a, s.selectCpu (.ofNat 16 s.rawArray.numRaw) true =
        .ok { s with rawArray := a, rawPtr := some s.rawArray.numRaw } ∧
      a.raw = s.rawArray.raw ++ [.zero] ∧ a.withAffinity = true := by
  generalize hk : s.rawArray.numRaw = k at hlt ⊢
  have htoNat : (BitVec.ofNat 16 k).toNat = k := by
    rw [BitVec.toNat_ofNat]
    omega
  have hsucc : (BitVec.ofNat 16 k + 1).toNat = k + 1 := by
    rw [BitVec.toNat_add, htoNat]
    exact Nat.mod_eq_of_lt hlt
  have hgrow : (cpuidGrowRawDataArray s.rawArray (.ofNat 16 k + 1)).raw =
      s.rawArray.raw ++ [.zero] := by
    unfold cpuidGrowRawDataArray
    rw [dif_neg (by rw [hsucc, hk]; omega)]
    dsimp only
    rw [hsucc, hk, Nat.add_sub_cancel_left]
    rfl
  have hroom : k < (cpuidGrowRawDataArray s.rawArray (.ofNat 16 k + 1)).numRaw := by
    rw [CpuRawDataArray.numRaw, hgrow, List.length_append, ← CpuRawDataArray.numRaw, hk]
    exact Nat.lt_succ_self k
  refine ⟨{ cpuidGrowRawDataArray s.rawArray (.ofNat 16 k + 1) with withAffinity := true }, ?_,
    hgrow, rfl⟩
  simp only [DumpState.selectCpu, DumpState.pointTo, htoNat, hroom, if_true, ok_bind, pure_eq_ok]

theorem logicalCpuLine_zero (config : BuildConfig) : logicalCpuLine config 0 =
    chars "_________________ Logical CPU #" ++ (['0'] ++ chars " _________________") := by
  have hzero (short : Bool) : printInt16 short 0 = ['0'] := by cases short <;> rfl
  rw [logicalCpuLine, hzero]

/-- What the part for the header makes of the line that announces a logical CPU. -/
theorem parseHeader_logicalCpuLine (config : BuildConfig) {s : DumpState} {logicalCpu : Nat}
    (hheader : s.isHeader = false ∨ logicalCpu = 0) :
    parseHeader true (logicalCpuLine config logicalCpu) s = .ok (s, false) := by
  unfold LibCpuid.parseHeader
  rcases hheader with hheader | rfl
  · rw [hheader]
    rfl
  · have hscan : sscanf (text (chars "version=") ++ [Directive.s])
        (chars "_________________ Logical CPU #" ++ (['0'] ++ chars " _________________")) = [] := by
      decide +kernel
    have hbasic : (scanX86 .basicCpuid (chars "_________________ Logical CPU #" ++
        (['0'] ++ chars " _________________"))).isSome = false := by decide +kernel
    have haida : isAida64Header (chars "_________________ Logical CPU #" ++
        (['0'] ++ chars " _________________")) = false := by decide +kernel
    rw [logicalCpuLine_zero, hscan, hbasic, haida]
    cases s.isHeader <;> rfl

/-- The line that announces the next logical CPU. -/
theorem reads_logicalCpuLine (config : BuildConfig) {s : DumpState}
    (hlib : s.isLibcpuidDump = true) (hlt : s.rawArray.numRaw + 1 < 2 ^ 16)
    (hheader : s.isHeader = false ∨ s.rawArray.numRaw = 0) :
    ∃ s', Reads true [logicalCpuLine config s.rawArray.numRaw] s s' ∧
      AtRecord true s' s.rawArray.numRaw .zero ∧
      s'.rawArray.raw = s.rawArray.raw ++ [.zero] ∧ s'.rawArray.withAffinity = true := by
  have hscan := scanLogicalCpu_line config (Nat.lt_of_succ_lt hlt)
  obtain ⟨a, hselect, hraw, haff⟩ := selectCpu_next (s := { s with isHeader := false }) hlt
  have hparse : parseLine true (logicalCpuLine config s.rawArray.numRaw) s =
      .ok { s with isHeader := false, rawArray := a, rawPtr := some s.rawArray.numRaw } := by
    rw [parseLine, parseHeader_logicalCpuLine config hheader, ok_bind]
    dsimp only
    rw [if_neg Bool.false_ne_true, parseBody, if_pos hlib, parseLibcpuidLine, if_pos rfl, hscan]
    exact hselect
  obtain ⟨hnil, hend⟩ := ne_of_head (head_logicalCpuLine config s.rawArray.numRaw) (by decide)
  refine ⟨_, reads_of_parseLine hnil hend hparse, ⟨hlib, fun _ => rfl, rfl, ?_⟩, hraw, haff⟩
  dsimp only
  rw [hraw, CpuRawDataArray.numRaw]
  simp

/-! ### Whole dumps -/

/-- The loop over the logical CPUs reads back: what their lines fill goes behind the records that
are there. -/
theorem reads_dumpAll (config : BuildConfig) (architecture : CpuArchitecture)
    {raws : List CpuRawData} {filled : CpuRawData → CpuRawData}
    (hfills : ∀ raw ∈ raws, Fills (dumpRaw raw architecture) .zero (filled raw)) {s : DumpState}
    (hlib : s.isLibcpuidDump = true) (hheader : s.isHeader = false ∨ s.rawArray.numRaw = 0)
    (hlt : s.rawArray.numRaw + raws.length < 2 ^ 16) :
    ∃ s', Reads true (dumpAll config architecture s.rawArray.numRaw raws) s s' ∧
      s'.rawArray.raw = s.rawArray.raw ++ raws.map filled ∧
      (raws ≠ [] ∨ s.rawArray.withAffinity = true → s'.rawArray.withAffinity = true) := by
  induction raws generalizing s with
  | nil => exact ⟨s, .nil, (List.append_nil _).symm, fun h => h.resolve_left (by simp)⟩
  | cons raw raws ih =>
    obtain ⟨hraw, hraws⟩ := List.forall_mem_cons.mp hfills
    rw [List.length_cons] at hlt
    obtain ⟨s1, hreads1, hat1, hraw1, haff1⟩ := reads_logicalCpuLine config hlib (by omega) hheader
    obtain ⟨s2, hreads2, hat2, hraw2, haff2⟩ := hraw true s1 _ hat1
    have hdone : s2.rawArray.raw = s.rawArray.raw ++ [filled raw] := by
      rw [hraw2, hraw1, CpuRawDataArray.numRaw, List.set_append_right _ _ le_rfl, Nat.sub_self]
      rfl
    have hnum : s2.rawArray.numRaw = s.rawArray.numRaw + 1 := by
      rw [CpuRawDataArray.numRaw, hdone, List.length_append]
      rfl
    obtain ⟨s3, hreads3, hraw3, haff3⟩ :=
      ih hraws hat2.isLibcpuidDump (.inl (hat2.isHeader rfl)) (by omega)
    rw [hnum] at hreads3
    refine ⟨s3, (reads_empty.append (hreads1.append (hreads2.append hreads3))), ?_, fun _ => ?_⟩
    · rw [hraw3, hdone, List.append_assoc]
      rfl
    · exact haff3 (.inr (by rw [haff2, haff1]))

theorem isLine_dumpRaw (raw : CpuRawData) (architecture : CpuArchitecture) :
    ∀ line ∈ dumpRaw raw architecture, IsLine lineRoom line := by
  intro line hmem
  cases architecture with
  | unknown => cases hmem
  | x86 =>
    obtain ⟨a, -, hmem⟩ := List.mem_flatMap.mp hmem
    obtain ⟨i, -, rfl⟩ := List.mem_map.mp hmem
    exact (isRegisterLine_x86Line a i _).isLine
  | arm =>
    rcases List.mem_append.mp hmem with hmem | hmem
    · rcases List.mem_append.mp hmem with hmem | hmem
      · obtain ⟨r, -, rfl⟩ := List.mem_map.mp hmem
        exact (isRegisterLine_armLine r _).isLine
      · obtain ⟨a, -, hmem⟩ := List.mem_flatMap.mp hmem
        obtain ⟨i, -, rfl⟩ := List.mem_map.mp hmem
        exact (isRegisterLine_aarch32Line a i _).isLine
    · obtain ⟨a, -, hmem⟩ := List.mem_flatMap.mp hmem
      obtain ⟨i, -, rfl⟩ := List.mem_map.mp hmem
      exact (isRegisterLine_aarch64Line a i _).isLine

theorem isLine_dumpAll (config : BuildConfig) (architecture : CpuArchitecture)
    (raws : List CpuRawData) {logicalCpu : Nat} (hlt : logicalCpu + raws.length < 2 ^ 16) :
    ∀ line ∈ dumpAll config architecture logicalCpu raws, IsLine lineRoom line := by
  induction raws generalizing logicalCpu with
  | nil => simp [dumpAll]
  | cons raw raws ih =>
    rw [List.length_cons] at hlt
    intro line hmem
    rw [dumpAll, List.mem_cons, List.mem_cons, List.mem_append] at hmem
    rcases hmem with rfl | rfl | hmem | hmem
    · exact ⟨by decide, by simp⟩
    · exact isLine_logicalCpuLine config (by omega)
    · exact isLine_dumpRaw raw architecture line hmem
    · exact ih (by omega) line hmem

/-- The lines of a file that whole lines were written to. -/
theorem dumpLines_unlines {lines : List (List Char)} (h : ∀ line ∈ lines, IsLine lineRoom line) :
    dumpLines (unlines lines) = lines := cut_fgets_unlines h

/-- Records of one architecture, each with nothing in the registers of the other. -/
def IsUniform (raws : List CpuRawData) : Prop :=
  (∀ raw ∈ raws, raw.IsX86) ∨ ∀ raw ∈ raws, raw.IsArm

/-- The lines that are written for uniform records fill them again. -/
theorem fills_of_isUniform {first : CpuRawData} {rest : List CpuRawData}
    (h : IsUniform (first :: rest)) : ∀ raw ∈ first :: rest,
      Fills (dumpRaw raw (cpuidArchitectureIdentify first)) .zero raw := by
  rcases h with h | h
  · rw [(h first (List.mem_cons_self ..)).architecture]
    exact fun raw hmem => fills_dumpRaw_x86 (h raw hmem).noArm
  · rw [(h first (List.mem_cons_self ..)).architecture]
    exact fun raw hmem => fills_dumpRaw_arm (h raw hmem)

/-- The array that an array is loaded back as, when its lines fill records in some way. -/
theorem deserializeAll_serializeAll_map (hvalid : config.IsValid) {first : CpuRawData}
    {rest : List CpuRawData} (withAffinity : Bool) (numRaw_lt : (first :: rest).length < 2 ^ 16)
    (filled : CpuRawData → CpuRawData)
    (hfills : ∀ raw ∈ first :: rest,
      Fills (dumpRaw raw (cpuidArchitectureIdentify first)) .zero (filled raw)) :
    ∃ file, cpuidSerializeAllRawData config ⟨withAffinity, first :: rest, numRaw_lt⟩ = .ok file ∧
      cpuidDeserializeAllRawData file =
        .ok (.ok, ⟨true, (first :: rest).map filled, by rwa [List.length_map]⟩) := by
  refine ⟨_, rfl, ?_⟩
  have hstart : (DumpState.start true).rawArray.numRaw = 0 := rfl
  obtain ⟨s, hreads, hraw, haff⟩ := reads_dumpAll config (cpuidArchitectureIdentify first)
    hfills (s := .start true) rfl (.inr hstart) (by rwa [hstart, Nat.zero_add])
  rw [hstart] at hreads
  have hline : ∀ line ∈ versionLine config ::
      dumpAll config (cpuidArchitectureIdentify first) 0 (first :: rest),
        IsLine lineRoom line :=
    List.forall_mem_cons.mpr ⟨isLine_versionLine hvalid,
      isLine_dumpAll config _ _ (by rwa [Nat.zero_add])⟩
  have hparse := ((reads_versionLine hvalid true).append hreads).parseLines_eq
  rw [List.singleton_append] at hparse
  have harray : s.rawArray = ⟨true, (first :: rest).map filled, by rwa [List.length_map]⟩ := by
    rcases hs : s.rawArray with ⟨w, r, hr⟩
    rw [hs] at hraw haff
    obtain rfl : r = (first :: rest).map filled := hraw
    obtain rfl : w = true := haff (.inl (by simp))
    rfl
  rw [cpuidDeserializeAllRawData, dumpLines_unlines hline, hparse, ok_bind, harray]
  rfl

theorem deserializeAll_serializeAll (hvalid : config.IsValid) {a : CpuRawDataArray}
    (hne : a.raw ≠ []) (h : IsUniform a.raw) :
    ∃ file, cpuidSerializeAllRawData config a = .ok file ∧
      cpuidDeserializeAllRawData file = .ok (.ok, { a with withAffinity := true }) := by
  obtain ⟨withAffinity, raw, numRaw_lt⟩ := a
  obtain ⟨first, rest, rfl⟩ := List.exists_cons_of_ne_nil hne
  obtain ⟨file, hfile, hload⟩ := deserializeAll_serializeAll_map hvalid withAffinity numRaw_lt
    id (fills_of_isUniform h)
  exact ⟨file, hfile, by simpa only [List.map_id] using hload⟩

theorem deserialize_serialize (hvalid : config.IsValid) {raw : CpuRawData}
    (h : IsUniform [raw]) :
    ∃ file, cpuidSerializeRawData config raw = .ok file ∧
      cpuidDeserializeRawData file = .ok (.ok, raw) := by
  refine ⟨_, rfl, ?_⟩
  have hat : AtRecord false (.start false) 0 .zero := ⟨rfl, by simp, rfl, rfl⟩
  obtain ⟨s, hreads, hat', -, -⟩ := fills_of_isUniform h raw (List.mem_cons_self ..) false _ 0 hat
  have hline : ∀ line ∈ versionLine config :: dumpRaw raw (cpuidArchitectureIdentify raw),
      IsLine lineRoom line :=
    List.forall_mem_cons.mpr ⟨isLine_versionLine hvalid, isLine_dumpRaw raw _⟩
  have hparse := ((reads_versionLine hvalid false).append hreads).parseLines_eq
  rw [List.singleton_append] at hparse
  rw [cpuidDeserializeRawData, dumpLines_unlines hline, hparse, ok_bind,
    loadList_eq_ok.mpr hat'.record]
  rfl

/-- The dump round trip, of arrays and of single records. -/
theorem dump_roundTrip (hvalid : config.IsValid) :
    (∀ a : CpuRawDataArray, a.raw ≠ [] → IsUniform a.raw →
      ∃ file, cpuidSerializeAllRawData config a = .ok file ∧
        cpuidDeserializeAllRawData file = .ok (.ok, { a with withAffinity := true })) ∧
    ∀ raw : CpuRawData, IsUniform [raw] →
      ∃ file, cpuidSerializeRawData config raw = .ok file ∧
        cpuidDeserializeRawData file = .ok (.ok, raw) :=
  ⟨fun _ hne h => deserializeAll_serializeAll hvalid hne h,
    fun _ h => deserialize_serialize hvalid h⟩

end Between

/-- Two Cortex-A53, written by version 0.7.1. -/
theorem dump_roundTrip_cortexA53 :
    ∃ file, cpuidSerializeAllRawData ⟨['0', '.', '7', '.', '1'], false⟩
        ⟨false, List.replicate 2 { CpuRawData.zero with armMidr := 0x410fd034 }, by decide⟩ =
          .ok file ∧
      cpuidDeserializeAllRawData file =
        .ok (.ok, ⟨true, List.replicate 2 { CpuRawData.zero with armMidr := 0x410fd034 },
          by decide⟩) := by
  have hvalid : BuildConfig.IsValid ⟨['0', '.', '7', '.', '1'], false⟩ := ⟨by decide, by decide⟩
  have harm : CpuRawData.IsArm { CpuRawData.zero with armMidr := 0x410fd034 } :=
    ⟨by decide, fun a i => by cases a <;> rfl⟩
  exact (dump_roundTrip hvalid).1 _ (by simp)
    (.inr fun raw hmem => by rwa [List.eq_of_mem_replicate hmem])

end LibCpuid
