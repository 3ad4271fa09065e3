import LibCpuid.Dump.DumpLines

/-! When the parser of dump files stays in bounds: what a line must meet, given the state that the
lines before it left. -/

namespace LibCpuid

open CLang

/-! ### What a line must meet -/

/-- The index is one of the array. -/
def RegisterLine.InBounds : RegisterLine → Prop
  | .x86 a i _ => 0 ≤ i ∧ i < a.size
  | .arm _ _ => True
  | .aarch32 a i _ => 0 ≤ i ∧ i < a.size
  | .aarch64 a i _ => 0 ≤ i ∧ i < a.size

namespace DumpState

/-- There is a record to store into, and it has a register of that index. -/
def CanStore (s : DumpState) (register : RegisterLine) : Prop :=
  s.rawPtr ≠ none ∧ register.InBounds

/-- `raw_ptr` is NULL or points to a record, and to one in the single form. -/
structure PtrInBounds (useRawArray : Bool) (s : DumpState) : Prop where
  lt : ∀ p ∈ s.rawPtr, p < s.rawArray.numRaw
  single : useRawArray = false → s.rawPtr ≠ none

/-- The number that the array starts from, for a dump of AIDA64. -/
def cpuOffset (s : DumpState) (logicalCpu : BitVec 16) : BitVec 16 :=
  if s.rawArray.numRaw = 0 ∧ logicalCpu.toNat ≥ 1 then logicalCpu else s.logicalCpuOffset

end DumpState

/-- A line of a dump of this library: an announced logical CPU is not number 65535, and a register
can be stored. -/
def LibcpuidInBounds (useRawArray : Bool) (line : List Char) (s : DumpState) : Prop :=
  match if useRawArray then scanLogicalCpu libcpuidCpuFormats line else none with
  | some logicalCpu => logicalCpu ≠ 65535
  | none => ∀ register ∈ scanRegister line, s.CanStore register

/-- A line of a dump of AIDA64. -/
def Aida64InBounds (useRawArray : Bool) (line : List Char) (s : DumpState) : Prop :=
  match if useRawArray then scanLogicalCpu aida64CpuFormats line else none with
  | some logicalCpu => logicalCpu - s.cpuOffset logicalCpu ≠ 65535
  | none => ∀ register ∈ aida64Stores line, s.CanStore register

def BodyInBounds (useRawArray : Bool) (line : List Char) (s : DumpState) : Prop :=
  if s.isLibcpuidDump then LibcpuidInBounds useRawArray line s
  else s.isAida64Dump → Aida64InBounds useRawArray line s

/-- What a line must meet: a version has at most 7 characters, and what stands behind the part for
the header is in bounds.  A line of `basic_cpuid` that begins a dump always is. -/
def LineInBounds (useRawArray : Bool) (line : List Char) (s : DumpState) : Prop :=
  if s.isHeader then
    match sscanf (text (chars "version=") ++ [Directive.s]) line with
    | [.str version] => version.length < 8
    | _ =>
      if (scanX86 .basicCpuid line).isSome then True
      else if isAida64Header line then Aida64InBounds useRawArray line s
      else BodyInBounds useRawArray line s
  else BodyInBounds useRawArray line s

/-! ### Stores -/

theorem storeInt_eq_ok {α : Type} {n : Nat} (a : Fin n → α) (i : Int) (v : α) :
    (∃ b, storeInt a i v = .ok b) ↔ 0 ≤ i ∧ i < n := by
  unfold storeInt
  by_cases hneg : i < 0
  · simp [hneg]
  · rw [if_neg hneg]
    constructor
    · rintro ⟨b, hb⟩
      obtain ⟨hlt, -⟩ := store_eq_ok.mp hb
      omega
    · rintro ⟨-, hlt⟩
      exact ⟨_, store_of_lt a (by omega) v⟩

theorem map_eq_ok {ε α β : Type} {x : Except ε α} {f : α → β} :
    (∃ b, x.map f = .ok b) ↔ ∃ a, x = .ok a := by
  cases x <;> simp [Except.map]

theorem RegisterLine.store_eq_ok (raw : CpuRawData) (register : RegisterLine) :
    (∃ raw', register.store raw = .ok raw') ↔ register.InBounds := by
  cases register with
  | x86 a i regs => exact map_eq_ok.trans (storeInt_eq_ok _ i regs)
  | arm r value => exact iff_of_true ⟨_, rfl⟩ trivial
  | aarch32 a i value => exact map_eq_ok.trans (storeInt_eq_ok _ i value)
  | aarch64 a i value => exact map_eq_ok.trans (storeInt_eq_ok _ i value)

section Steps

variable {useRawArray : Bool} {line : List Char} {s s' : DumpState} {register : RegisterLine}

theorem DumpState.PtrInBounds.of_frame (hs : s.PtrInBounds useRawArray)
    (hptr : s'.rawPtr = s.rawPtr) (hnum : s'.rawArray.numRaw = s.rawArray.numRaw) :
    s'.PtrInBounds useRawArray :=
  ⟨by rw [hptr, hnum]; exact hs.lt, by rw [hptr]; exact hs.single⟩

/-- What a store leaves alone. -/
theorem storeLine_frame (h : s.storeLine register = .ok s') :
    s'.rawPtr = s.rawPtr ∧ s'.rawArray.numRaw = s.rawArray.numRaw := by
  unfold DumpState.storeLine at h
  cases hptr : s.rawPtr with
  | none =>
    rw [hptr] at h
    cases h
  | some p =>
    rw [hptr] at h
    obtain ⟨raw, -, h⟩ := bind_eq_ok.mp h
    obtain ⟨raw', -, h⟩ := bind_eq_ok.mp h
    obtain rfl := Except.ok.inj h
    exact ⟨hptr, List.length_set ..⟩

theorem storeLine_eq_ok (hs : s.PtrInBounds useRawArray) :
    (∃ s', s.storeLine register = .ok s') ↔ s.CanStore register := by
  unfold DumpState.storeLine DumpState.CanStore
  cases hptr : s.rawPtr with
  | none => simp
  | some p =>
    have hlt : p < s.rawArray.raw.length := hs.lt p hptr
    have hstore := register.store_eq_ok s.rawArray.raw[p]
    simp only [loadList_of_lt hlt, ok_bind, ne_eq, reduceCtorEq, not_false_eq_true, true_and,
      ← hstore]
    cases hraw : register.store s.rawArray.raw[p] <;> simp

/-- Several stores, one after the other. -/
theorem storeLines_eq_ok (registers : List RegisterLine) (hs : s.PtrInBounds useRawArray) :
    (∃ s', registers.foldlM DumpState.storeLine s = .ok s') ↔
      ∀ register ∈ registers, s.CanStore register := by
  induction registers generalizing s with
  | nil => simp
  | cons register registers ih =>
    rw [List.foldlM_cons, List.forall_mem_cons, ← storeLine_eq_ok hs]
    constructor
    · rintro ⟨s2, h⟩
      obtain ⟨s1, h1, h2⟩ := bind_eq_ok.mp h
      obtain ⟨hptr, hnum⟩ := storeLine_frame h1
      have hs1 := hs.of_frame hptr hnum
      refine ⟨⟨s1, h1⟩, fun register hmem => ?_⟩
      have hcan := (ih hs1).mp ⟨s2, h2⟩ register hmem
      rwa [DumpState.CanStore, hptr] at hcan
    · rintro ⟨⟨s1, h1⟩, hrest⟩
      obtain ⟨hptr, hnum⟩ := storeLine_frame h1
      have hs1 := hs.of_frame hptr hnum
      obtain ⟨s2, h2⟩ := (ih hs1).mpr fun register hmem => by
        rw [DumpState.CanStore, hptr]
        exact hrest register hmem
      exact ⟨s2, bind_eq_ok.mpr ⟨s1, h1, h2⟩⟩

theorem storeLines_ptrInBounds {registers : List RegisterLine} (hs : s.PtrInBounds useRawArray)
    (h : registers.foldlM DumpState.storeLine s = .ok s') : s'.PtrInBounds useRawArray := by
  induction registers generalizing s with
  | nil =>
    obtain rfl := Except.ok.inj h
    exact hs
  | cons register registers ih =>
    rw [List.foldlM_cons] at h
    obtain ⟨s1, h1, h⟩ := bind_eq_ok.mp h
    obtain ⟨hptr, hnum⟩ := storeLine_frame h1
    exact ih (hs.of_frame hptr hnum) h

/-! ### The array -/

/-- The array has room for every logical CPU but the last, whose number plus 1 is 0. -/
theorem lt_numRaw_grow (a : CpuRawDataArray) (logicalCpu : BitVec 16) :
    logicalCpu.toNat < (cpuidGrowRawDataArray a (logicalCpu + 1)).numRaw ↔
      logicalCpu ≠ 65535 := by
  have hlt := a.numRaw_lt
  have hcpu := logicalCpu.isLt
  by_cases hlast : logicalCpu = 65535
  · subst hlast
    have hzero : (65535 + 1 : BitVec 16).toNat = 0 := by decide
    have hgrow : cpuidGrowRawDataArray a (65535 + 1) = a := dif_pos (.inl hzero.le)
    rw [hgrow, CpuRawDataArray.numRaw, show (65535 : BitVec 16).toNat = 65535 from rfl]
    exact iff_of_false (by omega) (by simp)
  · have hne : logicalCpu.toNat ≠ 65535 := fun h => hlast (BitVec.eq_of_toNat_eq h)
    have hsucc : (logicalCpu + 1).toNat = logicalCpu.toNat + 1 := by
      rw [BitVec.toNat_add, show (1 : BitVec 16).toNat = 1 from rfl]
      exact Nat.mod_eq_of_lt (by omega)
    refine iff_of_true ?_ hlast
    unfold cpuidGrowRawDataArray
    split
    case isTrue h => omega
    case isFalse h =>
      simp only [CpuRawDataArray.numRaw, List.length_append, List.length_replicate]
      omega

theorem selectCpu_eq_ok (logicalCpu : BitVec 16) (withAffinity : Bool) :
    (∃ s', s.selectCpu logicalCpu withAffinity = .ok s') ↔ logicalCpu ≠ 65535 := by
  rw [← lt_numRaw_grow s.rawArray, DumpState.selectCpu, DumpState.pointTo]
  dsimp only
  by_cases hlt : logicalCpu.toNat < (cpuidGrowRawDataArray s.rawArray (logicalCpu + 1)).numRaw
  · rw [if_pos hlt]
    exact iff_of_true ⟨_, rfl⟩ hlt
  · rw [if_neg hlt]
    exact iff_of_false (by simp) hlt

theorem selectCpu_ptrInBounds {logicalCpu : BitVec 16} {withAffinity : Bool}
    (h : s.selectCpu logicalCpu withAffinity = .ok s') : s'.PtrInBounds useRawArray ∧
      s'.rawPtr ≠ none ∧ s'.isLibcpuidDump = s.isLibcpuidDump := by
  obtain ⟨s1, h1, h⟩ := bind_eq_ok.mp h
  obtain rfl := Except.ok.inj h
  rw [DumpState.pointTo] at h1
  split at h1
  case isTrue hlt =>
    obtain rfl := Except.ok.inj h1
    refine ⟨⟨fun p hp => ?_, fun _ => by simp⟩, by simp, rfl⟩
    obtain rfl := Option.some.inj hp
    exact hlt
  case isFalse => cases h1

/-! ### Lines -/

theorem parseLibcpuidLine_eq_ok (hs : s.PtrInBounds useRawArray) :
    (∃ s', parseLibcpuidLine useRawArray line s = .ok s') ↔
      LibcpuidInBounds useRawArray line s := by
  unfold parseLibcpuidLine LibcpuidInBounds
  cases if useRawArray then scanLogicalCpu libcpuidCpuFormats line else none with
  | some logicalCpu => exact selectCpu_eq_ok logicalCpu true
  | none =>
    cases scanRegister line with
    | some register => simpa using storeLine_eq_ok hs
    | none => exact iff_of_true ⟨s, rfl⟩ (by simp)

theorem parseLibcpuidLine_ptrInBounds (hs : s.PtrInBounds useRawArray)
    (h : parseLibcpuidLine useRawArray line s = .ok s') : s'.PtrInBounds useRawArray := by
  unfold parseLibcpuidLine at h
  split at h
  case h_1 => exact (selectCpu_ptrInBounds h).1
  case h_2 =>
    split at h
    case h_1 =>
      obtain ⟨hptr, hnum⟩ := storeLine_frame h
      exact hs.of_frame hptr hnum
    case h_2 =>
      obtain rfl := Except.ok.inj h
      exact hs

theorem parseAida64Line_eq_ok (hs : s.PtrInBounds useRawArray) :
    (∃ s', parseAida64Line useRawArray line s = .ok s') ↔ Aida64InBounds useRawArray line s := by
  unfold parseAida64Line Aida64InBounds
  cases if useRawArray then scanLogicalCpu aida64CpuFormats line else none with
  | some logicalCpu => exact selectCpu_eq_ok _ true
  | none => exact storeLines_eq_ok _ hs

theorem parseAida64Line_ptrInBounds (hs : s.PtrInBounds useRawArray)
    (h : parseAida64Line useRawArray line s = .ok s') : s'.PtrInBounds useRawArray := by
  unfold parseAida64Line at h
  split at h
  case h_1 => exact (selectCpu_ptrInBounds h).1
  case h_2 => exact storeLines_ptrInBounds hs h

theorem parseBody_eq_ok (hs : s.PtrInBounds useRawArray) :
    (∃ s', parseBody useRawArray line s = .ok s') ↔ BodyInBounds useRawArray line s := by
  unfold parseBody BodyInBounds
  cases s.isLibcpuidDump with
  | true => exact parseLibcpuidLine_eq_ok hs
  | false =>
    cases s.isAida64Dump with
    | true => simpa using parseAida64Line_eq_ok hs
    | false => simp

theorem parseBody_ptrInBounds (hs : s.PtrInBounds useRawArray)
    (h : parseBody useRawArray line s = .ok s') : s'.PtrInBounds useRawArray := by
  unfold parseBody at h
  split at h
  · exact parseLibcpuidLine_ptrInBounds hs h
  · split at h
    · exact parseAida64Line_ptrInBounds hs h
    · obtain rfl := Except.ok.inj h
      exact hs

/-- A line of `basic_cpuid` announces no logical CPU, and what it stores has an index that was
tested. -/
theorem libcpuidInBounds_of_basic (hbasic : (scanX86 .basicCpuid line).isSome)
    (hptr : s.rawPtr ≠ none) : LibcpuidInBounds useRawArray line s := by
  have hmem := X86Array.basicCpuid.dumpName_mem
  obtain ⟨rest, rfl⟩ : chars X86Array.basicCpuid.dumpName <+: line := by
    by_contra hnot
    have hnil (format : List Directive) :
        sscanf (text (chars X86Array.basicCpuid.dumpName) ++ format) line = [] := by
      by_contra hne
      exact hnot (prefix_of_sscanf_text (fun c hc => (dumpNames_chars _ hmem).2.2.2 c hc) hne)
    rw [scanX86, X86Array.scanName_eq, hnil] at hbasic
    cases hbasic
  have hhead : (chars X86Array.basicCpuid.dumpName ++ rest).head? ≠ some '_' := by
    have : (chars X86Array.basicCpuid.dumpName).head? = some 'b' := by decide +kernel
    rw [List.head?_append, this, Option.some_or]
    decide
  have hcpu : scanLogicalCpu libcpuidCpuFormats (chars X86Array.basicCpuid.dumpName ++ rest) =
      none := by
    rw [scanLogicalCpu, libcpuidCpuFormats, List.findSome?_cons,
      sscanf_text_of_head head_otherLines.2.1 (by decide) hhead]
    rfl
  unfold LibcpuidInBounds
  rw [hcpu, ite_self]
  intro register hregister
  refine ⟨hptr, ?_⟩
  -- only the patterns of CPUID answers can match
  have h64 : aarch64Arrays.findSome?
      (scanAArch64Register (chars X86Array.basicCpuid.dumpName ++ rest)) = none :=
    List.findSome?_eq_none_iff.mpr fun a _ =>
      scanAArch64Register_of_ne hmem (by cases a <;> decide) rest
  rw [Option.mem_def, scanRegister,
    findSome?_arm_of_ne hmem rest (fun r => by cases r <;> decide),
    findSome?_aarch32_of_ne hmem rest (fun a => by cases a <;> decide), h64, Option.none_or,
    Option.none_or, Option.or_none] at hregister
  obtain ⟨a, -, ha⟩ := List.exists_of_findSome?_eq_some hregister
  rw [scanX86Register] at ha
  split at ha
  case h_1 =>
    split at ha
    case isTrue hi =>
      obtain rfl := Option.some.inj ha
      exact hi
    case isFalse => cases ha
  case h_2 => cases ha

/-- The state behind the header of a dump of this library, or of AIDA64. -/
def behindHeader (isLibcpuid : Bool) (s : DumpState) : DumpState :=
  { s with isHeader := false, isLibcpuidDump := isLibcpuid, isAida64Dump := !isLibcpuid }

/-- The part for the header, for a line that is no version. -/
theorem parseHeader_of_noVersion (hheader : s.isHeader = true)
    (hversion : ∀ version, sscanf (text (chars "version=") ++ [Directive.s]) line ≠ [.str version]) :
    parseHeader useRawArray line s =
      if (scanX86 .basicCpuid line).isSome then
        (if useRawArray then (behindHeader true s).selectCpu 0 false
          else .ok (behindHeader true s)) >>= fun s => .ok (s, false)
      else if isAida64Header line then .ok (behindHeader false s, false)
      else .ok (s, false) := by
  unfold parseHeader
  rw [hheader]
  simp only [Bool.not_true, Bool.false_eq_true, if_false]
  generalize sscanf (text (chars "version=") ++ [Directive.s]) line = args at hversion ⊢
  rcases args with _ | ⟨_ | version, _ | ⟨_, _⟩⟩
  case cons.str.nil => exact absurd rfl (hversion version)
  all_goals cases useRawArray <;> rfl

theorem lineInBounds_of_noVersion (hheader : s.isHeader = true)
    (hversion : ∀ version, sscanf (text (chars "version=") ++ [Directive.s]) line ≠ [.str version]) :
    LineInBounds useRawArray line s ↔
      if (scanX86 .basicCpuid line).isSome then True
      else if isAida64Header line then Aida64InBounds useRawArray line s
      else BodyInBounds useRawArray line s := by
  unfold LineInBounds
  rw [hheader, if_pos rfl]
  split
  case h_1 version h => exact absurd h (hversion version)
  case h_2 => rfl

/-- The record that a line of `basic_cpuid` is for when it begins a dump. -/
theorem select_basic (hs : s.PtrInBounds useRawArray) (hlib : s.isLibcpuidDump = true)
    (hbasic : (scanX86 .basicCpuid line).isSome) :
    ∃ s1, (if useRawArray then s.selectCpu 0 false else .ok s) = .ok s1 ∧
      s1.PtrInBounds useRawArray ∧ BodyInBounds useRawArray line s1 := by
  suffices h : ∃ s1, (if useRawArray then s.selectCpu 0 false else .ok s) = .ok s1 ∧
      s1.PtrInBounds useRawArray ∧ s1.rawPtr ≠ none ∧ s1.isLibcpuidDump = s.isLibcpuidDump by
    obtain ⟨s1, h1, hs1, hptr, hlib1⟩ := h
    refine ⟨s1, h1, hs1, ?_⟩
    rw [BodyInBounds, if_pos (hlib1.trans hlib)]
    exact libcpuidInBounds_of_basic hbasic hptr
  cases useRawArray with
  | false => exact ⟨s, rfl, hs, hs.single rfl, rfl⟩
  | true =>
    obtain ⟨s1, h1⟩ := (selectCpu_eq_ok (s := s) 0 false).mpr (by decide)
    exact ⟨s1, h1, selectCpu_ptrInBounds h1⟩

/-- A line does not fault exactly when it is in bounds. -/
theorem parseLine_eq_ok (hs : s.PtrInBounds useRawArray) :
    (∃ s', parseLine useRawArray line s = .ok s') ↔ LineInBounds useRawArray line s := by
  unfold parseLine
  by_cases hheader : s.isHeader = true
  · by_cases hversion : ∃ version,
        sscanf (text (chars "version=") ++ [Directive.s]) line = [.str version]
    · obtain ⟨version, hversion⟩ := hversion
      unfold parseHeader LineInBounds
      rw [hversion, hheader, if_pos rfl]
      by_cases hlen : version.length < 8 <;> simp [hlen]
    · have hversion := not_exists.mp hversion
      rw [lineInBounds_of_noVersion hheader hversion, parseHeader_of_noVersion hheader hversion]
      by_cases hbasic : (scanX86 .basicCpuid line).isSome
      · rw [if_pos hbasic, if_pos hbasic]
        have hs0 : (behindHeader true s).PtrInBounds useRawArray := hs.of_frame rfl rfl
        obtain ⟨s1, h1, hs1, hbody⟩ := select_basic hs0 rfl hbasic
        rw [h1]
        exact iff_of_true ((parseBody_eq_ok hs1).mpr hbody) trivial
      · rw [if_neg hbasic, if_neg hbasic]
        by_cases haida : isAida64Header line
        · rw [if_pos haida, if_pos haida]
          have hs1 : (behindHeader false s).PtrInBounds useRawArray := hs.of_frame rfl rfl
          have hbody : BodyInBounds useRawArray line (behindHeader false s) ↔
              Aida64InBounds useRawArray line s := by
            rw [BodyInBounds, behindHeader, if_neg (by simp)]
            exact ⟨fun h => h rfl, fun h _ => h⟩
          exact (parseBody_eq_ok hs1).trans hbody
        · rw [if_neg haida, if_neg haida]
          exact parseBody_eq_ok hs
  · have hbody : LineInBounds useRawArray line s ↔ BodyInBounds useRawArray line s := by
      rw [LineInBounds, if_neg hheader]
    rw [hbody, ← parseBody_eq_ok hs, parseHeader, Bool.eq_false_iff.mpr hheader]
    rfl

theorem parseHeader_ptrInBounds (hs : s.PtrInBounds useRawArray) {isDone : Bool}
    (h : parseHeader useRawArray line s = .ok (s', isDone)) : s'.PtrInBounds useRawArray := by
  by_cases hheader : s.isHeader = true
  · by_cases hversion : ∃ version,
        sscanf (text (chars "version=") ++ [Directive.s]) line = [.str version]
    · obtain ⟨version, hversion⟩ := hversion
      unfold parseHeader at h
      rw [hversion, hheader] at h
      by_cases hlen : version.length < 8
      · simp only [Bool.not_true, Bool.false_eq_true, if_false, hlen, if_true] at h
        cases h
        exact hs.of_frame rfl rfl
      · simp [hlen] at h
    · rw [parseHeader_of_noVersion hheader (not_exists.mp hversion)] at h
      split at h
      case isTrue hbasic =>
        have hs0 : (behindHeader true s).PtrInBounds useRawArray := hs.of_frame rfl rfl
        obtain ⟨s1, h1, hs1, -⟩ := select_basic hs0 rfl hbasic
        rw [h1] at h
        cases h
        exact hs1
      case isFalse =>
        split at h <;> cases h
        · exact hs.of_frame rfl rfl
        · exact hs
  · rw [parseHeader, Bool.eq_false_iff.mpr hheader] at h
    cases h
    exact hs

theorem parseLine_ptrInBounds (hs : s.PtrInBounds useRawArray)
    (h : parseLine useRawArray line s = .ok s') : s'.PtrInBounds useRawArray := by
  obtain ⟨⟨s1, isDone⟩, h1, h2⟩ := bind_eq_ok.mp h
  have hs1 := parseHeader_ptrInBounds hs h1
  dsimp only at h2
  split at h2
  · obtain rfl := Except.ok.inj h2
    exact hs1
  · exact parseBody_ptrInBounds hs1 h2

end Steps

/-! ### Runs -/

/-- The loop over the lines gets to a line, in the state `s`. -/
def ReachesLine (useRawArray : Bool) (lines : List (List Char)) (s0 : DumpState)
    (line : List Char) (s : DumpState) : Prop :=
  ∃ done rest, lines = done ++ line :: rest ∧ testResultsLine ∉ done ∧ line ≠ [] ∧
    line ≠ testResultsLine ∧ parseLines useRawArray done s0 = .ok s

section Runs

variable {useRawArray : Bool} {line : List Char} {rest : List (List Char)} {s s1 : DumpState}

theorem parseLines_cons (hend : line ≠ testResultsLine) (rest : List (List Char)) (s : DumpState) :
    parseLines useRawArray (line :: rest) s =
      (parseLines useRawArray [line] s >>= parseLines useRawArray rest) := by
  by_cases hnil : line = []
  · rw [parseLines, if_pos hnil, parseLines, if_pos hnil]
    rfl
  · rw [parseLines, if_neg hnil, if_neg hend, parseLines, if_neg hnil, if_neg hend]
    cases parseLine useRawArray line s <;> rfl

/-- One line does not fault exactly when it is empty or in bounds. -/
theorem parseLines_singleton_eq_ok (hend : line ≠ testResultsLine)
    (hs : s.PtrInBounds useRawArray) :
    (∃ s1, parseLines useRawArray [line] s = .ok s1) ↔
      (line ≠ [] → LineInBounds useRawArray line s) := by
  by_cases hnil : line = []
  · exact iff_of_true ⟨s, by rw [parseLines, if_pos hnil]; rfl⟩ fun h => absurd hnil h
  · rw [← parseLine_eq_ok hs, parseLines, if_neg hnil, if_neg hend]
    cases parseLine useRawArray line s <;> simp [parseLines, hnil]

theorem parseLines_singleton_ptrInBounds (hend : line ≠ testResultsLine)
    (hs : s.PtrInBounds useRawArray) (h : parseLines useRawArray [line] s = .ok s1) :
    s1.PtrInBounds useRawArray := by
  by_cases hnil : line = []
  · rw [parseLines, if_pos hnil] at h
    cases h
    exact hs
  · rw [parseLines, if_neg hnil, if_neg hend] at h
    obtain ⟨s2, h2, h⟩ := bind_eq_ok.mp h
    cases h
    exact parseLine_ptrInBounds hs h2

/-- The lines that the loop gets to: the first one, and those behind it. -/
theorem reachesLine_cons {line' : List Char} {s' : DumpState} :
    ReachesLine useRawArray (line :: rest) s line' s' ↔ line ≠ testResultsLine ∧
      (line ≠ [] ∧ line' = line ∧ s' = s ∨
        ∃ s1, parseLines useRawArray [line] s = .ok s1 ∧
          ReachesLine useRawArray rest s1 line' s') := by
  constructor
  · rintro ⟨done, rest', hlines, hdone, hne, hend, hparse⟩
    cases done with
    | nil =>
      obtain ⟨rfl, rfl⟩ := List.cons_eq_cons.mp hlines
      exact ⟨hend, .inl ⟨hne, rfl, (Except.ok.inj hparse).symm⟩⟩
    | cons first done =>
      obtain ⟨rfl, rfl⟩ := List.cons_eq_cons.mp hlines
      rw [List.mem_cons, not_or] at hdone
      rw [parseLines_cons (Ne.symm hdone.1)] at hparse
      obtain ⟨s1, h1, hparse⟩ := bind_eq_ok.mp hparse
      exact ⟨Ne.symm hdone.1, .inr ⟨s1, h1, done, rest', rfl, hdone.2, hne, hend, hparse⟩⟩
  · rintro ⟨hfirst, ⟨hne, rfl, rfl⟩ | ⟨s1, h1, done, rest', rfl, hdone, hne, hend, hparse⟩⟩
    · exact ⟨[], rest, rfl, List.not_mem_nil, hne, hfirst, rfl⟩
    · refine ⟨line :: done, rest', rfl, ?_, hne, hend, ?_⟩
      · rw [List.mem_cons, not_or]
        exact ⟨hfirst.symm, hdone⟩
      · rw [parseLines_cons hfirst, h1, ok_bind, hparse]

/-- The run of the parser does not fault exactly when each line that it gets to is in bounds. -/
theorem parseLines_eq_ok {lines : List (List Char)} (hs : s.PtrInBounds useRawArray) :
    (∃ s', parseLines useRawArray lines s = .ok s') ↔
      ∀ line s', ReachesLine useRawArray lines s line s' → LineInBounds useRawArray line s' := by
  induction lines generalizing s with
  | nil => exact iff_of_true ⟨s, rfl⟩ fun _ _ ⟨_, _, h, _⟩ => by simp at h
  | cons line rest ih =>
    simp only [reachesLine_cons]
    by_cases hend : line = testResultsLine
    · have hne : testResultsLine ≠ [] := by decide
      exact iff_of_true ⟨s, by rw [parseLines, hend, if_neg hne, if_pos rfl]⟩
        fun _ _ h => absurd hend h.1
    · rw [parseLines_cons hend]
      have hone := parseLines_singleton_eq_ok hend hs
      constructor
      · rintro ⟨s2, h⟩ line' s' ⟨-, ⟨hne, rfl, rfl⟩ | ⟨s1, h1, hreach⟩⟩
        · obtain ⟨s1, h1, -⟩ := bind_eq_ok.mp h
          exact hone.mp ⟨s1, h1⟩ hne
        · rw [h1] at h
          exact (ih (parseLines_singleton_ptrInBounds hend hs h1)).mp ⟨s2, h⟩ line' s' hreach
      · intro h
        obtain ⟨s1, h1⟩ := hone.mpr fun hne => h line s ⟨hend, .inl ⟨hne, rfl, rfl⟩⟩
        rw [h1]
        exact (ih (parseLines_singleton_ptrInBounds hend hs h1)).mpr fun line' s' hreach =>
          h line' s' ⟨hend, .inr ⟨s1, h1, hreach⟩⟩

theorem ptrInBounds_start (useRawArray : Bool) :
    (DumpState.start useRawArray).PtrInBounds useRawArray := by
  cases useRawArray with
  | true => exact ⟨fun p hp => (by cases hp), by simp⟩
  | false =>
    refine ⟨fun p hp => ?_, fun _ => by simp [DumpState.start, DumpState.initial]⟩
    obtain rfl := Option.some.inj hp
    exact Nat.zero_lt_one

end Runs

/-- The parser is memory-safe on a file exactly when each line that it gets to is in bounds. -/
theorem parser_inBounds_iff (useRawArray : Bool) (lines : List (List Char)) :
    (∃ s, parseLines useRawArray lines (.start useRawArray) = .ok s) ↔
      ∀ line s, ReachesLine useRawArray lines (.start useRawArray) line s →
        LineInBounds useRawArray line s :=
  parseLines_eq_ok (ptrInBounds_start useRawArray)

/-- There are two registers `arm_id_dfr`. -/
theorem parser_outOfBounds_dfr :
    ¬∀ (useRawArray : Bool) (lines : List (List Char)),
      ∃ s, parseLines useRawArray lines (.start useRawArray) = .ok s := by
  intro h
  obtain ⟨s, hs⟩ := h false [chars "arm_id_dfr7=0"]
  have hfault : yields (parseLines false [chars "arm_id_dfr7=0"] (.start false))
      (fun _ => true) = false := by decide +kernel
  rw [hs] at hfault
  cases hfault

end LibCpuid
