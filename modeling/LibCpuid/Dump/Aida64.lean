import LibCpuid.Dump.Aida64Lines

/-! The records that a dump of AIDA64 is read as.  A line is stored at the sub-leaf that `%02i`
reads, which is not the one that is written when that is 08 or 09, and no table is checked for its
size. -/

namespace LibCpuid

open CLang

/-! ### Filling a record -/

/-- The record with another entry in an array that has it. -/
def CpuRawData.setEntry (raw : CpuRawData) (e : X86Array × Nat) (regs : Regs) : CpuRawData :=
  if h : e.2 < e.1.size then raw.setX86 e.1 (Function.update (raw.x86 e.1) ⟨e.2, h⟩ regs) else raw

theorem store_entry (raw : CpuRawData) (regs : Regs) (e : X86Array × Nat) :
    (RegisterLine.x86 e.1 e.2 regs).store raw =
      if e.2 < e.1.size then .ok (raw.setEntry e regs) else .error .outOfBounds := by
  have hnat : ¬((e.2 : Int) < 0) := by omega
  unfold RegisterLine.store storeInt CpuRawData.setEntry
  dsimp only
  rw [if_neg hnat, Int.toNat_natCast]
  by_cases h : e.2 < e.1.size
  · rw [store_of_lt _ h, if_pos h, dif_pos h]
    rfl
  · rw [store_of_le _ (Nat.not_lt.mp h), if_neg h]
    rfl

namespace Aida64Line

variable (l : Aida64Line)

/-- What the line is stored in is there. -/
def InBounds : Prop := ∀ e ∈ l.entries, e.2 < e.1.size

instance : Decidable l.InBounds := inferInstanceAs (Decidable (∀ e ∈ l.entries, e.2 < e.1.size))

/-- The record after the line. -/
def fill (raw : CpuRawData) : CpuRawData := l.entries.foldl (fun raw e => raw.setEntry e l.regs) raw

theorem foldlM_store (raw : CpuRawData) :
    (l.entries.map fun e => RegisterLine.x86 e.1 e.2 l.regs).foldlM RegisterLine.store raw =
      if l.InBounds then .ok (l.fill raw) else .error .outOfBounds := by
  rw [List.foldlM_map]
  exact foldlM_guarded (fun raw e => store_entry raw l.regs e) l.entries raw

end Aida64Line

/-- The record after some lines. -/
def fillLines (lines : List Aida64Line) (raw : CpuRawData) : CpuRawData :=
  lines.foldl (fun raw l => l.fill raw) raw

/-! ### Parsing -/

/-- The header of a dump of AIDA64 is behind. -/
structure DumpState.InAida64 (s : DumpState) : Prop where
  isHeader : s.isHeader = false
  isLibcpuidDump : s.isLibcpuidDump = false
  isAida64Dump : s.isAida64Dump = true

section Parse

variable {s : DumpState} {p : Nat} {raw : CpuRawData}

theorem DumpState.InAida64.parseLine_eq (hs : s.InAida64) (line : List Char) :
    parseLine true line s = parseAida64Line true line s := by
  have hheader : parseHeader true line s = .ok (s, false) := by
    rw [parseHeader, hs.isHeader]
    rfl
  rw [parseLine, hheader, ok_bind]
  dsimp only
  rw [if_neg Bool.false_ne_true, parseBody, if_neg (by simp [hs.isLibcpuidDump]),
    if_pos hs.isAida64Dump]

theorem setRecord_self (hrecord : s.rawArray.raw[p]? = some raw) : s.setRecord p raw = s := by
  obtain ⟨hlt, rfl⟩ := List.getElem?_eq_some_iff.mp hrecord
  simp only [DumpState.setRecord, List.set_getElem_self]

theorem setRecord_setRecord (raw' : CpuRawData) :
    (s.setRecord p raw).setRecord p raw' = s.setRecord p raw' := by
  simp only [DumpState.setRecord, List.set_set]

theorem getElem?_setRecord (hrecord : s.rawArray.raw[p]? = some raw) (raw' : CpuRawData) :
    (s.setRecord p raw').rawArray.raw[p]? = some raw' :=
  List.getElem?_set_self (List.getElem?_eq_some_iff.mp hrecord).1

/-- Stores through `raw_ptr` all go to one record. -/
theorem foldlM_storeLine (hptr : s.rawPtr = some p) (hrecord : s.rawArray.raw[p]? = some raw)
    (registers : List RegisterLine) : registers.foldlM DumpState.storeLine s =
      (registers.foldlM RegisterLine.store raw).map (s.setRecord p) := by
  induction registers generalizing s raw with
  | nil =>
    show Except.ok s = .ok (s.setRecord p raw)
    rw [setRecord_self hrecord]
  | cons register registers ih =>
    have hstore : s.storeLine register = (register.store raw).map (s.setRecord p) := by
      rw [DumpState.storeLine, hptr]
      dsimp only
      rw [loadList_eq_ok.mpr hrecord, ok_bind]
      cases register.store raw <;> rfl
    rw [List.foldlM_cons, List.foldlM_cons, hstore]
    cases register.store raw with
    | error e => rfl
    | ok raw' =>
      show registers.foldlM DumpState.storeLine (s.setRecord p raw') = _
      rw [ih (s := s.setRecord p raw') hptr (getElem?_setRecord hrecord raw'), ok_bind]
      cases registers.foldlM RegisterLine.store raw' with
      | error e => rfl
      | ok raw'' => exact congrArg Except.ok (setRecord_setRecord raw'')

/-- The lines of a logical CPU go to its record. -/
theorem parseLines_lines (hs : s.InAida64) (hptr : s.rawPtr = some p)
    (hrecord : s.rawArray.raw[p]? = some raw) (lines : List Aida64Line) (rest : List (List Char)) :
    parseLines true (lines.map Aida64Line.text ++ rest) s =
      if ∀ l ∈ lines, l.InBounds then parseLines true rest (s.setRecord p (fillLines lines raw))
      else .error .outOfBounds := by
  induction lines generalizing s raw with
  | nil =>
    rw [if_pos (by simp), fillLines, List.foldl_nil, setRecord_self hrecord]
    rfl
  | cons l lines ih =>
    obtain ⟨hnil, hend⟩ := ne_of_head l.head_text (by decide)
    rw [List.map_cons, List.cons_append, parseLines, if_neg hnil, if_neg hend, hs.parseLine_eq,
      parseAida64Line, if_pos rfl, l.scanLogicalCpu_text]
    dsimp only
    rw [l.aida64Stores_text, foldlM_storeLine hptr hrecord, l.foldlM_store]
    by_cases hl : l.InBounds
    · rw [if_pos hl]
      show parseLines true (lines.map Aida64Line.text ++ rest) (s.setRecord p (l.fill raw)) = _
      rw [ih (s := s.setRecord p (l.fill raw)) ⟨hs.1, hs.2, hs.3⟩ hptr
        (getElem?_setRecord hrecord _), setRecord_setRecord]
      simp [hl, fillLines]
    · rw [if_neg hl, if_neg fun h => hl (List.forall_mem_cons.mp h).1]
      rfl

/-- The line that announces the next logical CPU makes a record for it. -/
theorem parseLine_header (style : Aida64Style) (affMask : HexDigits 16) {first : Nat}
    (hs : s.InAida64)
    (hoffset : s.logicalCpuOffset = if s.rawArray.numRaw = 0 then 0 else .ofNat 16 first)
    (hfirst : first ≤ 1) (hlt : s.rawArray.numRaw + 1 < 2 ^ 16) :
    ∃ s', parseLine true (style.header (first + s.rawArray.numRaw) affMask) s = .ok s' ∧
      s'.InAida64 ∧ s'.logicalCpuOffset = .ofNat 16 first ∧ s'.rawPtr = some s.rawArray.numRaw ∧
      s'.rawArray.raw = s.rawArray.raw ++ [.zero] := by
  have hscan := style.scanLogicalCpu_header affMask
    (by omega : first + s.rawArray.numRaw < 2 ^ 16)
  have hlearn : (if s.rawArray.numRaw = 0 ∧
      (BitVec.ofNat 16 (first + s.rawArray.numRaw)).toNat ≥ 1 then
        BitVec.ofNat 16 (first + s.rawArray.numRaw) else s.logicalCpuOffset) = .ofNat 16 first := by
    rw [hoffset]
    by_cases hzero : s.rawArray.numRaw = 0
    · obtain rfl | rfl : first = 0 ∨ first = 1 := by omega
      · rw [hzero]
        rfl
      · rw [hzero]
        rfl
    · rw [if_neg fun h => hzero h.1, if_neg hzero]
  obtain ⟨a, hselect, hraw, -⟩ :=
    selectCpu_next (s := { s with logicalCpuOffset := .ofNat 16 first }) hlt
  have hnumber : BitVec.ofNat 16 (first + s.rawArray.numRaw) - .ofNat 16 first =
      .ofNat 16 s.rawArray.numRaw := by
    apply BitVec.eq_of_toNat_eq
    simp only [BitVec.toNat_sub, BitVec.toNat_ofNat]
    omega
  refine ⟨{ s with
      logicalCpuOffset := .ofNat 16 first
      rawArray := a
      rawPtr := some s.rawArray.numRaw }, ?_, ⟨hs.1, hs.2, hs.3⟩, rfl, rfl, hraw⟩
  rw [hs.parseLine_eq, parseAida64Line, if_pos rfl, hscan]
  dsimp only
  rw [hlearn, hnumber]
  exact hselect

/-- The sections of a dump, up to the first line that is out of bounds. -/
theorem parseLines_sections (style : Aida64Style) {first : Nat} (hs : s.InAida64)
    (hoffset : s.logicalCpuOffset = if s.rawArray.numRaw = 0 then 0 else .ofNat 16 first)
    (hfirst : first ≤ 1) (sections : List Aida64Section)
    (hlt : s.rawArray.numRaw + sections.length < 2 ^ 16) :
    (parseLines true (sectionLines style (first + s.rawArray.numRaw) sections) s).map
        (·.rawArray.raw) =
      if ∀ cpu ∈ sections, ∀ l ∈ cpu.lines, l.InBounds then
        .ok (s.rawArray.raw ++ sections.map fun cpu => fillLines cpu.lines .zero)
      else .error .outOfBounds := by
  induction sections generalizing s with
  | nil => simp [sectionLines, parseLines, Except.map]
  | cons cpu sections ih =>
    rw [List.length_cons] at hlt
    obtain ⟨s', hheader, hs', hoffset', hptr', hraw'⟩ :=
      parseLine_header style cpu.affMask hs hoffset hfirst (by omega)
    obtain ⟨hnil, hend⟩ := style.header_ne cpu.affMask (first + s.rawArray.numRaw)
    have hrecord : s'.rawArray.raw[s.rawArray.numRaw]? = some .zero := by
      rw [hraw', CpuRawDataArray.numRaw]
      simp
    rw [sectionLines, parseLines, if_neg hnil, if_neg hend, hheader, ok_bind,
      parseLines_lines hs' hptr' hrecord]
    by_cases hlines : ∀ l ∈ cpu.lines, l.InBounds
    · have hdone : (s'.setRecord s.rawArray.numRaw (fillLines cpu.lines .zero)).rawArray.raw =
          s.rawArray.raw ++ [fillLines cpu.lines .zero] := by
        show s'.rawArray.raw.set s.rawArray.numRaw (fillLines cpu.lines .zero) = _
        rw [hraw', CpuRawDataArray.numRaw, List.set_append_right _ _ le_rfl, Nat.sub_self]
        rfl
      have hnum : (s'.setRecord s.rawArray.numRaw (fillLines cpu.lines .zero)).rawArray.numRaw =
          s.rawArray.numRaw + 1 := by
        rw [CpuRawDataArray.numRaw, hdone, List.length_append]
        rfl
      have hrest := ih (s := s'.setRecord s.rawArray.numRaw (fillLines cpu.lines .zero))
        ⟨hs'.1, hs'.2, hs'.3⟩ (by rw [hnum, if_neg (Nat.succ_ne_zero _)]; exact hoffset')
        (by rw [hnum]; omega)
      rw [hnum, hdone, ← Nat.add_assoc] at hrest
      rw [if_pos hlines, hrest]
      by_cases hrest : ∀ cpu ∈ sections, ∀ l ∈ cpu.lines, l.InBounds
      · rw [if_pos hrest, if_pos (List.forall_mem_cons.mpr ⟨hlines, hrest⟩), List.append_assoc]
        rfl
      · rw [if_neg hrest, if_neg fun h => hrest (List.forall_mem_cons.mp h).2]
    · rw [if_neg hlines, if_neg fun h => hlines (List.forall_mem_cons.mp h).1]
      rfl

end Parse

/-! ### Whole dumps -/

/-- The state before the first section. -/
def DumpState.aida64 : DumpState :=
  { DumpState.start true with isHeader := false, isLibcpuidDump := false, isAida64Dump := true }

theorem inAida64_aida64 : DumpState.aida64.InAida64 := ⟨rfl, rfl, rfl⟩

/-- The line that a dump is recognized by is read as if it were not the first one. -/
theorem parseLine_start {line : List Char} (hhead : line.head? ∈ [some '-', some 'C'])
    (hline : isAida64Header line = true) :
    parseLine true line (.start true) = parseLine true line .aida64 := by
  have hne : ∀ c ∈ ['v', 'b'], line.head? ≠ some c := by
    have hletters : ∀ c ∈ ['v', 'b'], some c ∉ [some '-', some 'C'] := by decide
    intro c hc heq
    rw [heq] at hhead
    exact hletters c hc hhead
  have hversion : sscanf (text (chars "version=") ++ [Directive.s]) line = [] :=
    sscanf_text_of_head head_otherLines.1 (by decide) (hne 'v' (by decide)) _
  have hbasic : scanX86 .basicCpuid line = none := by
    have hname : (chars X86Array.basicCpuid.scanName).head? = some 'b' := by decide +kernel
    rw [scanX86, sscanf_text_of_head hname (by decide) (hne 'b' (by decide))]
  have hheader : parseHeader true line (.start true) = .ok (.aida64, false) := by
    have hstart : (DumpState.start true).isHeader = true := rfl
    unfold parseHeader
    rw [hstart, hversion, hbasic, hline]
    rfl
  rw [inAida64_aida64.parseLine_eq, parseLine, hheader]
  rfl

theorem parseLine_versionsLine : parseLine true versionsLine .aida64 = .ok .aida64 := by
  have hcpu : scanLogicalCpu aida64CpuFormats versionsLine = none := by decide +kernel
  have hscan : sscanf (aida64Format ": ") versionsLine = [] := by decide +kernel
  rw [inAida64_aida64.parseLine_eq, parseAida64Line, if_pos rfl, hcpu]
  dsimp only
  rw [aida64Stores, hscan]
  rfl

namespace Aida64Dump

variable (dump : Aida64Dump)

theorem parseLines_lines_eq : parseLines true dump.lines (.start true) =
    parseLines true (sectionLines dump.style dump.first dump.sections) .aida64 := by
  unfold lines
  cases hversions : dump.versions with
  | true =>
    have hne : versionsLine ≠ [] ∧ versionsLine ≠ testResultsLine := by decide +kernel
    rw [if_pos rfl, List.singleton_append, parseLines, if_neg hne.1, if_neg hne.2,
      parseLine_start (by decide +kernel) (by simp [isAida64Header, versionsLine]),
      parseLine_versionsLine, ok_bind]
  | false =>
    obtain ⟨cpu, sections, hsections⟩ := List.exists_cons_of_ne_nil dump.sections_ne
    have hfirst : dump.first = if dump.style = .cpu then 1 else 0 :=
      dump.opens.resolve_left (by simp [hversions])
    have hheader := parseLine_start (dump.style.head_header cpu.affMask dump.first)
      (by rw [hfirst]; exact dump.style.isAida64Header_header cpu.affMask)
    obtain ⟨hnil, hend⟩ := dump.style.header_ne cpu.affMask dump.first
    rw [if_neg Bool.false_ne_true, List.nil_append, hsections, sectionLines, parseLines, if_neg hnil,
      if_neg hend, hheader, parseLines, if_neg hnil, if_neg hend]

theorem isLine_sectionLines {style : Aida64Style} {n : Nat} (sections : List Aida64Section)
    (hlt : n + sections.length ≤ 2 ^ 16) :
    ∀ line ∈ sectionLines style n sections, IsLine lineRoom line := by
  induction sections generalizing n with
  | nil => simp [sectionLines]
  | cons cpu sections ih =>
    rw [List.length_cons] at hlt
    intro line hmem
    rw [sectionLines, List.mem_cons, List.mem_append] at hmem
    rcases hmem with rfl | hmem | hmem
    · exact style.isLine_header cpu.affMask (by omega)
    · obtain ⟨l, -, rfl⟩ := List.mem_map.mp hmem
      exact l.isLine_text
    · exact ih (by omega) line hmem

theorem isLine_lines (hlen : dump.sections.length < 2 ^ 16) :
    ∀ line ∈ dump.lines, IsLine lineRoom line := by
  have hversions : IsLine lineRoom versionsLine := ⟨by decide +kernel, by decide +kernel⟩
  have hfirst := dump.first_le
  refine List.forall_mem_append.mpr ⟨?_, isLine_sectionLines dump.sections (by omega)⟩
  cases dump.versions with
  | true => simpa using hversions
  | false => simp

/-- The records of the array that a dump is loaded as. -/
def LoadsAs (raws : List CpuRawData) : Prop :=
  ∃ a, cpuidDeserializeAllRawData dump.text = .ok (.ok, a) ∧ a.raw = raws

theorem loadsAs_iff (hlen : dump.sections.length < 2 ^ 16) (raws : List CpuRawData) :
    dump.LoadsAs raws ↔ (∀ cpu ∈ dump.sections, ∀ l ∈ cpu.lines, l.InBounds) ∧
      raws = dump.sections.map fun cpu => fillLines cpu.lines .zero := by
  have hnum : DumpState.aida64.rawArray.numRaw = 0 := rfl
  have hparse := @parseLines_sections _ dump.style dump.first inAida64_aida64 rfl
    dump.first_le dump.sections (by rwa [hnum, Nat.zero_add])
  rw [hnum, Nat.add_zero] at hparse
  unfold LoadsAs
  rw [cpuidDeserializeAllRawData, text, dumpLines_unlines (dump.isLine_lines hlen),
    dump.parseLines_lines_eq]
  cases hresult : parseLines true (sectionLines dump.style dump.first dump.sections) .aida64 with
  | error e =>
    rw [hresult] at hparse
    refine iff_of_false ?_ fun h => ?_
    · rintro ⟨a, ha, -⟩
      cases ha
    · rw [if_pos h.1] at hparse
      cases hparse
  | ok s =>
    rw [hresult] at hparse
    by_cases hbounds : ∀ cpu ∈ dump.sections, ∀ l ∈ cpu.lines, l.InBounds
    · rw [if_pos hbounds] at hparse
      have hraw : s.rawArray.raw = dump.sections.map fun cpu => fillLines cpu.lines .zero :=
        Except.ok.inj hparse
      have hne : s.rawArray.numRaw ≠ 0 := by
        rw [CpuRawDataArray.numRaw, hraw, List.length_map]
        exact fun h => dump.sections_ne (List.length_eq_zero_iff.mp h)
      rw [ok_bind, if_neg hne, ← hraw]
      constructor
      · rintro ⟨a, ha, rfl⟩
        obtain rfl := (Prod.mk.inj (Except.ok.inj ha)).2
        exact ⟨hbounds, rfl⟩
      · rintro ⟨-, rfl⟩
        exact ⟨_, rfl, rfl⟩
    · rw [if_neg hbounds] at hparse
      cases hparse

/-- An array has no room for more sections. -/
theorem length_lt_of_loadsAs {record : Aida64Section → CpuRawData}
    (h : dump.LoadsAs (dump.sections.map record)) : dump.sections.length < 2 ^ 16 := by
  obtain ⟨a, -, ha⟩ := h
  have := a.numRaw_lt
  rwa [ha, List.length_map] at this

end Aida64Dump

/-! ### What is written -/

/-- The registers of the last line of a leaf that has one of some suffixes. -/
def lastRegs (lines : List Aida64Line) (leaf : Nat) (subleaves : List (Option Nat)) : Regs :=
  match (lines.filter fun l =>
    l.leaf.value = leaf ∧ l.subleaf.map Fin.val ∈ subleaves).getLast? with
  | some l => l.regs
  | none => .zero

namespace Aida64Section

variable (cpu : Aida64Section)

/-- The record that a section is meant to be read as. -/
def record : CpuRawData :=
  { CpuRawData.zero with
    basicCpuid := fun n => lastRegs cpu.lines n [none, some 0]
    extCpuid := fun n => lastRegs cpu.lines (0x80000000 + n) [none, some 0]
    intelFn4 := fun k => lastRegs cpu.lines 0x00000004 [some k]
    intelFn11 := fun k => lastRegs cpu.lines 0x0000000B [some k]
    intelFn12h := fun k => lastRegs cpu.lines 0x00000012 [some k]
    intelFn14h := fun k => lastRegs cpu.lines 0x00000014 [some k]
    amdFn8000001dh := fun k => lastRegs cpu.lines 0x8000001D [some k]
    amdFn80000026h := fun k => lastRegs cpu.lines 0x80000026 [some k] }

/-- No line with the suffix 08 or 09 makes a difference, and the other suffixes are in the tables of
their leaves. -/
structure IsHarmless : Prop where
  inTable : ∀ l ∈ cpu.lines, ∀ a ∈ subleafArray l.leaf.value, ∀ nn ∈ l.subleaf,
    nn = 8 ∨ nn = 9 ∨ nn.val < a.size
  leaf : ∀ leaf, leaf < maxCpuidLevel ∨
    0x80000000 ≤ leaf ∧ leaf < 0x80000000 + maxExtCpuidLevel →
      lastRegs cpu.lines leaf [none, some 0, some 8, some 9] =
        lastRegs cpu.lines leaf [none, some 0]
  subleaf : ∀ leaf : Nat, subleafArray leaf ≠ none →
    lastRegs cpu.lines leaf [some 0, some 8, some 9] = lastRegs cpu.lines leaf [some 0]

end Aida64Section

/-! ### Entries -/

namespace X86Array

/-- The leaf that an entry answers. -/
def leaf : X86Array → Nat → Nat
  | .basicCpuid, n => n
  | .extCpuid, n => 0x80000000 + n
  | .intelFn4, _ => 0x00000004
  | .intelFn11, _ => 0x0000000B
  | .intelFn12h, _ => 0x00000012
  | .intelFn14h, _ => 0x00000014
  | .amdFn8000001dh, _ => 0x8000001D
  | .amdFn80000026h, _ => 0x80000026

/-- The suffixes of the lines that are meant for an entry. -/
def writtenSubleaves : X86Array → Nat → List (Option Nat)
  | .basicCpuid, _ | .extCpuid, _ => [none, some 0]
  | _, k => [some k]

/-- The suffixes of the lines that are stored in an entry. -/
def scannedSubleaves : X86Array → Nat → List (Option Nat)
  | .basicCpuid, _ | .extCpuid, _ => [none, some 0, some 8, some 9]
  | _, k => if k = 0 then [some 0, some 8, some 9] else [some k]

theorem subleafArray_eq_some {leaf : Nat} {a : X86Array} : subleafArray leaf = some a ↔
    (a ≠ .basicCpuid ∧ a ≠ .extCpuid) ∧ leaf = a.leaf 0 := by
  constructor
  · intro h
    obtain ⟨l₁, l₂, hlist, -⟩ := List.lookup_eq_some_iff.mp h
    have hmem : ((leaf : Int), a) ∈ l₁ ++ ((leaf : Int), a) :: l₂ := by simp
    rw [← hlist] at hmem
    simp only [List.mem_cons, List.not_mem_nil, Prod.mk.injEq, or_false] at hmem
    rcases hmem with ⟨hleaf, rfl⟩ | ⟨hleaf, rfl⟩ | ⟨hleaf, rfl⟩ | ⟨hleaf, rfl⟩ | ⟨hleaf, rfl⟩ |
      ⟨hleaf, rfl⟩
    all_goals exact ⟨by decide, by exact_mod_cast hleaf⟩
  · rintro ⟨⟨hbasic, hext⟩, rfl⟩
    cases a with
    | basicCpuid => exact absurd rfl hbasic
    | extCpuid => exact absurd rfl hext
    | _ => rfl

end X86Array

theorem Aida64Line.mem_entries (l : Aida64Line) (a : X86Array) (i : Fin a.size) :
    (a, i.val) ∈ l.entries ↔
      l.leaf.value = a.leaf i ∧ l.subleaf.map Fin.val ∈ a.scannedSubleaves i := by
  have hi := i.isLt
  have hleaf : (a, i.val) ∈ leafEntries l.leaf.value ↔
      (a = .basicCpuid ∨ a = .extCpuid) ∧ l.leaf.value = a.leaf i := by
    unfold leafEntries
    split
    case isTrue hbasic =>
      have hlt : l.leaf.value < 32 := hbasic
      cases a <;> simp [X86Array.leaf] <;> omega
    case isFalse hbasic =>
      split
      case isTrue hext =>
        cases a <;> simp [X86Array.leaf, X86Array.size] at hi ⊢ <;> omega
      case isFalse hext =>
        cases a <;> simp [X86Array.leaf, X86Array.size] at hi ⊢ <;> omega
  have htable (k : Nat) :
      (a, i.val) ∈ ((subleafArray l.leaf.value).map fun a => (a, k)).toList ↔
        (a ≠ .basicCpuid ∧ a ≠ .extCpuid) ∧ l.leaf.value = a.leaf 0 ∧ k = i := by
    rw [Option.mem_toList, Option.map_eq_some_iff, ← and_assoc, ← X86Array.subleafArray_eq_some]
    constructor
    · rintro ⟨b, hb, heq⟩
      obtain ⟨rfl, rfl⟩ := Prod.mk.inj heq
      exact ⟨hb, rfl⟩
    · rintro ⟨hb, rfl⟩
      exact ⟨a, hb, rfl⟩
  unfold entries
  cases l.subleaf with
  | none =>
    rw [hleaf, and_comm]
    cases a <;> simp [X86Array.scannedSubleaves] <;> split <;> simp
  | some nn =>
    have hfirst : (a, i.val) ∈ (if scannedSubleaf nn = 0 then leafEntries l.leaf.value else []) ↔
        (a = .basicCpuid ∨ a = .extCpuid) ∧ l.leaf.value = a.leaf i ∧ scannedSubleaf nn = 0 := by
      rw [← and_assoc, ← hleaf]
      split <;> simp [*]
    have h8 : nn = 8 ↔ nn.val = 8 := Fin.ext_iff
    have h9 : nn = 9 ↔ nn.val = 9 := Fin.ext_iff
    rw [List.mem_append, hfirst, htable]
    unfold scannedSubleaf
    cases a with
    | basicCpuid =>
      simp [X86Array.scannedSubleaves, h8, h9]
      omega
    | extCpuid =>
      simp [X86Array.scannedSubleaves, h8, h9]
      omega
    | _ =>
      have hlt : i.val < 8 := hi.trans_le (by decide)
      simp [X86Array.scannedSubleaves, h8, h9, X86Array.leaf]
      split <;> split <;> simp <;> omega

theorem lastRegs_append (lines : List Aida64Line) (l : Aida64Line) (leaf : Nat)
    (subleaves : List (Option Nat)) : lastRegs (lines ++ [l]) leaf subleaves =
      if l.leaf.value = leaf ∧ l.subleaf.map Fin.val ∈ subleaves then l.regs
      else lastRegs lines leaf subleaves := by
  unfold lastRegs
  rw [List.filter_append]
  by_cases hl : l.leaf.value = leaf ∧ l.subleaf.map Fin.val ∈ subleaves
  · rw [List.filter_cons_of_pos (by simpa using hl), List.filter_nil, List.getLast?_concat,
      if_pos hl]
  · rw [List.filter_cons_of_neg (by simpa using hl), List.filter_nil, List.append_nil, if_neg hl]

namespace CpuRawData

variable (raw : CpuRawData)

theorem x86_setX86_of_ne {a b : X86Array} (h : b ≠ a) (v : Fin a.size → Regs) :
    (raw.setX86 a v).x86 b = raw.x86 b := by
  cases a <;> cases b <;> first | rfl | exact absurd rfl h

theorem x86_setEntry (e : X86Array × Nat) (regs : Regs) (a : X86Array) (i : Fin a.size) :
    (raw.setEntry e regs).x86 a i = if (a, i.val) = e then regs else raw.x86 a i := by
  obtain ⟨b, j⟩ := e
  unfold setEntry
  by_cases hab : a = b
  · subst hab
    by_cases hj : j < a.size
    · rw [dif_pos hj, x86_setX86, Function.update_apply]
      simp [Fin.ext_iff]
    · have hne : i.val ≠ j := fun h => hj (h ▸ i.isLt)
      rw [dif_neg hj, if_neg (by simp [hne])]
  · rw [if_neg (by simp [hab])]
    split
    · rw [x86_setX86_of_ne raw hab]
    · rfl

theorem x86_foldl_setEntry (entries : List (X86Array × Nat)) (regs : Regs) (a : X86Array)
    (i : Fin a.size) : (entries.foldl (fun raw e => raw.setEntry e regs) raw).x86 a i =
      if (a, i.val) ∈ entries then regs else raw.x86 a i := by
  induction entries generalizing raw with
  | nil => simp
  | cons e entries ih =>
    rw [List.foldl_cons, ih, x86_setEntry]
    by_cases hmem : (a, i.val) ∈ entries
    · simp [hmem]
    · simp [hmem]

/-- The registers of ARM are as in a cleared record. -/
theorem NoArm.setEntry {raw : CpuRawData} (h : raw.NoArm) (e : X86Array × Nat) (regs : Regs) :
    (raw.setEntry e regs).NoArm := by
  unfold CpuRawData.setEntry
  split
  · obtain ⟨a, j⟩ := e
    refine ⟨fun r => ?_, fun b i => ?_, fun b i => ?_⟩
    · rw [← h.arm r]
      cases a <;> cases r <;> rfl
    · rw [← h.aarch32 b i]
      cases a <;> cases b <;> rfl
    · rw [← h.aarch64 b i]
      cases a <;> cases b <;> rfl
  · exact h

theorem NoArm.fillLines {raw : CpuRawData} (h : raw.NoArm) (lines : List Aida64Line) :
    (fillLines lines raw).NoArm := by
  have hentries (entries : List (X86Array × Nat)) (regs : Regs) {raw : CpuRawData}
      (h : raw.NoArm) : (entries.foldl (fun raw e => raw.setEntry e regs) raw).NoArm := by
    induction entries generalizing raw with
    | nil => exact h
    | cons e entries ih => exact ih (h.setEntry e regs)
  induction lines generalizing raw with
  | nil => exact h
  | cons l lines ih => exact ih (hentries l.entries l.regs h)

theorem noArm_zero : CpuRawData.zero.NoArm :=
  ⟨fun r => by cases r <;> rfl, fun a i => by cases a <;> rfl, fun a i => by cases a <;> rfl⟩

theorem NoArm.eq_iff {raw raw' : CpuRawData} (h : raw.NoArm) (h' : raw'.NoArm) :
    raw = raw' ↔ ∀ a i, raw.x86 a i = raw'.x86 a i := by
  constructor
  · rintro rfl a i
    rfl
  · intro hx86
    refine eq_of_registers (fun a => funext (hx86 a)) (fun r => ?_) (fun a => ?_) (fun a => ?_)
    · rw [h.arm, h'.arm]
    · funext i
      rw [h.aarch32, h'.aarch32]
    · funext i
      rw [h.aarch64, h'.aarch64]

end CpuRawData

/-- An entry holds the last line that is stored in it. -/
theorem x86_fillLines (lines : List Aida64Line) (a : X86Array) (i : Fin a.size) :
    (fillLines lines .zero).x86 a i = lastRegs lines (a.leaf i) (a.scannedSubleaves i) := by
  induction lines using List.reverseRecOn with
  | nil => cases a <;> rfl
  | append_singleton lines l ih =>
    have hlast : fillLines (lines ++ [l]) .zero = l.fill (fillLines lines .zero) := by
      rw [fillLines, List.foldl_append]
      rfl
    rw [hlast, Aida64Line.fill, CpuRawData.x86_foldl_setEntry, lastRegs_append, ih]
    simp only [l.mem_entries a i]

namespace Aida64Section

variable (cpu : Aida64Section)

theorem x86_record (a : X86Array) (i : Fin a.size) :
    cpu.record.x86 a i = lastRegs cpu.lines (a.leaf i) (a.writtenSubleaves i) := by
  cases a <;> rfl

theorem noArm_record : cpu.record.NoArm :=
  ⟨fun r => by cases r <;> rfl, fun a i => by cases a <;> rfl, fun a i => by cases a <;> rfl⟩

theorem fillLines_eq_record_iff : cpu.record = fillLines cpu.lines .zero ↔
    ∀ (a : X86Array) (i : Fin a.size), lastRegs cpu.lines (a.leaf i) (a.writtenSubleaves i) =
      lastRegs cpu.lines (a.leaf i) (a.scannedSubleaves i) := by
  rw [cpu.noArm_record.eq_iff (CpuRawData.noArm_zero.fillLines cpu.lines)]
  simp only [x86_record, x86_fillLines]

theorem inBounds_iff : (∀ l ∈ cpu.lines, l.InBounds) ↔
    ∀ l ∈ cpu.lines, ∀ a ∈ subleafArray l.leaf.value, ∀ nn ∈ l.subleaf,
      nn = 8 ∨ nn = 9 ∨ nn.val < a.size := by
  refine forall₂_congr fun l _ => ?_
  have hleaf : ∀ e ∈ leafEntries l.leaf.value, e.2 < e.1.size := by
    unfold leafEntries
    split
    case isTrue hbasic => simpa [X86Array.size] using hbasic
    case isFalse =>
      split
      case isTrue hext => simpa [X86Array.size] using by omega
      case isFalse => simp
  unfold Aida64Line.InBounds Aida64Line.entries
  cases l.subleaf with
  | none => simpa using hleaf
  | some nn =>
    have hfirst : ∀ e ∈ (if scannedSubleaf nn = 0 then leafEntries l.leaf.value else []),
        e.2 < e.1.size := by
      split
      · exact hleaf
      · simp
    have hread (a : X86Array) : scannedSubleaf nn < a.size ↔ nn = 8 ∨ nn = 9 ∨ nn.val < a.size := by
      have hpos : 0 < a.size := by cases a <;> decide
      unfold scannedSubleaf
      split <;> grind
    simp only [List.forall_mem_append, Option.mem_toList, Option.map_eq_some_iff, Option.mem_def,
      Option.some.injEq, forall_eq']
    constructor
    · exact fun h a ha => (hread a).mp (h.2 _ ⟨a, ha, rfl⟩)
    · refine fun h => ⟨hfirst, ?_⟩
      rintro e ⟨a, ha, rfl⟩
      exact (hread a).mpr (h a ha)

theorem isHarmless_iff : cpu.IsHarmless ↔
    (∀ l ∈ cpu.lines, l.InBounds) ∧ cpu.record = fillLines cpu.lines .zero := by
  rw [cpu.inBounds_iff, cpu.fillLines_eq_record_iff]
  constructor
  · intro h
    refine ⟨h.inTable, fun a i => ?_⟩
    have htable (ha : subleafArray (a.leaf i) ≠ none) : lastRegs cpu.lines (a.leaf i) [some i.val] =
        lastRegs cpu.lines (a.leaf i)
          (if i.val = 0 then [some 0, some 8, some 9] else [some i.val]) := by
      by_cases hzero : i.val = 0
      · rw [if_pos hzero, hzero]
        exact (h.subleaf _ (by rwa [hzero] at ha)).symm
      · rw [if_neg hzero]
    cases a with
    | basicCpuid => exact (h.leaf _ (.inl i.isLt)).symm
    | extCpuid =>
      have hi : i.val < maxExtCpuidLevel := i.isLt
      exact (h.leaf _ (.inr (by simp only [X86Array.leaf]; omega))).symm
    | _ => exact htable (by simp [X86Array.leaf, subleafArray])
  · rintro ⟨htables, h⟩
    refine ⟨htables, ?_, ?_⟩
    · rintro leaf (hleaf | ⟨hle, hlt⟩)
      · exact (h .basicCpuid ⟨leaf, hleaf⟩).symm
      · have hext := h .extCpuid ⟨leaf - 0x80000000, by simp only [X86Array.size]; omega⟩
        have heq : X86Array.leaf .extCpuid (leaf - 0x80000000) = leaf := by
          simp only [X86Array.leaf]
          omega
        dsimp only at hext
        rw [heq] at hext
        exact hext.symm
    · intro leaf hleaf
      obtain ⟨a, ha⟩ := Option.ne_none_iff_exists'.mp hleaf
      obtain ⟨⟨hbasic, hext⟩, rfl⟩ := X86Array.subleafArray_eq_some.mp ha
      have hpos : 0 < a.size := by cases a <;> decide
      have hfirst := h a ⟨0, hpos⟩
      cases a with
      | basicCpuid => exact absurd rfl hbasic
      | extCpuid => exact absurd rfl hext
      | _ => exact hfirst.symm

end Aida64Section

theorem Aida64Dump.LoadsAs.isHarmless {dump : Aida64Dump}
    (h : dump.LoadsAs (dump.sections.map Aida64Section.record)) :
    ∀ cpu ∈ dump.sections, cpu.IsHarmless := by
  intro cpu hmem
  obtain ⟨hbounds, hrecords⟩ := (dump.loadsAs_iff (dump.length_lt_of_loadsAs h) _).mp h
  exact cpu.isHarmless_iff.mpr ⟨hbounds cpu hmem, List.map_inj_left.mp hrecords cpu hmem⟩

/-- A dump is read as written exactly when the array has room for its sections and each of them is
harmless. -/
theorem loadsAs_record_iff (dump : Aida64Dump) :
    dump.LoadsAs (dump.sections.map Aida64Section.record) ↔
      dump.sections.length < 2 ^ 16 ∧ ∀ cpu ∈ dump.sections, cpu.IsHarmless := by
  constructor
  · exact fun h => ⟨dump.length_lt_of_loadsAs h, h.isHarmless⟩
  · rintro ⟨hlen, h⟩
    have hboth (cpu : Aida64Section) (hmem : cpu ∈ dump.sections) :=
      cpu.isHarmless_iff.mp (h cpu hmem)
    exact (dump.loadsAs_iff hlen _).mpr
      ⟨fun cpu hmem => (hboth cpu hmem).1, List.map_inj_left.mpr fun cpu hmem => (hboth cpu hmem).2⟩

/-- A number as eight digits. -/
def HexDigits.ofBitVec (x : BitVec 32) : HexDigits 8 where
  digits := printHex 8 x.toNat
  length_eq := length_printHex (by decide) x.isLt
  digits_lt := digitValue_of_mem_printHex 8 x.toNat

/-- A dump of one logical CPU, with the sub-leaves of the leaf 0xD for the states in use and for the
protection keys. -/
def protectionKeysDump : Aida64Dump where
  versions := true
  style := .logicalCpu
  first := 0
  first_le := by decide
  sections := [⟨⟨List.replicate 16 '0', rfl, by decide⟩, [line 0x207 0x240 0, line 0x8 0xa80 9]⟩]
  sections_ne := by simp
  opens := .inl rfl
where
  line (eax ebx : BitVec 32) (nn : Fin 100) : Aida64Line :=
    ⟨.ofBitVec 0xD, .ofBitVec eax, .ofBitVec ebx, .ofBitVec 0, .ofBitVec 0, some nn⟩

/-- The sub-leaf 09 replaces the sub-leaf 00. -/
theorem not_loadsAs_record_protectionKeys :
    ¬protectionKeysDump.LoadsAs (protectionKeysDump.sections.map Aida64Section.record) := by
  intro h
  have hleaf := (h.isHarmless _ (List.mem_singleton_self _)).leaf 0xD (.inl (by decide))
  revert hleaf
  decide +kernel

end LibCpuid
