import LibCpuid.Dump.Serialize
import LibCpuid.Dump.Deserialize
import Mathlib.Data.List.Infix

/-! What the parser makes of the lines that are written: each one is read whole, is no header, and
matches the one pattern that is meant for it. -/

namespace LibCpuid

open CLang

/-- A line that stores a register and does nothing else. -/
structure IsRegisterLine (line : List Char) (register : RegisterLine) : Prop where
  isLine : IsLine lineRoom line
  ne_nil : line ≠ []
  ne_testResults : line ≠ testResultsLine
  version : sscanf (text (chars "version=") ++ [Directive.s]) line = []
  aida64 : isAida64Header line = false
  logicalCpu : scanLogicalCpu libcpuidCpuFormats line = none
  register : scanRegister line = some register

/-! ### Characters -/

/-- No character ends a line or stands in the mark of AIDA64. -/
def Plain (s : List Char) : Prop := ∀ c ∈ s, c ≠ '\x00' ∧ c ≠ '\n' ∧ c ≠ 'P'

theorem Plain.append {s t : List Char} (hs : Plain s) (ht : Plain t) : Plain (s ++ t) := by
  intro c hc
  rcases List.mem_append.mp hc with hc | hc
  · exact hs c hc
  · exact ht c hc

theorem Plain.cons {c : Char} {s : List Char} (hc : c ∈ ['[', ']', '=', ' ']) (hs : Plain s) :
    Plain (c :: s) := by
  have hmarks : ∀ c ∈ ['[', ']', '=', ' '], c ≠ '\x00' ∧ c ≠ '\n' ∧ c ≠ 'P' := by decide
  exact List.forall_mem_cons.mpr ⟨hmarks c hc, hs⟩

theorem Plain.of_digits {s : List Char} (hs : ∀ c ∈ s, digitValue c < 16) : Plain s := fun c hc =>
  ⟨ne_of_digitValue (hs c hc) (by decide), ne_of_digitValue (hs c hc) (by decide),
    ne_of_digitValue (hs c hc) (by decide)⟩

theorem plain_printHex (width n : Nat) : Plain (printHex width n) :=
  .of_digits (digitValue_of_mem_printHex width n)

theorem plain_printInt (n : Nat) : Plain (printInt n) := by
  rw [printInt_natCast]
  exact .of_digits fun c hc =>
    (digitValue_of_mem_toDigits (by decide) (by decide) n c hc).trans (by decide)

/-! ### Names -/

/-- The names of all groups of registers. -/
def dumpNames : List String :=
  x86Arrays.map X86Array.dumpName ++ armRegisters.map ArmRegister.dumpName ++
    aarch32Arrays.map AArch32Array.dumpName ++ aarch64Arrays.map AArch64Array.dumpName

/-- What the parser relies on: a name is short, begins with a letter that no other kind of line
begins with, and has no character that ends a line or stands in the mark of AIDA64. -/
theorem dumpNames_chars : ∀ name ∈ dumpNames, (chars name).length ≤ 15 ∧
    (chars name).head? ∈ [some 'b', some 'e', some 'i', some 'a'] ∧
    Plain (chars name) ∧ ∀ c ∈ chars name, isSpace c = false := by
  unfold Plain
  decide +kernel

/-- No name begins with another. -/
theorem dumpNames_apart : ∀ p ∈ dumpNames, ∀ q ∈ dumpNames, chars p <+: chars q → p = q := by
  decide +kernel

theorem X86Array.scanName_eq (a : X86Array) : a.scanName = a.dumpName := by cases a <;> rfl

theorem ArmRegister.scanName_eq (r : ArmRegister) : r.scanName = r.dumpName := by cases r <;> rfl

theorem AArch32Array.scanName_eq (a : AArch32Array) : a.scanName = a.dumpName := by
  cases a <;> rfl

theorem AArch64Array.scanName_eq (a : AArch64Array) : a.scanName = a.dumpName := by
  cases a <;> rfl

theorem mem_x86Arrays (a : X86Array) : a ∈ x86Arrays := by cases a <;> decide

theorem mem_armRegisters (r : ArmRegister) : r ∈ armRegisters := by cases r <;> decide

theorem mem_aarch32Arrays (a : AArch32Array) : a ∈ aarch32Arrays := by cases a <;> decide

theorem mem_aarch64Arrays (a : AArch64Array) : a ∈ aarch64Arrays := by cases a <;> decide

theorem X86Array.dumpName_mem (a : X86Array) : a.dumpName ∈ dumpNames := by
  simp [dumpNames, List.mem_map_of_mem (mem_x86Arrays a)]

theorem ArmRegister.dumpName_mem (r : ArmRegister) : r.dumpName ∈ dumpNames := by
  simp [dumpNames, List.mem_map_of_mem (mem_armRegisters r)]

theorem AArch32Array.dumpName_mem (a : AArch32Array) : a.dumpName ∈ dumpNames := by
  simp [dumpNames, List.mem_map_of_mem (mem_aarch32Arrays a)]

theorem AArch64Array.dumpName_mem (a : AArch64Array) : a.dumpName ∈ dumpNames := by
  simp [dumpNames, List.mem_map_of_mem (mem_aarch64Arrays a)]

/-- A pattern does not match a line with another name. -/
theorem sscanf_name_of_ne {p q : String} (hp : p ∈ dumpNames) (hq : q ∈ dumpNames) (hne : p ≠ q)
    (format : List Directive) (s : List Char) :
    sscanf (text (chars p) ++ format) (chars q ++ s) = [] :=
  sscanf_text_of_ne (fun c hc => (dumpNames_chars p hp).2.2.2 c hc)
    (fun h => hne (dumpNames_apart p hp q hq h))
    (fun h => hne (dumpNames_apart q hq p hp h).symm) format s

/-- A pattern reads past its own name. -/
theorem sscanf_name {p : String} (hp : p ∈ dumpNames) (format : List Directive) (s : List Char) :
    sscanf (text (chars p) ++ format) (chars p ++ s) = sscanf format s :=
  sscanf_text (fun c hc => (dumpNames_chars p hp).2.2.2 c hc) format s

/-! ### Patterns -/

theorem endsNumber_of_mem {c : Char} (hc : c ∈ [']', '=', ' ']) (s : List Char) :
    EndsNumber (c :: s) := by
  have : ∀ c ∈ [']', '=', ' '], digitValue c = 16 ∧ c ≠ 'x' ∧ c ≠ 'X' := by decide
  exact endsNumber_cons (this c hc) s

theorem scanX86_line (a : X86Array) {i : Nat} (hi : i < 2 ^ 31) (regs : Regs) :
    scanX86 a (x86Line a.dumpName i regs) = some ((i : Int), regs) := by
  have hx (x : BitVec 32) {rest : List Char} (hrest : EndsNumber rest) :=
    @scan_x_printHex rest hrest 32 8 x.toNat (by decide) x.isLt
  have hspace (s : List Char) : EndsNumber (' ' :: s) := endsNumber_of_mem (by decide) s
  have hedx := hx regs.edx endsNumber_nil
  rw [List.append_nil] at hedx
  unfold scanX86 x86Line
  rw [a.scanName_eq, sscanf_name a.dumpName_mem, sscanf_lit,
    sscanf_cons (scan_d_printInt (endsNumber_of_mem (by decide) _) hi), sscanf_lit, sscanf_lit,
    sscanf_cons (hx _ (hspace _)), sscanf_cons ((scan_x_space ..).trans (hx _ (hspace _))),
    sscanf_cons ((scan_x_space ..).trans (hx _ (hspace _))),
    sscanf_cons ((scan_x_space ..).trans hedx)]
  simp [sscanf, scannedRegs]

theorem scanX86_of_ne {a : X86Array} {q : String} (hq : q ∈ dumpNames) (hne : a.dumpName ≠ q)
    (s : List Char) : scanX86 a (chars q ++ s) = none := by
  unfold scanX86
  rw [a.scanName_eq, sscanf_name_of_ne a.dumpName_mem hq hne]

theorem scanArmRegister_line (r : ArmRegister) (value : BitVec 64) :
    scanArmRegister (armLine r.dumpName value) r = some (.arm r value) := by
  have hx := @scan_x_printHex [] endsNumber_nil 64 16 value.toNat (by decide) value.isLt
  rw [List.append_nil] at hx
  unfold scanArmRegister armLine
  rw [r.scanName_eq, sscanf_name r.dumpName_mem, sscanf_lit, sscanf_cons hx]
  simp [sscanf]

theorem scanArmRegister_of_ne {r : ArmRegister} {q : String} (hq : q ∈ dumpNames)
    (hne : r.dumpName ≠ q) (s : List Char) : scanArmRegister (chars q ++ s) r = none := by
  unfold scanArmRegister
  rw [r.scanName_eq, sscanf_name_of_ne r.dumpName_mem hq hne]

theorem scanAArch32Register_line (a : AArch32Array) {i : Nat} (hi : i < 2 ^ 31)
    (value : BitVec 32) :
    scanAArch32Register (armArrayLine a.dumpName 8 i value.toNat) a =
      some (.aarch32 a i value) := by
  have hx := @scan_x_printHex [] endsNumber_nil 32 8 value.toNat (by decide) value.isLt
  rw [List.append_nil] at hx
  unfold scanAArch32Register armArrayLine
  rw [a.scanName_eq, sscanf_name a.dumpName_mem,
    sscanf_cons (scan_d_printInt (endsNumber_of_mem (by decide) _) hi), sscanf_lit, sscanf_cons hx]
  simp [sscanf]

theorem scanAArch32Register_of_ne {a : AArch32Array} {q : String} (hq : q ∈ dumpNames)
    (hne : a.dumpName ≠ q) (s : List Char) : scanAArch32Register (chars q ++ s) a = none := by
  unfold scanAArch32Register
  rw [a.scanName_eq, sscanf_name_of_ne a.dumpName_mem hq hne]

theorem scanAArch64Register_line (a : AArch64Array) {i : Nat} (hi : i < 2 ^ 31)
    (value : BitVec 64) :
    scanAArch64Register (armArrayLine a.dumpName 16 i value.toNat) a =
      some (.aarch64 a i value) := by
  have hx := @scan_x_printHex [] endsNumber_nil 64 16 value.toNat (by decide) value.isLt
  rw [List.append_nil] at hx
  unfold scanAArch64Register armArrayLine
  rw [a.scanName_eq, sscanf_name a.dumpName_mem,
    sscanf_cons (scan_d_printInt (endsNumber_of_mem (by decide) _) hi), sscanf_lit, sscanf_cons hx]
  simp [sscanf]

theorem scanAArch64Register_of_ne {a : AArch64Array} {q : String} (hq : q ∈ dumpNames)
    (hne : a.dumpName ≠ q) (s : List Char) : scanAArch64Register (chars q ++ s) a = none := by
  unfold scanAArch64Register
  rw [a.scanName_eq, sscanf_name_of_ne a.dumpName_mem hq hne]

/-! ### The first pattern that matches -/

theorem findSome?_of_unique {α β : Type} {f : α → Option β} {l : List α} {a : α} {b : β}
    (ha : a ∈ l) (hf : f a = some b) (hne : ∀ a' ∈ l, a' ≠ a → f a' = none) :
    l.findSome? f = some b := by
  induction l with
  | nil => cases ha
  | cons a' l ih =>
    by_cases h : a' = a
    · rw [List.findSome?_cons, h, hf]
    · rw [List.findSome?_cons, hne a' (List.mem_cons_self ..) h]
      exact ih ((List.mem_cons.mp ha).resolve_left (Ne.symm h)) fun a'' ha'' =>
        hne a'' (List.mem_cons_of_mem _ ha'')

section Other

variable {q : String} (hq : q ∈ dumpNames) (s : List Char)
include hq

theorem findSome?_x86_of_ne (hne : ∀ a : X86Array, a.dumpName ≠ q) :
    x86Arrays.findSome? (scanX86Register (chars q ++ s)) = none := by
  rw [List.findSome?_eq_none_iff]
  intro a _
  rw [scanX86Register, scanX86_of_ne hq (hne a)]

theorem findSome?_arm_of_ne (hne : ∀ r : ArmRegister, r.dumpName ≠ q) :
    armRegisters.findSome? (scanArmRegister (chars q ++ s)) = none := by
  rw [List.findSome?_eq_none_iff]
  exact fun r _ => scanArmRegister_of_ne hq (hne r) s

theorem findSome?_aarch32_of_ne (hne : ∀ a : AArch32Array, a.dumpName ≠ q) :
    aarch32Arrays.findSome? (scanAArch32Register (chars q ++ s)) = none := by
  rw [List.findSome?_eq_none_iff]
  exact fun a _ => scanAArch32Register_of_ne hq (hne a) s

end Other

theorem scanRegister_x86Line (a : X86Array) (i : Fin a.size) (regs : Regs) :
    scanRegister (x86Line a.dumpName i regs) = some (.x86 a i regs) := by
  have hsize : a.size < 2 ^ 31 := by cases a <;> decide
  have hscan := scanX86_line a (i.isLt.trans hsize) regs
  have hfind : x86Arrays.findSome? (scanX86Register (x86Line a.dumpName i regs)) =
      some (.x86 a i regs) := by
    refine findSome?_of_unique (mem_x86Arrays a) ?_ fun b _ hb => ?_
    · rw [scanX86Register, hscan]
      dsimp only
      rw [if_pos ⟨by omega, by exact_mod_cast i.isLt⟩]
    · have hne : b.dumpName ≠ a.dumpName := by
        revert hb
        cases a <;> cases b <;> decide
      rw [scanX86Register, x86Line, scanX86_of_ne a.dumpName_mem hne]
  rw [scanRegister, hfind, Option.some_or]

theorem scanRegister_armLine (r : ArmRegister) (value : BitVec 64) :
    scanRegister (armLine r.dumpName value) = some (.arm r value) := by
  have hx86 (a : X86Array) : a.dumpName ≠ r.dumpName := by cases a <;> cases r <;> decide
  have hfind : armRegisters.findSome? (scanArmRegister (armLine r.dumpName value)) =
      some (.arm r value) := by
    refine findSome?_of_unique (mem_armRegisters r) (scanArmRegister_line r value)
      fun r' _ hr => ?_
    have hne : r'.dumpName ≠ r.dumpName := by
      revert hr
      cases r <;> cases r' <;> decide
    exact scanArmRegister_of_ne r.dumpName_mem hne _
  rw [scanRegister, hfind, armLine, findSome?_x86_of_ne r.dumpName_mem _ hx86, Option.none_or,
    Option.some_or]

theorem scanRegister_aarch32Line (a : AArch32Array) (i : Fin a.size) (value : BitVec 32) :
    scanRegister (armArrayLine a.dumpName 8 i value.toNat) = some (.aarch32 a i value) := by
  have hsize : a.size < 2 ^ 31 := by cases a <;> decide
  have hx86 (b : X86Array) : b.dumpName ≠ a.dumpName := by cases a <;> cases b <;> decide
  have harm (r : ArmRegister) : r.dumpName ≠ a.dumpName := by cases a <;> cases r <;> decide
  have hfind : aarch32Arrays.findSome?
      (scanAArch32Register (armArrayLine a.dumpName 8 i value.toNat)) =
        some (.aarch32 a i value) := by
    refine findSome?_of_unique (mem_aarch32Arrays a)
      (scanAArch32Register_line a (i.isLt.trans hsize) value) fun b _ hb => ?_
    have hne : b.dumpName ≠ a.dumpName := by
      revert hb
      cases a <;> cases b <;> decide
    exact scanAArch32Register_of_ne a.dumpName_mem hne _
  rw [scanRegister, hfind, armArrayLine, findSome?_x86_of_ne a.dumpName_mem _ hx86,
    findSome?_arm_of_ne a.dumpName_mem _ harm, Option.none_or, Option.none_or, Option.some_or]

theorem scanRegister_aarch64Line (a : AArch64Array) (i : Fin a.size) (value : BitVec 64) :
    scanRegister (armArrayLine a.dumpName 16 i value.toNat) = some (.aarch64 a i value) := by
  have hsize : a.size < 2 ^ 31 := by cases a <;> decide
  have hx86 (b : X86Array) : b.dumpName ≠ a.dumpName := by cases a <;> cases b <;> decide
  have harm (r : ArmRegister) : r.dumpName ≠ a.dumpName := by cases a <;> cases r <;> decide
  have h32 (b : AArch32Array) : b.dumpName ≠ a.dumpName := by cases a <;> cases b <;> decide
  have hfind : aarch64Arrays.findSome?
      (scanAArch64Register (armArrayLine a.dumpName 16 i value.toNat)) =
        some (.aarch64 a i value) := by
    refine findSome?_of_unique (mem_aarch64Arrays a)
      (scanAArch64Register_line a (i.isLt.trans hsize) value) fun b _ hb => ?_
    have hne : b.dumpName ≠ a.dumpName := by
      revert hb
      cases a <;> cases b <;> decide
    exact scanAArch64Register_of_ne a.dumpName_mem hne _
  rw [scanRegister, hfind, armArrayLine, findSome?_x86_of_ne a.dumpName_mem _ hx86,
    findSome?_arm_of_ne a.dumpName_mem _ harm, findSome?_aarch32_of_ne a.dumpName_mem _ h32,
    Option.none_or, Option.none_or, Option.none_or]

/-! ### Lines of registers -/

theorem strstr_eq_false {haystack needle : List Char} {c : Char} (hc : c ∈ needle)
    (hnot : c ∉ haystack) : strstr haystack needle = false := by
  rw [strstr, List.any_eq_false]
  intro tail htail hfirst
  have hsub : needle ⊆ tail := (List.isPrefixOf_iff_prefix.mp hfirst).subset
  exact hnot (((List.mem_tails _ _).mp htail).subset (hsub hc))

/-- What begins a line that is none of registers. -/
theorem head_otherLines : (chars "version=").head? = some 'v' ∧
    (chars "_________________ Logical CPU #").head? = some '_' ∧
    testResultsLine.head? = some '-' := by decide +kernel

/-- A line that begins with the letter of a register is no header of AIDA64. -/
theorem isAida64Header_eq_false {line : List Char}
    (hhead : line.head? ∈ [some 'b', some 'e', some 'i', some 'a']) (hplain : Plain line) :
    isAida64Header line = false := by
  have hheads : ∀ header ∈ [chars "------[ Versions ]------",
      chars "------[ Logical CPU #0 ]------",
      chars "------[ CPUID Registers / Logical CPU #0 ]------",
      chars "CPUID Registers (CPU #1):"],
      header.head? ∉ [some 'b', some 'e', some 'i', some 'a'] := by simp [chars]
  have hne : ∀ header ∈ [chars "------[ Versions ]------",
      chars "------[ Logical CPU #0 ]------",
      chars "------[ CPUID Registers / Logical CPU #0 ]------",
      chars "CPUID Registers (CPU #1):"], line ≠ header := by
    rintro header hmem rfl
    exact hheads _ hmem hhead
  have hstrstr : strstr line (chars "CPU#000 AffMask: 0x") = false :=
    strstr_eq_false (c := 'P') (by simp [chars]) fun hmem => (hplain 'P' hmem).2.2 rfl
  simp only [List.forall_mem_cons] at hne
  simp only [isAida64Header, hne, hstrstr, decide_false, Bool.or_self]

/-- A name and what stands behind it make a line that only stores a register. -/
theorem isRegisterLine_of_name {name : String} (hname : name ∈ dumpNames) {s : List Char}
    (hlen : s.length ≤ 50) (hs : Plain s) {register : RegisterLine}
    (hregister : scanRegister (chars name ++ s) = some register) :
    IsRegisterLine (chars name ++ s) register := by
  obtain ⟨hshort, hhead, hplain, -⟩ := dumpNames_chars name hname
  have hall := hplain.append hs
  have hline : IsLine lineRoom (chars name ++ s) := by
    refine ⟨?_, fun c hc => ⟨(hall c hc).1, (hall c hc).2.1⟩⟩
    rw [List.length_append, lineRoom]
    omega
  -- the first letter tells the line from those of other kinds
  have hfirst : (chars name ++ s).head? ∈ [some 'b', some 'e', some 'i', some 'a'] := by
    rw [List.head?_append, Option.or_of_isSome]
    · exact hhead
    · revert hhead
      cases (chars name).head? with
      | none => decide
      | some c => exact fun _ => rfl
  have hne : ∀ c ∈ ['v', '_', '-'], (chars name ++ s).head? ≠ some c := by
    have hletters : ∀ c ∈ ['v', '_', '-'], some c ∉ [some 'b', some 'e', some 'i', some 'a'] := by
      decide
    intro c hc heq
    rw [heq] at hfirst
    exact hletters c hc hfirst
  obtain ⟨hv, hcpu, hend⟩ := head_otherLines
  refine ⟨hline, ?_, ?_, ?_, isAida64Header_eq_false hfirst hall, ?_, hregister⟩
  · intro hnil
    rw [hnil] at hfirst
    revert hfirst
    decide
  · intro heq
    rw [heq] at hne
    exact hne '-' (by decide) hend
  · exact sscanf_text_of_head hv (by decide) (hne 'v' (by decide)) _
  · rw [scanLogicalCpu, libcpuidCpuFormats, List.findSome?_cons,
      sscanf_text_of_head hcpu (by decide) (hne '_' (by decide))]
    rfl

theorem isRegisterLine_x86Line (a : X86Array) (i : Fin a.size) (regs : Regs) :
    IsRegisterLine (x86Line a.dumpName i regs) (.x86 a i regs) := by
  have hsize : a.size < 10 ^ 2 := by cases a <;> decide
  have hi : (printInt (i : Nat)).length ≤ 2 := length_printInt_le (by decide) (i.isLt.trans hsize)
  have hx (x : BitVec 32) : (printHex 8 x.toNat).length = 8 :=
    length_printHex (by decide) x.isLt
  refine isRegisterLine_of_name a.dumpName_mem ?_ ?_ (scanRegister_x86Line a i regs)
  · simp only [List.length_cons, List.length_append, hx]
    omega
  · refine .cons (by decide) ((plain_printInt i).append ?_)
    refine .cons (by decide) (.cons (by decide) ((plain_printHex _ _).append ?_))
    refine .cons (by decide) ((plain_printHex _ _).append ?_)
    refine .cons (by decide) ((plain_printHex _ _).append ?_)
    exact .cons (by decide) (plain_printHex _ _)

theorem isRegisterLine_armLine (r : ArmRegister) (value : BitVec 64) :
    IsRegisterLine (armLine r.dumpName value) (.arm r value) := by
  have hx : (printHex 16 value.toNat).length = 16 := length_printHex (by decide) value.isLt
  refine isRegisterLine_of_name r.dumpName_mem ?_ ?_ (scanRegister_armLine r value)
  · rw [List.length_cons, hx]
    decide
  · exact .cons (by decide) (plain_printHex _ _)

theorem isRegisterLine_aarch32Line (a : AArch32Array) (i : Fin a.size) (value : BitVec 32) :
    IsRegisterLine (armArrayLine a.dumpName 8 i value.toNat) (.aarch32 a i value) := by
  have hsize : a.size < 10 ^ 2 := by cases a <;> decide
  have hi : (printInt (i : Nat)).length ≤ 2 := length_printInt_le (by decide) (i.isLt.trans hsize)
  have hx : (printHex 8 value.toNat).length = 8 := length_printHex (by decide) value.isLt
  refine isRegisterLine_of_name a.dumpName_mem ?_ ?_ (scanRegister_aarch32Line a i value)
  · rw [List.length_append, List.length_cons, hx]
    omega
  · exact (plain_printInt i).append (.cons (by decide) (plain_printHex _ _))

theorem isRegisterLine_aarch64Line (a : AArch64Array) (i : Fin a.size) (value : BitVec 64) :
    IsRegisterLine (armArrayLine a.dumpName 16 i value.toNat) (.aarch64 a i value) := by
  have hsize : a.size < 10 ^ 2 := by cases a <;> decide
  have hi : (printInt (i : Nat)).length ≤ 2 := length_printInt_le (by decide) (i.isLt.trans hsize)
  have hx : (printHex 16 value.toNat).length = 16 := length_printHex (by decide) value.isLt
  refine isRegisterLine_of_name a.dumpName_mem ?_ ?_ (scanRegister_aarch64Line a i value)
  · rw [List.length_append, List.length_cons, hx]
    omega
  · exact (plain_printInt i).append (.cons (by decide) (plain_printHex _ _))

end LibCpuid
