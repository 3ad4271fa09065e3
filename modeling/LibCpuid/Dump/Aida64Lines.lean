import LibCpuid.Dump.RoundTrip

/-! The text of a dump of AIDA64, and what the parser makes of its lines. -/

namespace LibCpuid

open CLang

/-! ### Text -/

/-- `n` hexadecimal digits, of either case. -/
structure HexDigits (n : Nat) where
  digits : List Char
  length_eq : digits.length = n
  digits_lt : ∀ c ∈ digits, digitValue c < 16

def HexDigits.value {n : Nat} (d : HexDigits n) : Nat := digitsValue 16 d.digits

/-- A line `CPUID aaaaaaaa: eax-ebx-ecx-edx`, and the number of the suffix ` [SL nn]` when there is
one. -/
structure Aida64Line where
  leaf : HexDigits 8
  eax : HexDigits 8
  ebx : HexDigits 8
  ecx : HexDigits 8
  edx : HexDigits 8
  subleaf : Option (Fin 100)

/-- The suffix of a line. -/
def subleafText : Option (Fin 100) → List Char
  | none => []
  | some nn => chars " [SL " ++ [Nat.digitChar (nn / 10), Nat.digitChar (nn % 10), ']']

namespace Aida64Line

variable (l : Aida64Line)

def regs : Regs :=
  ⟨.ofNat 32 l.eax.value, .ofNat 32 l.ebx.value, .ofNat 32 l.ecx.value, .ofNat 32 l.edx.value⟩

def text : List Char :=
  chars "CPUID " ++ (l.leaf.digits ++ (chars ": " ++ (l.eax.digits ++ '-' :: (l.ebx.digits ++
    '-' :: (l.ecx.digits ++ '-' :: (l.edx.digits ++ subleafText l.subleaf))))))

end Aida64Line

/-- The ways to announce a logical CPU. -/
inductive Aida64Style
  | logicalCpu | cpuidRegisters | cpu | affMask
  deriving DecidableEq

/-- The part of a dump for a logical CPU.  One of the styles prints the affinity mask. -/
structure Aida64Section where
  affMask : HexDigits 16
  lines : List Aida64Line

/-- What stands before the number of a logical CPU. -/
def Aida64Style.words : Aida64Style → String
  | .logicalCpu => "------[ Logical CPU #"
  | .cpuidRegisters => "------[ CPUID Registers / Logical CPU #"
  | .cpu => "CPUID Registers (CPU #"
  | .affMask => "CPU#"

/-- The line that announces the logical CPU with number `n`. -/
def Aida64Style.header (style : Aida64Style) (n : Nat) (affMask : HexDigits 16) : List Char :=
  chars style.words ++
    match style with
    | .logicalCpu | .cpuidRegisters => printInt n ++ chars " ]------"
    | .cpu => printInt n ++ chars "):"
    | .affMask => (printInt n).leftpad 3 '0' ++ (chars " AffMask: 0x" ++ affMask.digits)

/-- The lines of the logical CPUs from number `n` on. -/
def sectionLines (style : Aida64Style) : Nat → List Aida64Section → List (List Char)
  | _, [] => []
  | n, cpu :: rest =>
    style.header n cpu.affMask :: (cpu.lines.map Aida64Line.text ++ sectionLines style (n + 1) rest)

/-- The line that begins most of the dumps. -/
def versionsLine : List Char := chars "------[ Versions ]------"

/-- A dump whose first line is one that such dumps are recognized by. -/
structure Aida64Dump where
  versions : Bool
  style : Aida64Style
  first : Nat
  first_le : first ≤ 1
  sections : List Aida64Section
  sections_ne : sections ≠ []
  opens : versions = true ∨ first = if style = .cpu then 1 else 0

namespace Aida64Dump

variable (dump : Aida64Dump)

def lines : List (List Char) :=
  (if dump.versions then [versionsLine] else []) ++
    sectionLines dump.style dump.first dump.sections

def text : List Char := unlines dump.lines

end Aida64Dump

/-! ### What a line stores -/

instance subleaf_neZero : NeZero 100 := ⟨by decide⟩

/-- The number that `%02i` reads: `08` and `09` are octal numbers that end before their second
digit. -/
def scannedSubleaf (nn : Fin 100) : Nat := if nn = 8 ∨ nn = 9 then 0 else nn

/-- The entry for a leaf without sub-leaves. -/
def leafEntries (leaf : Nat) : List (X86Array × Nat) :=
  if leaf < maxCpuidLevel then [(.basicCpuid, leaf)]
  else if 0x80000000 ≤ leaf ∧ leaf < 0x80000000 + maxExtCpuidLevel then
    [(.extCpuid, leaf - 0x80000000)]
  else []

namespace Aida64Line

variable (l : Aida64Line)

/-- The entries that a line is stored in. -/
def entries : List (X86Array × Nat) :=
  match l.subleaf with
  | none => leafEntries l.leaf.value
  | some nn => (if scannedSubleaf nn = 0 then leafEntries l.leaf.value else []) ++
      ((subleafArray l.leaf.value).map fun a => (a, scannedSubleaf nn)).toList

end Aida64Line

theorem leafStore_natCast (leaf : Nat) (regs : Regs) : (leafStore leaf regs).toList =
    (leafEntries leaf).map fun e => .x86 e.1 e.2 regs := by
  unfold leafStore leafEntries
  by_cases hbasic : leaf < maxCpuidLevel
  · rw [if_pos (by exact_mod_cast hbasic), if_pos hbasic]
    rfl
  · rw [if_neg (by exact_mod_cast hbasic), if_neg hbasic]
    by_cases hext : 0x80000000 ≤ leaf ∧ leaf < 0x80000000 + maxExtCpuidLevel
    · rw [if_pos (by omega), if_pos hext]
      show [RegisterLine.x86 .extCpuid ((leaf : Int) - 0x80000000) regs] =
        [.x86 .extCpuid ((leaf - 0x80000000 : Nat) : Int) regs]
      rw [Nat.cast_sub hext.1]
      rfl
    · rw [if_neg (by omega), if_neg hext]
      rfl

/-! ### Scanning a line -/

section Scan

variable {n : Nat} (d : HexDigits n)

theorem HexDigits.digits_ne (hn : 0 < n) : d.digits ≠ [] := by
  intro hnil
  have := d.length_eq
  rw [hnil, List.length_nil] at this
  omega

theorem HexDigits.value_lt : d.value < 16 ^ n := by
  have := digitsValue_lt d.digits_lt
  rwa [d.length_eq] at this

theorem HexDigits.isPlain : ∀ c ∈ d.digits, c ≠ '\x00' ∧ c ≠ '\n' := fun c hc =>
  ⟨ne_of_digitValue (d.digits_lt c hc) (by decide), ne_of_digitValue (d.digits_lt c hc) (by decide)⟩

theorem HexDigits.dropWhile_isSpace (hn : 0 < n) (s : List Char) :
    (d.digits ++ s).dropWhile isSpace = d.digits ++ s :=
  dropWhile_isSpace_of_digit (d.digits_ne hn) d.digits_lt

theorem HexDigits.scan_x (d : HexDigits 8) {rest : List Char} (hrest : EndsNumber rest) :
    (Directive.x 32).scan (d.digits ++ rest) = some ([.int d.value], rest) :=
  scan_x_digits hrest (d.digits_ne (by decide)) d.digits_lt (by decide)
    (d.value_lt.trans_le (by decide))

/-- The number of a sub-leaf, and what `%02i` leaves of it. -/
theorem scan_i_subleaf : ∀ nn : Fin 100, ∃ rest, (Directive.i 2).scan
    [Nat.digitChar (nn / 10), Nat.digitChar (nn % 10), ']'] =
      some ([.int (scannedSubleaf nn)], rest) := by
  have hscan : ∀ nn : Fin 100, (Directive.i 2).scan
      [Nat.digitChar (nn / 10), Nat.digitChar (nn % 10), ']'] =
        some ([.int (scannedSubleaf nn)],
          if nn = 8 ∨ nn = 9 then [Nat.digitChar nn, ']'] else [']']) := by decide
  exact fun nn => ⟨_, hscan nn⟩

end Scan

theorem dropWhile_isSpace_cons {c : Char} (hc : isSpace c = false) (s : List Char) :
    (c :: s).dropWhile isSpace = c :: s := List.dropWhile_cons_of_neg (by simp [hc])

theorem isSpace_digitChar {d : Nat} (hd : d < 16) : isSpace (Nat.digitChar d) = false := by
  revert d
  decide

/-- The suffix assigns its number. -/
theorem sscanf_subleafText (subleaf : Option (Fin 100)) :
    sscanf (CLang.text (chars " [SL ") ++ [.i 2, .lit ']']) (subleafText subleaf) =
      (subleaf.map fun nn => ScanArg.int (scannedSubleaf nn)).toList := by
  cases subleaf with
  | none => decide +kernel
  | some nn =>
    obtain ⟨rest, hscan⟩ := scan_i_subleaf nn
    have hdigit : isSpace (Nat.digitChar (nn / 10)) = false := isSpace_digitChar (by omega)
    rw [subleafText,
      sscanf_spaced (by simp [chars, spacedOut, isSpace]) (dropWhile_isSpace_cons hdigit _),
      sscanf_cons hscan]
    exact congrArg _ (sscanf_text_nil [']'] rest)

theorem endsNumber_subleafText (subleaf : Option (Fin 100)) : EndsNumber (subleafText subleaf) := by
  cases subleaf with
  | none => exact endsNumber_nil
  | some nn =>
    have hhead : (chars " [SL ").head? = some ' ' := by simp [chars]
    obtain ⟨s, hs⟩ := List.head?_eq_some_iff.mp hhead
    rw [subleafText, hs]
    exact endsNumber_cons (by decide) _

namespace Aida64Line

variable (l : Aida64Line)

/-- What the pattern with a colon assigns. -/
theorem sscanf_text_eq : sscanf (aida64Format ": ") l.text =
    [.int l.leaf.value, .int l.eax.value, .int l.ebx.value, .int l.ecx.value, .int l.edx.value] ++
      (l.subleaf.map fun nn => ScanArg.int (scannedSubleaf nn)).toList := by
  have hskip (d : HexDigits 8) := d.dropWhile_isSpace (by decide)
  have hdash (s : List Char) : EndsNumber ('-' :: s) := endsNumber_cons (by decide) s
  have hcolon (s : List Char) : EndsNumber (chars ": " ++ s) := by
    have hhead : (chars ": ").head? = some ':' := by simp [chars]
    obtain ⟨t, ht⟩ := List.head?_eq_some_iff.mp hhead
    rw [ht]
    exact endsNumber_cons (by decide) _
  unfold aida64Format text
  rw [sscanf_spaced (by simp [chars, spacedOut, isSpace]) (hskip l.leaf _),
    sscanf_cons (l.leaf.scan_x (hcolon _)),
    sscanf_spaced (by simp [chars, spacedOut, isSpace]) (hskip l.eax _),
    sscanf_cons (l.eax.scan_x (hdash _)), sscanf_lit,
    sscanf_cons (l.ebx.scan_x (hdash _)), sscanf_lit,
    sscanf_cons (l.ecx.scan_x (hdash _)), sscanf_lit,
    sscanf_cons (l.edx.scan_x (endsNumber_subleafText _)), sscanf_subleafText]
  rfl

theorem aida64Stores_text : aida64Stores l.text =
    l.entries.map fun e => .x86 e.1 e.2 l.regs := by
  have hregs : scannedRegs l.eax.value l.ebx.value l.ecx.value l.edx.value = l.regs := by
    simp [scannedRegs, regs]
  unfold aida64Stores entries
  rw [l.sscanf_text_eq]
  cases l.subleaf with
  | none =>
    show (leafStore l.leaf.value (scannedRegs _ _ _ _)).toList = _
    rw [hregs, leafStore_natCast]
  | some nn =>
    show (if (scannedSubleaf nn : Int) = 0 then (leafStore l.leaf.value (scannedRegs _ _ _ _)).toList
      else []) ++ _ = _
    rw [hregs, leafStore_natCast]
    dsimp only
    rw [List.map_append]
    refine congrArg₂ _ ?_ ?_
    · by_cases hzero : scannedSubleaf nn = 0
      · rw [if_pos hzero, if_pos (by exact_mod_cast hzero)]
      · rw [if_neg hzero, if_neg (by exact_mod_cast hzero)]
        rfl
    · cases subleafArray l.leaf.value <;> rfl

/-! ### Lines that the loop reads -/

theorem head_text : l.text.head? = some 'C' := by
  have hhead : (chars "CPUID ").head? = some 'C' := by simp [chars]
  rw [text, List.head?_append, hhead, Option.some_or]

theorem isLine_text : IsLine lineRoom l.text := by
  have hwords : ∀ p ∈ [chars "CPUID ", chars ": ", chars " [SL "],
      p.length ≤ 6 ∧ ∀ c ∈ p, c ≠ '\x00' ∧ c ≠ '\n' := by simp [chars]
  simp only [List.forall_mem_cons] at hwords
  obtain ⟨⟨hlen1, hplain1⟩, ⟨hlen2, hplain2⟩, ⟨hlen3, hplain3⟩, -⟩ := hwords
  have hdash : '-' ≠ '\x00' ∧ '-' ≠ '\n' := by decide
  have hsuffix : (subleafText l.subleaf).length ≤ 9 ∧
      ∀ c ∈ subleafText l.subleaf, c ≠ '\x00' ∧ c ≠ '\n' := by
    cases l.subleaf with
    | none => simp [subleafText]
    | some nn =>
      have hdigits : ∀ d < 10, Nat.digitChar d ≠ '\x00' ∧ Nat.digitChar d ≠ '\n' := by decide
      have hclose : ']' ≠ '\x00' ∧ ']' ≠ '\n' := by decide
      refine ⟨?_, ?_⟩
      · rw [subleafText, List.length_append]
        exact Nat.add_le_add_right hlen3 3
      · rw [subleafText]
        simp only [List.forall_mem_append, List.forall_mem_cons]
        exact ⟨hplain3, hdigits _ (by omega), hdigits _ (by omega), hclose, by simp⟩
  constructor
  · simp only [text, List.length_append, List.length_cons, HexDigits.length_eq, lineRoom]
    omega
  · simp only [text, List.forall_mem_append, List.forall_mem_cons]
    exact ⟨hplain1, l.leaf.isPlain, hplain2, l.eax.isPlain, hdash, l.ebx.isPlain, hdash,
      l.ecx.isPlain, hdash, l.edx.isPlain, hsuffix.2⟩

/-- No pattern announces a logical CPU with such a line. -/
theorem scanLogicalCpu_text : scanLogicalCpu aida64CpuFormats l.text = none := by
  have hhead {p : List Char} (hp : p.head? = some '-') (format : List Directive) :
      sscanf (CLang.text p ++ format) l.text = [] :=
    sscanf_text_of_head hp (by decide) (by rw [l.head_text]; decide) format
  have hregisters : chars "CPUID Registers (CPU #" = chars "CPUID " ++ chars "Registers (CPU #" := by
    simp [chars]
  have hdigits : (l.leaf.digits ++ (chars ": " ++ (l.eax.digits ++ '-' :: (l.ebx.digits ++
      '-' :: (l.ecx.digits ++ '-' :: (l.edx.digits ++ subleafText l.subleaf)))))).head? ≠
        some 'R' := by
    obtain ⟨c, ds, hds⟩ := List.exists_cons_of_ne_nil (l.leaf.digits_ne (by decide))
    have hc := l.leaf.digits_lt c (by simp [hds])
    rw [hds]
    exact fun h => ne_of_digitValue hc (by decide) (Option.some.inj h)
  have hskip := l.leaf.dropWhile_isSpace (by decide)
  have h3 (format : List Directive) :
      sscanf (CLang.text (chars "CPUID Registers (CPU #") ++ format) l.text = [] := by
    rw [hregisters, CLang.text, List.map_append, List.append_assoc, text]
    refine (sscanf_spaced (by simp [chars, spacedOut, isSpace]) (hskip _) _).trans ?_
    exact sscanf_text_of_head (by simp [chars]) (by decide) hdigits format
  have h4 (format : List Directive) : sscanf (CLang.text (chars "CPU#") ++ format) l.text = [] :=
    sscanf_text_of_ne (by simp [chars, isSpace]) (by simp [chars]) (by simp [chars]) format _
  rw [scanLogicalCpu, aida64CpuFormats, List.findSome?_cons, hhead (by simp [chars]),
    List.findSome?_cons, hhead (by simp [chars]), List.findSome?_cons, h3, List.findSome?_cons, h4]
  rfl

end Aida64Line

/-! ### Headers -/

/-- A pattern with a decimal number, on its own words. -/
theorem sscanf_hu {p ds rest : List Char} (hp : spacedOut p = true) (hne : ds ≠ [])
    (hds : ∀ c ∈ ds, digitValue c < 10) (hlt : digitsValue 10 ds < 2 ^ 16) (hrest : EndsNumber rest)
    {format : List Directive} (hformat : ∀ s, sscanf format s = []) :
    sscanf (text p ++ .hu :: format) (p ++ (ds ++ rest)) = [.int (digitsValue 10 ds)] := by
  rw [sscanf_spacedOut hp, sscanf_cons (scan_hu_digits hrest hne hds hlt), hformat]
  rfl

theorem scanLogicalCpu_of_nil {format : List Directive} {formats : List (List Directive)}
    {line : List Char} (h : sscanf format line = []) :
    scanLogicalCpu (format :: formats) line = scanLogicalCpu formats line := by
  rw [scanLogicalCpu, List.findSome?_cons, h]
  rfl

namespace Aida64Style

variable (style : Aida64Style) (affMask : HexDigits 16)

/-- The number of a header reads back. -/
theorem scanLogicalCpu_header {n : Nat} (hn : n < 2 ^ 16) :
    scanLogicalCpu aida64CpuFormats (style.header n affMask) = some (.ofNat 16 n) := by
  have hdigits : ∀ c ∈ printInt n, digitValue c < 10 := by
    rw [printInt_natCast]
    exact digitValue_of_mem_toDigits (by decide) (by decide) n
  have hvalue : digitsValue 10 (printInt n) = n := by
    rw [printInt_natCast]
    exact digitsValue_toDigits (by decide) (by decide) n
  have hne : printInt n ≠ [] := by
    rw [printInt_natCast]
    exact Nat.toDigits_ne_nil
  have hend {p : List Char} (hp : p.head? = some ' ' ∨ p.head? = some ')') (s : List Char) :
      EndsNumber (p ++ s) := by
    rcases hp with hp | hp
    all_goals
      obtain ⟨p, rfl⟩ := List.head?_eq_some_iff.mp hp
      exact endsNumber_cons (by decide) _
  have hscan {p rest : List Char} (hp : spacedOut p = true) (hrest : EndsNumber rest)
      {format : List Directive} (hformat : ∀ s, sscanf format s = []) :
      sscanf (text p ++ .hu :: format) (p ++ (printInt n ++ rest)) = [.int n] := by
    rw [sscanf_hu hp hne hdigits (by rwa [hvalue]) hrest hformat, hvalue]
  have hclose := hend (.inl (by simp [chars] : (chars " ]------").head? = some ' ')) []
  have hparen := hend (.inr (by simp [chars] : (chars "):").head? = some ')')) []
  rw [List.append_nil] at hclose hparen
  -- the first two patterns begin with a dash, the others with a letter
  have hdash {p q : List Char} (hp : p.head? = some '-') (hq : q.head? = some 'C') (s : List Char)
      (format : List Directive) : sscanf (text p ++ format) (q ++ s) = [] := by
    refine sscanf_text_of_head hp (by decide) ?_ format
    rw [List.head?_append, hq, Option.some_or]
    decide
  unfold aida64CpuFormats header
  cases style with
  | logicalCpu =>
    dsimp only [words]
    rw [scanLogicalCpu_of_sscanf
      (hscan (by simp [chars, spacedOut, isSpace]) hclose (sscanf_text_nil _))]
  | cpuidRegisters =>
    have hformat : chars "------[ Logical CPU #" = chars "------[ " ++ chars "Logical CPU #" := by
      simp [chars]
    have hline : chars "------[ CPUID Registers / Logical CPU #" =
        chars "------[ " ++ 'C' :: chars "PUID Registers / Logical CPU #" := by simp [chars]
    have hfirst (s : List Char) (format : List Directive) :
        sscanf (text (chars "------[ Logical CPU #") ++ format)
          (chars "------[ CPUID Registers / Logical CPU #" ++ s) = [] := by
      rw [hformat, hline, text, List.map_append, List.append_assoc, List.append_assoc]
      refine (sscanf_spaced (by simp [chars, spacedOut, isSpace])
        (dropWhile_isSpace_cons (by decide) _) _).trans ?_
      exact sscanf_text_of_head (c := 'L') (by simp [chars]) (by decide) (by simp) format
    dsimp only [words]
    rw [scanLogicalCpu_of_nil (hfirst _ _), scanLogicalCpu_of_sscanf
      (hscan (by simp [chars, spacedOut, isSpace]) hclose (sscanf_text_nil _))]
  | cpu =>
    dsimp only [words]
    rw [scanLogicalCpu_of_nil (hdash (by simp [chars]) (by simp [chars]) _ _),
      scanLogicalCpu_of_nil (hdash (by simp [chars]) (by simp [chars]) _ _),
      scanLogicalCpu_of_sscanf (hscan (by simp [chars, spacedOut, isSpace]) hparen fun _ => rfl)]
  | affMask =>
    have hformat : chars "CPUID Registers (CPU #" = chars "CPU" ++ chars "ID Registers (CPU #" := by
      simp [chars]
    have hline : chars "CPU#" = chars "CPU" ++ ['#'] := by simp [chars]
    have hthird (s : List Char) (format : List Directive) :
        sscanf (text (chars "CPUID Registers (CPU #") ++ format) (chars "CPU#" ++ s) = [] := by
      rw [hformat, hline, text, List.map_append, List.append_assoc, List.append_assoc]
      refine (sscanf_text (by simp [chars, isSpace]) _ _).trans ?_
      exact sscanf_text_of_head (c := 'I') (by simp [chars]) (by decide) (by simp) format
    have hpadded : digitsValue 10 ((printInt n).leftpad 3 '0') = n := by
      rw [digitsValue_leftpad, hvalue]
    have hfourth (format : List Directive) (hnil : ∀ s, sscanf format s = []) :
        sscanf (text (chars "CPU#") ++ .hu :: format) (chars "CPU#" ++
          ((printInt n).leftpad 3 '0' ++ (chars " AffMask: 0x" ++ affMask.digits))) = [.int n] := by
      rw [sscanf_hu (by simp [chars, spacedOut, isSpace]) (by simp [List.leftpad, hne])
        (digitValue_of_mem_leftpad (by decide) hdigits) (by rwa [hpadded])
        (hend (.inl (by simp [chars])) _) hnil, hpadded]
    dsimp only [words]
    rw [scanLogicalCpu_of_nil (hdash (by simp [chars]) (by simp [chars]) _ _),
      scanLogicalCpu_of_nil (hdash (by simp [chars]) (by simp [chars]) _ _),
      scanLogicalCpu_of_nil (hthird _ _),
      scanLogicalCpu_of_sscanf (hfourth _ (sscanf_text_eq_nil sscanf_skipX _))]

theorem words_chars : (chars style.words).head? ∈ [some '-', some 'C'] ∧
    (chars style.words).length ≤ 40 ∧ '#' ∈ chars style.words ∧
      ∀ c ∈ chars style.words, c ≠ '\x00' ∧ c ≠ '\n' := by
  cases style <;> decide +kernel

theorem head_header (n : Nat) : (style.header n affMask).head? ∈ [some '-', some 'C'] := by
  have hwords := style.words_chars.1
  unfold header
  rw [List.head?_append, Option.or_of_isSome]
  · exact hwords
  · revert hwords
    cases (chars style.words).head? with
    | none => decide
    | some c => exact fun _ => rfl

theorem header_ne (n : Nat) :
    style.header n affMask ≠ [] ∧ style.header n affMask ≠ testResultsLine := by
  have hmem : '#' ∈ style.header n affMask := List.mem_append_left _ style.words_chars.2.2.1
  constructor
  · intro hnil
    rw [hnil] at hmem
    cases hmem
  · intro hend
    rw [hend] at hmem
    exact absurd (List.eq_of_mem_replicate hmem) (by decide)

theorem isLine_header {n : Nat} (hn : n < 2 ^ 16) : IsLine lineRoom (style.header n affMask) := by
  obtain ⟨-, hlen, -, hplain⟩ := style.words_chars
  have hnumber : (printInt n).length ≤ 5 := length_printInt_le (by decide) (by omega)
  have hpadded : ((printInt n).leftpad 3 '0').length ≤ 5 := by
    rw [List.leftpad, List.length_append, List.length_replicate]
    omega
  have hdigits : ∀ c ∈ printInt n, digitValue c < 16 := by
    intro c hc
    rw [printInt_natCast] at hc
    exact (digitValue_of_mem_toDigits (by decide) (by decide) n c hc).trans (by decide)
  have hends : ∀ p ∈ [chars " ]------", chars "):", chars " AffMask: 0x"],
      p.length ≤ 12 ∧ ∀ c ∈ p, c ≠ '\x00' ∧ c ≠ '\n' := by simp [chars]
  simp only [List.forall_mem_cons] at hends
  obtain ⟨⟨hlen1, hplain1⟩, ⟨hlen2, hplain2⟩, ⟨hlen3, hplain3⟩, -⟩ := hends
  have hchars {ds : List Char} (hds : ∀ c ∈ ds, digitValue c < 16) :
      ∀ c ∈ ds, c ≠ '\x00' ∧ c ≠ '\n' := fun c hc =>
    ⟨ne_of_digitValue (hds c hc) (by decide), ne_of_digitValue (hds c hc) (by decide)⟩
  constructor
  · unfold header
    cases style <;> simp only [List.length_append, affMask.length_eq, lineRoom] <;> omega
  · unfold header
    refine List.forall_mem_append.mpr ⟨hplain, ?_⟩
    cases style with
    | logicalCpu => exact List.forall_mem_append.mpr ⟨hchars hdigits, hplain1⟩
    | cpuidRegisters => exact List.forall_mem_append.mpr ⟨hchars hdigits, hplain1⟩
    | cpu => exact List.forall_mem_append.mpr ⟨hchars hdigits, hplain2⟩
    | affMask =>
      exact List.forall_mem_append.mpr ⟨hchars (digitValue_of_mem_leftpad (by decide) hdigits),
        List.forall_mem_append.mpr ⟨hplain3, affMask.isPlain⟩⟩

/-- The header that a dump may begin with. -/
theorem isAida64Header_header :
    isAida64Header (style.header (if style = .cpu then 1 else 0) affMask) = true := by
  have hprefix {p q : List Char} (h : p <+: q) : strstr q p = true := by
    rw [strstr, List.any_eq_true]
    exact ⟨q, (List.mem_tails _ _).mpr List.suffix_rfl, List.isPrefixOf_iff_prefix.mpr h⟩
  have h1 : header .logicalCpu 0 affMask = chars "------[ Logical CPU #0 ]------" := by
    show chars "------[ Logical CPU #" ++ (printInt 0 ++ chars " ]------") = _
    decide +kernel
  have h2 : header .cpuidRegisters 0 affMask =
      chars "------[ CPUID Registers / Logical CPU #0 ]------" := by
    show chars "------[ CPUID Registers / Logical CPU #" ++ (printInt 0 ++ chars " ]------") = _
    decide +kernel
  have h3 : header .cpu 1 affMask = chars "CPUID Registers (CPU #1):" := by
    show chars "CPUID Registers (CPU #" ++ (printInt 1 ++ chars "):") = _
    decide +kernel
  have h4 : header .affMask 0 affMask = chars "CPU#000 AffMask: 0x" ++ affMask.digits := by
    have hwords : chars "CPU#000 AffMask: 0x" =
        chars "CPU#" ++ ((printInt 0).leftpad 3 '0' ++ chars " AffMask: 0x") := by decide +kernel
    rw [hwords, List.append_assoc, List.append_assoc]
    rfl
  unfold isAida64Header
  cases style with
  | logicalCpu => simp [h1]
  | cpuidRegisters => simp [h2]
  | cpu => simp [h3]
  | affMask => simp [h4, hprefix (List.prefix_append _ _)]

end Aida64Style

end LibCpuid
