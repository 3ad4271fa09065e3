import LibCpuid.CLang.Digits

/-! `sscanf`, as far as integers and words go.  A format is a list of directives, and the result is
the list of the values that are assigned, so that its length is the number that `sscanf` returns
(but for `EOF`, which is an empty list here).  `long` has 64 bits. -/

namespace CLang

/-! ### Integers -/

/-- The sign and the magnitude of an integer in a text. -/
structure ScannedInteger where
  negative : Bool
  magnitude : Nat
  deriving DecidableEq

/-- What `strtol` makes of the integer, stored in an `int`. -/
def ScannedInteger.toInt (n : ScannedInteger) : Int :=
  let value : Int := if n.negative then -n.magnitude else n.magnitude
  (max (-2 ^ 63) (min value (2 ^ 63 - 1))).bmod (2 ^ 32)

/-- What `strtoul` makes of the integer, stored in an unsigned type of the given width. -/
def ScannedInteger.toUnsigned (bits : Nat) (n : ScannedInteger) : Nat :=
  (if 2 ^ 64 ≤ n.magnitude then 2 ^ 64 - 1
    else if n.negative then 2 ^ 64 - n.magnitude
    else n.magnitude) % 2 ^ bits

theorem toUnsigned_pos {n : Nat} (h : n < 2 ^ 64) (bits : Nat) :
    ScannedInteger.toUnsigned bits ⟨false, n⟩ = n % 2 ^ bits := by
  rw [ScannedInteger.toUnsigned, if_neg (Nat.not_le.mpr h), if_neg Bool.false_ne_true]

theorem toUnsigned_neg {n : Nat} (h : n < 2 ^ 64) (bits : Nat) :
    ScannedInteger.toUnsigned bits ⟨true, n⟩ = (2 ^ 64 - n) % 2 ^ bits := by
  rw [ScannedInteger.toUnsigned, if_neg (Nat.not_le.mpr h), if_pos rfl]

/-- An optional sign, and what follows it. -/
def scanSign : List Char → Bool × List Char
  | '-' :: s => (true, s)
  | '+' :: s => (false, s)
  | s => (false, s)

/-- What follows `0x` or `0X`. -/
def afterHexMark : List Char → Option (List Char)
  | '0' :: 'x' :: s => some s
  | '0' :: 'X' :: s => some s
  | _ => none

/-- The base of the digits, and the text where they begin.  The base 0 leaves the choice to the
text. -/
def scanBase (base : Nat) (s : List Char) : Nat × List Char :=
  if base = 0 ∨ base = 16 then
    match afterHexMark s with
    | some rest => (16, rest)
    | none => (if base = 16 then 16 else if s.head? = some '0' then 8 else 10, s)
  else (base, s)

/-- The magnitude at the beginning of a text, and what follows it. -/
def scanMagnitude (base : Nat) (s : List Char) : Option (Nat × List Char) :=
  let (base, s) := scanBase base s
  let digits := s.takeWhile (digitValue · < base)
  if digits = [] then none
  else some (digitsValue base digits, s.dropWhile (digitValue · < base))

/-- The integer at the beginning of a text, and what follows it. -/
def scanInteger (base : Nat) (s : List Char) : Option (ScannedInteger × List Char) :=
  let (negative, s) := scanSign s
  (scanMagnitude base s).map fun (magnitude, rest) => (⟨negative, magnitude⟩, rest)

/-! ### Directives -/

/-- A directive of a format. -/
inductive Directive
  | space
  | lit (c : Char)
  | d
  | i (width : Nat)
  | x (bits : Nat)
  | skipX
  | hu
  | s
  deriving DecidableEq

/-- A value that a directive assigns. -/
inductive ScanArg
  | int (value : Int)
  | str (token : List Char)
  deriving DecidableEq

/-- The directives of the text between two conversions. -/
def text (s : List Char) : List Directive := s.map fun c => if isSpace c then .space else .lit c

/-- What a directive assigns, and the text that it leaves; `none` when it fails. -/
def Directive.scan (directive : Directive) (s : List Char) :
    Option (List ScanArg × List Char) :=
  let word := s.dropWhile isSpace
  match directive with
  | .space => some ([], word)
  | .lit c => if s.head? = some c then some ([], s.tail) else none
  | .d => (scanInteger 10 word).map fun (n, rest) => ([.int n.toInt], rest)
  | .i width =>
    (scanInteger 0 (word.take width)).map fun (n, rest) =>
      ([.int n.toInt], rest ++ word.drop width)
  | .x bits => (scanInteger 16 word).map fun (n, rest) => ([.int (n.toUnsigned bits)], rest)
  | .skipX => (scanInteger 16 word).map fun (_, rest) => ([], rest)
  | .hu => (scanInteger 10 word).map fun (n, rest) => ([.int (n.toUnsigned 16)], rest)
  | .s =>
    if word.takeWhile (!isSpace ·) = [] then none
    else some ([.str (word.takeWhile (!isSpace ·))], word.dropWhile (!isSpace ·))

/-- The values that `sscanf` assigns. -/
def sscanf : List Directive → List Char → List ScanArg
  | [], _ => []
  | directive :: format, s =>
    match directive.scan s with
    | some (args, rest) => args ++ sscanf format rest
    | none => []

/-! ### Text that was printed -/

/-- The text does not go on with a character that could belong to a number. -/
def EndsNumber (s : List Char) : Prop :=
  ∀ c ∈ s.head?, digitValue c = 16 ∧ c ≠ 'x' ∧ c ≠ 'X'

theorem endsNumber_nil : EndsNumber [] := by simp [EndsNumber]

theorem endsNumber_cons {c : Char} (hc : digitValue c = 16 ∧ c ≠ 'x' ∧ c ≠ 'X') (s : List Char) :
    EndsNumber (c :: s) := by simpa [EndsNumber] using hc

/-- A text that begins with a digit has no white space to skip. -/
theorem dropWhile_isSpace_of_digit {ds rest : List Char} (hne : ds ≠ [])
    (hds : ∀ c ∈ ds, digitValue c < 16) :
    (ds ++ rest).dropWhile isSpace = ds ++ rest := by
  obtain ⟨c, ds, rfl⟩ := List.exists_cons_of_ne_nil hne
  refine List.dropWhile_cons_of_neg fun hc => ?_
  have h1 := digitValue_of_isSpace hc
  have h2 := hds c (List.mem_cons_self ..)
  omega

/-- Digits read back as their number. -/
theorem scanMagnitude_digits {base : Nat} (hbase : base = 10 ∨ base = 16) {ds rest : List Char}
    (hne : ds ≠ []) (hds : ∀ c ∈ ds, digitValue c < base) (hrest : EndsNumber rest) :
    scanMagnitude base (ds ++ rest) = some (digitsValue base ds, rest) := by
  have h16 : ∀ c ∈ ds, digitValue c < 16 := fun c hc => (hds c hc).trans_le (by omega)
  obtain ⟨c, ds, rfl⟩ := List.exists_cons_of_ne_nil hne
  -- the second character is a digit too, or ends the number
  have hsecond : ∀ d ∈ (ds ++ rest).head?, d ≠ 'x' ∧ d ≠ 'X' := by
    intro d hd
    cases ds with
    | nil => exact (hrest d hd).2
    | cons d' ds =>
      obtain rfl : d' = d := by simpa using hd
      have := h16 d' (by simp)
      exact ⟨ne_of_digitValue this (by decide), ne_of_digitValue this (by decide)⟩
  have hhex : afterHexMark (c :: ds ++ rest) = none := by
    unfold afterHexMark
    split
    case h_1 h =>
      rw [List.cons_append, List.cons.injEq] at h
      exact absurd rfl (hsecond 'x' (by rw [h.2]; rfl)).1
    case h_2 h =>
      rw [List.cons_append, List.cons.injEq] at h
      exact absurd rfl (hsecond 'X' (by rw [h.2]; rfl)).2
    case h_3 => rfl
  have hscan : scanBase base (c :: ds ++ rest) = (base, c :: ds ++ rest) := by
    rcases hbase with rfl | rfl
    · rfl
    · rw [scanBase, hhex]
      rfl
  have hall : ∀ d ∈ c :: ds, decide (digitValue d < base) = true := fun d hd =>
    decide_eq_true (hds d hd)
  have hend : rest.takeWhile (digitValue · < base) = [] ∧
      rest.dropWhile (digitValue · < base) = rest := by
    cases rest with
    | nil => simp
    | cons d rest =>
      have hd := (hrest d rfl).1
      have hnot : ¬decide (digitValue d < base) = true := by
        rw [decide_eq_true_eq]
        omega
      exact ⟨List.takeWhile_cons_of_neg hnot, List.dropWhile_cons_of_neg hnot⟩
  unfold scanMagnitude
  rw [hscan]
  dsimp only
  rw [List.takeWhile_append_of_pos hall, List.dropWhile_append_of_pos hall, hend.1, hend.2,
    List.append_nil, if_neg (List.cons_ne_nil c ds)]

theorem scanInteger_digits {base : Nat} (hbase : base = 10 ∨ base = 16) {ds rest : List Char}
    (hne : ds ≠ []) (hds : ∀ c ∈ ds, digitValue c < base) (hrest : EndsNumber rest) :
    scanInteger base (ds ++ rest) = some (⟨false, digitsValue base ds⟩, rest) := by
  have hsign : scanSign (ds ++ rest) = (false, ds ++ rest) := by
    obtain ⟨c, ds, rfl⟩ := List.exists_cons_of_ne_nil hne
    have hc : digitValue c < 16 := (hds c (List.mem_cons_self ..)).trans_le (by omega)
    unfold scanSign
    split
    case h_1 h => exact absurd (List.cons.inj h).1 (ne_of_digitValue hc (by decide))
    case h_2 h => exact absurd (List.cons.inj h).1 (ne_of_digitValue hc (by decide))
    case h_3 => rfl
  rw [scanInteger, hsign]
  dsimp only
  rw [scanMagnitude_digits hbase hne hds hrest, Option.map_some]

theorem scanInteger_neg {base : Nat} (hbase : base = 10 ∨ base = 16) {ds rest : List Char}
    (hne : ds ≠ []) (hds : ∀ c ∈ ds, digitValue c < base) (hrest : EndsNumber rest) :
    scanInteger base ('-' :: (ds ++ rest)) = some (⟨true, digitsValue base ds⟩, rest) := by
  rw [scanInteger, scanSign]
  dsimp only
  rw [scanMagnitude_digits hbase hne hds hrest, Option.map_some]

section Printed

variable {rest : List Char} (hrest : EndsNumber rest)
include hrest

theorem scan_x_digits {ds : List Char} (hne : ds ≠ []) (hds : ∀ c ∈ ds, digitValue c < 16)
    {bits : Nat} (hbits : bits ≤ 64) (hlt : digitsValue 16 ds < 2 ^ bits) :
    (Directive.x bits).scan (ds ++ rest) = some ([.int (digitsValue 16 ds)], rest) := by
  have h64 : digitsValue 16 ds < 2 ^ 64 := hlt.trans_le (Nat.pow_le_pow_right (by decide) hbits)
  unfold Directive.scan
  dsimp only
  rw [dropWhile_isSpace_of_digit hne hds, scanInteger_digits (.inr rfl) hne hds hrest,
    Option.map_some, toUnsigned_pos h64, Nat.mod_eq_of_lt hlt]

theorem scan_x_printHex {bits width n : Nat} (hbits : bits ≤ 64) (hn : n < 2 ^ bits) :
    (Directive.x bits).scan (printHex width n ++ rest) = some ([.int n], rest) := by
  have hvalue := digitsValue_printHex width n
  rw [scan_x_digits hrest (printHex_ne_nil width n) (digitValue_of_mem_printHex width n) hbits
    (by rwa [hvalue]), hvalue]

theorem scan_hu_digits {ds : List Char} (hne : ds ≠ []) (hds : ∀ c ∈ ds, digitValue c < 10)
    (hlt : digitsValue 10 ds < 2 ^ 16) :
    Directive.hu.scan (ds ++ rest) = some ([.int (digitsValue 10 ds)], rest) := by
  unfold Directive.scan
  dsimp only
  rw [dropWhile_isSpace_of_digit hne fun c hc => (hds c hc).trans (by decide),
    scanInteger_digits (.inl rfl) hne hds hrest, Option.map_some, toUnsigned_pos (by omega),
    Nat.mod_eq_of_lt hlt]

theorem scan_d_printInt {n : Nat} (hn : n < 2 ^ 31) :
    Directive.d.scan (printInt n ++ rest) = some ([.int n], rest) := by
  have hds := digitValue_of_mem_toDigits (by decide : 1 < 10) (by decide) n
  have hne : Nat.toDigits 10 n ≠ [] := Nat.toDigits_ne_nil
  unfold Directive.scan
  dsimp only
  rw [printInt_natCast, dropWhile_isSpace_of_digit hne fun c hc => (hds c hc).trans (by decide),
    scanInteger_digits (.inl rfl) hne hds hrest, digitsValue_toDigits (by decide) (by decide)]
  have hvalue : ScannedInteger.toInt ⟨false, n⟩ = n := by
    simp only [ScannedInteger.toInt, Bool.false_eq_true, if_false]
    rw [Int.min_eq_left (by omega), Int.max_eq_right (by omega),
      Int.bmod_eq_of_le (by omega) (by omega)]
  rw [Option.map_some, hvalue]

end Printed

/-- A number may stand behind white space. -/
theorem scan_x_space (bits : Nat) (s : List Char) :
    (Directive.x bits).scan (' ' :: s) = (Directive.x bits).scan s := rfl

/-- `%hu` reads back a number of 16 bits, also where it was written as a negative one. -/
theorem scan_hu_printInt16 (short : Bool) {rest : List Char} (hrest : EndsNumber rest) {n : Nat}
    (hn : n < 2 ^ 16) :
    Directive.hu.scan (printInt16 short n ++ rest) = some ([.int n], rest) := by
  have hdigits (m : Nat) := digitValue_of_mem_toDigits (by decide : 1 < 10) (by decide) m
  have hvalue (m : Nat) := digitsValue_toDigits (by decide : 1 < 10) (by decide) m
  have hne (m : Nat) : Nat.toDigits 10 m ≠ [] := Nat.toDigits_ne_nil
  rcases printInt16_cases short hn with hprint | ⟨hbig, hprint⟩
  · rw [hprint, scan_hu_digits hrest (hne n) (hdigits n) (by rwa [hvalue]), hvalue]
  · unfold Directive.scan
    dsimp only
    have hunsigned : ScannedInteger.toUnsigned 16 ⟨true, 2 ^ 16 - n⟩ = n := by
      rw [toUnsigned_neg (by omega)]
      omega
    rw [hprint, List.cons_append, List.dropWhile_cons_of_neg (by decide),
      scanInteger_neg (.inl rfl) (hne _) (hdigits _) hrest, hvalue, Option.map_some, hunsigned]

/-! ### Text between conversions -/

theorem sscanf_cons {directive : Directive} {format : List Directive} {s rest : List Char}
    {args : List ScanArg} (h : directive.scan s = some (args, rest)) :
    sscanf (directive :: format) s = args ++ sscanf format rest := by
  rw [sscanf, h]

theorem sscanf_lit (c : Char) (format : List Directive) (s : List Char) :
    sscanf (.lit c :: format) (c :: s) = sscanf format s := by
  simp [sscanf, Directive.scan]

/-- Words of the format that the text begins with. -/
theorem sscanf_text {p : List Char} (hp : ∀ c ∈ p, isSpace c = false) (format : List Directive)
    (s : List Char) : sscanf (text p ++ format) (p ++ s) = sscanf format s := by
  induction p with
  | nil => rfl
  | cons c p ih =>
    obtain ⟨hc, hp⟩ := List.forall_mem_cons.mp hp
    rw [text, List.map_cons, hc]
    exact (sscanf_lit c _ _).trans (ih hp)

/-- White space stands alone, and not at the end. -/
def spacedOut : List Char → Bool
  | [] => true
  | [c] => !isSpace c
  | c :: d :: s => (!isSpace c || !isSpace d) && spacedOut (d :: s)

/-- Words with white space between them. -/
theorem sscanf_spacedOut {p : List Char} (hp : spacedOut p = true) (format : List Directive)
    (s : List Char) : sscanf (text p ++ format) (p ++ s) = sscanf format s := by
  induction p using spacedOut.induct with
  | case1 => rfl
  | case2 c =>
    rw [spacedOut, Bool.not_eq_true'] at hp
    rw [text, List.map_singleton, hp]
    exact sscanf_lit c _ _
  | case3 c d p ih =>
    rw [spacedOut, Bool.and_eq_true] at hp
    rw [text, List.map_cons]
    cases hc : isSpace c with
    | false => exact (sscanf_lit c _ _).trans (ih hp.2)
    | true =>
      have hd : isSpace d = false := by simpa [hc] using hp.1
      have hskip : Directive.space.scan (c :: d :: p ++ s) = some ([], d :: p ++ s) := by
        simp [Directive.scan, hc, hd]
      exact (sscanf_cons hskip).trans (ih hp.2)

/-- Words with white space between them, and perhaps at the end, before a text without any. -/
theorem sscanf_spaced {p s : List Char} (hp : spacedOut (p ++ ['x']) = true)
    (hs : s.dropWhile isSpace = s) (format : List Directive) :
    sscanf (text p ++ format) (p ++ s) = sscanf format s := by
  induction p using spacedOut.induct with
  | case1 => rfl
  | case2 c =>
    rw [text, List.map_singleton]
    cases hc : isSpace c with
    | false => exact sscanf_lit c _ _
    | true =>
      have hskip : Directive.space.scan (c :: s) = some ([], s) := by
        simp [Directive.scan, hc, hs]
      exact sscanf_cons hskip
  | case3 c d p ih =>
    rw [List.cons_append, List.cons_append, spacedOut, Bool.and_eq_true] at hp
    rw [text, List.map_cons]
    cases hc : isSpace c with
    | false => exact (sscanf_lit c _ _).trans (ih hp.2)
    | true =>
      have hd : isSpace d = false := by simpa [hc] using hp.1
      have hskip : Directive.space.scan (c :: d :: p ++ s) = some ([], d :: p ++ s) := by
        simp [Directive.scan, hc, hd]
      exact (sscanf_cons hskip).trans (ih hp.2)

/-- A text that begins otherwise than the format. -/
theorem sscanf_text_of_head {p : List Char} {c : Char} (hp : p.head? = some c)
    (hc : isSpace c = false) {s : List Char} (hs : s.head? ≠ some c) (format : List Directive) :
    sscanf (text p ++ format) s = [] := by
  obtain ⟨p, rfl⟩ := List.head?_eq_some_iff.mp hp
  rw [text, List.map_cons, hc]
  simp [sscanf, Directive.scan, hs]

/-- A format that assigns something found its words at the beginning of the text. -/
theorem prefix_of_sscanf_text {p : List Char} (hp : ∀ c ∈ p, isSpace c = false)
    {format : List Directive} {s : List Char} (h : sscanf (text p ++ format) s ≠ []) : p <+: s := by
  induction p generalizing s with
  | nil => exact List.nil_prefix
  | cons c p ih =>
    obtain ⟨hc, hp⟩ := List.forall_mem_cons.mp hp
    by_cases hs : s.head? = some c
    · obtain ⟨s, rfl⟩ := List.head?_eq_some_iff.mp hs
      rw [text, List.map_cons, hc] at h
      exact List.cons_prefix_cons.mpr ⟨rfl, ih hp fun hnil => h ((sscanf_lit c _ _).trans hnil)⟩
    · exact absurd (sscanf_text_of_head rfl hc hs format) h

/-- Text assigns nothing of its own. -/
theorem sscanf_text_eq_nil {format : List Directive} (h : ∀ s, sscanf format s = [])
    (p s : List Char) : sscanf (text p ++ format) s = [] := by
  induction p generalizing s with
  | nil => exact h s
  | cons c p ih =>
    rw [text, List.map_cons, List.cons_append, sscanf, ← text]
    cases isSpace c with
    | true => exact ih _
    | false =>
      by_cases hs : s.head? = some c
      · simp [Directive.scan, hs, ih]
      · simp [Directive.scan, hs]

theorem sscanf_text_nil (p s : List Char) : sscanf (text p) s = [] := by
  have h := @sscanf_text_eq_nil [] (fun _ => rfl) p s
  rwa [List.append_nil] at h

/-- `%*x` assigns nothing. -/
theorem sscanf_skipX (s : List Char) : sscanf [.skipX] s = [] := by
  rw [sscanf]
  simp only [Directive.scan]
  cases scanInteger 16 (s.dropWhile isSpace) <;> rfl

/-- A word reads back. -/
theorem scan_s {word : List Char} (hne : word ≠ []) (hword : ∀ c ∈ word, isSpace c = false) :
    Directive.s.scan word = some ([.str word], []) := by
  have hall : ∀ c ∈ word, (!isSpace c) = true := fun c hc => by rw [hword c hc]; rfl
  have hskip : word.dropWhile isSpace = word := by
    obtain ⟨c, word, rfl⟩ := List.exists_cons_of_ne_nil hne
    exact List.dropWhile_cons_of_neg (by simp [hword c])
  have htake : word.takeWhile (!isSpace ·) = word := List.takeWhile_eq_self_iff.mpr hall
  have hdrop : word.dropWhile (!isSpace ·) = [] := List.dropWhile_eq_nil_iff.mpr hall
  unfold Directive.scan
  dsimp only
  rw [hskip, htake, hdrop, if_neg hne]

/-- Words of the format that differ from those of the text. -/
theorem sscanf_text_of_ne {p q : List Char} (hp : ∀ c ∈ p, isSpace c = false)
    (hpq : ¬p <+: q) (hqp : ¬q <+: p) (format : List Directive) (s : List Char) :
    sscanf (text p ++ format) (q ++ s) = [] := by
  induction p generalizing q with
  | nil => exact absurd (List.nil_prefix) hpq
  | cons c p ih =>
    obtain ⟨hc, hp⟩ := List.forall_mem_cons.mp hp
    cases q with
    | nil => exact absurd (List.nil_prefix) hqp
    | cons d q =>
      rw [text, List.map_cons, hc]
      by_cases hcd : d = c
      · rw [hcd] at hpq hqp ⊢
        refine (sscanf_lit c _ _).trans (ih hp (fun h => hpq ?_) (fun h => hqp ?_))
        · exact List.cons_prefix_cons.mpr ⟨rfl, h⟩
        · exact List.cons_prefix_cons.mpr ⟨rfl, h⟩
      · simp [sscanf, Directive.scan, hcd]

end CLang
