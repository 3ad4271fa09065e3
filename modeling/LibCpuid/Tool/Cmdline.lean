import LibCpuid.Dump.Serialize

/-! The command line of `cpuid_tool`: `parse_cmdline` of `cpuid_tool.c`, and what the options that it
accepts say.  An argument is a string without its NUL. -/

namespace LibCpuid

open CLang

/-- `output_data_switch`, without the prefix `NEED_`. -/
inductive Query
  | cpuidPresent | architecture | featureLevel | purpose | vendorStr | vendorId | brandString
  | family | model | stepping | extFamily | extModel | implementer | variant | partNum | revision
  | numCores | numLogical | totalCpus | affiMask | l1dSize | l1iSize | l2Size | l3Size | l4Size
  | l1dAssoc | l1iAssoc | l2Assoc | l3Assoc | l4Assoc | l1dCacheline | l1iCacheline | l2Cacheline
  | l3Cacheline | l4Cacheline | l1dInstances | l1iInstances | l2Instances | l3Instances
  | l4Instances | codename | technology | features | clock | clockOs | clockRdtsc | clockIc | rdmsr
  | rdmsrRaw | sseUnitSize
  deriving DecidableEq

/-- `matchtable`: the query, its switch, and whether it needs an identified CPU. -/
def matchtable : List (Query × String × Bool) :=
  [(.cpuidPresent, "--cpuid", false), (.architecture, "--architecture", true),
    (.featureLevel, "--feature-level", true), (.purpose, "--purpose", true),
    (.vendorStr, "--vendorstr", true), (.vendorId, "--vendorid", true),
    (.brandString, "--brandstr", true), (.family, "--family", true), (.model, "--model", true),
    (.stepping, "--stepping", true), (.extFamily, "--extfamily", true),
    (.extModel, "--extmodel", true), (.implementer, "--implementer", true),
    (.variant, "--variant", true), (.partNum, "--part-num", true), (.revision, "--revision", true),
    (.numCores, "--cores", true), (.numLogical, "--logical", true),
    (.totalCpus, "--total-cpus", true), (.affiMask, "--affi-mask", true),
    (.l1dSize, "--l1d-cache", true), (.l1iSize, "--l1i-cache", true), (.l2Size, "--cache", true),
    (.l2Size, "--l2-cache", true), (.l3Size, "--l3-cache", true), (.l4Size, "--l4-cache", true),
    (.l1dAssoc, "--l1d-assoc", true), (.l1iAssoc, "--l1i-assoc", true),
    (.l2Assoc, "--l2-assoc", true), (.l3Assoc, "--l3-assoc", true), (.l4Assoc, "--l4-assoc", true),
    (.l1dCacheline, "--l1d-cacheline", true), (.l1iCacheline, "--l1i-cacheline", true),
    (.l2Cacheline, "--l2-cacheline", true), (.l3Cacheline, "--l3-cacheline", true),
    (.l4Cacheline, "--l4-cacheline", true), (.l1dInstances, "--l1d-instances", true),
    (.l1iInstances, "--l1i-instances", true), (.l2Instances, "--l2-instances", true),
    (.l3Instances, "--l3-instances", true), (.l4Instances, "--l4-instances", true),
    (.codename, "--codename", true), (.technology, "--technology", true),
    (.features, "--flags", true), (.clock, "--clock", false), (.clockOs, "--clock-os", false),
    (.clockRdtsc, "--clock-rdtsc", true), (.clockIc, "--clock-ic", true),
    (.rdmsr, "--rdmsr", false), (.rdmsrRaw, "--rdmsr-raw", false),
    (.sseUnitSize, "--sse-size", true)]

/-- `MAX_REQUESTS`. -/
def maxRequests : Nat := 64

/-- `RAW_DATA_FILE_MAX` and `OUT_FILE_MAX`. -/
def fileMax : Nat := 256

/-- The global variables that the command line sets.  A file name is what its buffer of 256
characters holds before the first NUL, or the whole buffer. -/
structure ToolOptions where
  rawDataFile : List Char
  outFile : List Char
  needInput : Bool
  needOutput : Bool
  needQuiet : Bool
  needReport : Bool
  needClockreport : Bool
  needTimedClockreport : Bool
  verboseLevel : Nat
  needVersion : Bool
  needCpulist : Bool
  needSgx : Bool
  needHypervisor : Bool
  needIdentify : Bool
  requests : List Query

/-- The values when the program starts. -/
def ToolOptions.start : ToolOptions where
  rawDataFile := []
  outFile := []
  needInput := false
  needOutput := false
  needQuiet := false
  needReport := false
  needClockreport := false
  needTimedClockreport := false
  verboseLevel := 0
  needVersion := false
  needCpulist := false
  needSgx := false
  needHypervisor := false
  needIdentify := false
  requests := []

/-- Why `parse_cmdline` ends early: it prints the help, or an error. -/
inductive CmdlineStop
  | help
  | xerror (msg : String)
  | unrecognized (arg : List Char)

/-- `strncpy(buffer, name, 256)`. -/
def copyFileName (name : List Char) : List Char := name.take fileMax

/-- The options that name a file.  The result tells whether the argument is one. -/
def parseFile (o : ToolOptions) (arg : List Char) : Except CmdlineStop (ToolOptions × Bool) :=
  if (chars "--load=").isPrefixOf arg then
    if o.needInput then .error (.xerror "Too many `--load' options!")
    else if o.needOutput then
      .error (.xerror "Cannot have both `--load' and `--save' options!")
    else if arg.length ≤ 7 then .error (.xerror "--load: bad file specification!")
    else .ok ({ o with needInput := true, rawDataFile := copyFileName (arg.drop 7) }, true)
  else if (chars "--save=").isPrefixOf arg then
    if o.needOutput then .error (.xerror "Too many `--save' options!")
    else if o.needInput then
      .error (.xerror "Cannot have both `--load' and `--save' options!")
    else if arg.length ≤ 7 then .error (.xerror "--save: bad file specification!")
    else .ok ({ o with needOutput := true, rawDataFile := copyFileName (arg.drop 7) }, true)
  else if (chars "--outfile=").isPrefixOf arg then
    if arg.length ≤ 10 then .error (.xerror "--output: bad file specification!")
    else .ok ({ o with outFile := copyFileName (arg.drop 10) }, true)
  else .ok (o, false)

/-- The options that set flags. -/
def flagOptions : List (String × (ToolOptions → ToolOptions)) :=
  [("--report", fun o => { o with needReport := true }),
    ("--all", fun o => { o with needReport := true }),
    ("--clock", fun o => { o with needClockreport := true }),
    ("--clock-rdtsc", fun o => { o with needClockreport := true, needTimedClockreport := true }),
    ("--quiet", fun o => { o with needQuiet := true }),
    ("--verbose", fun o => { o with verboseLevel := o.verboseLevel + 1 }),
    ("--version", fun o => { o with needVersion := true }),
    ("--cpulist", fun o => { o with needCpulist := true }),
    ("--sgx", fun o => { o with needSgx := true, needIdentify := true }),
    ("--hypervisor", fun o => { o with needHypervisor := true, needIdentify := true })]

def parseFlag (o : ToolOptions) (arg : List Char) : ToolOptions × Bool :=
  match flagOptions.find? fun row => arg = chars row.1 with
  | some row => (row.2 o, true)
  | none => (o, false)

/-- `-v`, `-vv` and so on: the number of letters. -/
def verboseKeys : List Char → Option Nat
  | '-' :: 'v' :: rest => if rest.all (· = 'v') then some (rest.length + 1) else none
  | _ => none

def parseVerbose (o : ToolOptions) (arg : List Char) : ToolOptions × Bool :=
  match verboseKeys arg with
  | some n => ({ o with verboseLevel := o.verboseLevel + n }, true)
  | none => (o, false)

/-- The query that an argument asks for. -/
def queryOf (arg : List Char) : Option Query :=
  (matchtable.find? fun row => arg = chars row.2.1).map fun row => row.1

def parseQuery (o : ToolOptions) (arg : List Char) : Except CmdlineStop (ToolOptions × Bool) :=
  match queryOf arg with
  | some query =>
    if o.requests.length ≥ maxRequests then .error (.xerror "Too many requests!")
    else .ok ({ o with requests := o.requests ++ [query] }, true)
  | none => .ok (o, false)

/-- The body of the loop over the arguments. -/
def parseArg (o : ToolOptions) (arg : List Char) : Except CmdlineStop ToolOptions :=
  if arg = chars "-h" ∨ arg = chars "--help" then .error .help
  else do
    let (o, isFile) ← parseFile o arg
    let (o, isFlag) := parseFlag o arg
    let (o, isVerbose) := parseVerbose o arg
    let (o, isQuery) ← parseQuery o arg
    if isFile || isFlag || isVerbose || isQuery then .ok o else .error (.unrecognized arg)

/-- `parse_cmdline`, on the arguments after the name of the program. -/
def parseCmdline (args : List (List Char)) : Except CmdlineStop ToolOptions :=
  if args = [] then
    .ok { ToolOptions.start with
      needOutput := true
      rawDataFile := copyFileName (chars "raw.txt")
      outFile := copyFileName (chars "report.txt")
      needReport := true
      verboseLevel := 1 }
  else args.foldlM parseArg .start

/-! ### What an argument says -/

def isLoad (arg : List Char) : Bool := (chars "--load=").isPrefixOf arg

def isSave (arg : List Char) : Bool := (chars "--save=").isPrefixOf arg

def isOutfile (arg : List Char) : Bool := (chars "--outfile=").isPrefixOf arg

/-- The file that an argument names for the raw data. -/
def rawDataFileOf (arg : List Char) : Option (List Char) :=
  if isLoad arg ∨ isSave arg then some (copyFileName (arg.drop 7)) else none

/-- The file that an argument names for the output. -/
def outFileOf (arg : List Char) : Option (List Char) :=
  if isOutfile arg then some (copyFileName (arg.drop 10)) else none

/-- How far an argument raises the level of the messages. -/
def verbosityOf (arg : List Char) : Nat :=
  if arg = chars "--verbose" then 1 else (verboseKeys arg).getD 0

/-- Whether an argument is one of these. -/
def isOneOf (options : List String) (arg : List Char) : Bool :=
  options.any fun option => arg = chars option

/-- An argument that is recognized. -/
inductive IsKnown (arg : List Char) : Prop
  | file (h : (isLoad arg || isSave arg || isOutfile arg) = true)
  | flag (h : isOneOf (flagOptions.map Prod.fst) arg = true)
  | verbose (h : (verboseKeys arg).isSome = true)
  | query (h : (queryOf arg).isSome = true)

/-- The options after one more argument. -/
def ToolOptions.after (o : ToolOptions) (arg : List Char) : ToolOptions where
  rawDataFile := (rawDataFileOf arg).getD o.rawDataFile
  outFile := (outFileOf arg).getD o.outFile
  needInput := o.needInput || isLoad arg
  needOutput := o.needOutput || isSave arg
  needQuiet := o.needQuiet || isOneOf ["--quiet"] arg
  needReport := o.needReport || isOneOf ["--report", "--all"] arg
  needClockreport := o.needClockreport || isOneOf ["--clock", "--clock-rdtsc"] arg
  needTimedClockreport := o.needTimedClockreport || isOneOf ["--clock-rdtsc"] arg
  verboseLevel := o.verboseLevel + verbosityOf arg
  needVersion := o.needVersion || isOneOf ["--version"] arg
  needCpulist := o.needCpulist || isOneOf ["--cpulist"] arg
  needSgx := o.needSgx || isOneOf ["--sgx"] arg
  needHypervisor := o.needHypervisor || isOneOf ["--hypervisor"] arg
  needIdentify := o.needIdentify || isOneOf ["--sgx", "--hypervisor"] arg
  requests := o.requests ++ (queryOf arg).toList

/-- The options that a command line describes. -/
def ToolOptions.describedBy (args : List (List Char)) : ToolOptions where
  rawDataFile := (args.filterMap rawDataFileOf).getLast?.getD []
  outFile := (args.filterMap outFileOf).getLast?.getD []
  needInput := args.any isLoad
  needOutput := args.any isSave
  needQuiet := args.any (isOneOf ["--quiet"])
  needReport := args.any (isOneOf ["--report", "--all"])
  needClockreport := args.any (isOneOf ["--clock", "--clock-rdtsc"])
  needTimedClockreport := args.any (isOneOf ["--clock-rdtsc"])
  verboseLevel := (args.map verbosityOf).sum
  needVersion := args.any (isOneOf ["--version"])
  needCpulist := args.any (isOneOf ["--cpulist"])
  needSgx := args.any (isOneOf ["--sgx"])
  needHypervisor := args.any (isOneOf ["--hypervisor"])
  needIdentify := args.any (isOneOf ["--sgx", "--hypervisor"])
  requests := args.filterMap queryOf

theorem describedBy_append (args : List (List Char)) (arg : List Char) :
    ToolOptions.describedBy (args ++ [arg]) = (ToolOptions.describedBy args).after arg := by
  have hlast (f : List Char → Option (List Char)) :
      ((args ++ [arg]).filterMap f).getLast?.getD [] =
        (f arg).getD ((args.filterMap f).getLast?.getD []) := by
    rw [List.filterMap_append, List.filterMap_cons, List.filterMap_nil]
    cases f arg with
    | none => rw [List.append_nil, Option.getD_none]
    | some name => rw [List.getLast?_concat, Option.getD_some, Option.getD_some]
  have hquery : (args ++ [arg]).filterMap queryOf =
      args.filterMap queryOf ++ (queryOf arg).toList := by
    rw [List.filterMap_append]
    cases h : queryOf arg <;> simp [h]
  simp only [ToolOptions.describedBy, ToolOptions.after, hlast, hquery, List.any_append,
    List.any_cons, List.any_nil, Bool.or_false, List.map_append, List.map_cons, List.map_nil,
    List.sum_append, List.sum_cons, List.sum_nil, Nat.add_zero]

/-! ### One argument -/

theorem not_isPrefixOf {s t arg : List Char} (hst : s.isPrefixOf t = false)
    (hts : t.isPrefixOf s = false) (h : s.isPrefixOf arg = true) : t.isPrefixOf arg = false := by
  rw [← Bool.not_eq_true, List.isPrefixOf_iff_prefix] at *
  intro h'
  rcases Nat.le_total s.length t.length with hle | hle
  · exact hst (List.prefix_of_prefix_length_le h h' hle)
  · exact hts (List.prefix_of_prefix_length_le h' h hle)

section Argument

variable {o o' : ToolOptions} {arg : List Char} {b : Bool}

/-- The file names can be stored. -/
structure AcceptsFile (o : ToolOptions) (arg : List Char) : Prop where
  once : isLoad arg = true ∨ isSave arg = true → o.needInput = false ∧ o.needOutput = false
  rawDataFile : isLoad arg = true ∨ isSave arg = true → 7 < arg.length
  outFile : isOutfile arg = true → 10 < arg.length

theorem parseFile_eq_ok_iff : parseFile o arg = .ok (o', b) ↔
    AcceptsFile o arg ∧
      o' = { o with
        rawDataFile := (rawDataFileOf arg).getD o.rawDataFile
        outFile := (outFileOf arg).getD o.outFile
        needInput := o.needInput || isLoad arg
        needOutput := o.needOutput || isSave arg } ∧
      b = (isLoad arg || isSave arg || isOutfile arg) := by
  have hload : isLoad arg = true → isSave arg = false ∧ isOutfile arg = false := fun h =>
    ⟨not_isPrefixOf (by decide +kernel) (by decide +kernel) h,
      not_isPrefixOf (by decide +kernel) (by decide +kernel) h⟩
  have hsave : isSave arg = true → isOutfile arg = false :=
    not_isPrefixOf (by decide +kernel) (by decide +kernel)
  rw [parseFile, ← isLoad, ← isSave, ← isOutfile]
  have haccepts : AcceptsFile o arg ↔
      (isLoad arg = true ∨ isSave arg = true → o.needInput = false ∧ o.needOutput = false ∧
        7 < arg.length) ∧ (isOutfile arg = true → 10 < arg.length) :=
    ⟨fun h => ⟨fun hfile => ⟨(h.once hfile).1, (h.once hfile).2, h.rawDataFile hfile⟩, h.outFile⟩,
      fun h => ⟨fun hfile => ⟨(h.1 hfile).1, (h.1 hfile).2.1⟩, fun hfile => (h.1 hfile).2.2, h.2⟩⟩
  rw [haccepts, rawDataFileOf, outFileOf]
  cases hl : isLoad arg with
  | true =>
    obtain ⟨hs, ho⟩ := hload hl
    cases o.needInput <;> cases o.needOutput <;> by_cases hlen : arg.length ≤ 7 <;>
      simp [hs, ho, hlen, eq_comm]
    omega
  | false =>
    cases hs : isSave arg with
    | true =>
      have ho := hsave hs
      cases o.needInput <;> cases o.needOutput <;> by_cases hlen : arg.length ≤ 7 <;>
        simp [ho, hlen, eq_comm]
      omega
    | false =>
      cases ho : isOutfile arg with
      | true =>
        by_cases hlen : arg.length ≤ 10
        · simp [hlen]
        · simp only [Bool.false_eq_true, or_self, false_implies, true_implies, true_and, if_false,
            if_true, if_neg hlen, Nat.not_le.mp hlen, Bool.or_false, Bool.or_true, Option.getD_some,
            Option.getD_none, Except.ok.injEq, Prod.mk.injEq]
          exact and_congr eq_comm eq_comm
      | false =>
        simp only [Bool.false_eq_true, or_self, false_implies, true_and, if_false, Bool.or_false,
          Option.getD_none, Except.ok.injEq, Prod.mk.injEq]
        exact and_congr eq_comm eq_comm

theorem chars_inj {s t : String} : chars s = chars t ↔ s = t := by
  unfold chars
  exact String.toList_inj

/-- A flag is set by its options, whatever else is on the command line. -/
theorem parseFlag_eq : parseFlag o arg =
    ({ o with
      needQuiet := o.needQuiet || isOneOf ["--quiet"] arg
      needReport := o.needReport || isOneOf ["--report", "--all"] arg
      needClockreport := o.needClockreport || isOneOf ["--clock", "--clock-rdtsc"] arg
      needTimedClockreport := o.needTimedClockreport || isOneOf ["--clock-rdtsc"] arg
      verboseLevel := o.verboseLevel + if arg = chars "--verbose" then 1 else 0
      needVersion := o.needVersion || isOneOf ["--version"] arg
      needCpulist := o.needCpulist || isOneOf ["--cpulist"] arg
      needSgx := o.needSgx || isOneOf ["--sgx"] arg
      needHypervisor := o.needHypervisor || isOneOf ["--hypervisor"] arg
      needIdentify := o.needIdentify || isOneOf ["--sgx", "--hypervisor"] arg },
      isOneOf (flagOptions.map Prod.fst) arg) := by
  rw [parseFlag]
  cases hfind : flagOptions.find? fun row => arg = chars row.1 with
  | none =>
    have hne : ∀ row ∈ flagOptions, ¬arg = chars row.1 := fun row hrow =>
      of_decide_eq_false (by simpa using List.find?_eq_none.mp hfind row hrow)
    simp only [flagOptions, List.forall_mem_cons, List.not_mem_nil, false_implies, implies_true,
      and_true] at hne
    simp [isOneOf, flagOptions, hne]
  | some row =>
    obtain rfl : arg = chars row.1 := by simpa using List.find?_some hfind
    have hmem := List.mem_of_find?_eq_some hfind
    simp only [flagOptions, List.mem_cons, List.not_mem_nil, or_false] at hmem
    rcases hmem with rfl | rfl | rfl | rfl | rfl | rfl | rfl | rfl | rfl | rfl <;>
      simp [isOneOf, flagOptions, chars_inj]

theorem parseVerbose_eq : parseVerbose o arg =
    ({ o with verboseLevel := o.verboseLevel + (verboseKeys arg).getD 0 },
      (verboseKeys arg).isSome) := by
  rw [parseVerbose]
  cases verboseKeys arg <;> rfl

theorem parseQuery_eq_ok_iff : parseQuery o arg = .ok (o', b) ↔
    ((queryOf arg).isSome = true → o.requests.length < maxRequests) ∧
      o' = { o with requests := o.requests ++ (queryOf arg).toList } ∧
      b = (queryOf arg).isSome := by
  rw [parseQuery]
  cases queryOf arg with
  | none =>
    simp only [Except.ok.injEq, Prod.mk.injEq, Option.isSome_none, Bool.false_eq_true,
      false_implies, true_and, Option.toList_none, List.append_nil]
    exact and_congr eq_comm eq_comm
  | some query =>
    simp only [Option.isSome_some, true_implies, Option.toList_some]
    split
    · next hfull => exact ⟨nofun, fun h => absurd h.1 (Nat.not_lt.mpr hfull)⟩
    · next hroom =>
      simp only [Except.ok.injEq, Prod.mk.injEq, Nat.not_le.mp hroom, true_and]
      exact and_congr eq_comm eq_comm

theorem not_isKnown_help (h : arg = chars "-h" ∨ arg = chars "--help") : ¬IsKnown arg := by
  rintro (h' | h' | h' | h') <;> rcases h with rfl | rfl <;> revert h' <;> decide +kernel

theorem verbosityOf_eq : verbosityOf arg =
    (if arg = chars "--verbose" then 1 else 0) + (verboseKeys arg).getD 0 := by
  rw [verbosityOf]
  split
  · next h =>
    have hnone : verboseKeys (chars "--verbose") = none := by decide +kernel
    rw [h, hnone, Option.getD_none]
  · rw [Nat.zero_add]

/-- An argument that `parse_cmdline` goes on after. -/
structure Accepts (o : ToolOptions) (arg : List Char) : Prop where
  file : AcceptsFile o arg
  request : (queryOf arg).isSome = true → o.requests.length < maxRequests
  known : IsKnown arg

theorem isKnown_iff : IsKnown arg ↔
    (isLoad arg || isSave arg || isOutfile arg || isOneOf (flagOptions.map Prod.fst) arg ||
      (verboseKeys arg).isSome || (queryOf arg).isSome) = true := by
  simp only [Bool.or_eq_true]
  constructor
  · rintro (h | h | h | h)
    · simp only [Bool.or_eq_true] at h
      exact .inl (.inl (.inl h))
    · exact .inl (.inl (.inr h))
    · exact .inl (.inr h)
    · exact .inr h
  · rintro (((h | h) | h) | h)
    · exact .file (by simpa only [Bool.or_eq_true] using h)
    · exact .flag h
    · exact .verbose h
    · exact .query h

theorem parseArg_eq_ok_iff : parseArg o arg = .ok o' ↔ Accepts o arg ∧ o' = o.after arg := by
  rw [parseArg]
  split
  · next hhelp => exact ⟨nofun, fun h => absurd h.1.known (not_isKnown_help hhelp)⟩
  · simp only [parseFlag_eq, parseVerbose_eq]
    constructor
    · intro h
      obtain ⟨⟨o₁, isFile⟩, hfile, h⟩ := bind_eq_ok.mp h
      obtain ⟨haccepts, rfl, rfl⟩ := parseFile_eq_ok_iff.mp hfile
      obtain ⟨⟨o₂, isQuery⟩, hquery, h⟩ := bind_eq_ok.mp h
      obtain ⟨hrequest, rfl, rfl⟩ := parseQuery_eq_ok_iff.mp hquery
      dsimp only at h
      split at h
      · next hknown =>
        obtain rfl := Except.ok.inj h
        refine ⟨⟨haccepts, hrequest, isKnown_iff.mpr hknown⟩, ?_⟩
        rw [ToolOptions.after, verbosityOf_eq, ← Nat.add_assoc]
      · cases h
    · rintro ⟨⟨hfile, hrequest, hknown⟩, rfl⟩
      refine bind_eq_ok.mpr ⟨_, parseFile_eq_ok_iff.mpr ⟨hfile, rfl, rfl⟩, ?_⟩
      refine bind_eq_ok.mpr ⟨_, parseQuery_eq_ok_iff.mpr ⟨hrequest, rfl, rfl⟩, ?_⟩
      dsimp only
      rw [if_pos (isKnown_iff.mp hknown), ToolOptions.after, verbosityOf_eq, ← Nat.add_assoc]

end Argument

/-! ### The command line -/

/-- The arguments that `parse_cmdline` accepts. -/
structure IsCommandLine (args : List (List Char)) : Prop where
  known : ∀ arg ∈ args, IsKnown arg
  named : ∀ arg ∈ args, (isLoad arg = true ∨ isSave arg = true → 7 < arg.length) ∧
    (isOutfile arg = true → 10 < arg.length)
  oneFile : (args.filterMap rawDataFileOf).length ≤ 1
  requests : (args.filterMap queryOf).length ≤ maxRequests

theorem rawDataFileOf_isSome {arg : List Char} :
    (rawDataFileOf arg).isSome = true ↔ isLoad arg = true ∨ isSave arg = true := by
  rw [rawDataFileOf]
  split
  · next h => exact ⟨fun _ => h, fun _ => rfl⟩
  · next h => exact ⟨nofun, fun h' => absurd h' h⟩

theorem length_filterMap_append {α β : Type} (f : α → Option β) (l : List α) (a : α) :
    ((l ++ [a]).filterMap f).length = (l.filterMap f).length + if (f a).isSome then 1 else 0 := by
  rw [List.filterMap_append, List.length_append]
  cases h : f a <;> simp [h]

theorem describedBy_no_file {args : List (List Char)} :
    (ToolOptions.describedBy args).needInput = false ∧
      (ToolOptions.describedBy args).needOutput = false ↔
        (args.filterMap rawDataFileOf).length = 0 := by
  rw [List.length_eq_zero_iff, List.filterMap_eq_nil_iff]
  simp only [ToolOptions.describedBy, List.any_eq_false, Bool.not_eq_true]
  have hnone {arg : List Char} :
      rawDataFileOf arg = none ↔ isLoad arg = false ∧ isSave arg = false := by
    rw [← Option.not_isSome_iff_eq_none, rawDataFileOf_isSome, not_or, Bool.not_eq_true,
      Bool.not_eq_true]
  constructor
  · intro h arg harg
    exact hnone.mpr ⟨h.1 arg harg, h.2 arg harg⟩
  · intro h
    exact ⟨fun arg harg => (hnone.mp (h arg harg)).1, fun arg harg => (hnone.mp (h arg harg)).2⟩

theorem isCommandLine_append {args : List (List Char)} {arg : List Char} :
    IsCommandLine (args ++ [arg]) ↔
      IsCommandLine args ∧ Accepts (.describedBy args) arg := by
  have hfile := length_filterMap_append rawDataFileOf args arg
  have hquery := length_filterMap_append queryOf args arg
  have hlast : arg ∈ args ++ [arg] := List.mem_append_right _ (List.mem_singleton_self arg)
  constructor
  · rintro ⟨hknown, hnamed, hone, hrequests⟩
    rw [hfile] at hone
    rw [hquery] at hrequests
    refine ⟨⟨fun a ha => hknown a (List.mem_append_left _ ha),
      fun a ha => hnamed a (List.mem_append_left _ ha), by omega, by omega⟩,
      ⟨fun h => describedBy_no_file.mpr ?_, (hnamed arg hlast).1, (hnamed arg hlast).2⟩,
      fun h => ?_, hknown arg hlast⟩
    · rw [if_pos (rawDataFileOf_isSome.mpr h)] at hone
      omega
    · rw [if_pos h] at hrequests
      exact hrequests
  · rintro ⟨⟨hknown, hnamed, hone, hrequests⟩, haccepts⟩
    have hmem {a : List Char} (ha : a ∈ args ++ [arg]) : a ∈ args ∨ a = arg := by
      simpa using ha
    refine ⟨fun a ha => ?_, fun a ha => ?_, ?_, ?_⟩
    · rcases hmem ha with ha | rfl
      · exact hknown a ha
      · exact haccepts.known
    · rcases hmem ha with ha | rfl
      · exact hnamed a ha
      · exact ⟨haccepts.file.rawDataFile, haccepts.file.outFile⟩
    · rw [hfile]
      split
      · next h =>
        have hzero := describedBy_no_file.mp (haccepts.file.once (rawDataFileOf_isSome.mp h))
        omega
      · exact hone
    · rw [hquery]
      split
      · next h => exact haccepts.request h
      · exact hrequests

/-- The loop over the arguments accepts exactly the command lines, and gives what they describe. -/
theorem foldlM_parseArg {args : List (List Char)} {o : ToolOptions} :
    args.foldlM parseArg .start = .ok o ↔ IsCommandLine args ∧ o = .describedBy args := by
  induction args using List.reverseRecOn generalizing o with
  | nil =>
    have hnil : IsCommandLine [] := ⟨nofun, nofun, Nat.zero_le _, Nat.zero_le _⟩
    rw [List.foldlM_nil]
    exact ⟨fun h => ⟨hnil, (Except.ok.inj h).symm⟩, fun h => congrArg Except.ok h.2.symm⟩
  | append_singleton args arg ih =>
    rw [List.foldlM_append, isCommandLine_append, describedBy_append]
    constructor
    · intro h
      obtain ⟨o', hargs, harg⟩ := bind_eq_ok.mp h
      obtain ⟨hline, rfl⟩ := ih.mp hargs
      simp only [List.foldlM_cons, List.foldlM_nil, bind_pure] at harg
      obtain ⟨haccepts, rfl⟩ := parseArg_eq_ok_iff.mp harg
      exact ⟨⟨hline, haccepts⟩, rfl⟩
    · rintro ⟨⟨hline, haccepts⟩, rfl⟩
      refine bind_eq_ok.mpr ⟨_, ih.mpr ⟨hline, rfl⟩, ?_⟩
      simp only [List.foldlM_cons, List.foldlM_nil, bind_pure]
      exact parseArg_eq_ok_iff.mpr ⟨haccepts, rfl⟩

/-- `parse_cmdline` goes on exactly when each argument is an option with its file name, at most one
is for a file of raw data, and there is room for the queries.  The variables are then what the
arguments say together, with the queries in their order. -/
theorem parseCmdline_eq_ok_iff {args : List (List Char)} (hargs : args ≠ []) (o : ToolOptions) :
    parseCmdline args = .ok o ↔ IsCommandLine args ∧ o = .describedBy args := by
  rw [parseCmdline, if_neg hargs, foldlM_parseArg]

/-- A command line with a file, a level and a query. -/
def coresOfFile : List (List Char) := [chars "--load=raw.txt", chars "-vv", chars "--cores"]

theorem isCommandLine_coresOfFile : IsCommandLine coresOfFile where
  known := by
    have hload : IsKnown (chars "--load=raw.txt") := .file (by decide +kernel)
    have hverbose : IsKnown (chars "-vv") := .verbose (by decide +kernel)
    have hcores : IsKnown (chars "--cores") := .query (by decide +kernel)
    simp only [coresOfFile, List.forall_mem_cons]
    exact ⟨hload, hverbose, hcores, nofun⟩
  named := by decide +kernel
  oneFile := by decide +kernel
  requests := by decide +kernel

theorem parseCmdline_coresOfFile :
    parseCmdline coresOfFile = .ok (.describedBy coresOfFile) :=
  (parseCmdline_eq_ok_iff (List.cons_ne_nil _ _) _).mpr ⟨isCommandLine_coresOfFile, rfl⟩

end LibCpuid
