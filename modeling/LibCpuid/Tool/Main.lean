import LibCpuid.AffinityMaskStr
import LibCpuid.CpuListOutput
import LibCpuid.Dump.Deserialize
import LibCpuid.EpcSections
import LibCpuid.GetRawData
import LibCpuid.Names
import LibCpuid.Signatures
import LibCpuid.System
import LibCpuid.Tool.Cmdline

/-! The rest of `cpuid_tool.c`: what the program reads and prints for a command line. -/

namespace LibCpuid

open CLang

/-- What the program prints or writes.  `out` is the file of `--outfile`, or else `stdout`, and a
dump without a name goes to `stdout`. -/
inductive ToolEvent
  | out (text : List Char)
  | stdout (text : List Char)
  | stderr (text : List Char)
  | dump (file text : List Char)

/-- What the queries `--rdmsr` and `--rdmsr-raw` print when the driver can be opened. -/
structure MsrTexts where
  info : List Char
  raw : List Char

/-- What the program runs on: the thread that captures the raw data, the host of the functions that
identify, the files that can be opened, and what the other functions of the library return.  The
list is what the variable of `print_cpulist` holds before it is initialised. -/
structure ToolHost (Affinity : Type) where
  config : BuildConfig
  thread : ThreadHost Affinity
  threadState : ThreadState Affinity
  live : Host
  readFile : List Char → Option (List Char)
  stdin : List Char
  canWrite : List Char → Bool
  cpuidPresent : Int
  cpuClock : Int
  cpuClockByOs : Int
  cpuClockMeasure : Int
  cpuClockByIc : Int
  msr : Except CpuError MsrTexts
  alloc : Nat → Bool
  stackList : CpuList

/-! ### Texts -/

/-- `%02X`. -/
def printHexUpper (n : Int) : List Char :=
  (printHex 2 (BitVec.ofInt 32 n).toNat).map Char.toUpper

/-- `%d (%02Xh)`. -/
def printWithHex (n : Int) : List Char :=
  printInt n ++ (chars " (" ++ (printHexUpper n ++ chars "h)"))

/-- `affinity_mask_str`, whose buffer holds NULs before the first call. -/
def affinityMaskText (m : CpuAffinityMask) : Checked (List Char) := do
  let buffer ← affinityMaskStr m fun _ => '\x00'
  .ok (cString (List.ofFn buffer))

/-- The names of the features of a CPU, each behind a space. -/
def featuresText (data : CpuId) : List Char :=
  CpuFeature.all.flatMap fun feature =>
    if data.flags feature then ' ' :: chars (cpuFeatureStr feature) else []

/-- `%d (%s)` of the size of the SSE unit. -/
def sseSizeAuthority (data : CpuId) : List Char :=
  chars (if data.detectionHints .sseSizeAuth then "authoritative" else "non-authoritative")

/-- A line of the output. -/
def outLine (text : List Char) : ToolEvent := .out (text ++ ['\n'])

/-- `usage`. -/
def usage : List Char :=
  unlines ([chars "Usage: cpuid_tool [options]", [], chars "Options:",
    chars "  -h, --help       - Show this help",
    chars "  --load=<file>    - Load raw CPUID data from file",
    chars "  --save=<file>    - Acquire raw CPUID data and write it to file",
    chars "  --report, --all  - Report all decoded CPU info (w/o clock)",
    chars "  --clock          - in conjunction to --report: print CPU clock as well",
    chars "  --clock-rdtsc    - same as --clock, but use RDTSC for clock detection",
    chars "  --cpulist        - list all known CPUs",
    chars "  --sgx            - list SGX leaf data, if SGX is supported.",
    chars "  --hypervisor     - print hypervisor vendor if detected.",
    chars "  --quiet          - disable warnings",
    chars "  --outfile=<file> - redirect all output to this file, instead of stdout",
    chars "  --verbose, -v    - be extra verbose (more keys increase verbosiness level)",
    chars "  --version        - print library version", []]) ++
  (chars "Query switches (generate 1 line of output per switch; in order of appearance):" ++
    (synopses matchtable 80 ++
      unlines [[], [],
        chars "If `-' is used for <file>, then stdin/stdout will be used instead of files.",
        chars "When no options are present, the program behaves as if it was invoked with",
        chars "  cpuid_tool \"--save=raw.txt --outfile=report.txt --report --verbose\""]))
where
  /-- The loop over the switches. -/
  synopses : List (Query × String × Bool) → Nat → List Char
    | [], _ => []
    | row :: rest, lineFill =>
      let synopsis := chars row.2.1
      let wraps := lineFill + synopsis.length > 76
      let lineFill := if wraps then 2 else lineFill
      (if wraps then chars "\n  " else []) ++ synopsis ++
        if rest = [] then [] else chars ", " ++ synopses rest (lineFill + synopsis.length + 2)

/-- What `parse_cmdline` prints before it ends the program, and the exit code. -/
def CmdlineStop.finish : CmdlineStop → Int × List ToolEvent
  | .help => (0, [.stdout usage])
  | .xerror msg =>
    (-1, [.stderr (unlines [chars "Error: " ++ chars msg, [],
      chars "Use -h to get a list of supported options"])])
  | .unrecognized arg =>
    (-1, [.stderr (unlines [chars "Unrecognized option: `" ++ (arg ++ chars "'"), [],
      chars "Use -h to get a list of supported options"])])

/-! ### Queries -/

/-- `check_need_raw_data`. -/
def checkNeedRawData (o : ToolOptions) : Bool :=
  o.needOutput || o.needReport || o.needIdentify ||
    o.requests.any fun query => matchtable.any fun row => decide (query = row.1) && row.2.2

/-- What a pointer to a record points to. -/
def derefData : Option CpuId → Checked CpuId
  | some data => .ok data
  | none => .error .nullPointer

section Query

variable {Affinity : Type} (host : ToolHost Affinity) (data : Option CpuId)

/-- The line of a field that is a string. -/
def strQuery (field : CpuId → List Char) : Checked (List ToolEvent) := do
  .ok [outLine (field (← derefData data))]

/-- The line of a field that is a number. -/
def intQuery (field : CpuId → Int) : Checked (List ToolEvent) :=
  strQuery data fun data => printInt (field data)

/-- What `print_info` prints when the driver of the MSRs cannot be opened. -/
def cannotOpenMsr (err : CpuError) : ToolEvent :=
  outLine (chars "Cannot open MSR driver: " ++ chars err.description)

/-- The `switch` of `print_info`. -/
def printQuery : Query → Checked (List ToolEvent)
  | .cpuidPresent => .ok [outLine (printInt host.cpuidPresent)]
  | .architecture => strQuery data fun data => chars (cpuArchitectureStr data.architecture)
  | .featureLevel => strQuery data fun data => chars (cpuFeatureLevelStr data.featureLevel)
  | .purpose => strQuery data fun data => chars (cpuPurposeStr data.purpose)
  | .vendorStr => strQuery data (·.vendorStr)
  | .vendorId => intQuery data (·.vendor.code)
  | .brandString => strQuery data (·.brandStr)
  | .family => intQuery data (·.x86.family)
  | .model => intQuery data (·.x86.model)
  | .stepping => intQuery data (·.x86.stepping)
  | .extFamily => intQuery data (·.x86.extFamily)
  | .extModel => intQuery data (·.x86.extModel)
  | .implementer => intQuery data (·.arm.implementer)
  | .variant => intQuery data (·.arm.variant)
  | .partNum => intQuery data (·.arm.partNum)
  | .revision => intQuery data (·.arm.revision)
  | .numCores => intQuery data (·.numCores)
  | .numLogical => intQuery data (·.numLogicalCpus)
  | .totalCpus => .ok [outLine (printInt host.live.totalCpus)]
  | .affiMask => do
    let text ← affinityMaskText (← derefData data).affinityMask
    .ok [outLine (chars "0x" ++ text)]
  | .l1dSize => intQuery data (·.cache .l1d)
  | .l1iSize => intQuery data (·.cache .l1i)
  | .l2Size => intQuery data (·.cache .l2)
  | .l3Size => intQuery data (·.cache .l3)
  | .l4Size => intQuery data (·.cache .l4)
  | .l1dAssoc => intQuery data (·.assoc .l1d)
  | .l1iAssoc => intQuery data (·.assoc .l1i)
  | .l2Assoc => intQuery data (·.assoc .l2)
  | .l3Assoc => intQuery data (·.assoc .l3)
  | .l4Assoc => intQuery data (·.assoc .l4)
  | .l1dCacheline => intQuery data (·.cacheline .l1d)
  | .l1iCacheline => intQuery data (·.cacheline .l1i)
  | .l2Cacheline => intQuery data (·.cacheline .l2)
  | .l3Cacheline => intQuery data (·.cacheline .l3)
  | .l4Cacheline => intQuery data (·.cacheline .l4)
  | .l1dInstances => intQuery data (·.instances .l1d)
  | .l1iInstances => intQuery data (·.instances .l1i)
  | .l2Instances => intQuery data (·.instances .l2)
  | .l3Instances => intQuery data (·.instances .l3)
  | .l4Instances => intQuery data (·.instances .l4)
  | .codename => strQuery data (·.cpuCodename)
  | .technology => strQuery data (·.technologyNode)
  | .features => strQuery data featuresText
  | .clock => .ok [outLine (printInt host.cpuClock)]
  | .clockOs => .ok [outLine (printInt host.cpuClockByOs)]
  | .clockRdtsc => .ok [outLine (printInt host.cpuClockMeasure)]
  | .clockIc => .ok [outLine (printInt host.cpuClockByIc)]
  | .rdmsr =>
    .ok [match host.msr with | .ok texts => .out texts.info | .error err => cannotOpenMsr err]
  -- the dump goes to `stdout`, whatever the file of the output is
  | .rdmsrRaw =>
    .ok [match host.msr with | .ok texts => .stdout texts.raw | .error err => cannotOpenMsr err]
  | .sseUnitSize =>
    strQuery data fun data =>
      printInt data.x86.sseSize ++ (chars " (" ++ (sseSizeAuthority data ++ chars ")"))

/-- `print_info`. -/
def printInfo (o : ToolOptions) (query : Query) : Checked (List ToolEvent) :=
  if data.isNone && checkNeedRawData o then
    .ok [.stderr (unlines [chars "print_info: raw data is required but not provided."])]
  else printQuery host data query

end Query

/-! ### The report -/

/-- The lines of the report for a CPU type. -/
def reportLines (index : Nat) (data : CpuId) : Checked (List (List Char)) := do
  let isX86 := data.architecture = .x86
  let isArm := data.architecture = .arm
  let mask ← affinityMaskText data.affinityMask
  let kb (n : Int) := printInt n ++ chars " KB"
  let way (n : Int) := printInt n ++ chars "-way"
  let bytes (n : Int) := printInt n ++ chars " bytes"
  let quoted (text : List Char) := '`' :: (text ++ ['\''])
  .ok ([chars "CPU Info for type #" ++ (printInt index ++ chars ":"),
      chars "------------------",
      chars "  arch       : " ++ chars (cpuArchitectureStr data.architecture),
      chars "  feat_level : " ++ chars (cpuFeatureLevelStr data.featureLevel),
      chars "  purpose    : " ++ chars (cpuPurposeStr data.purpose),
      chars "  vendor_str : " ++ quoted data.vendorStr,
      chars "  vendor id  : " ++ printInt data.vendor.code,
      chars "  brand_str  : " ++ quoted data.brandStr] ++
    (if isX86 then
      [chars "  family     : " ++ printWithHex data.x86.family,
        chars "  model      : " ++ printWithHex data.x86.model,
        chars "  stepping   : " ++ printWithHex data.x86.stepping,
        chars "  ext_family : " ++ printWithHex data.x86.extFamily,
        chars "  ext_model  : " ++ printWithHex data.x86.extModel]
    else if isArm then
      [chars "  implementer: " ++ printWithHex data.arm.implementer,
        chars "  variant    : " ++ printWithHex data.arm.variant,
        chars "  part_num   : " ++ printWithHex data.arm.partNum,
        chars "  revision   : " ++ printWithHex data.arm.revision]
    else []) ++
    [chars "  num_cores  : " ++ printInt data.numCores,
      chars "  num_logical: " ++ printInt data.numLogicalCpus,
      chars "  tot_logical: " ++ printInt data.totalLogicalCpus,
      chars "  affi_mask  : 0x" ++ mask] ++
    (if isX86 then
      [chars "  L1 D cache : " ++ kb (data.cache .l1d),
        chars "  L1 I cache : " ++ kb (data.cache .l1i),
        chars "  L2 cache   : " ++ kb (data.cache .l2),
        chars "  L3 cache   : " ++ kb (data.cache .l3),
        chars "  L4 cache   : " ++ kb (data.cache .l4),
        chars "  L1D assoc. : " ++ way (data.assoc .l1d),
        chars "  L1I assoc. : " ++ way (data.assoc .l1i),
        chars "  L2 assoc.  : " ++ way (data.assoc .l2),
        chars "  L3 assoc.  : " ++ way (data.assoc .l3),
        chars "  L4 assoc.  : " ++ way (data.assoc .l4),
        chars "  L1D line sz: " ++ bytes (data.cacheline .l1d),
        chars "  L1I line sz: " ++ bytes (data.cacheline .l1i),
        chars "  L2 line sz : " ++ bytes (data.cacheline .l2),
        chars "  L3 line sz : " ++ bytes (data.cacheline .l3),
        chars "  L4 line sz : " ++ bytes (data.cacheline .l4),
        chars "  L1D inst.  : " ++ printInt (data.instances .l1d),
        chars "  L1I inst.  : " ++ printInt (data.instances .l1i),
        chars "  L2 inst.   : " ++ printInt (data.instances .l2),
        chars "  L3 inst.   : " ++ printInt (data.instances .l3),
        chars "  L4 inst.   : " ++ printInt (data.instances .l4),
        chars "  SSE units  : " ++ (printInt data.x86.sseSize ++
          (chars " bits (" ++ (sseSizeAuthority data ++ chars ")")))]
    else []) ++
    [chars "  code name  : " ++ quoted data.cpuCodename,
      chars "  technology : " ++ quoted data.technologyNode,
      chars "  features   :" ++ featuresText data])

/-- The loop of the report over the CPU types. -/
def reportTypes : Nat → List CpuId → Checked (List ToolEvent)
  | _, [] => .ok []
  | index, data :: rest => do
    let lines ← reportLines index data
    let events ← reportTypes (index + 1) rest
    .ok (lines.map outLine ++ events)

section Main

variable {Affinity : Type} (host : ToolHost Affinity) (o : ToolOptions)

/-- What the report says about a system that `cpu_identify_all` gives. -/
def reportSystem (r : CpuError) (system : SystemId) : Checked (List ToolEvent) :=
  if r ≠ .ok then .ok [outLine (chars "Error identifying the CPU: " ++ chars r.description)]
  else if system.cpuTypes = [] then
    .ok [outLine (chars "The cpu_types array is empty: there is nothing to report")]
  else do .ok (outLine (chars "CPUID is present") :: (← reportTypes 0 system.cpuTypes))

/-- The line of the report for `--clock` and `--clock-rdtsc`. -/
def reportClock : List ToolEvent :=
  if o.needClockreport then
    let mhz := if o.needTimedClockreport then host.cpuClockMeasure else host.cpuClock
    [outLine (chars "  cpu clock  : " ++ (printInt mhz ++ chars " MHz"))]
  else []

/-- The part of `main` for `--report`. -/
def printReport (raw : CpuRawDataArray) : Checked (List ToolEvent) :=
  if !o.needReport then .ok []
  else do
    let writing :=
      if o.verboseLevel ≥ 1 then
        [.stdout (unlines [chars "Writing decoded CPU report to `" ++ (o.outFile ++ chars "'")])]
      else []
    let (r, system) ← cpuIdentifyAll host.live raw
    .ok (writing ++ (← reportSystem r system) ++ reportClock host o)

/-! ### Queries of all CPU types -/

/-- The loop over the queries. -/
def printRequests (data : Option CpuId) : List Query → Checked (List ToolEvent)
  | [] => .ok []
  | query :: rest => do
    let events ← printInfo host data o query
    let more ← printRequests data rest
    .ok (events ++ more)

/-- The loop over the CPU types, from an index on. -/
def printTypes (withAffinity : Bool) : Nat → List CpuId → Checked (List ToolEvent)
  | _, [] => .ok []
  | index, data :: rest => do
    let separator :=
      if withAffinity ∧ index > 0 then [outLine (List.replicate 80 '-')] else []
    let events ← printRequests host o (some data) o.requests
    let more ← printTypes withAffinity (index + 1) rest
    .ok (separator ++ events ++ more)

/-- Whether `main` processes the queries: not when the only ones are those that the report
answers. -/
def processesQueries : Bool :=
  let onlyClockQueries := o.requests.all fun query => query = .clock || query = .clockRdtsc
  ((!o.needReport || !onlyClockQueries) && !o.requests.isEmpty) || o.needIdentify

/-! ### The other options -/

/-- The vendors of `print_cpulist`. -/
def cpuVendors : List (String × CpuVendor) :=
  [("Intel", .intel), ("AMD/Hygon", .amd), ("Cyrix", .cyrix), ("NexGen", .nexgen),
    ("Transmeta", .transmeta), ("UMC", .umc), ("Centaur/VIA", .centaur), ("Rise", .rise),
    ("SiS", .sis), ("NSC", .nsc), ("ARM", .arm), ("Broadcom", .broadcom), ("Cavium", .cavium),
    ("DEC", .dec), ("FUJITSU", .fujitsu), ("HiSilicon", .hisilicon), ("Infineon", .infineon),
    ("Motorola/Freescale", .freescale), ("NVIDIA", .nvidia), ("APM", .apm),
    ("Qualcomm", .qualcomm), ("Samsung", .samsung), ("Marvell", .marvell), ("Apple", .apple),
    ("Faraday", .faraday), ("Microsoft", .microsoft), ("Phytium", .phytium),
    ("Ampere", .ampere)]

/-- `list.names[j]`, as a string. -/
def listName (list : CpuList) (j : Nat) : Checked (List Char) :=
  match list.names with
  | .null => .error .nullPointer
  | .wild => .error .invalidPointer
  | .block slots => do
    match ← loadList slots j with
    | some name => .ok name
    | none => .error .invalidPointer

/-- The loop over the vendors, with the list and the number of allocations tried so far. -/
def printVendors (alloc : Nat → Bool) :
    List (String × CpuVendor) → CpuList → Nat → Checked (List ToolEvent)
  | [], _, _ => .ok []
  | (name, vendor) :: rest, list, calls => do
    let s ← cpuidGetCpuList alloc vendor ⟨list, calls, none⟩
    let names ← (List.range s.list.numEntries.toNat).mapM (listName s.list)
    let list ← cpuidFreeCpuList s.list
    let events ← printVendors alloc rest list s.calls
    .ok (outLine (chars "-----" ++ (chars name ++ chars "-----")) :: names.map outLine ++ events)

/-- `print_cpulist`. -/
def printCpulist : Checked (List ToolEvent) := printVendors host.alloc cpuVendors host.stackList 0

/-- `%d (%s)` for a flag. -/
def presence (n : Nat) : List Char :=
  printInt n ++ (chars " (" ++ (chars (if n ≠ 0 then "present" else "absent") ++ chars ")"))

/-- `print_sgx_data`. -/
def printSgxData (raw : CpuRawData) (data : CpuId) : List ToolEvent :=
  let sgx := data.x86.sgx
  let sectionLine (i : Nat) : ToolEvent :=
    let epc := cpuidGetEpc host.live raw i
    outLine (chars "    SGX EPC section #" ++ ((printInt i).rightpad 8 ' ' ++
      (chars ": start = " ++ (printHex 1 epc.startAddr.toNat ++
        (chars ", size = " ++ printInt epc.length.toNat)))))
  outLine (chars "SGX: " ++ presence sgx.present.toNat) ::
    if sgx.present = 0 then []
    else
      [outLine (chars "SGX max enclave size (32-bit): 2^" ++ printInt sgx.maxEnclave32bit.toNat),
        outLine (chars "SGX max enclave size (64-bit): 2^" ++ printInt sgx.maxEnclave64bit.toNat),
        outLine (chars "SGX1 extensions              : " ++ presence (sgx.flags .sgx1).toNat),
        outLine (chars "SGX2 extensions              : " ++ presence (sgx.flags .sgx2).toNat),
        outLine (chars "SGX MISCSELECT               : " ++ printHex 8 sgx.miscSelect.toNat),
        outLine (chars "SGX SECS.ATTRIBUTES mask     : " ++ printHex 16 sgx.secsAttributes.toNat),
        outLine (chars "SGX SECS.XSAVE feature mask  : " ++ printHex 16 sgx.secsXfrm.toNat),
        outLine (chars "SGX EPC sections count       : " ++ printInt sgx.numEpcSections)] ++
      (List.range sgx.numEpcSections.toNat).map sectionLine

/-- The table of `print_hypervisor`. -/
def hypervisorsVendors : List (String × HypervisorVendor) :=
  [("none", .none), ("FreeBSD bhyve", .bhyve), ("Microsoft Hyper-V ", .hyperv), ("KVM", .kvm),
    ("Parallels", .parallels), ("QEMU", .qemu), ("VirtualBox", .virtualbox), ("VMware", .vmware),
    ("Xen", .xen)]

/-- `print_hypervisor`. -/
def printHypervisor (raw : CpuRawData) (data : CpuId) : Checked (List ToolEvent) := do
  let hypervisor ← cpuidGetHypervisor host.live raw (some data)
  let name :=
    match hypervisorsVendors.find? fun row => row.2 = hypervisor with
    | some row => row.1
    | none => "unknown"
  .ok (outLine (chars "Hypervisor vendor: " ++ chars name) ::
    if hypervisor = .none then
      [outLine
          (chars "Caution: no hypervisor detected from CPUID bits, but a hypervisor may be hidden."),
        outLine
          (chars "Refer to https://github.com/anrieff/libcpuid/issues/90#issuecomment-296568713")]
    else [])

/-! ### The program -/

/-- The string in a buffer for a file name.  Without a NUL a reader leaves the buffer. -/
def fileName (buffer : List Char) : Checked (List Char) :=
  if buffer.length < fileMax then .ok buffer else .error .outOfBounds

/-- An error message, except in quiet mode. -/
def complain (lines : List (List Char)) : List ToolEvent :=
  if o.needQuiet then [] else [.stderr (unlines lines)]

/-- Whether the file of the output can be opened. -/
def opensOut : Checked Bool :=
  if o.outFile = [] ∨ o.outFile = chars "-" then .ok true
  else do .ok (host.canWrite (← fileName o.outFile))

/-- The text of the file of `--load`, if it can be opened. -/
def loadText : Checked (Option (List Char)) :=
  if o.rawDataFile = chars "-" then .ok (some host.stdin)
  else do .ok (host.readFile (← fileName o.rawDataFile))

/-- `cpuid_deserialize_all_raw_data` for the file of `--load`. -/
def loadRaw : Checked (CpuError × CpuRawDataArray) := do
  match ← loadText host o with
  | some text => cpuidDeserializeAllRawData text
  | none => .ok (.open, ⟨false, [], numRaw_nil_lt⟩)

/-- Where the raw data comes from or goes to, in a message. -/
def rawDataPlace (standard : String) : List Char :=
  if o.rawDataFile = chars "-" then chars standard
  else chars "file `" ++ (o.rawDataFile ++ chars "'")

/-- The raw data that `main` works on, or what it prints before it gives up. -/
def readRaw : Checked (Except (List ToolEvent) CpuRawDataArray) :=
  if o.needInput then do
    let (r, raw) ← loadRaw host o
    if r ≠ .ok then
      .ok (.error (complain o
        [chars "Cannot deserialize raw data from " ++ rawDataPlace o "stdin",
          chars "Error: " ++ chars r.description]))
    else .ok (.ok raw)
  else if checkNeedRawData o then do
    let (r, raw, _) ← cpuidGetAllRawData host.thread host.threadState
    if r ≠ .ok then
      .ok (.error (complain o
        [chars "Cannot obtain raw CPU data!", chars "Error: " ++ chars r.description]))
    else .ok (.ok raw)
  else .ok (.ok ⟨false, [], numRaw_nil_lt⟩)

/-- The dump of `--save`. -/
def saveRaw (raw : CpuRawDataArray) : Checked (Except (List ToolEvent) (List ToolEvent)) :=
  if !o.needOutput then .ok (.ok [])
  else if o.rawDataFile = chars "-" then do
    .ok (.ok [.dump [] (← cpuidSerializeAllRawData host.config raw)])
  else do
    let name ← fileName o.rawDataFile
    if host.canWrite name then
      .ok (.ok [.dump name (← cpuidSerializeAllRawData host.config raw)])
    else
      .ok (.error (complain o
        [chars "Cannot serialize raw data to " ++ rawDataPlace o "stdout",
          chars "Error: " ++ chars CpuError.open.description]))

/-- The queries, with the CPU types that are identified for them. -/
def printQueries (raw : CpuRawDataArray) :
    Checked (Except (List ToolEvent) (List CpuId × List ToolEvent)) :=
  if !processesQueries o then .ok (.ok ([], []))
  else if checkNeedRawData o then do
    let (r, system) ← cpuIdentifyAll host.live raw
    if r ≠ .ok then
      .ok (.error (complain o [chars "Error identifying the CPU: " ++ chars r.description]))
    else do
      let events ← printTypes host o raw.withAffinity 0 system.cpuTypes
      .ok (.ok (system.cpuTypes, events))
  else do
    let events ← printRequests host o none o.requests
    .ok (.ok ([], events))

def printWanted (wanted : Bool) (print : Checked (List ToolEvent)) : Checked (List ToolEvent) :=
  if wanted then print else .ok []

/-- What is printed about the first raw data and the first CPU type, which are read whether they
exist or not. -/
def printFirst (wanted : Bool) (raw : CpuRawDataArray) (cpuTypes : List CpuId)
    (print : CpuRawData → CpuId → Checked (List ToolEvent)) : Checked (List ToolEvent) :=
  printWanted wanted
    (match raw.raw, cpuTypes with
    | raw :: _, data :: _ => print raw data
    | _, _ => .error .nullPointer)

/-- `main`, after the command line: the exit code, and what is printed and written. -/
def runTool : Checked (Int × List ToolEvent) := do
  if !(← opensOut host o) then
    .ok (-1, complain o [chars "Cannot open `" ++ (o.outFile ++ chars "' for writing!")])
  else
    let version := if o.needVersion then [outLine host.config.version] else []
    match ← readRaw host o with
    | .error events => .ok (-1, version ++ events)
    | .ok raw =>
      match ← saveRaw host o raw with
      | .error events => .ok (-1, version ++ events)
      | .ok saved =>
        let report ← printReport host o raw
        match ← printQueries host o raw with
        | .error events => .ok (-1, version ++ saved ++ report ++ events)
        | .ok (cpuTypes, queries) =>
          let cpulist ← printWanted o.needCpulist (printCpulist host)
          let sgx ← printFirst o.needSgx raw cpuTypes fun raw data =>
            .ok (printSgxData host raw data)
          let hypervisor ← printFirst o.needHypervisor raw cpuTypes (printHypervisor host)
          .ok (0, version ++ saved ++ report ++ queries ++ cpulist ++ sgx ++ hypervisor)

/-- `main`, on the arguments after the name of the program. -/
def toolMain (args : List (List Char)) : Checked (Int × List ToolEvent) :=
  match parseCmdline args with
  | .error stop => .ok stop.finish
  | .ok o => runTool host o

end Main

end LibCpuid
