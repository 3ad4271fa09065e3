import LibCpuid.Types
import LibCpuid.Extract
import LibCpuid.CLang.Digits

/-! The functions of `libcpuid_util.c` that the decoders share: feature tables, codename matching,
and the counts of cores and caches that x86 processors report. -/

namespace LibCpuid

open CLang

/-- `data->flags[feature] = 1`. -/
def CpuId.setFlag (data : CpuId) (feature : CpuFeature) : CpuId :=
  { data with flags := Function.update data.flags feature true }

/-- `match_features`.  A row of the table is a bit of the register and a feature. -/
def matchFeatures (matchtable : List (Nat × CpuFeature)) (reg : BitVec 32) (data : CpuId) :
    CpuId :=
  matchtable.foldl
    (fun data row => if reg &&& (1#32 <<< row.1) ≠ 0 then data.setFlag row.2 else data) data

/-! ### Strings -/

/-- The characters before the first NUL. -/
def cString (s : List Char) : List Char := s.takeWhile (· ≠ '\x00')

/-- `xmatch_entry`: how many characters of the pattern the character `c` matches, if it matches.
An empty list stands for the NUL at the end of a string. -/
def xmatchEntry (c : Char) (p : List Char) : Option Nat :=
  match p with
  | [] => none
  | p0 :: rest =>
    if c.toLower = p0.toLower then some 1
    else if p0 = '.' then some 1
    else if p0 = '#' && c.isDigit then some 1
    else if p0 = '[' then
      let chars := rest.takeWhile (· ≠ ']')
      if chars.length = rest.length then none
      else if chars.any (fun q => q.toLower = c.toLower) then some (chars.length + 2)
      else none
    else none

/-- The inner loop of `match_pattern`: whether the whole pattern matches a prefix of the string. -/
def matchHere : List Char → List Char → Bool
  | _, [] => true
  | [], _ :: _ => false
  | c :: s, p =>
    match xmatchEntry c p with
    | none => false
    | some dj => matchHere s (p.drop dj)

/-- The outer loop of `match_pattern`, at index `i`. -/
def matchFrom (p : List Char) : List Char → Nat → Nat
  | [], _ => 0
  | c :: s, i =>
    if (xmatchEntry c p).isSome && matchHere (c :: s) p then i + 1 else matchFrom p s (i + 1)

/-- `match_pattern`: one more than the first index where the pattern matches, or 0. -/
def matchPattern (s p : List Char) : Nat := matchFrom p s 0

/-- `remove_substring`: the string without the first occurrence of the substring. -/
def removeSubstring (substring : List Char) : List Char → List Char
  | [] => []
  | c :: s =>
    if substring.isPrefixOf (c :: s) then (c :: s).drop substring.length
    else c :: removeSubstring substring s

/-- `collapse_spaces`: each run of white space becomes one space. -/
def collapseSpaces : Bool → List Char → List Char
  | _, [] => []
  | inSpace, c :: s =>
    if isSpace c then if inSpace then collapseSpaces true s else ' ' :: collapseSpaces true s
    else c :: collapseSpaces false s

/-! ### Codenames -/

/-- `UNKN_STR`. -/
def unknStr : String := "unknown"

/-- `match_entry_t`: a row of a table of processors.  A negative number matches nothing. -/
structure MatchEntry where
  family : Int
  model : Int
  stepping : Int
  extFamily : Int
  extModel : Int
  ncores : Int
  l2cache : Int
  l3cache : Int
  brandPattern : String
  brandScore : Int
  name : String
  technology : String

/-- `score`. -/
def score (entry : MatchEntry) (data : CpuId) : Int :=
  let array : List (Int × Int × Int) :=
    [(entry.family, data.x86.family, 2), (entry.model, data.x86.model, 2),
      (entry.stepping, data.x86.stepping, 2), (entry.extFamily, data.x86.extFamily, 2),
      (entry.extModel, data.x86.extModel, 2), (entry.ncores, data.numCores, 2),
      (entry.l2cache, data.cache .l2, 1), (entry.l3cache, data.cache .l3, 1)]
  let res := array.foldl
    (fun res field => if field.1 ≥ 0 ∧ field.1 = field.2.1 then res + field.2.2 else res) 0
  let pattern := entry.brandPattern.toList
  if entry.brandScore > 0 ∧ pattern.length > 0 then
    let brandStr := removeSubstring "CPU".toList data.brandStr
    let brandStr := removeSubstring "Processor".toList brandStr
    let brandStr := collapseSpaces false brandStr
    if matchPattern brandStr pattern ≠ 0 then res + entry.brandScore else res
  else res

/-- The loop of `match_cpu_codename`, from index `i`: the best score so far and its index. -/
def bestMatch (data : CpuId) : List MatchEntry → Nat → Int × Nat → Int × Nat
  | [], _, best => best
  | entry :: rest, i, best =>
    let t := score entry data
    bestMatch data rest (i + 1) (if t > best.1 then (t, i) else best)

/-- `match_cpu_codename`: the best score, and the names of the first entry that has it. -/
def matchCpuCodename (matchtable : List MatchEntry) (data : CpuId) : Int × CpuId :=
  let best := bestMatch data matchtable 0 (-1, 0)
  let entry := matchtable[best.2]?
  (best.1, { data with
    cpuCodename := (entry.map fun e => e.name.toList.take 64).getD data.cpuCodename
    technologyNode := (entry.map fun e => e.technology.toList.take 16).getD data.technologyNode })

/-! ### Cores and caches -/

/-- `get_count_order`: the steps test the top half, quarter, ... of the word and shift it left when
they are empty. -/
def getCountOrder (x : BitVec 32) : Int :=
  if x = 0 then -1
  else
    let x := x - 1
    if x = 0 then 0
    else
      let halve (mask : BitVec 32) (n : Nat) (s : BitVec 32 × Int) : BitVec 32 × Int :=
        if s.1 &&& mask = 0 then (s.1 <<< n, s.2 - n) else s
      (halve 0x80000000 1 (halve 0xc0000000 2 (halve 0xf0000000 4 (halve 0xff000000 8
        (halve 0xffff0000 16 (x, 32)))))).2

/-- `assign_cache_data`. -/
def assignCacheData (on : Bool) (cache : CacheType) (size assoc linesize : Int) (data : CpuId) :
    CpuId :=
  if on then
    { data with
      cache := Function.update data.cache cache size
      assoc := Function.update data.assoc cache assoc
      cacheline := Function.update data.cacheline cache linesize }
  else data

/-- `decode_number_of_cores_x86`. -/
def decodeNumberOfCoresX86 (raw : CpuRawData) (data : CpuId) : CpuId :=
  let basic := (raw.basicCpuid 0).eax.toNat
  let logicalCpus : Int :=
    if basic ≥ 1 then (((raw.basicCpuid 1).ebx.toNat >>> 16) &&& 0xff : Nat) else -1
  let numCores : Int :=
    if basic ≥ 1 ∧ basic ≥ 4 then 1 + (((raw.basicCpuid 4).eax.toNat >>> 26) &&& 0x3f : Nat)
    else -1
  let oneOrMore : Int := if logicalCpus ≥ 1 then logicalCpus else 1
  if data.flags .ht then
    if numCores > 1 then { data with numCores := numCores, numLogicalCpus := logicalCpus }
    else
      { data with
        numCores := 1
        numLogicalCpus := oneOrMore
        flags := if oneOrMore = 1 then Function.update data.flags .ht false else data.flags }
  else { data with numCores := oneOrMore, numLogicalCpus := oneOrMore }

/-- The cache that a level and a type number of the deterministic cache leaf mean. -/
def deterministicCacheType (cacheLevel cacheType : Nat) : Option CacheType :=
  if cacheLevel = 1 ∧ cacheType = 1 then some .l1d
  else if cacheLevel = 1 ∧ cacheType = 2 then some .l1i
  else if cacheLevel = 2 ∧ cacheType = 3 then some .l2
  else if cacheLevel = 3 ∧ cacheType = 3 then some .l3
  else if cacheLevel = 4 ∧ cacheType = 3 then some .l4
  else none

/-- The size in KB of a deterministic cache, in the 32-bit arithmetic of the source. -/
def deterministicCacheSize (regs : Regs) : BitVec 32 :=
  let ways : BitVec 32 := .ofNat 32 (extractsBits regs.ebx 31 22 + 1)
  let partitions : BitVec 32 := .ofNat 32 (extractsBits regs.ebx 21 12 + 1)
  let linesize : BitVec 32 := .ofNat 32 (extractsBits regs.ebx 11 0 + 1)
  let sets : BitVec 32 := .ofNat 32 (extractsBits regs.ecx 31 0 + 1)
  ways * partitions * linesize * sets / 1024

/-- The mask that takes an APIC id to the id of the cache that a sub-leaf describes. -/
def deterministicCacheMask (regs : Regs) : BitVec 32 :=
  let numSharingCache : BitVec 32 := .ofNat 32 (extractsBits regs.eax 25 14 + 1)
  let indexMsb := getCountOrder numSharingCache
  ~~~((1#32 <<< indexMsb.toNat) - 1)

/-- `decode_deterministic_cache_info_x86` on the sub-leaves from index `i` on. -/
def decodeDeterministicCacheInfoX86 (i : Nat) :
    List Regs → CpuId × InternalIdInfo → Checked (CpuId × InternalIdInfo)
  | [], s => .ok s
  | regs :: rest, (data, internal) =>
    let cacheLevel := extractsBits regs.eax 7 5
    let cacheType := extractsBits regs.eax 4 0
    if cacheLevel = 0 ∨ cacheType = 0 then .ok (data, internal)
    else
      match deterministicCacheType cacheLevel cacheType with
      | none => decodeDeterministicCacheInfoX86 (i + 1) rest (data, internal)
      | some type => do
        let cacheMask ← store internal.cacheMask i (deterministicCacheMask regs)
        let data := assignCacheData true type (deterministicCacheSize regs).toInt
          (extractsBits regs.ebx 31 22 + 1) (extractsBits regs.ebx 11 0 + 1) data
        decodeDeterministicCacheInfoX86 (i + 1) rest (data, { internal with cacheMask })

/-! ### Architecture levels -/

/-- `architecture_matchtable_ia_32`. -/
def architectureMatchtableIa32 : List (Int × CpuFeatureLevel) :=
  [(3, .i386), (4, .i486), (5, .i586), (6, .i686), (15, .i686)]

/-- `architecture_matchtable_x86_64`. -/
def architectureMatchtableX86_64 : List (List CpuFeature × CpuFeatureLevel) :=
  [([.cmov, .cx8, .fpu, .fxsr, .mmx, .sse, .sse2], .x86_64V1),
    ([.cx16, .lahfLm, .popcnt, .pni, .sse4_1, .sse4_2, .ssse3], .x86_64V2),
    ([.avx, .avx2, .bmi1, .bmi2, .f16c, .fma3, .abm, .movbe, .osxsave], .x86_64V3),
    ([.avx512f, .avx512bw, .avx512cd, .avx512dq, .avx512vl], .x86_64V4)]

/-- The inner loop over the features of a level: `is_compliant` after the last feature, and
`has_all_features`. -/
def featuresPresent (flags : CpuFeature → Bool) (features : List CpuFeature)
    (s : Bool × Bool) : Bool × Bool :=
  features.foldl (fun s feature => (flags feature, s.2 && flags feature)) s

/-- The loop over the 64-bit levels, with `is_compliant` and the level so far.  The source goes on
by `is_compliant`, not by `has_all_features`. -/
def x86_64Level (flags : CpuFeature → Bool) :
    List (List CpuFeature × CpuFeatureLevel) → Bool → CpuFeatureLevel → CpuFeatureLevel
  | [], _, level => level
  | (features, next) :: rest, isCompliant, level =>
    let (isCompliant, _) := featuresPresent flags features (isCompliant, true)
    if isCompliant then x86_64Level flags rest isCompliant next else level

/-- `decode_architecture_version_x86`. -/
def decodeArchitectureVersionX86 (data : CpuId) : CpuId :=
  let featureLevel :=
    if data.flags .lm then x86_64Level data.flags architectureMatchtableX86_64 false .unknown
    else
      match architectureMatchtableIa32.find? (fun row => data.x86.family = row.1) with
      | some row => row.2
      | none => .unknown
  { data with featureLevel }

end LibCpuid
