import LibCpuid.IdentifyFlags

/-! What identification takes from the host: the number of online CPUs, which it stores, and CPUID,
which it runs for the EPC sections that the raw data has no sub-leaf of. -/

namespace LibCpuid

open CLang

/-! ### The number of online CPUs -/

/-- The record with another `total_logical_cpus`. -/
def CpuId.withTotal (total : Int) (data : CpuId) : CpuId := { data with totalLogicalCpus := total }

/-- A decoder that neither reads nor writes `total_logical_cpus`. -/
def IgnoresTotal (decode : CpuId → CpuId) : Prop :=
  ∀ total data, decode (data.withTotal total) = (decode data).withTotal total

namespace IgnoresTotal

theorem comp {f g : CpuId → CpuId} (hf : IgnoresTotal f) (hg : IgnoresTotal g) :
    IgnoresTotal fun data => f (g data) := fun total data => by
  dsimp only
  rw [hg, hf]

theorem ite {p : CpuId → Prop} [∀ data, Decidable (p data)] {f g : CpuId → CpuId}
    (hp : ∀ total data, p (data.withTotal total) ↔ p data) (hf : IgnoresTotal f)
    (hg : IgnoresTotal g) : IgnoresTotal fun data => if p data then f data else g data := by
  intro total data
  dsimp only
  by_cases h : p data
  · rw [if_pos h, if_pos ((hp total data).mpr h), hf]
  · rw [if_neg h, if_neg (mt (hp total data).mp h), hg]

theorem ite_const {p : Prop} [Decidable p] {f g : CpuId → CpuId} (hf : IgnoresTotal f)
    (hg : IgnoresTotal g) : IgnoresTotal fun data => if p then f data else g data :=
  .ite (fun _ _ => Iff.rfl) hf hg

theorem foldl {α : Type} {step : CpuId → α → CpuId} (h : ∀ a, IgnoresTotal (step · a))
    (l : List α) : IgnoresTotal fun data => l.foldl step data := by
  induction l with
  | nil => exact fun _ _ => rfl
  | cons a l ih => exact ih.comp (h a)

end IgnoresTotal

theorem ignoresTotal_id : IgnoresTotal fun data => data := fun _ _ => rfl

theorem ignoresTotal_matchFeatures (rows : List (Nat × CpuFeature)) (reg : BitVec 32) :
    IgnoresTotal (matchFeatures rows reg) :=
  .foldl (fun _ => .ite_const (fun _ _ => rfl) ignoresTotal_id) rows

theorem ignoresTotal_assignCacheData (on : Bool) (cache : CacheType) (size assoc linesize : Int) :
    IgnoresTotal (assignCacheData on cache size assoc linesize) := by
  intro total data
  unfold assignCacheData
  split <;> rfl

theorem ignoresTotal_decodeNumberOfCoresX86 (raw : CpuRawData) :
    IgnoresTotal (decodeNumberOfCoresX86 raw) :=
  .ite (fun _ _ => Iff.rfl) (.ite_const (fun _ _ => rfl) fun _ _ => rfl) fun _ _ => rfl

theorem bestMatch_withTotal (total : Int) (data : CpuId) (rows : List MatchEntry) (i : Nat)
    (best : Int × Nat) :
    bestMatch (data.withTotal total) rows i best = bestMatch data rows i best := by
  induction rows generalizing i best with
  | nil => rfl
  | cons entry rows ih => exact ih _ _

theorem matchCpuCodename_withTotal (rows : List MatchEntry) (total : Int) (data : CpuId) :
    matchCpuCodename rows (data.withTotal total) =
      ((matchCpuCodename rows data).1, (matchCpuCodename rows data).2.withTotal total) := by
  simp only [matchCpuCodename, bestMatch_withTotal]
  rfl

theorem ignoresTotal_decodeIntelOldstyleCacheInfo (raw : CpuRawData) :
    IgnoresTotal (decodeIntelOldstyleCacheInfo raw) := by
  have hfold := IgnoresTotal.foldl (fun row : Nat × CacheType × Int × Int × Int =>
    ignoresTotal_assignCacheData (decide (row.1 ∈ oldstyleDescriptors raw)) row.2.1 row.2.2.1
      row.2.2.2.1 row.2.2.2.2) oldstyleCaches
  intro total data
  have hdata := hfold total data
  unfold decodeIntelOldstyleCacheInfo
  dsimp only at hdata ⊢
  rw [hdata]
  generalize oldstyleCaches.foldl _ data = data
  by_cases h49 : 0x49 ∈ oldstyleDescriptors raw
  · simp only [assignCacheData, h49, decide_true, if_true]
    split <;> rfl
  · simp only [assignCacheData, h49, decide_false, Bool.false_eq_true, if_false]
    split <;> rfl

theorem ignoresTotal_decodeAmdCacheInfo (raw : CpuRawData) :
    IgnoresTotal (decodeAmdCacheInfo raw) := by
  intro total data
  have hassign := fun on cache size assoc linesize data =>
    ignoresTotal_assignCacheData on cache size assoc linesize total data
  unfold decodeAmdCacheInfo
  dsimp only
  split <;> split <;> (try split) <;> simp only [hassign] <;> rfl

theorem ignoresTotal_decodeAmdNumberOfCores (raw : CpuRawData) :
    IgnoresTotal (decodeAmdNumberOfCores raw) :=
  .ite (fun _ _ => Iff.rfl) (.ite_const (fun _ _ => rfl) fun _ _ => rfl) fun _ _ => rfl

/-! The decoders of features load tables when the leaf that they need is there. -/

theorem ignoresTotal_loadIntelFeatures (raw : CpuRawData) :
    IgnoresTotal (loadIntelFeatures raw) := by
  intro total data
  have hmatch := fun rows reg data => ignoresTotal_matchFeatures rows reg total data
  unfold loadIntelFeatures
  dsimp only
  split <;> split <;> split <;> simp only [hmatch]

theorem ignoresTotal_loadAmdFeatures (raw : CpuRawData) : IgnoresTotal (loadAmdFeatures raw) := by
  intro total data
  have hmatch := fun rows reg data => ignoresTotal_matchFeatures rows reg total data
  unfold loadAmdFeatures
  dsimp only
  split <;> split <;> split <;> (try simp only [hmatch]) <;> rfl

theorem ignoresTotal_decodeIntelSgxFeatures (host : Host) (raw : CpuRawData) :
    IgnoresTotal (decodeIntelSgxFeatures host raw) :=
  .ite_const ignoresTotal_id fun _ _ => rfl

/-! ### Decoders that may fault -/

/-- The effect of `withTotal` on what a vendor's decoder passes on. -/
def withTotalBoth (total : Int) (s : CpuId × InternalIdInfo) : CpuId × InternalIdInfo :=
  (s.1.withTotal total, s.2)

theorem decodeDeterministicCacheInfoX86_withTotal (total : Int) (i : Nat) (leaves : List Regs)
    (s : CpuId × InternalIdInfo) :
    decodeDeterministicCacheInfoX86 i leaves (withTotalBoth total s) =
      (decodeDeterministicCacheInfoX86 i leaves s).map (withTotalBoth total) := by
  induction leaves generalizing i s with
  | nil => rfl
  | cons regs leaves ih =>
    obtain ⟨data, internal⟩ := s
    simp only [decodeDeterministicCacheInfoX86, withTotalBoth] at ih ⊢
    split
    · rfl
    · split
      · exact ih _ (data, internal)
      · cases store internal.cacheMask i (deterministicCacheMask regs) with
        | error f => rfl
        | ok mask =>
          rw [ok_bind, ok_bind, ignoresTotal_assignCacheData]
          exact ih _ (_, _)

theorem decodeIntelCaches_withTotal (total : Int) (raw : CpuRawData) (data : CpuId)
    (internal : InternalIdInfo) :
    decodeIntelCaches raw (data.withTotal total) internal =
      (decodeIntelCaches raw data internal).map (withTotalBoth total) := by
  unfold decodeIntelCaches
  split
  · exact decodeDeterministicCacheInfoX86_withTotal total 0 _ (data, internal)
  · split
    · rw [ignoresTotal_decodeIntelOldstyleCacheInfo]
      rfl
    · rfl

theorem decodeIntelNumberOfCores_withTotal (total : Int) (raw : CpuRawData) (data : CpuId) :
    decodeIntelNumberOfCores raw (data.withTotal total) =
      (decodeIntelNumberOfCores raw data).map (CpuId.withTotal total) := by
  unfold decodeIntelNumberOfCores decodeIntelExtendedTopology
  dsimp only
  rw [ignoresTotal_decodeNumberOfCoresX86]
  split
  · rfl
  · split
    · rfl
    · split <;> rfl

theorem decodeAmdCaches_withTotal (total : Int) (raw : CpuRawData) (data : CpuId)
    (internal : InternalIdInfo) :
    decodeAmdCaches raw (data.withTotal total) internal =
      (decodeAmdCaches raw data internal).map (withTotalBoth total) := by
  unfold decodeAmdCaches
  split
  · exact decodeDeterministicCacheInfoX86_withTotal total 0 _ (data, internal)
  · rw [ignoresTotal_decodeAmdCacheInfo]
    rfl

theorem cpuidIdentifyAmd_withTotal (total : Int) (raw : CpuRawData) (data : CpuId)
    (internal : InternalIdInfo) :
    cpuidIdentifyAmd raw (data.withTotal total) internal =
      (cpuidIdentifyAmd raw data internal).map (withTotalBoth total) := by
  unfold cpuidIdentifyAmd
  dsimp only
  rw [ignoresTotal_loadAmdFeatures, decodeAmdCaches_withTotal]
  cases decodeAmdCaches raw (loadAmdFeatures raw data) internal with
  | error f => rfl
  | ok s =>
    obtain ⟨data, internal⟩ := s
    simp only [Except.map, ok_bind, withTotalBoth]
    rw [ignoresTotal_decodeAmdNumberOfCores]
    cases cpuidIdentifyPurposeAmd raw with
    | error f => rfl
    | ok purpose =>
      have hname := matchCpuCodename_withTotal cpudbAmd total
        { decodeArchitectureVersionX86 (decodeAmdNumberOfCores raw data) with purpose }
      exact congrArg (fun named : Int × CpuId =>
        Except.ok (named.2, { internal with score := named.1 })) hname

theorem cpuidIdentifyCentaur_withTotal (total : Int) (raw : CpuRawData) (data : CpuId)
    (internal : InternalIdInfo) :
    cpuidIdentifyCentaur raw (data.withTotal total) internal =
      (cpuidIdentifyCentaur raw data internal).map (withTotalBoth total) := by
  have hcaches : decodeCentaurCaches raw (data.withTotal total) internal =
      (decodeCentaurCaches raw data internal).map (withTotalBoth total) := by
    unfold decodeCentaurCaches
    split
    · exact decodeDeterministicCacheInfoX86_withTotal total 0 _ (data, internal)
    · rfl
  unfold cpuidIdentifyCentaur
  rw [hcaches]
  cases decodeCentaurCaches raw data internal with
  | error f => rfl
  | ok s =>
    obtain ⟨data, internal⟩ := s
    have hname := matchCpuCodename_withTotal cpudbCentaur total
      (decodeArchitectureVersionX86 (decodeNumberOfCoresX86 raw data))
    simp only [Except.map, ok_bind, withTotalBoth]
    rw [ignoresTotal_decodeNumberOfCoresX86]
    exact congrArg (fun named : Int × CpuId =>
      Except.ok (named.2, { internal with score := named.1 })) hname

/-! ### Intel

Only the last step of the Intel decoder runs CPUID. -/

/-- `cpuid_identify_intel` up to the SGX features. -/
def identifyIntelBeforeSgx (raw : CpuRawData) (data : CpuId) (internal : InternalIdInfo) :
    Checked (CpuId × InternalIdInfo) := do
  let (data, internal) ← decodeIntelCaches raw (loadIntelFeatures raw data) internal
  let data ← decodeIntelNumberOfCores raw data
  let named := matchCpuCodename cpudbIntel
    { decodeArchitectureVersionX86 data with purpose := cpuidIdentifyPurposeIntel raw }
  .ok (named.2, { internal with score := named.1 })

/-- The last step of `cpuid_identify_intel`. -/
def withSgx (host : Host) (raw : CpuRawData) (data : CpuId) : CpuId :=
  if data.flags .sgx then decodeIntelSgxFeatures host raw data else data

theorem cpuidIdentifyIntel_eq (host : Host) (raw : CpuRawData) (data : CpuId)
    (internal : InternalIdInfo) :
    cpuidIdentifyIntel host raw data internal =
      (identifyIntelBeforeSgx raw data internal).map fun s => (withSgx host raw s.1, s.2) := by
  unfold cpuidIdentifyIntel identifyIntelBeforeSgx
  dsimp only
  cases decodeIntelCaches raw (loadIntelFeatures raw data) internal with
  | error f => rfl
  | ok s =>
    rw [ok_bind, ok_bind]
    cases decodeIntelNumberOfCores raw s.1 <;> rfl

theorem identifyIntelBeforeSgx_withTotal (total : Int) (raw : CpuRawData) (data : CpuId)
    (internal : InternalIdInfo) :
    identifyIntelBeforeSgx raw (data.withTotal total) internal =
      (identifyIntelBeforeSgx raw data internal).map (withTotalBoth total) := by
  unfold identifyIntelBeforeSgx
  rw [ignoresTotal_loadIntelFeatures, decodeIntelCaches_withTotal]
  cases decodeIntelCaches raw (loadIntelFeatures raw data) internal with
  | error f => rfl
  | ok s =>
    obtain ⟨data, internal⟩ := s
    simp only [Except.map, ok_bind, withTotalBoth, decodeIntelNumberOfCores_withTotal]
    cases decodeIntelNumberOfCores raw data with
    | error f => rfl
    | ok data =>
      generalize cpudbIntel = rows
      have hname := matchCpuCodename_withTotal rows total
        { decodeArchitectureVersionX86 data with purpose := cpuidIdentifyPurposeIntel raw }
      exact congrArg (fun named : Int × CpuId =>
        Except.ok (named.2, { internal with score := named.1 })) hname

theorem identifyIntelBeforeSgx_flag {feature : CpuFeature} (hne : feature ≠ .ht)
    {raw : CpuRawData} {data : CpuId} {internal : InternalIdInfo} {s : CpuId × InternalIdInfo}
    (h : identifyIntelBeforeSgx raw data internal = .ok s) :
    s.1.flags feature = (loadIntelFeatures raw data).flags feature := by
  obtain ⟨⟨data1, internal1⟩, hcaches, h⟩ := bind_eq_ok.mp h
  obtain ⟨data2, hcores, h⟩ := bind_eq_ok.mp h
  rw [← Except.ok.inj h]
  show data2.flags feature = _
  rw [decodeIntelNumberOfCores_flag hne hcores, decodeIntelCaches_flags hcaches]

theorem withSgx_withTotal (host : Host) (raw : CpuRawData) (total : Int) (data : CpuId) :
    withSgx host raw (data.withTotal total) = (withSgx host raw data).withTotal total := by
  unfold withSgx
  rw [ignoresTotal_decodeIntelSgxFeatures]
  split
  · next h => rw [if_pos (show data.flags .sgx = true from h)]
  · next h => rw [if_neg (show ¬data.flags .sgx = true from h)]

/-! ### Hosts -/

/-- A host that answers zeros to CPUID. -/
def Host.zero : Host := { execCpuid := fun _ _ => .zero, totalCpus := 0 }

/-- A host that answers every CPUID as if it had an EPC section of 4096 bytes there. -/
def Host.sections : Host := { execCpuid := fun _ _ => ⟨1, 0, 0x1000, 0⟩, totalCpus := 0 }

/-- The result of `cpu_identify` without `total_logical_cpus`. -/
def forgetTotal (r : CpuError × CpuId) : CpuError × CpuId := (r.1, r.2.withTotal 0)

/-- `cpu_identify` gives the same result on every two hosts, but for the number of their CPUs. -/
def SameOnEveryHost (raw : CpuRawData) : Prop :=
  ∀ host host', (cpuIdentify host raw).map forgetTotal = (cpuIdentify host' raw).map forgetTotal

theorem cpuidBasicIdentify_withTotal {raw : CpuRawData}
    (h : cpuidVendorIdentify (raw.basicCpuid 0) ≠ .unknown) (host : Host) (data : CpuId) :
    cpuidBasicIdentify host raw data =
      (.ok, (cpuidBasicIdentify .zero raw data).2.withTotal host.totalCpus) := by
  simp only [cpuidBasicIdentify, h, if_false]
  rfl

theorem cpuidBasicIdentify_unknown {raw : CpuRawData}
    (h : cpuidVendorIdentify (raw.basicCpuid 0) = .unknown) (host : Host) (data : CpuId) :
    cpuidBasicIdentify host raw data =
      (.cpuUnkn,
        { data with vendor := .unknown, vendorStr := vendorString (raw.basicCpuid 0) }) := by
  simp only [cpuidBasicIdentify, h, if_true]

/-- A vendor's decoder passes on the number of CPUs that it was given. -/
theorem map_forgetTotal {x x' : Checked (CpuId × InternalIdInfo)} {total : Int}
    (h : x' = x.map (withTotalBoth total)) :
    (x'.map fun s => forgetTotal (.ok, s.1)) = x.map fun s => forgetTotal (.ok, s.1) := by
  rw [h]
  cases x <;> rfl

theorem cpuIdentify_forgetTotal {raw : CpuRawData} {host : Host}
    (harch : cpuidArchitectureIdentify raw = .x86)
    (hvendor : cpuidVendorIdentify (raw.basicCpuid 0) ≠ .unknown) :
    let data := (cpuidBasicIdentify .zero raw { cpuIdConstructor with architecture := .x86 }).2
    let internal : InternalIdInfo := { score := 0, cacheMask := fun _ => 0 }
    (cpuIdentify host raw).map forgetTotal =
      match cpuidVendorIdentify (raw.basicCpuid 0) with
      | .intel => (identifyIntelBeforeSgx raw data internal).map fun s =>
          forgetTotal (.ok, withSgx host raw s.1)
      | .amd | .hygon => (cpuidIdentifyAmd raw data internal).map fun s => forgetTotal (.ok, s.1)
      | .centaur => (cpuidIdentifyCentaur raw data internal).map fun s => forgetTotal (.ok, s.1)
      | _ => .ok (forgetTotal (.ok, data)) := by
  rw [cpuIdentify_of_vendor harch hvendor, cpuidBasicIdentify_withTotal hvendor host]
  generalize (cpuidBasicIdentify .zero raw { cpuIdConstructor with architecture := .x86 }).2 = data
  have hmap (x : Checked (CpuId × InternalIdInfo)) :
      (x.map fun s => (CpuError.ok, s.1)).map forgetTotal =
        x.map fun s => forgetTotal (.ok, s.1) := by
    cases x <;> rfl
  cases cpuidVendorIdentify (raw.basicCpuid 0) with
  | intel =>
    refine (hmap _).trans ?_
    rw [cpuidIdentifyIntel_eq, identifyIntelBeforeSgx_withTotal]
    cases identifyIntelBeforeSgx raw data { score := 0, cacheMask := fun _ => 0 } with
    | error f => rfl
    | ok s =>
      simp only [Except.map, withTotalBoth, withSgx_withTotal]
      rfl
  | amd | hygon =>
    exact (hmap _).trans (map_forgetTotal (cpuidIdentifyAmd_withTotal _ raw data _))
  | centaur =>
    exact (hmap _).trans (map_forgetTotal (cpuidIdentifyCentaur_withTotal _ raw data _))
  | _ => rfl

/-! ### Sections of the enclave page cache -/

/-- A sub-leaf of leaf 0x12 that describes a section of the enclave page cache. -/
def DescribesSection (regs : Regs) : Prop :=
  regs.eax &&& 0xf = 1 ∧ (regs.ecx &&& 0xfffff000 ≠ 0 ∨ regs.edx &&& 0x000fffff ≠ 0)

theorem zeroExtend_or_shift_eq_zero {low high : BitVec 32} :
    low.zeroExtend 64 ||| (high.zeroExtend 64 <<< 32) = 0 ↔ low = 0 ∧ high = 0 := by
  refine BitVec.or_eq_zero_iff.trans (and_congr ?_ ?_)
  · have hlow : low.toNat % 2 ^ 64 = low.toNat := Nat.mod_eq_of_lt (by have := low.isLt; omega)
    rw [← BitVec.toNat_inj, ← BitVec.toNat_inj, BitVec.toNat_setWidth, hlow]
    simp
  · have hhigh : high.toNat % 2 ^ 64 * 2 ^ 32 % 2 ^ 64 = high.toNat * 2 ^ 32 := by
      have := high.isLt
      omega
    rw [← BitVec.toNat_inj, ← BitVec.toNat_inj, BitVec.toNat_shiftLeft, BitVec.toNat_setWidth,
      Nat.shiftLeft_eq, hhigh]
    simp

/-- The length is that of the sub-leaf in the raw data, or of the host's when there is none. -/
theorem cpuidGetEpcLength_ne_zero {host : Host} {raw : CpuRawData} {index : Nat} :
    cpuidGetEpcLength host raw index ≠ 0 ↔
      DescribesSection (if h : index < maxIntelFn12hLevel - 2 then
        raw.intelFn12h ⟨2 + index, by omega⟩ else host.execCpuid 0x12 (.ofNat 32 (2 + index))) := by
  unfold cpuidGetEpcLength DescribesSection
  dsimp only
  generalize (if h : index < maxIntelFn12hLevel - 2 then raw.intelFn12h ⟨2 + index, _⟩
    else host.execCpuid 0x12 (.ofNat 32 (2 + index))) = regs
  split
  · next h1 => rw [ne_eq, zeroExtend_or_shift_eq_zero, and_iff_right h1, not_and_or]
  · next h1 => exact iff_of_false (fun h => h rfl) fun h => h1 h.1

theorem le_numEpcSections (host : Host) (raw : CpuRawData) (i fuel : Nat) :
    i ≤ numEpcSections host raw i fuel := by
  induction fuel generalizing i with
  | zero => exact Nat.le_refl i
  | succ fuel ih =>
    unfold numEpcSections
    split
    · exact Nat.le_refl i
    · exact (Nat.le_succ i).trans (ih (i + 1))

/-- The raw data describes two sections, so the loop goes on to one that it has no sub-leaf of. -/
def TwoSections (raw : CpuRawData) : Prop :=
  DescribesSection (raw.intelFn12h 2) ∧ DescribesSection (raw.intelFn12h 3)

theorem numEpcSections_of_two {raw : CpuRawData} (h : TwoSections raw) (host : Host) (n : Nat) :
    numEpcSections host raw 0 (n + 2) = numEpcSections host raw 2 n := by
  have h0 : cpuidGetEpcLength host raw 0 ≠ 0 := cpuidGetEpcLength_ne_zero.mpr h.1
  have h1 : cpuidGetEpcLength host raw 1 ≠ 0 := cpuidGetEpcLength_ne_zero.mpr h.2
  rw [numEpcSections, if_neg h0, numEpcSections, if_neg h1]

theorem numEpcSections_of_not_two {raw : CpuRawData} (h : ¬TwoSections raw) (host host' : Host)
    (n : Nat) : numEpcSections host raw 0 (n + 2) = numEpcSections host' raw 0 (n + 2) := by
  have h0 (host : Host) :
      cpuidGetEpcLength host raw 0 = 0 ↔ ¬DescribesSection (raw.intelFn12h 2) :=
    not_iff_not.mp (by rw [not_not]; exact cpuidGetEpcLength_ne_zero)
  have h1 (host : Host) :
      cpuidGetEpcLength host raw 1 = 0 ↔ ¬DescribesSection (raw.intelFn12h 3) :=
    not_iff_not.mp (by rw [not_not]; exact cpuidGetEpcLength_ne_zero)
  rcases not_and_or.mp h with h | h
  · rw [numEpcSections, if_pos ((h0 host).mpr h), numEpcSections, if_pos ((h0 host').mpr h)]
  · simp only [numEpcSections, (h1 _).mpr h, if_true]
    by_cases hfirst : DescribesSection (raw.intelFn12h 2)
    · rw [if_neg (fun hz => (h0 host).mp hz hfirst), if_neg (fun hz => (h0 host').mp hz hfirst)]
    · rw [if_pos ((h0 host).mpr hfirst), if_pos ((h0 host').mpr hfirst)]

/-! ### The raw data on which identification runs CPUID -/

/-- An Intel processor with SGX whose raw data has no room for all of its sections. -/
structure AsksHost (raw : CpuRawData) : Prop where
  architecture : cpuidArchitectureIdentify raw = .x86
  vendor : cpuidVendorIdentify (raw.basicCpuid 0) = .intel
  returns : IntelReturns raw
  reported : 0x12 ≤ (raw.basicCpuid 0).eax.toNat
  sgx : (raw.basicCpuid 7).ebx &&& 1#32 <<< 2 ≠ 0
  enumerated : (raw.basicCpuid 0x12).eax ≠ 0
  sections : TwoSections raw

/-- The flag that `cpuid_identify_intel` looks at before it decodes the SGX features. -/
theorem identifyIntelBeforeSgx_sgx {raw : CpuRawData} {internal : InternalIdInfo}
    {s : CpuId × InternalIdInfo}
    (h : identifyIntelBeforeSgx raw
      (cpuidBasicIdentify .zero raw { cpuIdConstructor with architecture := .x86 }).2 internal =
        .ok s) :
    s.1.flags .sgx = (decide (7 ≤ (raw.basicCpuid 0).eax.toNat) &&
      decide ((raw.basicCpuid 7).ebx &&& 1#32 <<< 2 ≠ 0)) := by
  rw [identifyIntelBeforeSgx_flag (by decide) h, loadIntelFeatures_sgx,
    cpuidBasicIdentify_flag (.inl rfl)]
  rfl

/-- Without `AsksHost` the last step of the Intel decoder does not see the host. -/
theorem withSgx_eq_of_not_asksHost {raw : CpuRawData} {s : CpuId × InternalIdInfo}
    {internal : InternalIdInfo} (harch : cpuidArchitectureIdentify raw = .x86)
    (hvendor : cpuidVendorIdentify (raw.basicCpuid 0) = .intel)
    (h : identifyIntelBeforeSgx raw
      (cpuidBasicIdentify .zero raw { cpuIdConstructor with architecture := .x86 }).2 internal =
        .ok s)
    (hasks : ¬AsksHost raw) (host host' : Host) : withSgx host raw s.1 = withSgx host' raw s.1 := by
  have hreturns : IntelReturns raw := by
    rw [← cpuidIdentifyIntel_returns .zero, cpuidIdentifyIntel_eq, h]
    exact ⟨_, rfl⟩
  unfold withSgx
  split
  · next hflag =>
    rw [identifyIntelBeforeSgx_sgx h, Bool.and_eq_true, decide_eq_true_eq, decide_eq_true_eq]
      at hflag
    unfold decodeIntelSgxFeatures
    dsimp only
    split
    · rfl
    · next hleaf =>
      have hleaf := not_or.mp hleaf
      have hsections : ¬TwoSections raw := fun hsections =>
        hasks ⟨harch, hvendor, hreturns, Nat.not_lt.mp hleaf.1, hflag.2, hleaf.2, hsections⟩
      obtain ⟨n, hn⟩ : ∃ n, 1000000 = n + 2 := ⟨999998, rfl⟩
      rw [hn, numEpcSections_of_not_two hsections host host']
  · rfl

theorem sameOnEveryHost_of_not_asksHost {raw : CpuRawData} (hasks : ¬AsksHost raw) :
    SameOnEveryHost raw := by
  intro host host'
  cases harch : cpuidArchitectureIdentify raw with
  | unknown => simp only [cpuIdentify, cpuIdentInternal, harch]
  | arm => simp only [cpuIdentify, cpuIdentInternal, harch]
  | x86 =>
    by_cases hvendor : cpuidVendorIdentify (raw.basicCpuid 0) = .unknown
    · simp only [cpuIdentify, cpuIdentInternal, harch, cpuidBasicIdentify_unknown hvendor]
    · rw [cpuIdentify_forgetTotal harch hvendor, cpuIdentify_forgetTotal harch hvendor]
      cases hv : cpuidVendorIdentify (raw.basicCpuid 0) with
      | intel =>
        dsimp only
        cases h : identifyIntelBeforeSgx raw
            (cpuidBasicIdentify .zero raw { cpuIdConstructor with architecture := .x86 }).2
            { score := 0, cacheMask := fun _ => 0 } with
        | error f => simp only [Except.map]
        | ok s =>
          simp only [Except.map]
          rw [withSgx_eq_of_not_asksHost harch hv h hasks host host']
      | _ => dsimp only

/-- The sections that the host describes change the count. -/
theorem not_sameOnEveryHost_of_asksHost {raw : CpuRawData} (h : AsksHost raw) :
    ¬SameOnEveryHost raw := by
  intro hsame
  have hsame := hsame .zero .sections
  rw [cpuIdentify_forgetTotal h.architecture (by rw [h.vendor]; decide),
    cpuIdentify_forgetTotal h.architecture (by rw [h.vendor]; decide), h.vendor] at hsame
  dsimp only at hsame
  obtain ⟨s, hs⟩ : ∃ s, identifyIntelBeforeSgx raw
      (cpuidBasicIdentify .zero raw { cpuIdConstructor with architecture := .x86 }).2
      { score := 0, cacheMask := fun _ => 0 } = .ok s := by
    obtain ⟨s, hs⟩ := (cpuidIdentifyIntel_returns .zero).mpr h.returns
    rw [cpuidIdentifyIntel_eq] at hs
    cases hbefore : identifyIntelBeforeSgx raw _ _ with
    | error f => rw [hbefore] at hs; cases hs
    | ok s => exact ⟨s, rfl⟩
  have hflag : s.1.flags .sgx = true := by
    rw [identifyIntelBeforeSgx_sgx hs, Bool.and_eq_true, decide_eq_true_eq, decide_eq_true_eq]
    exact ⟨(by decide : 7 ≤ 0x12).trans h.reported, h.sgx⟩
  have hleaf : ¬((raw.basicCpuid 0).eax.toNat < 0x12 ∨ (raw.basicCpuid 0x12).eax = 0) :=
    not_or.mpr ⟨Nat.not_lt.mpr h.reported, h.enumerated⟩
  have hcount (host : Host) : (withSgx host raw s.1).x86.sgx.numEpcSections =
      numEpcSections host raw 0 1000000 := by
    unfold withSgx decodeIntelSgxFeatures
    rw [if_pos hflag, if_neg hleaf]
  rw [hs] at hsame
  have hequal : numEpcSections .zero raw 0 1000000 = numEpcSections .sections raw 0 1000000 := by
    have := congrArg (fun r : CpuError × CpuId => r.2.x86.sgx.numEpcSections)
      (Except.ok.inj hsame)
    dsimp only [forgetTotal, CpuId.withTotal] at this
    rwa [hcount, hcount, Nat.cast_inj] at this
  obtain ⟨n, hn⟩ : ∃ n, 1000000 = n + 1 + 2 := ⟨999997, rfl⟩
  rw [hn, numEpcSections_of_two h.sections, numEpcSections_of_two h.sections] at hequal
  have hzero : cpuidGetEpcLength .zero raw 2 = 0 := by
    by_contra hne
    have hdescribes : DescribesSection .zero := cpuidGetEpcLength_ne_zero.mp hne
    exact absurd hdescribes.1 (by decide)
  have hsections : cpuidGetEpcLength .sections raw 2 ≠ 0 :=
    cpuidGetEpcLength_ne_zero.mpr (show DescribesSection ⟨1, 0, 0x1000, 0⟩ by
      exact ⟨by decide, .inl (by decide)⟩)
  rw [numEpcSections, if_pos hzero, numEpcSections, if_neg hsections] at hequal
  exact absurd (hequal ▸ le_numEpcSections .sections raw 3 n) (by decide)

/-- Identification needs nothing of the host but its number of CPUs, except on a processor with
more sections than the raw data holds. -/
theorem cpuIdentify_sameOnEveryHost_iff (raw : CpuRawData) :
    SameOnEveryHost raw ↔ ¬AsksHost raw :=
  ⟨fun h hasks => not_sameOnEveryHost_of_asksHost hasks h, sameOnEveryHost_of_not_asksHost⟩

/-- An Intel processor with SGX and a section in both sub-leaves that the raw data has for it. -/
def intelTwoSections : CpuRawData :=
  { CpuRawData.zero with
    basicCpuid := fun i =>
      if i = 0 then { eax := 0x12, ebx := 0x756e6547, ecx := 0x6c65746e, edx := 0x49656e69 }
      else if i = 7 then { eax := 0, ebx := 4, ecx := 0, edx := 0 }
      else if i = 0x12 then { eax := 1, ebx := 0, ecx := 0, edx := 0x241f }
      else .zero
    intelFn12h := fun i =>
      if 2 ≤ i then { eax := 1, ebx := 0, ecx := 0x5d80001, edx := 0 } else .zero }

theorem asksHost_intelTwoSections : AsksHost intelTwoSections where
  architecture := by decide
  vendor := by decide +kernel
  returns :=
    { cachesFit := fun _ i _ hdescribes =>
        absurd (show DescribesCache .zero from hdescribes i (Fin.le_refl i)).1 (by decide)
      divides := fun _ h => absurd h.1 (by decide) }
  reported := by decide
  sgx := by decide
  enumerated := by decide
  sections := ⟨⟨by decide, .inl (by decide)⟩, ⟨by decide, .inl (by decide)⟩⟩

theorem host_counts_intelTwoSections : ¬SameOnEveryHost intelTwoSections :=
  not_sameOnEveryHost_of_asksHost asksHost_intelTwoSections

end LibCpuid
