import LibCpuid.Dump.SingleDump
import LibCpuid.HostIndependence
import Mathlib.Data.BitVec

/-! The flags of an x86 processor, from the bits of its CPUID leaves to the record.  The decoders
after `match_features` clear no flag but that of hyper-threading. -/

namespace LibCpuid

open CLang

/-! ### The tables -/

/-- A register of a CPUID leaf in which features are reported. -/
inductive FeatureWord
  | leaf1Edx | leaf1Ecx | leaf7Ebx | leaf7Ecx | ext1Edx | ext1Ecx | ext7Edx

def FeatureWord.read (raw : CpuRawData) : FeatureWord → BitVec 32
  | .leaf1Edx => (raw.basicCpuid 1).edx
  | .leaf1Ecx => (raw.basicCpuid 1).ecx
  | .leaf7Ebx => (raw.basicCpuid 7).ebx
  | .leaf7Ecx => (raw.basicCpuid 7).ecx
  | .ext1Edx => (raw.extCpuid 1).edx
  | .ext1Ecx => (raw.extCpuid 1).ecx
  | .ext7Edx => (raw.extCpuid 7).edx

/-- The largest leaf, among the basic or the extended ones. -/
def FeatureWord.largestLeaf (raw : CpuRawData) : FeatureWord → Nat
  | .leaf1Edx | .leaf1Ecx | .leaf7Ebx | .leaf7Ecx => (raw.basicCpuid 0).eax.toNat
  | .ext1Edx | .ext1Ecx | .ext7Edx => (raw.extCpuid 0).eax.toNat

/-- The features of a register, which is read when the largest leaf is at least `since`. -/
structure FeatureTable where
  word : FeatureWord
  since : Nat
  rows : List (Nat × CpuFeature)

/-- The tables of `load_features_common`. -/
def commonTables : List FeatureTable :=
  [⟨.leaf1Edx, 1,
      [(0, .fpu), (1, .vme), (2, .de), (3, .pse), (4, .tsc), (5, .msr), (6, .pae), (7, .mce),
        (8, .cx8), (9, .apic), (11, .sep), (12, .mtrr), (13, .pge), (14, .mca), (15, .cmov),
        (16, .pat), (17, .pse36), (19, .clflush), (23, .mmx), (24, .fxsr), (25, .sse),
        (26, .sse2), (28, .ht)]⟩,
    ⟨.leaf1Ecx, 1,
      [(0, .pni), (1, .pclmul), (3, .monitor), (9, .ssse3), (12, .fma3), (13, .cx16),
        (19, .sse4_1), (20, .sse4_2), (21, .x2apic), (22, .movbe), (23, .popcnt), (25, .aes),
        (26, .xsave), (27, .osxsave), (28, .avx), (29, .f16c), (30, .rdrand),
        (31, .hypervisor)]⟩,
    ⟨.leaf7Ebx, 7,
      [(3, .bmi1), (5, .avx2), (8, .bmi2), (16, .avx512f), (17, .avx512dq), (18, .rdseed),
        (19, .adx), (28, .avx512cd), (29, .shaNi), (30, .avx512bw), (31, .avx512vl)]⟩,
    ⟨.leaf7Ecx, 7, [(1, .avx512vbmi), (6, .avx512vbmi2), (11, .avx512vnni)]⟩,
    ⟨.ext1Edx, 0x80000001, [(11, .syscall), (27, .rdtscp), (29, .lm)]⟩,
    ⟨.ext1Ecx, 0x80000001, [(0, .lahfLm), (5, .abm)]⟩,
    ⟨.ext7Edx, 0x80000007, [(8, .constantTsc)]⟩]

/-- The tables of `load_intel_features`. -/
def intelTables : List FeatureTable :=
  [⟨.leaf1Edx, 1,
      [(18, .pn), (21, .dts), (22, .acpi), (27, .ss), (29, .tm), (30, .ia64), (31, .pbe)]⟩,
    ⟨.leaf1Ecx, 1,
      [(2, .dts64), (4, .dsCpl), (5, .vmx), (6, .smx), (7, .est), (8, .tm2), (10, .cid),
        (14, .xtpr), (15, .pdcm), (18, .dca)]⟩,
    -- the largest extended leaf is compared with 1, so that the register is read from leaf 0x1 on
    ⟨.ext1Edx, 1, [(20, .xd)]⟩,
    ⟨.leaf7Ebx, 7, [(2, .sgx), (4, .hle), (11, .rtm), (26, .avx512pf), (27, .avx512er)]⟩]

/-- The tables of `load_amd_features`. -/
def amdTables : List FeatureTable :=
  [⟨.ext1Edx, 0x80000001,
      [(20, .nx), (22, .mmxext), (25, .fxsrOpt), (30, .threeDNowExt), (31, .threeDNow)]⟩,
    ⟨.ext1Ecx, 0x80000001,
      [(1, .cmpLegacy), (2, .svm), (6, .sse4a), (7, .misalignsse), (8, .threeDNowPrefetch),
        (9, .osvw), (10, .ibs), (11, .xop), (12, .skinit), (13, .wdt), (16, .fma4),
        (21, .tbm)]⟩,
    ⟨.ext7Edx, 0x80000007,
      [(0, .ts), (1, .fid), (2, .vid), (3, .ttp), (4, .tmAmd), (5, .stc),
        (6, .hundredMhzSteps), (7, .hwpstate), (9, .cpb), (10, .aperfmperf), (11, .pfi),
        (12, .pa)]⟩]

/-- The tables that are read for a vendor. -/
def featureTables : CpuVendor → List FeatureTable
  | .intel => commonTables ++ intelTables
  | .amd | .hygon => commonTables ++ amdTables
  | _ => commonTables

/-- The table has the feature, and its bit is set in a register that is read. -/
def FeatureTable.Reports (table : FeatureTable) (raw : CpuRawData) (feature : CpuFeature) : Prop :=
  table.since ≤ table.word.largestLeaf raw ∧
    ∃ row ∈ table.rows, row.2 = feature ∧ (table.word.read raw).getLsbD row.1 = true

/-- One of the tables reports the feature. -/
def AnyReports (tables : List FeatureTable) (raw : CpuRawData) (feature : CpuFeature) : Prop :=
  ∃ table ∈ tables, table.Reports raw feature

/-! ### Reading the tables -/

theorem and_shiftLeft_ne_zero {x : BitVec 32} {n : Nat} (hn : n < 32) :
    x &&& 1#32 <<< n ≠ 0 ↔ x.getLsbD n = true := by
  have hbit : ∀ i, (x &&& 1#32 <<< n).getLsbD i = (x.getLsbD i && decide (i = n)) := by
    intro i
    rw [BitVec.getLsbD_and, BitVec.getLsbD_shiftLeft, BitVec.getLsbD_one]
    by_cases hi : i = n
    · subst hi
      simp [hn]
    · have hsub : ¬(¬i < n ∧ i - n = 0) := by omega
      rw [decide_eq_false hi, Bool.and_false, Bool.and_eq_false_iff]
      right
      simpa [imp_iff_not_or, Bool.and_eq_false_iff] using by omega
  constructor
  · intro h
    by_contra hx
    refine h (BitVec.eq_of_getLsbD_eq fun i hi => ?_)
    rw [hbit]
    by_cases hin : i = n
    · rw [hin, Bool.eq_false_iff.mpr hx]
      simp
    · simp [hin]
  · intro hx h
    have hbit' := hbit n
    rw [h, hx] at hbit'
    simp at hbit'

/-- What `match_features` does with a table. -/
def applyTable (raw : CpuRawData) (data : CpuId) (table : FeatureTable) : CpuId :=
  if table.word.largestLeaf raw ≥ table.since then
    matchFeatures table.rows (table.word.read raw) data
  else data

theorem applyTable_flags {table : FeatureTable} (hrows : ∀ row ∈ table.rows, row.1 < 32)
    (raw : CpuRawData) (data : CpuId) (feature : CpuFeature) :
    (applyTable raw data table).flags feature = true ↔
      data.flags feature = true ∨ table.Reports raw feature := by
  rw [applyTable, FeatureTable.Reports]
  split
  · next hsince =>
    rw [matchFeatures_flags, Bool.or_eq_true, List.any_eq_true, and_iff_right hsince]
    refine or_congr_right (exists_congr fun row => and_congr_right fun hrow => ?_)
    rw [Bool.and_eq_true, decide_eq_true_eq, decide_eq_true_eq,
      and_shiftLeft_ne_zero (hrows row hrow)]
  · next hsince => exact (or_iff_left fun h => hsince h.1).symm

/-- The tables one after the other. -/
def applyTables (raw : CpuRawData) (tables : List FeatureTable) (data : CpuId) : CpuId :=
  tables.foldl (applyTable raw) data

theorem applyTables_flags {tables : List FeatureTable}
    (hrows : ∀ table ∈ tables, ∀ row ∈ table.rows, row.1 < 32) (raw : CpuRawData) (data : CpuId)
    (feature : CpuFeature) :
    (applyTables raw tables data).flags feature = true ↔
      data.flags feature = true ∨ AnyReports tables raw feature := by
  rw [applyTables]
  induction tables generalizing data with
  | nil => simp [AnyReports]
  | cons table tables ih =>
    rw [List.forall_mem_cons] at hrows
    rw [List.foldl_cons, ih hrows.2, applyTable_flags hrows.1, or_assoc, AnyReports, AnyReports,
      List.exists_mem_cons_iff]

theorem loadFeaturesCommon_eq (raw : CpuRawData) (data : CpuId) :
    loadFeaturesCommon raw data = guessSseSize (applyTables raw commonTables data) := by
  simp only [loadFeaturesCommon, applyTables, commonTables, List.foldl_cons, List.foldl_nil,
    applyTable, FeatureWord.largestLeaf, FeatureWord.read]
  by_cases h1 : (raw.basicCpuid 0).eax.toNat ≥ 1 <;>
    by_cases h7 : (raw.basicCpuid 0).eax.toNat ≥ 7 <;>
      by_cases hext1 : (raw.extCpuid 0).eax.toNat ≥ 0x80000001 <;>
        simp only [h1, h7, hext1, if_true, if_false]

theorem loadIntelFeatures_eq (raw : CpuRawData) (data : CpuId) :
    loadIntelFeatures raw data = applyTables raw intelTables data := by
  simp only [loadIntelFeatures, applyTables, intelTables, List.foldl_cons, List.foldl_nil,
    applyTable, FeatureWord.largestLeaf, FeatureWord.read]
  by_cases h1 : (raw.basicCpuid 0).eax.toNat ≥ 1 <;> simp only [h1, if_true, if_false]

/-- The last leaf of `load_amd_features` has no features. -/
theorem loadAmdFeatures_flags (raw : CpuRawData) (data : CpuId) :
    (loadAmdFeatures raw data).flags = (applyTables raw amdTables data).flags := by
  simp only [loadAmdFeatures, applyTables, amdTables, List.foldl_cons, List.foldl_nil,
    applyTable, FeatureWord.largestLeaf, FeatureWord.read, apply_ite CpuId.flags, ite_self]
  by_cases hext1 : (raw.extCpuid 0).eax.toNat ≥ 0x80000001 <;>
    by_cases hext7 : (raw.extCpuid 0).eax.toNat ≥ 0x80000007 <;>
      simp only [hext1, hext7, if_true, if_false]

/-! ### The decoders after the tables -/

/-- The flags of a record that has been decoded further.  That of hyper-threading is cleared only
for one logical CPU. -/
structure KeepsFlags (data data' : CpuId) : Prop where
  other : ∀ feature, feature ≠ .ht → data'.flags feature = data.flags feature
  set : data'.flags .ht = true → data.flags .ht = true
  cleared : data.flags .ht = true → data'.flags .ht = false →
    data'.numCores = 1 ∧ data'.numLogicalCpus = 1

theorem KeepsFlags.of_eq {data data' : CpuId} (h : data'.flags = data.flags) :
    KeepsFlags data data' where
  other _ _ := by rw [h]
  set := by rw [h]; exact id
  cleared hset hnot := by rw [h, hset] at hnot; cases hnot

section Decoders

variable {raw : CpuRawData} {data data' : CpuId}

theorem keepsFlags_decodeNumberOfCoresX86 : KeepsFlags data (decodeNumberOfCoresX86 raw data) := by
  unfold decodeNumberOfCoresX86
  extract_lets basic logicalCpus numCores oneOrMore
  split
  · next hht =>
    split
    · exact .of_eq rfl
    · by_cases hone : oneOrMore = 1
      · simp only [hone, if_true]
        exact ⟨fun feature hne => Function.update_of_ne hne _ _, fun _ => hht,
          fun _ _ => ⟨rfl, rfl⟩⟩
      · simp only [hone, if_false]
        exact .of_eq rfl
  · exact .of_eq rfl

theorem keepsFlags_decodeIntelNumberOfCores (h : decodeIntelNumberOfCores raw data = .ok data') :
    KeepsFlags data data' := by
  unfold decodeIntelNumberOfCores at h
  split at h
  · exact Except.ok.inj h ▸ keepsFlags_decodeNumberOfCoresX86
  · obtain ⟨result, hext, h⟩ := bind_eq_ok.mp h
    cases result with
    | none => exact Except.ok.inj h ▸ keepsFlags_decodeNumberOfCoresX86
    | some data'' => exact .of_eq (Except.ok.inj h ▸ decodeIntelExtendedTopology_flags hext)

/-- The data of SGX is apart from the flags and the counts. -/
theorem ifSgx_counts (host : Host) (raw : CpuRawData) (sgx : Bool) (data : CpuId) :
    let data' := if sgx then decodeIntelSgxFeatures host raw data else data
    data'.flags = data.flags ∧ data'.numCores = data.numCores ∧
      data'.numLogicalCpus = data.numLogicalCpus := by
  have hsgx : (decodeIntelSgxFeatures host raw data).flags = data.flags ∧
      (decodeIntelSgxFeatures host raw data).numCores = data.numCores ∧
      (decodeIntelSgxFeatures host raw data).numLogicalCpus = data.numLogicalCpus := by
    unfold decodeIntelSgxFeatures
    dsimp only
    split <;> exact ⟨rfl, rfl, rfl⟩
  cases sgx with
  | false => exact ⟨rfl, rfl, rfl⟩
  | true => exact hsgx

/-- Nothing else is kept of the records. -/
theorem KeepsFlags.congr {d d' : CpuId} (h : KeepsFlags d d') (hflags : d.flags = data.flags)
    (hflags' : d'.flags = data'.flags) (hcores : d'.numCores = data'.numCores)
    (hlogical : d'.numLogicalCpus = data'.numLogicalCpus) : KeepsFlags data data' where
  other := by rw [← hflags, ← hflags']; exact h.other
  set := by rw [← hflags, ← hflags']; exact h.set
  cleared := by rw [← hflags, ← hflags', ← hcores, ← hlogical]; exact h.cleared

end Decoders

section Vendors

variable {host : Host} {raw : CpuRawData} {data data' : CpuId} {internal internal' : InternalIdInfo}

theorem cpuidIdentifyIntel_keepsFlags
    (h : cpuidIdentifyIntel host raw data internal = .ok (data', internal')) :
    KeepsFlags (loadIntelFeatures raw data) data' := by
  obtain ⟨⟨d1, internal1⟩, hcaches, h⟩ := bind_eq_ok.mp h
  obtain ⟨d2, hcores, h⟩ := bind_eq_ok.mp h
  obtain ⟨rfl, -⟩ := Prod.mk.inj (Except.ok.inj h)
  obtain ⟨hflags, hnum, hlogical⟩ := ifSgx_counts host raw
    ((decodeArchitectureVersionX86 d2).flags .sgx) (matchCpuCodename cpudbIntel
      { decodeArchitectureVersionX86 d2 with purpose := cpuidIdentifyPurposeIntel raw }).2
  exact (keepsFlags_decodeIntelNumberOfCores hcores).congr (decodeIntelCaches_flags hcaches)
    hflags.symm hnum.symm hlogical.symm

theorem cpuidIdentifyAmd_keepsFlags
    (h : cpuidIdentifyAmd raw data internal = .ok (data', internal')) :
    KeepsFlags (loadAmdFeatures raw data) data' := by
  obtain ⟨⟨d1, internal1⟩, hcaches, h⟩ := bind_eq_ok.mp h
  obtain ⟨purpose, -, h⟩ := bind_eq_ok.mp h
  obtain ⟨rfl, -⟩ := Prod.mk.inj (Except.ok.inj h)
  have hcores : (decodeAmdNumberOfCores raw d1).flags = d1.flags := by
    simp only [decodeAmdNumberOfCores, apply_ite CpuId.flags, ite_self]
  have hflags : d1.flags = (loadAmdFeatures raw data).flags :=
    decodeAmdCaches_frame (fun _ _ _ _ => rfl) hcaches
  exact .of_eq (hcores.trans hflags)

theorem cpuidIdentifyCentaur_keepsFlags
    (h : cpuidIdentifyCentaur raw data internal = .ok (data', internal')) :
    KeepsFlags data data' := by
  obtain ⟨⟨d1, internal1⟩, hcaches, h⟩ := bind_eq_ok.mp h
  obtain ⟨rfl, -⟩ := Prod.mk.inj (Except.ok.inj h)
  have hflags : d1.flags = data.flags := decodeCentaurCaches_frame (fun _ _ _ _ => rfl) hcaches
  exact (@keepsFlags_decodeNumberOfCoresX86 raw d1).congr hflags rfl rfl rfl

theorem cpuidBasicIdentify_reports (hvendor : cpuidVendorIdentify (raw.basicCpuid 0) ≠ .unknown)
    (feature : CpuFeature) :
    (cpuidBasicIdentify host raw { cpuIdConstructor with architecture := .x86 }).2.flags feature =
        true ↔ AnyReports commonTables raw feature := by
  have hloaded (d : CpuId) (hd : d.flags = fun _ => false) :
      (loadFeaturesCommon raw d).flags feature = true ↔ AnyReports commonTables raw feature := by
    rw [loadFeaturesCommon_eq, guessSseSize_flags, applyTables_flags (by decide), hd]
    exact or_iff_right (by simp)
  unfold cpuidBasicIdentify
  dsimp only
  rw [if_neg hvendor]
  split <;> split <;> exact hloaded _ rfl

theorem anyReports_append {tables tables' : List FeatureTable} {feature : CpuFeature} :
    AnyReports (tables ++ tables') raw feature ↔
      AnyReports tables raw feature ∨ AnyReports tables' raw feature := by
  simp only [AnyReports, List.mem_append, or_and_right, exists_or]

end Vendors

/-- What the flags of a record say about the bits of the CPUID leaves. -/
structure FlagsFollowBits (raw : CpuRawData) (data : CpuId) : Prop where
  exact : ∀ feature, feature ≠ .ht → (data.flags feature = true ↔
    AnyReports (featureTables (cpuidVendorIdentify (raw.basicCpuid 0))) raw feature)
  ht : data.flags .ht = true →
    AnyReports (featureTables (cpuidVendorIdentify (raw.basicCpuid 0))) raw .ht
  htCleared : AnyReports (featureTables (cpuidVendorIdentify (raw.basicCpuid 0))) raw .ht →
    data.flags .ht = false → data.numCores = 1 ∧ data.numLogicalCpus = 1

theorem KeepsFlags.followBits {raw : CpuRawData} {data data' : CpuId} (h : KeepsFlags data data')
    (hbits : ∀ feature, data.flags feature = true ↔
      AnyReports (featureTables (cpuidVendorIdentify (raw.basicCpuid 0))) raw feature) :
    FlagsFollowBits raw data' where
  exact feature hne := by rw [h.other feature hne, hbits]
  ht hset := (hbits .ht).mp (h.set hset)
  htCleared hreported := h.cleared ((hbits .ht).mpr hreported)

/-- Whatever the vendor decodes after the tables, a feature is flagged exactly when its bit is set in
a register that is read; hyper-threading is also left out for a single logical CPU. -/
theorem cpuIdentify_flags {host : Host} {raw : CpuRawData} {data : CpuId}
    (harch : cpuidArchitectureIdentify raw = .x86)
    (hident : cpuIdentify host raw = .ok (.ok, data)) : FlagsFollowBits raw data := by
  have hvendor : cpuidVendorIdentify (raw.basicCpuid 0) ≠ .unknown := by
    intro hunknown
    simp [cpuIdentify, cpuIdentInternal, harch, cpuidBasicIdentify_unknown hunknown] at hident
  rw [cpuIdentify_of_vendor harch hvendor] at hident
  have hbasic := fun feature => @cpuidBasicIdentify_reports host raw hvendor feature
  generalize (cpuidBasicIdentify host raw { cpuIdConstructor with architecture := .x86 }).2 =
    basic at hident hbasic
  have hintel (feature : CpuFeature) : (loadIntelFeatures raw basic).flags feature = true ↔
      AnyReports (commonTables ++ intelTables) raw feature := by
    rw [loadIntelFeatures_eq, applyTables_flags (by decide), hbasic, anyReports_append]
  have hamd (feature : CpuFeature) : (loadAmdFeatures raw basic).flags feature = true ↔
      AnyReports (commonTables ++ amdTables) raw feature := by
    rw [loadAmdFeatures_flags, applyTables_flags (by decide), hbasic, anyReports_append]
  have hdecoded {x : Checked (CpuId × InternalIdInfo)}
      (h : x.map (fun s => (CpuError.ok, s.1)) = .ok (.ok, data)) :
      ∃ internal, x = .ok (data, internal) := by
    cases x with
    | error f => cases h
    | ok s => exact ⟨s.2, congrArg Except.ok (Prod.ext (Prod.mk.inj (Except.ok.inj h)).2 rfl)⟩
  cases hv : cpuidVendorIdentify (raw.basicCpuid 0) with
  | intel =>
    rw [hv] at hident
    obtain ⟨internal, h⟩ := hdecoded hident
    exact (cpuidIdentifyIntel_keepsFlags h).followBits (hv ▸ hintel)
  | amd | hygon =>
    rw [hv] at hident
    obtain ⟨internal, h⟩ := hdecoded hident
    exact (cpuidIdentifyAmd_keepsFlags h).followBits (hv ▸ hamd)
  | centaur =>
    rw [hv] at hident
    obtain ⟨internal, h⟩ := hdecoded hident
    exact (cpuidIdentifyCentaur_keepsFlags h).followBits (hv ▸ hbasic)
  | _ =>
    rw [hv] at hident
    obtain ⟨-, rfl⟩ := Prod.mk.inj (Except.ok.inj hident)
    exact (KeepsFlags.of_eq rfl).followBits (hv ▸ hbasic)

theorem cpuIdentify_flags_pentium :
    ∃ data, cpuIdentify .zero pentium = .ok (.ok, data) ∧ FlagsFollowBits pentium data := by
  have hrun : yields (cpuIdentify .zero pentium) (fun r => decide (r.1 = .ok)) = true := by
    decide +kernel
  obtain ⟨data, hident⟩ := exists_of_yields_fst hrun
  exact ⟨data, hident, cpuIdentify_flags (by decide) hident⟩

end LibCpuid
