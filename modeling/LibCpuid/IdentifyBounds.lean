import LibCpuid.IdentifyFacts

/-! Which registers keep the decoders inside their arrays.  Each scan of sub-leaves reads one before
it compares the index with the bound, so some sub-leaf must end it. -/

namespace LibCpuid

open CLang

/-- A sub-leaf of leaf 11 ends the scans of `cpu_ident_id_x86`. -/
def Fn11Ends (raw : CpuRawData) : Prop :=
  ∃ i, (raw.intelFn11 i).eax = 0 ∨ (raw.intelFn11 i).ebx = 0

/-- A sub-leaf of leaf 80000026h ends the scan of `cpuid_identify_purpose_amd`, or there is no such
leaf. -/
def AmdPurposeEnds (raw : CpuRawData) : Prop :=
  (raw.amdFn80000026h 0).eax = 0 ∨
    ∃ i, let regs := raw.amdFn80000026h i
      regs.ebx = 0 ∨ regs.ecx = 0 ∨
        (extractsBit regs.eax 30 = 1 ∧ extractsBits regs.ecx 15 8 = 1)

/-- A sub-leaf that describes a cache of some level and type. -/
def DescribesCache (regs : Regs) : Prop :=
  extractsBits regs.eax 7 5 ≠ 0 ∧ extractsBits regs.eax 4 0 ≠ 0

/-- The cache that a sub-leaf describes, when the decoder knows it. -/
def knownCache (regs : Regs) : Option CacheType :=
  deterministicCacheType (extractsBits regs.eax 7 5) (extractsBits regs.eax 4 0)

/-- The caches that `cache_mask` has no element for: no sub-leaf past the number of cache types
that the scan gets to describes a cache that the decoder knows. -/
def CacheLeavesFit {n : Nat} (leaves : Fin n → Regs) : Prop :=
  ∀ i : Fin n, numCacheTypes ≤ i.val → (∀ j ≤ i, DescribesCache (leaves j)) →
    knownCache (leaves i) = none

/-- `cpu_ident_purpose` stays inside its arrays. -/
def PurposeInBounds (raw : CpuRawData) : Prop :=
  cpuidArchitectureIdentify raw = .x86 → cpuidVendorIdentify (raw.basicCpuid 0) = .amd →
    AmdPurposeEnds raw

/-- `cpu_ident_id` stays inside its arrays. -/
def TopologyInBounds (raw : CpuRawData) : Prop :=
  cpuidArchitectureIdentify raw = .x86 → isApicIdSupported raw = true → Fn11Ends raw

/-- `cpu_ident_internal` stays inside its arrays.  The four sub-leaves of leaf 8000001Dh never leave
`cache_mask`. -/
def IdentInBounds (raw : CpuRawData) : Prop :=
  cpuidArchitectureIdentify raw = .x86 →
    match cpuidVendorIdentify (raw.basicCpuid 0) with
    | .intel | .centaur => (raw.basicCpuid 0).eax.toNat ≥ 4 → CacheLeavesFit raw.intelFn4
    | .amd | .hygon => AmdPurposeEnds raw
    | _ => True

/-! ### Scans -/

theorem exists_mem_ofFn {α : Type} {n : Nat} {leaves : Fin n → α} {p : α → Prop} :
    (∃ a ∈ List.ofFn leaves, p a) ↔ ∃ i, p (leaves i) := by
  constructor
  · rintro ⟨a, ha, hp⟩
    obtain ⟨i, rfl⟩ := List.mem_ofFn.mp ha
    exact ⟨i, hp⟩
  · rintro ⟨i, hp⟩
    exact ⟨leaves i, List.mem_ofFn.mpr ⟨i, rfl⟩, hp⟩

theorem eqs_of_not_both {a b : BitVec 32} (h : ¬(a ≠ 0 ∧ b ≠ 0)) : a = 0 ∨ b = 0 :=
  (not_and_or.mp h).imp not_not.mp not_not.mp

theorem maskCoreShift_avoids {leaves : List Regs} {shift : Nat} :
    Avoids .outOfBounds (maskCoreShift leaves shift) ↔
      ∃ regs ∈ leaves, regs.eax = 0 ∨ regs.ebx = 0 := by
  induction leaves generalizing shift with
  | nil => simp [maskCoreShift]
  | cons regs leaves ih =>
    simp only [maskCoreShift, List.mem_cons, exists_eq_or_imp]
    split
    · next h => rw [ih, or_iff_right (not_or.mpr h)]
    · next h => exact iff_of_true (avoids_ok _ _) (.inl (eqs_of_not_both h))

theorem levelLoop_avoids {shift : Nat} {leaves : List Regs} {s : LevelState} :
    Avoids .outOfBounds (levelLoop shift leaves s) ↔
      ∃ regs ∈ leaves, regs.eax = 0 ∨ regs.ebx = 0 := by
  induction leaves generalizing s with
  | nil => simp [levelLoop]
  | cons regs leaves ih =>
    simp only [levelLoop, List.mem_cons, exists_eq_or_imp]
    split
    · next h => rw [ih, or_iff_right (not_or.mpr h)]
    · next h => exact iff_of_true (avoids_ok _ _) (.inl (eqs_of_not_both h))

theorem amdPurposeFrom_avoids {leaves : List Regs} :
    Avoids .outOfBounds (amdPurposeFrom leaves) ↔
      ∃ regs ∈ leaves, regs.ebx = 0 ∨ regs.ecx = 0 ∨
        (extractsBit regs.eax 30 = 1 ∧ extractsBits regs.ecx 15 8 = 1) := by
  induction leaves with
  | nil => simp [amdPurposeFrom]
  | cons regs leaves ih =>
    simp only [amdPurposeFrom, List.mem_cons, exists_eq_or_imp]
    split
    · next h =>
      split
      · next hcore =>
        refine iff_of_true ?_ (.inl (.inr (.inr hcore)))
        split <;> exact avoids_ok _ _
      · next hcore =>
        rw [ih, or_iff_right]
        rintro (h0 | h0 | h0)
        · exact h.1 h0
        · exact h.2 h0
        · exact hcore h0
    · next h =>
      refine iff_of_true (avoids_ok _ _) (.inl ?_)
      exact (eqs_of_not_both h).imp id .inl

theorem cpuidIdentifyPurposeAmd_avoids {raw : CpuRawData} :
    Avoids .outOfBounds (cpuidIdentifyPurposeAmd raw) ↔ AmdPurposeEnds raw := by
  unfold cpuidIdentifyPurposeAmd AmdPurposeEnds
  split
  · next h => exact iff_of_true (avoids_ok _ _) (.inl h)
  · next h => rw [amdPurposeFrom_avoids, exists_mem_ofFn, or_iff_right h]

theorem cpuIdentIdX86_avoids {raw : CpuRawData} {topology : InternalTopology} :
    Avoids .outOfBounds (cpuIdentIdX86 raw topology) ↔
      (isApicIdSupported raw = true → Fn11Ends raw) := by
  unfold cpuIdentIdX86 Fn11Ends
  split
  · next h =>
    simp only [avoids_bind, maskCoreShift_avoids, levelLoop_avoids, exists_mem_ofFn, avoids_ok,
      implies_true, and_true, h, true_implies]
    exact ⟨fun h => h.1, fun h => ⟨h, fun _ _ => h⟩⟩
  · next h => exact iff_of_true (avoids_ok _ _) fun h' => absurd h' h

/-! ### Caches -/

/-- The scan of the sub-leaves of a cache leaf, from index `i` on. -/
theorem decodeDeterministicCacheInfoX86_avoids {leaves : List Regs} {i : Nat}
    {s : CpuId × InternalIdInfo} :
    Avoids .outOfBounds (decodeDeterministicCacheInfoX86 i leaves s) ↔
      ∀ k regs, leaves[k]? = some regs → numCacheTypes ≤ i + k →
        (∀ j r, j ≤ k → leaves[j]? = some r → DescribesCache r) → knownCache regs = none := by
  induction leaves generalizing i s with
  | nil => simp [decodeDeterministicCacheInfoX86]
  | cons regs rest ih =>
    obtain ⟨data, internal⟩ := s
    -- the condition on the rest of the scan, when it goes on after `regs`
    have hrest (hdesc : DescribesCache regs) :
        (∀ k r, (regs :: rest)[k]? = some r → numCacheTypes ≤ i + k →
          (∀ j r, j ≤ k → (regs :: rest)[j]? = some r → DescribesCache r) →
            knownCache r = none) ↔
        (numCacheTypes ≤ i → knownCache regs = none) ∧
          ∀ k r, rest[k]? = some r → numCacheTypes ≤ i + 1 + k →
            (∀ j r, j ≤ k → rest[j]? = some r → DescribesCache r) → knownCache r = none := by
      constructor
      · refine fun h => ⟨fun hi => h 0 regs rfl hi ?_, fun k r hr hk hall => ?_⟩
        · intro j r hj hr
          obtain rfl := Nat.le_zero.mp hj
          exact Option.some.inj hr ▸ hdesc
        · refine h (k + 1) r hr (by omega) fun j r hj hr => ?_
          cases j with
          | zero => exact Option.some.inj hr ▸ hdesc
          | succ j => exact hall j r (by omega) hr
      · rintro ⟨hhead, htail⟩ k r hr hk hall
        cases k with
        | zero => exact Option.some.inj hr ▸ hhead hk
        | succ k => exact htail k r hr (by omega) fun j r hj hr => hall (j + 1) r (by omega) hr
    simp only [decodeDeterministicCacheInfoX86]
    split
    · next h =>
      refine iff_of_true (avoids_ok _ _) fun k r hr hk hall => ?_
      have hdesc := hall 0 regs (Nat.zero_le k) rfl
      rcases h with h | h
      · exact absurd h hdesc.1
      · exact absurd h hdesc.2
    · next h =>
      rw [hrest (not_or.mp h)]
      split
      · next hknown =>
        rw [ih, and_iff_right]
        exact fun _ => hknown
      · next type hknown =>
        simp only [avoids_bind, avoids_store, ih]
        have hsome : knownCache regs ≠ none := by simp [knownCache, hknown]
        constructor
        · rintro ⟨hi, hall⟩
          exact ⟨fun hle => absurd hi (Nat.not_lt.mpr hle), hall _ (store_of_lt _ hi _)⟩
        · rintro ⟨hi, hall⟩
          exact ⟨Nat.lt_of_not_le fun hle => hsome (hi hle), fun _ _ => hall⟩

theorem decodeDeterministicCacheInfoX86_ofFn_avoids {n : Nat} {leaves : Fin n → Regs}
    {s : CpuId × InternalIdInfo} :
    Avoids .outOfBounds (decodeDeterministicCacheInfoX86 0 (List.ofFn leaves) s) ↔
      CacheLeavesFit leaves := by
  rw [decodeDeterministicCacheInfoX86_avoids]
  have hget {k : Nat} {r : Regs} :
      (List.ofFn leaves)[k]? = some r ↔ ∃ h : k < n, leaves ⟨k, h⟩ = r := by
    simp [List.getElem?_ofFn]
  constructor
  · intro h i hi hall
    refine h i _ (hget.mpr ⟨i.isLt, rfl⟩) (by omega) fun j r hj hr => ?_
    obtain ⟨hlt, rfl⟩ := hget.mp hr
    exact hall ⟨j, hlt⟩ hj
  · intro h k r hr hk hall
    obtain ⟨hlt, rfl⟩ := hget.mp hr
    exact h ⟨k, hlt⟩ (by simpa using hk) fun j hj => hall j _ hj (hget.mpr ⟨j.isLt, rfl⟩)

/-! ### Decoders -/

theorem decodeIntelNumberOfCores_avoids (raw : CpuRawData) (data : CpuId) :
    Avoids .outOfBounds (decodeIntelNumberOfCores raw data) := by
  unfold decodeIntelNumberOfCores decodeIntelExtendedTopology
  dsimp only
  split
  · exact avoids_ok _ _
  · split
    · exact avoids_ok _ _
    · split
      · simp
      · exact avoids_ok _ _

theorem cpuidIdentifyIntel_avoids {host : Host} {raw : CpuRawData} {data : CpuId}
    {internal : InternalIdInfo} :
    Avoids .outOfBounds (cpuidIdentifyIntel host raw data internal) ↔
      ((raw.basicCpuid 0).eax.toNat ≥ 4 → CacheLeavesFit raw.intelFn4) := by
  simp only [cpuidIdentifyIntel, avoids_bind, decodeIntelNumberOfCores_avoids, avoids_ok,
    implies_true, and_true]
  unfold decodeIntelCaches
  split
  · next h => rw [decodeDeterministicCacheInfoX86_ofFn_avoids, iff_true_intro h, true_imp_iff]
  · next h =>
    refine iff_of_true ?_ fun h' => absurd h' h
    split <;> exact avoids_ok _ _

theorem cpuidIdentifyCentaur_avoids {raw : CpuRawData} {data : CpuId}
    {internal : InternalIdInfo} :
    Avoids .outOfBounds (cpuidIdentifyCentaur raw data internal) ↔
      ((raw.basicCpuid 0).eax.toNat ≥ 4 → CacheLeavesFit raw.intelFn4) := by
  simp only [cpuidIdentifyCentaur, avoids_bind, avoids_ok, implies_true, and_true]
  unfold decodeCentaurCaches
  split
  · next h => rw [decodeDeterministicCacheInfoX86_ofFn_avoids, iff_true_intro h, true_imp_iff]
  · next h => exact iff_of_true (avoids_ok _ _) fun h' => absurd h' h

/-- As many sub-leaves as `cache_mask` has elements never leave it. -/
theorem decodeDeterministicCacheInfoX86_ok {leaves : List Regs} {i : Nat}
    (h : i + leaves.length ≤ numCacheTypes) (s : CpuId × InternalIdInfo) :
    ∃ s', decodeDeterministicCacheInfoX86 i leaves s = .ok s' := by
  induction leaves generalizing i s with
  | nil => exact ⟨s, rfl⟩
  | cons regs rest ih =>
    obtain ⟨data, internal⟩ := s
    rw [List.length_cons] at h
    simp only [decodeDeterministicCacheInfoX86]
    split
    · exact ⟨_, rfl⟩
    · split
      · exact ih (by omega) _
      · rw [store_of_lt _ (show i < numCacheTypes by omega), ok_bind]
        exact ih (by omega) _

theorem decodeAmdCaches_ok (raw : CpuRawData) (data : CpuId) (internal : InternalIdInfo) :
    ∃ s, decodeAmdCaches raw data internal = .ok s := by
  unfold decodeAmdCaches
  split
  · exact decodeDeterministicCacheInfoX86_ok (by rw [List.length_ofFn]; decide) _
  · exact ⟨_, rfl⟩

theorem cpuidIdentifyAmd_avoids {raw : CpuRawData} {data : CpuId} {internal : InternalIdInfo} :
    Avoids .outOfBounds (cpuidIdentifyAmd raw data internal) ↔ AmdPurposeEnds raw := by
  obtain ⟨s, hs⟩ := decodeAmdCaches_ok raw (loadAmdFeatures raw data) internal
  simp only [cpuidIdentifyAmd, hs, ok_bind, avoids_bind, cpuidIdentifyPurposeAmd_avoids, avoids_ok,
    implies_true, and_true]

/-! ### One logical CPU -/

/-- `cpuid_basic_identify` fails only for a vendor that it does not know. -/
theorem cpuidBasicIdentify_error {host : Host} {raw : CpuRawData} {d : CpuId}
    (h : (cpuidBasicIdentify host raw d).1 ≠ .ok) :
    cpuidVendorIdentify (raw.basicCpuid 0) = .unknown := by
  by_contra hv
  simp [cpuidBasicIdentify, hv] at h

theorem cpuIdentPurpose_avoids {raw : CpuRawData} :
    Avoids .outOfBounds (cpuIdentPurpose raw) ↔ PurposeInBounds raw := by
  unfold cpuIdentPurpose PurposeInBounds
  cases cpuidArchitectureIdentify raw with
  | x86 =>
    cases cpuidVendorIdentify (raw.basicCpuid 0) <;>
      simp [cpuidIdentifyPurposeAmd_avoids]
  | arm => simp
  | unknown => simp

theorem amdPurposeFrom_error {leaves : List Regs} {f : Fault}
    (h : amdPurposeFrom leaves = .error f) : f = .outOfBounds := by
  induction leaves with
  | nil => exact (Except.error.inj h).symm
  | cons regs leaves ih =>
    unfold amdPurposeFrom at h
    split at h
    · split at h
      · split at h <;> cases h
      · exact ih h
    · cases h

theorem cpuIdentPurpose_error {raw : CpuRawData} {f : Fault}
    (h : cpuIdentPurpose raw = .error f) : f = .outOfBounds := by
  unfold cpuIdentPurpose cpuidIdentifyPurposeAmd at h
  split at h
  · split at h
    · split at h
      · cases h
      · exact amdPurposeFrom_error h
    · cases h
    · cases h
  · cases h
  · cases h

theorem cpuIdentId_avoids {logicalCpu : Nat} {raw : CpuRawData} :
    Avoids .outOfBounds (cpuIdentId logicalCpu raw) ↔ TopologyInBounds raw := by
  unfold cpuIdentId TopologyInBounds
  cases cpuidArchitectureIdentify raw <;> simp [cpuIdentIdX86_avoids]

theorem cpuIdentInternal_avoids {host : Host} {raw : CpuRawData} :
    Avoids .outOfBounds (cpuIdentInternal host raw) ↔ IdentInBounds raw := by
  unfold cpuIdentInternal IdentInBounds
  cases cpuidArchitectureIdentify raw with
  | x86 =>
    obtain ⟨-, -, hvendor⟩ := cpuidBasicIdentify_facts host raw
      { cpuIdConstructor with architecture := .x86 }
    simp only [true_imp_iff]
    split
    · next d hbasic =>
      rw [hbasic] at hvendor
      dsimp only at hvendor
      rw [← hvendor]
      cases d.vendor <;>
        simp only [avoids_bind, avoids_ok, implies_true, and_true, cpuidIdentifyIntel_avoids,
          cpuidIdentifyAmd_avoids, cpuidIdentifyCentaur_avoids]
    · next r d hne hbasic =>
      have hunkn := cpuidBasicIdentify_error (d := { cpuIdConstructor with architecture := .x86 })
        (show (cpuidBasicIdentify host raw _).1 ≠ .ok by rw [hbasic]; exact hne)
      rw [hunkn]
      simp
  | arm => simp
  | unknown => simp

end LibCpuid
