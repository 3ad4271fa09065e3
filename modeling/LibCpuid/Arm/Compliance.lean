import LibCpuid.Arm.FeatureStatus

/-! Whether the counters by which `decode_arm_architecture_version_by_cpuid` judges a level agree
with the flags of the features that are mandatory from it. -/

namespace LibCpuid

/-! ### The rows of `features_map` -/

/-- The rows stand in the order of the enumeration. -/
theorem featuresMap_sorted :
    (featuresMap.map fun row => row.1.ctorIdx).IsChain (· < ·) := by decide +kernel

theorem featuresMap_nodup : (featuresMap.map Prod.fst).Nodup := by
  have hsorted := featuresMap_sorted.pairwise
  refine List.Nodup.of_map CpuFeature.ctorIdx ?_
  rw [List.map_map]
  exact hsorted.imp Nat.ne_of_lt

/-- The features that `load_arm_features` sets besides those of `features_map`. -/
def specialFeatures : List CpuFeature :=
  [.thumb, .jazelle, .pauth, .mpam, .mpamv0p1, .mpamv1p1, .mteAsync, .mteCanonicalTags,
    .mteNoAddressTags, .mte4]

/-- The levels of the rows, one pass over the table. -/
theorem featuresMap_levels : ∀ row ∈ featuresMap,
    (row.2.verMandatory ≠ .unknown → row.2.verOptional ≠ .unknown ∧
      (row.1 ∉ specialFeatures ∨ (row.1 = .pauth ∧ row.2.verMandatory = .armV8_3A))) ∧
    (row.2.verMandatory = .armV8_3A → row.1 = .lrcpc ∨ row.1 = .pauth) := by decide +kernel

/-- A feature that is mandatory from some level is optional from another. -/
theorem featuresMap_optional (row) (hrow : row ∈ featuresMap) (h : row.2.verMandatory ≠ .unknown) :
    row.2.verOptional ≠ .unknown :=
  ((featuresMap_levels row hrow).1 h).1

/-- Of the special features only pointer authentication is mandatory from a level. -/
theorem featuresMap_special (row) (hrow : row ∈ featuresMap) (h : row.2.verMandatory ≠ .unknown) :
    row.1 ∉ specialFeatures ∨ (row.1 = .pauth ∧ row.2.verMandatory = .armV8_3A) :=
  ((featuresMap_levels row hrow).1 h).2

theorem featuresMap_armV8_3A (row) (hrow : row ∈ featuresMap) (h : row.2.verMandatory = .armV8_3A) :
    row.1 = .lrcpc ∨ row.1 = .pauth :=
  (featuresMap_levels row hrow).2 h

theorem exists_row_lrcpc :
    ∃ row ∈ featuresMap, row.1 = .lrcpc ∧ row.2.verMandatory = .armV8_3A := by decide

theorem exists_row_pauth :
    ∃ row ∈ featuresMap, row.1 = .pauth ∧ row.2.verMandatory = .armV8_3A := by decide

/-- A feature has one row. -/
theorem mapped_eq_rowMatches {raw : CpuRawData} {row : CpuFeature × ArmFeatureMap}
    (hrow : row ∈ featuresMap) : mapped raw row.1 = rowMatches raw row := by
  rw [Bool.eq_iff_iff, mapped, List.any_eq_true]
  constructor
  · rintro ⟨row', hrow', h⟩
    rw [Bool.and_eq_true, decide_eq_true_eq] at h
    obtain rfl := List.inj_on_of_nodup_map featuresMap_nodup hrow' hrow h.1
    exact h.2
  · exact fun h => ⟨row, hrow, by simp [h]⟩

/-! ### Flags -/

/-- The calls besides those for `features_map`. -/
theorem reports_other {calls : List FeatureStatus} {g : CpuFeature}
    (hcalls : ∀ c ∈ calls, c.feature ∈ specialFeatures) (hg : g ∉ specialFeatures) :
    reports calls g = false := by
  rw [reports, List.any_eq_false]
  intro c hc h
  rw [Bool.and_eq_true, decide_eq_true_eq] at h
  exact hg (h.2 ▸ hcalls c hc)

theorem midrStatuses_special (level : CpuFeatureLevel) :
    ∀ c ∈ midrStatuses level, c.feature ∈ specialFeatures := by
  simp [midrStatuses, specialFeatures]

theorem mpamStatuses_special (raw : CpuRawData) :
    ∀ c ∈ mpamStatuses raw, c.feature ∈ specialFeatures := by
  unfold mpamStatuses
  dsimp only
  split <;> simp [specialFeatures]

theorem mteStatuses_special (raw : CpuRawData) :
    ∀ c ∈ mteStatuses raw, c.feature ∈ specialFeatures := by
  unfold mteStatuses
  dsimp only
  split <;> simp [specialFeatures]

theorem pauthStatus_special (raw : CpuRawData) :
    ∀ c ∈ [pauthStatus raw], c.feature ∈ specialFeatures := by
  simp [pauthStatus, specialFeatures]

theorem mte4Status_special (calls : List FeatureStatus) :
    ∀ c ∈ [mte4Status calls], c.feature ∈ specialFeatures := by
  simp [mte4Status, specialFeatures]

theorem reports_featureStatuses {raw : CpuRawData} {level : CpuFeatureLevel} {g : CpuFeature}
    (hg : g ∉ specialFeatures) : reports (featureStatuses raw level) g = mapped raw g := by
  unfold featureStatuses statusesBeforeMte4
  simp only [reports_append, reports_mapStatuses, reports_other (midrStatuses_special level) hg,
    reports_other (mpamStatuses_special raw) hg, reports_other (mteStatuses_special raw) hg,
    reports_other (pauthStatus_special raw) hg, reports_other (mte4Status_special _) hg,
    Bool.false_or, Bool.or_false]

theorem reports_featureStatuses_pauth {raw : CpuRawData} {level : CpuFeatureLevel} :
    reports (featureStatuses raw level) .pauth = (mapped raw .pauth || pacMapped raw) := by
  unfold featureStatuses statusesBeforeMte4
  have hmpam : reports (mpamStatuses raw) .pauth = false := by
    unfold mpamStatuses
    dsimp only
    split <;> simp [reports]
  have hmte : reports (mteStatuses raw) .pauth = false := by
    unfold mteStatuses
    dsimp only
    split <;> simp [reports]
  have hmte4 (calls : List FeatureStatus) : reports [mte4Status calls] .pauth = false := by
    simp [reports, mte4Status]
  have hpauth : reports [pauthStatus raw] .pauth = pacMapped raw := by
    simp [reports, pauthStatus]
  simp only [reports_append, reports_mapStatuses, hmpam, hmte, hmte4, hpauth,
    reports_midrStatuses (by decide : CpuFeature.pauth ≠ .thumb) (by decide), Bool.false_or,
    Bool.or_false]

/-! ### Counters -/

/-- The calls that count for a level: those for the rows of `features_map` that are mandatory from
it, and that of pointer authentication. -/
theorem mem_featureStatuses_mandatory {raw : CpuRawData} {level L : CpuFeatureLevel}
    (hL : L ≠ .unknown) {c : FeatureStatus} :
    c ∈ featureStatuses raw level ∧ c.mandatoryFrom = L ↔
      (∃ row ∈ featuresMap, row.2.verMandatory = L ∧
        c = ⟨rowMatches raw row, row.1, row.2.verOptional, row.2.verMandatory⟩) ∨
      (L = .armV8_3A ∧ c = pauthStatus raw) := by
  have hmidr : ∀ c ∈ midrStatuses level, c.mandatoryFrom = .unknown := by simp [midrStatuses]
  have hmpam : ∀ c ∈ mpamStatuses raw, c.mandatoryFrom = .unknown := by
    unfold mpamStatuses
    dsimp only
    split <;> simp
  have hmte : ∀ c ∈ mteStatuses raw, c.mandatoryFrom = .unknown := by
    unfold mteStatuses
    dsimp only
    split <;> simp
  simp only [featureStatuses, statusesBeforeMte4, List.mem_append, List.mem_singleton]
  constructor
  · rintro ⟨((((hc | hc) | rfl) | hc) | hc) | rfl, rfl⟩
    · exact absurd (hmidr c hc) hL
    · obtain ⟨row, hrow, rfl⟩ := List.mem_map.mp hc
      exact .inl ⟨row, hrow, rfl, rfl⟩
    · exact .inr ⟨rfl, rfl⟩
    · exact absurd (hmpam c hc) hL
    · exact absurd (hmte c hc) hL
    · exact absurd rfl hL
  · rintro (⟨row, hrow, rfl, rfl⟩ | ⟨rfl, rfl⟩)
    · exact ⟨.inl (.inl (.inl (.inl (.inr (List.mem_map.mpr ⟨row, hrow, rfl⟩))))), rfl⟩
    · exact ⟨.inl (.inl (.inl (.inr rfl))), rfl⟩

theorem countP_le_countP_iff {α : Type} {p q : α → Bool} (h : ∀ a, p a = true → q a = true)
    {l : List α} : l.countP q ≤ l.countP p ↔ ∀ a ∈ l, q a = true → p a = true := by
  induction l with
  | nil => simp
  | cons a l ih =>
    have hle : l.countP p ≤ l.countP q := List.countP_mono_left fun a _ => h a
    rw [List.countP_cons, List.countP_cons, List.forall_mem_cons, ← ih]
    cases hq : q a with
    | false =>
      have hp : p a = false := by
        rw [Bool.eq_false_iff]
        intro hp
        rw [h a hp] at hq
        cases hq
      simp [hp]
    | true =>
      cases hp : p a with
      | false =>
        simp only [if_true, Bool.false_eq_true, if_false, imp_false, not_true_eq_false, false_and,
          iff_false]
        omega
      | true => simp

/-- The record that `cpu_ident_internal` gives to `cpuid_identify_arm`. -/
def armRecord : CpuId := { cpuIdConstructor with architecture := .arm }

/-- The record and the counters of `cpuid_identify_arm` after `load_arm_features`. -/
def loadedArmFeatures (raw : CpuRawData) : CpuId × ArmArchExtension :=
  loadArmFeatures raw (decodeArmMidr raw armRecord, .zero)

/-- The feature level that the MIDR gives, before the features are loaded. -/
def midrLevel (raw : CpuRawData) : CpuFeatureLevel := (decodeArmMidr raw armRecord).featureLevel

theorem loadedArmFeatures_eq (raw : CpuRawData) :
    loadedArmFeatures raw = (featureStatuses raw (midrLevel raw)).foldl FeatureStatus.set
      (decodeArmMidr raw armRecord, .zero) :=
  loadArmFeatures_eq raw _ fun _ => rfl

theorem loadedArmFeatures_flags (raw : CpuRawData) (g : CpuFeature) :
    (loadedArmFeatures raw).1.flags g = reports (featureStatuses raw (midrLevel raw)) g := by
  rw [loadedArmFeatures_eq, foldl_set_flags]
  exact Bool.false_or _

/-- The counting test of a level asks that every call which counts for it reports its feature. -/
theorem loadedArmFeatures_counted_iff {raw : CpuRawData} {L : CpuFeatureLevel}
    (hL : L ≠ .unknown) :
    ¬((loadedArmFeatures raw).2.present L).mandatory <
        ((loadedArmFeatures raw).2.total L).mandatory ↔
      (∀ row ∈ featuresMap, row.2.verMandatory = L → rowMatches raw row = true) ∧
        (L = .armV8_3A → pacMapped raw = true) := by
  rw [loadedArmFeatures_eq, Nat.not_lt,
    foldl_set_count (f := fun s => (s.2.total L).mandatory) fun c s => set_total_mandatory c s hL,
    foldl_set_count (f := fun s => (s.2.present L).mandatory) fun c s =>
      set_present_mandatory c s hL]
  simp only [ArmArchExtension.zero, Nat.zero_add]
  rw [countP_le_countP_iff (by simp)]
  have hmem {c : FeatureStatus} := @mem_featureStatuses_mandatory raw (midrLevel raw) L hL c
  constructor
  · intro h
    constructor
    · intro row hrow hm
      obtain ⟨hc, hcm⟩ := hmem.mpr (.inl ⟨row, hrow, hm, rfl⟩)
      have := h _ hc (by simpa using hcm)
      exact (of_decide_eq_true this).1
    · intro hL3
      obtain ⟨hc, hcm⟩ := hmem.mpr (.inr ⟨hL3, rfl⟩)
      have := h _ hc (by simpa using hcm)
      exact (of_decide_eq_true this).1
  · rintro ⟨hrows, hpauth⟩ c hc hcm
    rcases hmem.mp ⟨hc, of_decide_eq_true hcm⟩ with ⟨row, hrow, hm, rfl⟩ | ⟨hL3, rfl⟩
    · have hopt := featuresMap_optional row hrow (hm ▸ hL)
      simp [hrows row hrow hm, hopt, hm]
    · simp [pauthStatus, hpauth hL3, hL3]

/-- The features that are declared mandatory from a level. -/
def IsMandatoryFrom (L : CpuFeatureLevel) (f : CpuFeature) : Prop :=
  (∃ row ∈ featuresMap, row.1 = f ∧ row.2.verMandatory = L) ∨ (L = .armV8_3A ∧ f = .pauth)

/-- The flags of the mandatory features of a level. -/
theorem mandatory_flags_iff {raw : CpuRawData} {L : CpuFeatureLevel} (hL : L ≠ .unknown) :
    (∀ f, IsMandatoryFrom L f → (loadedArmFeatures raw).1.flags f = true) ↔
      (∀ row ∈ featuresMap, row.2.verMandatory = L → row.1 ≠ .pauth →
          rowMatches raw row = true) ∧
        (L = .armV8_3A → mapped raw .pauth = true ∨ pacMapped raw = true) := by
  have hflag (f : CpuFeature) := loadedArmFeatures_flags raw f
  have hpauth : (loadedArmFeatures raw).1.flags .pauth = (mapped raw .pauth || pacMapped raw) := by
    rw [hflag, reports_featureStatuses_pauth]
  have hrow {row : CpuFeature × ArmFeatureMap} (hrow : row ∈ featuresMap)
      (hm : row.2.verMandatory = L) (hne : row.1 ≠ .pauth) :
      (loadedArmFeatures raw).1.flags row.1 = rowMatches raw row := by
    rcases featuresMap_special row hrow (hm ▸ hL) with hspecial | ⟨he, -⟩
    · rw [hflag, reports_featureStatuses hspecial, mapped_eq_rowMatches hrow]
    · exact absurd he hne
  constructor
  · intro h
    refine ⟨fun row hmem hm hne => ?_, fun hL3 => ?_⟩
    · rw [← hrow hmem hm hne]
      exact h row.1 (.inl ⟨row, hmem, rfl, hm⟩)
    · have := h .pauth (.inr ⟨hL3, rfl⟩)
      rwa [hpauth, Bool.or_eq_true] at this
  · rintro ⟨hrows, hp⟩ f hf
    by_cases hfp : f = .pauth
    · subst hfp
      rw [hpauth, Bool.or_eq_true]
      rcases hf with ⟨row, hmem, he, hm⟩ | ⟨hL3, -⟩
      · rcases featuresMap_special row hmem (hm ▸ hL) with hspecial | ⟨-, hm3⟩
        · exact absurd (by rw [he]; decide) hspecial
        · exact hp (hm ▸ hm3)
      · exact hp hL3
    · rcases hf with ⟨row, hmem, rfl, hm⟩ | ⟨-, rfl⟩
      · rw [hrow hmem hm hfp]
        exact hrows row hmem hm hfp
      · exact absurd rfl hfp

/-- The counting test of a level of the v8-A and v9-A ladders agrees with the flags of the features
that are mandatory from it, but for ARMv8.3-A when LRCPC is there: pointer authentication counts
twice, so the test asks for a match in `features_map` and for an algorithm. -/
theorem compliance_agrees_iff {raw : CpuRawData} {L : CpuFeatureLevel}
    (hL : L ∈ architectureArmV8a ++ architectureArmV9a) :
    (¬((loadedArmFeatures raw).2.present L).mandatory <
          ((loadedArmFeatures raw).2.total L).mandatory ↔
        ∀ f, IsMandatoryFrom L f → (loadedArmFeatures raw).1.flags f = true) ↔
      (L = .armV8_3A → mapped raw .lrcpc = true →
        (mapped raw .pauth = true ↔ pacMapped raw = true)) := by
  have hne : L ≠ .unknown := by
    rintro rfl
    revert hL
    decide
  rw [loadedArmFeatures_counted_iff hne, mandatory_flags_iff hne]
  by_cases hL3 : L = .armV8_3A
  · subst hL3
    obtain ⟨lrcpc, hlrcpc, hlf, hlm⟩ := exists_row_lrcpc
    obtain ⟨pauth, hpauth, hpf, hpm⟩ := exists_row_pauth
    have hl : mapped raw .lrcpc = rowMatches raw lrcpc := hlf ▸ mapped_eq_rowMatches hlrcpc
    have hp : mapped raw .pauth = rowMatches raw pauth := hpf ▸ mapped_eq_rowMatches hpauth
    -- the rows of this level are that of LRCPC and that of pointer authentication
    have hall : (∀ row ∈ featuresMap, row.2.verMandatory = .armV8_3A → rowMatches raw row = true) ↔
        mapped raw .lrcpc = true ∧ mapped raw .pauth = true := by
      constructor
      · exact fun h => ⟨hl ▸ h lrcpc hlrcpc hlm, hp ▸ h pauth hpauth hpm⟩
      · rintro ⟨h1, h2⟩ row hrow hm
        rw [← mapped_eq_rowMatches hrow]
        rcases featuresMap_armV8_3A row hrow hm with he | he <;> rw [he] <;> assumption
    have hrest : (∀ row ∈ featuresMap, row.2.verMandatory = .armV8_3A → row.1 ≠ .pauth →
        rowMatches raw row = true) ↔ mapped raw .lrcpc = true := by
      constructor
      · exact fun h => hl ▸ h lrcpc hlrcpc hlm (by rw [hlf]; decide)
      · intro h row hrow hm hne
        rw [← mapped_eq_rowMatches hrow]
        rcases featuresMap_armV8_3A row hrow hm with he | he
        · rwa [he]
        · exact absurd he hne
    rw [hall, hrest]
    simp only [true_imp_iff]
    cases mapped raw .lrcpc <;> cases mapped raw .pauth <;> cases pacMapped raw <;> simp
  · refine iff_of_true ?_ fun h => absurd h hL3
    have hnot {row : CpuFeature × ArmFeatureMap} (hrow : row ∈ featuresMap)
        (hm : row.2.verMandatory = L) : row.1 ≠ .pauth := by
      rcases featuresMap_special row hrow (hm ▸ hne) with hspecial | ⟨-, hm3⟩
      · exact fun he => hspecial (by rw [he]; decide)
      · exact absurd (hm.symm.trans hm3) hL3
    constructor
    · rintro ⟨h, -⟩
      exact ⟨fun row hrow hm _ => h row hrow hm, fun h3 => absurd h3 hL3⟩
    · rintro ⟨h, -⟩
      exact ⟨fun row hrow hm => h row hrow hm (hnot hrow hm), fun h3 => absurd h3 hL3⟩

/-- An AArch64 core with the given `ID_AA64ISAR1_EL1`. -/
def isar1Core (isar1 : BitVec 64) : CpuRawData :=
  { CpuRawData.zero with
    armMidr := 0x410fd400
    armIdAa64Isar := fun i => if i = 1 then isar1 else 0
    armIdAa64Pfr := fun i => if i = 0 then 0x11 else 0 }

/-- With LRCPC, address authentication and an algorithm, the test and the flags agree. -/
theorem compliance_agrees_pauth :
    ¬((loadedArmFeatures (isar1Core 0x01100010)).2.present .armV8_3A).mandatory <
        ((loadedArmFeatures (isar1Core 0x01100010)).2.total .armV8_3A).mandatory ↔
      ∀ f, IsMandatoryFrom .armV8_3A f →
        (loadedArmFeatures (isar1Core 0x01100010)).1.flags f = true :=
  (compliance_agrees_iff (by decide)).mpr fun _ _ => by decide +kernel

/-- With LRCPC and address authentication, but no algorithm, the test fails though every flag is
set. -/
theorem compliance_disagrees_pauth :
    ((loadedArmFeatures (isar1Core 0x00100010)).2.present .armV8_3A).mandatory <
        ((loadedArmFeatures (isar1Core 0x00100010)).2.total .armV8_3A).mandatory ∧
      ∀ f, IsMandatoryFrom .armV8_3A f →
        (loadedArmFeatures (isar1Core 0x00100010)).1.flags f = true := by
  have hne : CpuFeatureLevel.armV8_3A ≠ .unknown := by decide
  constructor
  · by_contra h
    have := ((loadedArmFeatures_counted_iff hne).mp h).2 rfl
    revert this
    decide +kernel
  · rw [mandatory_flags_iff hne]
    exact ⟨by decide +kernel, fun _ => .inl (by decide +kernel)⟩

end LibCpuid
