import LibCpuid.Arm.Compliance

/-! The architecture level of an ARM processor whose MIDR does not name one, in terms of the rows of
`features_map`: what makes a level of a ladder compliant, and how far the loop climbs. -/

namespace LibCpuid

/-- Every row that is mandatory from a level matches. -/
def MandatoryMatch (raw : CpuRawData) (L : CpuFeatureLevel) : Prop :=
  ∀ row ∈ featuresMap, row.2.verMandatory = L → rowMatches raw row = true

/-- A row that is optional from a level matches. -/
def OptionalMatch (raw : CpuRawData) (L : CpuFeatureLevel) : Prop :=
  ∃ row ∈ featuresMap, row.2.verOptional = L ∧ rowMatches raw row = true

/-- The levels of the ladders from which no feature is mandatory. -/
def optionalLevels : List CpuFeatureLevel :=
  [.armV8_0A, .armV9_0A, .armV9_1A, .armV9_2A, .armV9_3A, .armV9_4A]

/-- The other levels of the ladders. -/
def mandatoryLevels : List CpuFeatureLevel :=
  [.armV8_1A, .armV8_2A, .armV8_3A, .armV8_4A, .armV8_5A, .armV8_6A, .armV8_7A, .armV8_8A,
    .armV8_9A]

theorem featuresMap_optionalLevels : ∀ row ∈ featuresMap,
    row.2.verMandatory ∉ optionalLevels := by decide +kernel

theorem featuresMap_mandatoryLevels : ∀ L ∈ mandatoryLevels,
    ∃ row ∈ featuresMap, row.2.verMandatory = L := by decide +kernel

/-! ### Counters -/

section Counters

variable {raw : CpuRawData} {L : CpuFeatureLevel}

theorem loadedArmFeatures_total_mandatory (hL : L ≠ .unknown) :
    ((loadedArmFeatures raw).2.total L).mandatory =
      (featureStatuses raw (midrLevel raw)).countP fun c => c.mandatoryFrom = L := by
  rw [loadedArmFeatures_eq,
    foldl_set_count (f := fun s => (s.2.total L).mandatory) fun c s => set_total_mandatory c s hL]
  exact Nat.zero_add _

theorem loadedArmFeatures_present_optional (hL : L ≠ .unknown) :
    ((loadedArmFeatures raw).2.present L).optional =
      (featureStatuses raw (midrLevel raw)).countP fun c => c.isPresent ∧ c.optionalFrom = L := by
  rw [loadedArmFeatures_eq,
    foldl_set_count (f := fun s => (s.2.present L).optional) fun c s =>
      set_present_optional c s hL]
  exact Nat.zero_add _

theorem loadedArmFeatures_present_mandatory (hL : L ≠ .unknown) :
    ((loadedArmFeatures raw).2.present L).mandatory =
      (featureStatuses raw (midrLevel raw)).countP fun c =>
        c.isPresent ∧ c.optionalFrom ≠ .unknown ∧ c.mandatoryFrom = L := by
  rw [loadedArmFeatures_eq,
    foldl_set_count (f := fun s => (s.2.present L).mandatory) fun c s =>
      set_present_mandatory c s hL]
  exact Nat.zero_add _

theorem ne_unknown_of_optionalLevels (hL : L ∈ optionalLevels) : L ≠ .unknown := by
  rintro rfl
  revert hL
  decide

/-- No call counts as mandatory for a level of `optionalLevels`. -/
theorem mandatoryFrom_ne (hL : L ∈ optionalLevels) {level : CpuFeatureLevel} :
    ∀ c ∈ featureStatuses raw level, c.mandatoryFrom ≠ L := by
  intro c hc hm
  rcases (mem_featureStatuses_mandatory (ne_unknown_of_optionalLevels hL)).mp ⟨hc, hm⟩ with
    ⟨row, hrow, hrm, -⟩ | ⟨rfl, -⟩
  · exact featuresMap_optionalLevels row hrow (hrm ▸ hL)
  · revert hL
    decide

/-- The calls besides those for the rows do not count as optional for such a level. -/
theorem reported_optional_iff (hL : L ∈ optionalLevels) {level : CpuFeatureLevel} :
    (∃ c ∈ featureStatuses raw level, c.isPresent = true ∧ c.optionalFrom = L) ↔
      OptionalMatch raw L := by
  have hne := ne_unknown_of_optionalLevels hL
  have hv8 : L ≠ .armV8_2A ∧ L ≠ .armV8_5A ∧ L ≠ .armV8_7A := by
    refine ⟨?_, ?_, ?_⟩ <;>
    · rintro rfl
      revert hL
      decide
  have hmidr : ∀ c ∈ midrStatuses level, c.optionalFrom ≠ L := by
    simp [midrStatuses, hne.symm]
  have hmpam : ∀ c ∈ mpamStatuses raw, c.optionalFrom ≠ L := by
    unfold mpamStatuses
    dsimp only
    split <;> simp [hv8.1.symm, hv8.2.1.symm]
  have hmte : ∀ c ∈ mteStatuses raw, c.optionalFrom ≠ L := by
    unfold mteStatuses
    dsimp only
    split <;> simp [hv8.2.1.symm, hv8.2.2.symm]
  simp only [featureStatuses, statusesBeforeMte4, List.mem_append, List.mem_singleton]
  constructor
  · rintro ⟨c, ((((hc | hc) | rfl) | hc) | hc) | rfl, hp, ho⟩
    · exact absurd ho (hmidr c hc)
    · obtain ⟨row, hrow, rfl⟩ := List.mem_map.mp hc
      exact ⟨row, hrow, ho, hp⟩
    · exact absurd ho hv8.1.symm
    · exact absurd ho (hmpam c hc)
    · exact absurd ho (hmte c hc)
    · exact absurd ho hv8.2.2.symm
  · rintro ⟨row, hrow, ho, hp⟩
    exact ⟨_, .inl (.inl (.inl (.inl (.inr (List.mem_map.mpr ⟨row, hrow, rfl⟩))))), hp, ho⟩

theorem present_optional_pos_iff (hL : L ∈ optionalLevels) :
    0 < ((loadedArmFeatures raw).2.present L).optional ↔ OptionalMatch raw L := by
  rw [loadedArmFeatures_present_optional (ne_unknown_of_optionalLevels hL), List.countP_pos_iff]
  simpa using reported_optional_iff hL

/-! ### Compliance -/

/-- The test of a level from which no feature is mandatory. -/
theorem compliant_optional_iff (hL : L ∈ optionalLevels) :
    (loadedArmFeatures raw).2.compliant L = true ↔ OptionalMatch raw L := by
  have hne := ne_unknown_of_optionalLevels hL
  have htotal : ((loadedArmFeatures raw).2.total L).mandatory = 0 := by
    rw [loadedArmFeatures_total_mandatory hne, List.countP_eq_zero]
    simpa using mandatoryFrom_ne hL
  rw [← present_optional_pos_iff hL]
  simp [ArmArchExtension.compliant, htotal, Nat.pos_iff_ne_zero]

/-- The test of a level from which some feature is mandatory. -/
theorem compliant_mandatory_iff (hL : L ∈ mandatoryLevels) :
    (loadedArmFeatures raw).2.compliant L = true ↔
      MandatoryMatch raw L ∧ (L = .armV8_3A → pacMapped raw = true) := by
  have hne : L ≠ .unknown := by
    rintro rfl
    revert hL
    decide
  have htotal : ((loadedArmFeatures raw).2.total L).mandatory ≠ 0 := by
    obtain ⟨row, hrow, hm⟩ := featuresMap_mandatoryLevels L hL
    obtain ⟨hc, hcm⟩ := (@mem_featureStatuses_mandatory raw (midrLevel raw) L
      hne _).mpr (.inl ⟨row, hrow, hm, rfl⟩)
    rw [loadedArmFeatures_total_mandatory hne, ne_eq, List.countP_eq_zero]
    exact fun h => h _ hc (by simpa using hcm)
  rw [MandatoryMatch, ← loadedArmFeatures_counted_iff hne]
  simp [ArmArchExtension.compliant, htotal]

/-- What chooses a ladder. -/
theorem starts_iff (hL : L ∈ optionalLevels) :
    (loadedArmFeatures raw).2.starts L = true ↔ OptionalMatch raw L := by
  have hpresent : ((loadedArmFeatures raw).2.present L).mandatory = 0 := by
    rw [loadedArmFeatures_present_mandatory (ne_unknown_of_optionalLevels hL),
      List.countP_eq_zero]
    intro c hc h
    exact mandatoryFrom_ne hL c hc (of_decide_eq_true h).2.2
  rw [← present_optional_pos_iff hL]
  simp [ArmArchExtension.starts, hpresent]

end Counters

/-! ### The loop over a ladder -/

section Ladder

variable {ext ext' : ArmArchExtension} {rungs : List CpuFeatureLevel} {level : CpuFeatureLevel}

theorem ladderLevel_mem : ladderLevel ext rungs level ∈ level :: rungs := by
  induction rungs generalizing level with
  | nil => exact List.mem_cons_self ..
  | cons next rest ih =>
    rw [ladderLevel]
    split
    · exact List.mem_cons_of_mem _ ih
    · exact List.mem_cons_self ..

theorem le_ladderLevel_start
    (hsorted : (level :: rungs).Pairwise fun a b => a.value < b.value) :
    level.value ≤ (ladderLevel ext rungs level).value := by
  induction rungs generalizing level with
  | nil => exact le_rfl
  | cons next rest ih =>
    obtain ⟨hfirst, hrest⟩ := List.pairwise_cons.mp hsorted
    rw [ladderLevel]
    split
    · exact (hfirst next (List.mem_cons_self ..)).le.trans (ih hrest)
    · exact le_rfl

/-- The loop gets to the levels before the first one that is not compliant. -/
theorem le_ladderLevel (hsorted : (level :: rungs).Pairwise fun a b => a.value < b.value)
    {L : CpuFeatureLevel} (hL : L ∈ rungs.takeWhile ext.compliant) :
    L.value ≤ (ladderLevel ext rungs level).value := by
  induction rungs generalizing level with
  | nil => cases hL
  | cons next rest ih =>
    obtain ⟨-, hrest⟩ := List.pairwise_cons.mp hsorted
    by_cases hc : ext.compliant next = true
    · rw [List.takeWhile_cons_of_pos hc, List.mem_cons] at hL
      rw [ladderLevel, if_pos hc]
      rcases hL with rfl | hL
      · exact le_ladderLevel_start hrest
      · exact ih hrest hL
    · rw [List.takeWhile_cons_of_neg hc] at hL
      cases hL

/-- The loop stays below a level that is not compliant. -/
theorem ladderLevel_lt (hsorted : (level :: rungs).Pairwise fun a b => a.value < b.value)
    {L : CpuFeatureLevel} (hL : L ∈ rungs) (hnot : ext.compliant L = false) :
    (ladderLevel ext rungs level).value < L.value := by
  induction rungs generalizing level with
  | nil => cases hL
  | cons next rest ih =>
    obtain ⟨hfirst, hrest⟩ := List.pairwise_cons.mp hsorted
    rw [ladderLevel]
    split
    case isTrue hc =>
      rcases List.mem_cons.mp hL with rfl | hL
      · rw [hnot] at hc
        cases hc
      · exact ih hrest hL
    case isFalse => exact hfirst L hL

/-- The loop climbs at least as far when the levels it got to are still compliant. -/
theorem ladderLevel_mono (hsorted : (level :: rungs).Pairwise fun a b => a.value < b.value)
    (h : ∀ L ∈ rungs.takeWhile ext.compliant, ext'.compliant L = true) :
    (ladderLevel ext rungs level).value ≤ (ladderLevel ext' rungs level).value := by
  induction rungs generalizing level with
  | nil => exact le_rfl
  | cons next rest ih =>
    by_cases hc : ext.compliant next = true
    · rw [List.takeWhile_cons_of_pos hc, List.forall_mem_cons] at h
      rw [ladderLevel, ladderLevel, if_pos hc, if_pos h.1]
      exact ih (List.pairwise_cons.mp hsorted).2 h.2
    · rw [ladderLevel, if_neg hc]
      exact le_ladderLevel_start hsorted

end Ladder

theorem architectureArmV8a_sorted :
    (CpuFeatureLevel.unknown :: architectureArmV8a).Pairwise fun a b => a.value < b.value := by
  decide

theorem architectureArmV9a_sorted :
    (CpuFeatureLevel.unknown :: architectureArmV9a).Pairwise fun a b => a.value < b.value := by
  decide

/-- The levels of the ladders have one of the two tests. -/
theorem architectureArmV8a_subset : architectureArmV8a ⊆ optionalLevels ++ mandatoryLevels := by
  decide

theorem architectureArmV9a_subset : architectureArmV9a ⊆ optionalLevels := by decide

/-! ### The level -/

/-- The level that the ID registers give. -/
def levelByCpuid (raw : CpuRawData) : CpuFeatureLevel :=
  decodeArmArchitectureVersionByCpuid raw (loadedArmFeatures raw).2

section Level

variable {raw : CpuRawData}

theorem levelByCpuid_early (hearly : earlyArmLevel raw ≠ .unknown) :
    levelByCpuid raw = earlyArmLevel raw := by
  rw [levelByCpuid, decodeArmArchitectureVersionByCpuid, if_pos hearly]

theorem levelByCpuid_v9 (hearly : earlyArmLevel raw = .unknown)
    (hv9 : OptionalMatch raw .armV9_0A) :
    levelByCpuid raw = ladderLevel (loadedArmFeatures raw).2 architectureArmV9a .unknown := by
  simp [levelByCpuid, decodeArmArchitectureVersionByCpuid, hearly,
    (starts_iff (by decide)).mpr hv9]

theorem levelByCpuid_v8 (hearly : earlyArmLevel raw = .unknown)
    (hv9 : ¬OptionalMatch raw .armV9_0A) :
    levelByCpuid raw = ladderLevel (loadedArmFeatures raw).2 architectureArmV8a .unknown := by
  have h9 : (loadedArmFeatures raw).2.starts .armV9_0A = false := by
    rw [Bool.eq_false_iff, ne_eq, starts_iff (by decide)]
    exact hv9
  rw [levelByCpuid, decodeArmArchitectureVersionByCpuid, hearly, h9]
  -- the ladder has no level to offer when ARMv8.0-A is not there
  cases h8 : (loadedArmFeatures raw).2.starts .armV8_0A with
  | true => rfl
  | false =>
    have hnot : (loadedArmFeatures raw).2.compliant .armV8_0A = false := by
      rw [Bool.eq_false_iff, ne_eq, compliant_optional_iff (by decide),
        ← starts_iff (by decide), h8]
      decide
    simp [architectureArmV8a, ladderLevel, hnot]

end Level

end LibCpuid
