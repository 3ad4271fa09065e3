import LibCpuid.Arm.IdFields

/-! The levels of pointer authentication: which bits of the ID registers the flags that stand for
them follow. -/

namespace LibCpuid

/-! ### The fields -/

/-- The field APA of `ID_AA64ISAR1_EL1`. -/
def pauthApa (raw : CpuRawData) : Nat := extractsBits (raw.armIdAa64Isar 1) 7 4

/-- The field API of `ID_AA64ISAR1_EL1`. -/
def pauthApi (raw : CpuRawData) : Nat := extractsBits (raw.armIdAa64Isar 1) 11 8

/-- The field APA3 of `ID_AA64ISAR2_EL1`. -/
def pauthApa3 (raw : CpuRawData) : Nat := extractsBits (raw.armIdAa64Isar 2) 15 12

/-- One of the three fields has a value. -/
def ReadsPauth (raw : CpuRawData) (value : Nat) : Prop :=
  pauthApa raw = value ∨ pauthApi raw = value ∨ pauthApa3 raw = value

/-- The features that stand for a value of the three fields. -/
def pauthLevels : List (CpuFeature × Nat) :=
  [(.epac, 2), (.pauth2, 3), (.fpac, 4), (.fpaccombine, 5), (.pauthLr, 6)]

/-- The flags of pointer authentication follow the three fields, and that of address authentication
also the algorithms. -/
structure PauthFollowsFields (raw : CpuRawData) : Prop where
  levels : ∀ level ∈ pauthLevels,
    (loadedArmFeatures raw).1.flags level.1 = true ↔ ReadsPauth raw level.2
  pauth : (loadedArmFeatures raw).1.flags .pauth = true ↔
    ReadsPauth raw 1 ∨ (loadedArmFeatures raw).1.flags .pacimp = true ∨
      (loadedArmFeatures raw).1.flags .pacqarma3 = true ∨
      (loadedArmFeatures raw).1.flags .pacqarma5 = true

/-! ### The rows -/

/-- The fields that the row of a level reads, in its order: that of `CPU_FEATURE_PAUTH_LR` reads APA
with the bit below it. -/
def pauthRowFields (level : CpuFeature × Nat) : List ArmFeatureField :=
  if level.1 = .pauthLr then
    [aarch64Field (.isar 1) 7 3 level.2, aarch64Field (.isar 1) 11 8 level.2,
      aarch64Field (.isar 2) 15 12 level.2]
  else
    [aarch64Field (.isar 1) 11 8 level.2, aarch64Field (.isar 1) 7 4 level.2,
      aarch64Field (.isar 2) 15 12 level.2]

theorem exists_row_pauthLevel : ∀ level ∈ (.pauth, 1) :: pauthLevels,
    ∃ row ∈ featuresMap, row.1 = level.1 ∧ row.2.reached true = pauthRowFields level := by
  decide +kernel

section Rows

variable {raw : CpuRawData}

theorem loadedArmFeatures_flags_mapped {f : CpuFeature} (hf : f ∉ specialFeatures) :
    (loadedArmFeatures raw).1.flags f = mapped raw f := by
  rw [loadedArmFeatures_flags, reports_featureStatuses hf]

theorem mapped_iff {f : CpuFeature} {fields : List ArmFeatureField}
    (hmode : isAarch64Mode raw = true)
    (hrow : ∃ row ∈ featuresMap, row.1 = f ∧ row.2.reached true = fields) :
    mapped raw f = true ↔ ∃ field ∈ fields, field.Matches true raw := by
  obtain ⟨row, hrow, rfl, rfl⟩ := hrow
  rw [mapped_eq_rowMatches hrow, rowMatches_iff hmode]

theorem matches_aarch64Field {reg : ArmReg64} {highbit lowbit value : Nat} :
    (aarch64Field reg highbit lowbit value).Matches true raw ↔
      extractsBits (raw.reg64 reg) highbit lowbit = value :=
  matches_of_reg_eq rfl

theorem mapped_pauthLevel (hmode : isAarch64Mode raw = true) {level : CpuFeature × Nat}
    (hlevel : level ∈ (.pauth, 1) :: pauthLevels) (hne : level.1 ≠ .pauthLr) :
    mapped raw level.1 = true ↔ ReadsPauth raw level.2 := by
  rw [mapped_iff hmode (exists_row_pauthLevel level hlevel), pauthRowFields, if_neg hne]
  simp only [List.mem_cons, List.not_mem_nil, or_false, exists_eq_or_imp, exists_eq_left,
    matches_aarch64Field]
  exact or_left_comm

theorem mapped_pauthLr (hmode : isAarch64Mode raw = true) :
    mapped raw .pauthLr = true ↔
      extractsBits (raw.armIdAa64Isar 1) 7 3 = 6 ∨ pauthApi raw = 6 ∨ pauthApa3 raw = 6 := by
  rw [mapped_iff hmode (exists_row_pauthLevel (.pauthLr, 6) (by decide)), pauthRowFields,
    if_pos rfl]
  simp only [List.mem_cons, List.not_mem_nil, or_false, exists_eq_or_imp, exists_eq_left,
    matches_aarch64Field]
  rfl

/-- The five bits that the row reads are 6 when APA is 3 and the bit below it is clear. -/
theorem extractsBits_7_3_eq_six_iff :
    extractsBits (raw.armIdAa64Isar 1) 7 3 = 6 ↔
      pauthApa raw = 3 ∧ extractsBit (raw.armIdAa64Isar 1) 3 = 0 := by
  simp only [pauthApa, extractsBits_eq_field, CLang.field, extractsBit, Nat.shiftRight_eq_div_pow,
    Nat.and_one_is_mod]
  omega

end Rows

/-! ### The flags -/

/-- Pointer authentication follows its fields exactly when another field than APA says that there is
PAUTH_LR, or APA does not say it and is not 3 with the bit below it clear. -/
theorem pauthFollowsFields_iff {raw : CpuRawData} (hmode : isAarch64Mode raw = true) :
    PauthFollowsFields raw ↔
      pauthApi raw = 6 ∨ pauthApa3 raw = 6 ∨
        (pauthApa raw ≠ 6 ∧ ¬(pauthApa raw = 3 ∧ extractsBit (raw.armIdAa64Isar 1) 3 = 0)) := by
  have hlr : ((loadedArmFeatures raw).1.flags .pauthLr = true ↔ ReadsPauth raw 6) ↔
      pauthApi raw = 6 ∨ pauthApa3 raw = 6 ∨
        (pauthApa raw ≠ 6 ∧ ¬(pauthApa raw = 3 ∧ extractsBit (raw.armIdAa64Isar 1) 3 = 0)) := by
    rw [loadedArmFeatures_flags_mapped (by decide), mapped_pauthLr hmode,
      extractsBits_7_3_eq_six_iff, ReadsPauth]
    omega
  rw [← hlr]
  constructor
  · intro h
    exact h.levels (.pauthLr, 6) (by decide)
  · intro h6
    constructor
    · intro level hlevel
      by_cases hne : level.1 = .pauthLr
      · have hall : ∀ level ∈ pauthLevels, level.1 = .pauthLr → level = (.pauthLr, 6) := by decide
        rw [hall level hlevel hne]
        exact h6
      · have hall : ∀ level ∈ pauthLevels, level.1 ∉ specialFeatures := by decide
        rw [loadedArmFeatures_flags_mapped (hall level hlevel)]
        exact mapped_pauthLevel hmode (List.mem_cons_of_mem _ hlevel) hne
    · rw [loadedArmFeatures_flags, reports_featureStatuses_pauth, Bool.or_eq_true,
        mapped_pauthLevel hmode (List.mem_cons_self ..) (by decide), pacMapped,
        loadedArmFeatures_flags_mapped (by decide), loadedArmFeatures_flags_mapped (by decide),
        loadedArmFeatures_flags_mapped (by decide), Bool.or_eq_true, Bool.or_eq_true, or_assoc]

/-- A core with EPAC. -/
theorem pauthFollowsFields_iff_epac :
    PauthFollowsFields (isar1Core 0x20) ↔
      pauthApi (isar1Core 0x20) = 6 ∨ pauthApa3 (isar1Core 0x20) = 6 ∨
        (pauthApa (isar1Core 0x20) ≠ 6 ∧ ¬(pauthApa (isar1Core 0x20) = 3 ∧
          extractsBit ((isar1Core 0x20).armIdAa64Isar 1) 3 = 0)) :=
  pauthFollowsFields_iff (by decide)

/-- The architected value of APA for PAUTH_LR is missed. -/
theorem not_pauthFollowsFields_lr : ¬PauthFollowsFields (isar1Core 0x60) := by
  intro h
  have hlevel := h.levels (.pauthLr, 6) (by decide)
  rw [loadedArmFeatures_flags_mapped (by decide), mapped_pauthLr (by decide)] at hlevel
  revert hlevel
  simp only [ReadsPauth]
  decide

end LibCpuid
