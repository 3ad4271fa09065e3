import LibCpuid.Arm.Monotone
import LibCpuid.Identify

/-! What an ARMv9 level says about the features that are mandatory up to ARMv8.5-A.  The comment on
the ladder of ARMv9-A asks for ARMv8.5 compliance; the loop over it does not look at ARMv8-A, and the
test of the Neoverse N2 expects an ARMv9 level without it. -/

namespace LibCpuid

/-- Every feature that is mandatory from one of the levels is flagged. -/
def HasMandatory (data : CpuId) (levels : List CpuFeatureLevel) : Prop :=
  ∀ L ∈ levels, ∀ f, IsMandatoryFrom L f → data.flags f = true

/-- The levels of a ladder up to a given one. -/
def upTo (last : CpuFeatureLevel) (ladder : List CpuFeatureLevel) : List CpuFeatureLevel :=
  ladder.filter fun L => L.value ≤ last.value

/-- An ARMv9 level keeps what the comments on the ladders say of it. -/
def Armv9Sound (data : CpuId) : Prop :=
  CpuFeatureLevel.armV9_0A.value ≤ data.featureLevel.value →
    HasMandatory data (upTo .armV8_5A architectureArmV8a) ∧
      HasMandatory data (upTo data.featureLevel architectureArmV9a)

/-- The registers match every row that is mandatory from ARMv8.0-A to ARMv8.5-A; for pointer
authentication an algorithm will do. -/
def MatchesArmV8_5A (raw : CpuRawData) : Prop :=
  ∀ row ∈ featuresMap, row.2.verMandatory ∈ upTo .armV8_5A architectureArmV8a →
    rowMatches raw row = true ∨ (row.1 = .pauth ∧ pacMapped raw = true)

/-! ### The level -/

theorem earlyArmLevel_lt (raw : CpuRawData) :
    (earlyArmLevel raw).value < CpuFeatureLevel.armV9_0A.value := by
  unfold earlyArmLevel
  dsimp only
  repeat' split
  all_goals decide

/-- The level is one of ARMv9-A when a row of ARMv9.0-A matches, whatever ARMv8-A asks for. -/
theorem le_levelByCpuid_iff {raw : CpuRawData} :
    CpuFeatureLevel.armV9_0A.value ≤ (levelByCpuid raw).value ↔
      earlyArmLevel raw = .unknown ∧ OptionalMatch raw .armV9_0A := by
  by_cases hearly : earlyArmLevel raw = .unknown
  · by_cases hv9 : OptionalMatch raw .armV9_0A
    · refine iff_of_true ?_ ⟨hearly, hv9⟩
      rw [levelByCpuid_v9 hearly hv9]
      refine le_ladderLevel architectureArmV9a_sorted ?_
      exact mem_takeWhile_cons.mpr ⟨(compliant_optional_iff (by decide)).mpr hv9, .inl rfl⟩
    · refine iff_of_false ?_ fun h => hv9 h.2
      rw [levelByCpuid_v8 hearly hv9, not_le]
      -- the ladder of ARMv8-A ends below
      have hbelow : ∀ L ∈ CpuFeatureLevel.unknown :: architectureArmV8a,
          L.value < CpuFeatureLevel.armV9_0A.value := by decide
      exact hbelow _ ladderLevel_mem
  · refine iff_of_false ?_ fun h => hearly h.1
    rw [levelByCpuid_early hearly, not_le]
    exact earlyArmLevel_lt raw

/-! ### The flags -/

theorem hasMandatory_armV9 (data : CpuId) {last : CpuFeatureLevel} :
    HasMandatory data (upTo last architectureArmV9a) := by
  intro L hL f hf
  have hmem : L ∈ architectureArmV9a := (List.mem_filter.mp hL).1
  rcases hf with ⟨row, hrow, -, hm⟩ | ⟨rfl, -⟩
  · exact absurd (hm ▸ architectureArmV9a_subset hmem) (featuresMap_optionalLevels row hrow)
  · exact absurd hmem (by decide)

theorem hasMandatory_armV8_5A_iff {raw : CpuRawData} :
    HasMandatory (loadedArmFeatures raw).1 (upTo .armV8_5A architectureArmV8a) ↔
      MatchesArmV8_5A raw := by
  have hne : ∀ L ∈ upTo .armV8_5A architectureArmV8a, L ≠ .unknown := by decide
  constructor
  · intro h row hrow hm
    obtain ⟨hrows, hpauth⟩ := (mandatory_flags_iff (hne _ hm)).mp (h _ hm)
    by_cases hp : row.1 = .pauth
    · rw [← mapped_eq_rowMatches hrow, hp]
      exact (hpauth (featuresMap_pauth row hrow hp).2).imp_right fun hpac => ⟨rfl, hpac⟩
    · exact .inl (hrows row hrow rfl hp)
  · intro h L hL
    rw [mandatory_flags_iff (hne L hL)]
    constructor
    · intro row hrow hm hp
      exact (h row hrow (hm ▸ hL)).resolve_right fun hpauth => hp hpauth.1
    · rintro rfl
      obtain ⟨row, hrow, hp, hm⟩ := exists_row_pauth
      rw [← hp, mapped_eq_rowMatches hrow]
      exact (h row hrow (hm ▸ hL)).imp_right And.right

/-! ### The record of an ARM processor -/

theorem cpuIdentify_arm (host : Host) {raw : CpuRawData}
    (harch : cpuidArchitectureIdentify raw = .arm) :
    cpuIdentify host raw = .ok (.ok, cpuidIdentifyArm raw armRecord) := by
  unfold cpuIdentify cpuIdentInternal
  simp only [harch]
  rfl

/-- With the ID registers in use, an ARMv9 level keeps what it says if and only if no row of
ARMv9.0-A matches, or another profile is found first, or the registers hold what is mandatory up to
ARMv8.5-A. -/
theorem armv9Sound_iff {host : Host} {raw : CpuRawData}
    (harch : cpuidArchitectureIdentify raw = .arm)
    (hscheme : extractsBits raw.armMidr 19 16 = 0xf) :
    (∃ data, cpuIdentify host raw = .ok (.ok, data) ∧ Armv9Sound data) ↔
      (earlyArmLevel raw = .unknown → OptionalMatch raw .armV9_0A → MatchesArmV8_5A raw) := by
  have hflags : (cpuidIdentifyArm raw armRecord).flags = (loadedArmFeatures raw).1.flags := by
    funext f
    rw [cpuidIdentifyArm_flags, loadedArmFeatures_flags]
  have hmandatory : HasMandatory (cpuidIdentifyArm raw armRecord)
      (upTo .armV8_5A architectureArmV8a) ↔ MatchesArmV8_5A raw := by
    rw [← hasMandatory_armV8_5A_iff, HasMandatory, hflags]
    rfl
  simp only [cpuIdentify_arm host harch, Except.ok.injEq, Prod.mk.injEq, true_and,
    exists_eq_left']
  rw [Armv9Sound, cpuidIdentifyArm_featureLevel hscheme, le_levelByCpuid_iff, hmandatory, and_imp]
  simp only [hasMandatory_armV9, and_true]

/-- A Neoverse N2 core, with the registers that Linux shows to a process. -/
def neoverseN2 : CpuRawData :=
  { CpuRawData.zero with
    armMidr := 0x410fd493
    armMpidr := 0x80000000
    armIdAa64Dfr := fun i => if i = 0 then 0x0000000000000006 else 0
    armIdAa64Isar := fun i =>
      if i = 0 then 0x1021111110212120 else if i = 1 then 0x0011101101211052 else 0
    armIdAa64Mmfr := fun i =>
      if i = 0 then 0x00000111ff000000 else if i = 2 then 0x0000000100000000 else 0
    armIdAa64Pfr := fun i =>
      if i = 0 then 0x0001000100110011 else if i = 1 then 0x0000000000000121 else 0
    armIdAa64Zfr := fun i => if i = 0 then 0x0000110100110021 else 0 }

theorem armv9Sound_iff_neoverseN2 :
    (∃ data, cpuIdentify ⟨fun _ _ => .zero, 1⟩ neoverseN2 = .ok (.ok, data) ∧
        Armv9Sound data) ↔
      (earlyArmLevel neoverseN2 = .unknown → OptionalMatch neoverseN2 .armV9_0A →
        MatchesArmV8_5A neoverseN2) :=
  armv9Sound_iff (by decide) (by decide)

/-- SVE2 alone gives ARMv9.0-A: the register of PAN reads as zero. -/
theorem armv9_without_armV8_5A_neoverseN2 :
    ∃ data, cpuIdentify ⟨fun _ _ => .zero, 1⟩ neoverseN2 = .ok (.ok, data) ∧
      data.featureLevel = .armV9_0A ∧ IsMandatoryFrom .armV8_1A .pan ∧ data.flags .pan = false ∧
      ¬Armv9Sound data := by
  have hpan : IsMandatoryFrom .armV8_1A .pan := .inl (by decide +kernel)
  have hlevel : (cpuidIdentifyArm neoverseN2 armRecord).featureLevel = .armV9_0A := by
    decide +kernel
  have hflag : (cpuidIdentifyArm neoverseN2 armRecord).flags .pan = false := by
    decide +kernel
  refine ⟨_, cpuIdentify_arm _ (by decide), hlevel, hpan, hflag, fun h => ?_⟩
  have hmissing := (h (by rw [hlevel])).1 .armV8_1A (by decide) .pan hpan
  rw [hflag] at hmissing
  cases hmissing

end LibCpuid
