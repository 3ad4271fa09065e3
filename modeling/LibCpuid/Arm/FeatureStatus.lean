import LibCpuid.Arm.MatchFields
import Mathlib.Data.List.Nodup

/-! The calls of `set_feature_status` that `load_arm_features` makes, as a list: the flags and the
counters after them are sums over the calls. -/

namespace LibCpuid

/-- The arguments of a call of `set_feature_status`. -/
structure FeatureStatus where
  isPresent : Bool
  feature : CpuFeature
  optionalFrom : CpuFeatureLevel
  mandatoryFrom : CpuFeatureLevel

/-- The call. -/
def FeatureStatus.set (s : CpuId × ArmArchExtension) (c : FeatureStatus) :
    CpuId × ArmArchExtension :=
  setFeatureStatus c.isPresent c.feature c.optionalFrom c.mandatoryFrom s

/-- Whether the fields of a row of `features_map` match. -/
def rowMatches (raw : CpuRawData) (row : CpuFeature × ArmFeatureMap) : Bool :=
  matchArmFields (isAarch64Mode raw) raw row.2.fields false

/-- Whether `features_map` reports a feature. -/
def mapped (raw : CpuRawData) (feature : CpuFeature) : Bool :=
  featuresMap.any fun row => row.1 = feature && rowMatches raw row

/-- Whether `features_map` reports an algorithm of pointer authentication. -/
def pacMapped (raw : CpuRawData) : Bool :=
  mapped raw .pacimp || mapped raw .pacqarma3 || mapped raw .pacqarma5

/-- The calls for what the MIDR implies. -/
def midrStatuses (level : CpuFeatureLevel) : List FeatureStatus :=
  [⟨level = .armV4T || level = .armV5T || level = .armV5TE || level = .armV5TEJ, .thumb,
      .unknown, .unknown⟩,
    ⟨level = .armV5TEJ, .jazelle, .unknown, .unknown⟩]

/-- The calls for the rows of `features_map`. -/
def mapStatuses (raw : CpuRawData) : List FeatureStatus :=
  featuresMap.map fun row => ⟨rowMatches raw row, row.1, row.2.verOptional, row.2.verMandatory⟩

/-- The call of `load_arm_feature_pauth`. -/
def pauthStatus (raw : CpuRawData) : FeatureStatus :=
  ⟨pacMapped raw, .pauth, .armV8_2A, .armV8_3A⟩

/-- The calls of `load_arm_feature_mpam`. -/
def mpamStatuses (raw : CpuRawData) : List FeatureStatus :=
  let mpam := extractsBits (raw.armIdAa64Pfr 0) 43 40
  let mpamFrac := extractsBits (raw.armIdAa64Pfr 1) 19 16
  if mpam ≠ 0 ∨ mpamFrac ≠ 0 then
    [⟨true, .mpam, .armV8_2A, .unknown⟩,
      ⟨mpam = 0 ∧ mpamFrac = 1, .mpamv0p1, .armV8_5A, .unknown⟩,
      ⟨mpam = 1 ∧ mpamFrac = 1, .mpamv1p1, .armV8_5A, .unknown⟩]
  else []

/-- The calls of `load_arm_feature_mte4` for fields that only some versions of MTE have. -/
def mteStatuses (raw : CpuRawData) : List FeatureStatus :=
  let mteFrac := extractsBits (raw.armIdAa64Pfr 1) 43 40
  let mtex := extractsBits (raw.armIdAa64Pfr 1) 55 52
  if extractsBits (raw.armIdAa64Pfr 1) 11 8 ≥ 2 then
    [⟨mteFrac = 0, .mteAsync, .armV8_5A, .unknown⟩,
      ⟨mtex = 1, .mteCanonicalTags, .armV8_7A, .unknown⟩,
      ⟨mtex = 1, .mteNoAddressTags, .armV8_7A, .unknown⟩]
  else []

/-- Whether some calls set a flag. -/
def reports (calls : List FeatureStatus) (feature : CpuFeature) : Bool :=
  calls.any fun c => c.isPresent && decide (feature = c.feature)

/-- The calls before the last one. -/
def statusesBeforeMte4 (raw : CpuRawData) (level : CpuFeatureLevel) : List FeatureStatus :=
  midrStatuses level ++ mapStatuses raw ++ [pauthStatus raw] ++ mpamStatuses raw ++
    mteStatuses raw

/-- The last call. -/
def mte4Status (calls : List FeatureStatus) : FeatureStatus :=
  ⟨reports calls .mteCanonicalTags && reports calls .mteNoAddressTags &&
      reports calls .mteTaggedFar && reports calls .mteStoreOnly,
    .mte4, .armV8_7A, .unknown⟩

/-- The calls of `load_arm_features`. -/
def featureStatuses (raw : CpuRawData) (level : CpuFeatureLevel) : List FeatureStatus :=
  statusesBeforeMte4 raw level ++ [mte4Status (statusesBeforeMte4 raw level)]

/-! ### One call -/

theorem value_nonneg_iff (level : CpuFeatureLevel) : level.value ≥ 0 ↔ level ≠ .unknown := by
  cases level <;> decide

section Call

variable (c : FeatureStatus) (s : CpuId × ArmArchExtension)

theorem set_flags (g : CpuFeature) :
    (FeatureStatus.set s c).1.flags g =
      (s.1.flags g || (c.isPresent && decide (g = c.feature))) :=
  setFeatureStatus_flags ..

theorem set_featureLevel : (FeatureStatus.set s c).1.featureLevel = s.1.featureLevel := by
  unfold FeatureStatus.set setFeatureStatus
  cases c.isPresent <;> rfl

theorem countOptional_optional (counters : CpuFeatureLevel → ArmArchFeature)
    (level : CpuFeatureLevel) {L : CpuFeatureLevel} (hL : L ≠ .unknown) :
    (countOptional counters level L).optional =
      (counters L).optional + if level = L then 1 else 0 := by
  unfold countOptional
  by_cases h : level = L
  · subst h
    rw [if_pos ((value_nonneg_iff level).mpr hL), Function.update_self, if_pos rfl]
  · rw [if_neg h]
    split
    · rw [Function.update_of_ne (Ne.symm h), Nat.add_zero]
    · rfl

theorem countOptional_mandatory (counters : CpuFeatureLevel → ArmArchFeature)
    (level L : CpuFeatureLevel) :
    (countOptional counters level L).mandatory = (counters L).mandatory := by
  unfold countOptional
  split
  · by_cases h : L = level
    · subst h
      rw [Function.update_self]
    · rw [Function.update_of_ne h]
  · rfl

theorem countMandatory_mandatory (counters : CpuFeatureLevel → ArmArchFeature)
    (level : CpuFeatureLevel) {L : CpuFeatureLevel} (hL : L ≠ .unknown) :
    (countMandatory counters level L).mandatory =
      (counters L).mandatory + if level = L then 1 else 0 := by
  unfold countMandatory
  by_cases h : level = L
  · subst h
    rw [if_pos ((value_nonneg_iff level).mpr hL), Function.update_self, if_pos rfl]
  · rw [if_neg h]
    split
    · rw [Function.update_of_ne (Ne.symm h), Nat.add_zero]
    · rfl

theorem countMandatory_optional (counters : CpuFeatureLevel → ArmArchFeature)
    (level L : CpuFeatureLevel) :
    (countMandatory counters level L).optional = (counters L).optional := by
  unfold countMandatory
  split
  · by_cases h : L = level
    · subst h
      rw [Function.update_self]
    · rw [Function.update_of_ne h]
  · rfl

variable {L : CpuFeatureLevel} (hL : L ≠ .unknown)
include hL

theorem set_total_mandatory :
    ((FeatureStatus.set s c).2.total L).mandatory =
      (s.2.total L).mandatory + if c.mandatoryFrom = L then 1 else 0 := by
  unfold FeatureStatus.set setFeatureStatus
  cases c.isPresent <;>
    simp only [Bool.false_eq_true, if_false, if_true, countMandatory_mandatory _ _ hL,
      countOptional_mandatory]

theorem set_present_mandatory :
    ((FeatureStatus.set s c).2.present L).mandatory = (s.2.present L).mandatory +
      if c.isPresent ∧ c.optionalFrom ≠ .unknown ∧ c.mandatoryFrom = L then 1 else 0 := by
  unfold FeatureStatus.set setFeatureStatus
  cases c.isPresent with
  | false => simp
  | true =>
    simp only [if_true, true_and, value_nonneg_iff]
    by_cases ho : c.optionalFrom = .unknown
    · simp [ho]
    · simp only [ne_eq, ho, not_false_eq_true, if_true, true_and, countMandatory_mandatory _ _ hL,
        countOptional_mandatory]

theorem set_present_optional :
    ((FeatureStatus.set s c).2.present L).optional = (s.2.present L).optional +
      if c.isPresent ∧ c.optionalFrom = L then 1 else 0 := by
  unfold FeatureStatus.set setFeatureStatus
  cases c.isPresent with
  | false => simp
  | true =>
    simp only [if_true, true_and, value_nonneg_iff]
    by_cases ho : c.optionalFrom = .unknown
    · simp [ho, Ne.symm hL]
    · simp only [ne_eq, ho, not_false_eq_true, if_true, countMandatory_optional,
        countOptional_optional _ _ hL]

end Call

/-! ### All calls -/

/-- A counter that each call moves by at most one counts the calls that move it. -/
theorem foldl_set_count {f : CpuId × ArmArchExtension → Nat} {p : FeatureStatus → Prop}
    [DecidablePred p] (h : ∀ c s, f (FeatureStatus.set s c) = f s + if p c then 1 else 0)
    (calls : List FeatureStatus) (s : CpuId × ArmArchExtension) :
    f (calls.foldl FeatureStatus.set s) = f s + calls.countP (fun c => p c) := by
  induction calls generalizing s with
  | nil => simp
  | cons c calls ih =>
    rw [List.foldl_cons, ih, h, List.countP_cons]
    by_cases hc : p c
    · simp [hc]
      omega
    · simp [hc]

theorem foldl_set_flags (calls : List FeatureStatus) (s : CpuId × ArmArchExtension)
    (g : CpuFeature) :
    (calls.foldl FeatureStatus.set s).1.flags g = (s.1.flags g || reports calls g) := by
  induction calls generalizing s with
  | nil => simp [reports]
  | cons c calls ih =>
    rw [List.foldl_cons, ih, set_flags]
    simp [reports, Bool.or_assoc]

theorem reports_append (calls calls' : List FeatureStatus) (g : CpuFeature) :
    reports (calls ++ calls') g = (reports calls g || reports calls' g) := List.any_append

theorem reports_mapStatuses (raw : CpuRawData) (g : CpuFeature) :
    reports (mapStatuses raw) g = mapped raw g := by
  rw [reports, mapStatuses, List.any_map, mapped]
  congr 1
  funext row
  simp only [Function.comp_apply, Bool.and_comm, eq_comm]

theorem reports_midrStatuses {level : CpuFeatureLevel} {g : CpuFeature} (hthumb : g ≠ .thumb)
    (hjazelle : g ≠ .jazelle) : reports (midrStatuses level) g = false := by
  simp [reports, midrStatuses, hthumb, hjazelle]

/-! ### The calls of `load_arm_features` -/

section Load

variable (raw : CpuRawData) (s : CpuId × ArmArchExtension)

theorem loadArmFeatureJazelle_eq :
    loadArmFeatureJazelle (loadArmFeatureThumb s) =
      (midrStatuses s.1.featureLevel).foldl FeatureStatus.set s := by
  have hlevel : (loadArmFeatureThumb s).1.featureLevel = s.1.featureLevel :=
    set_featureLevel ⟨_, _, _, _⟩ s
  unfold loadArmFeatureJazelle
  rw [hlevel]
  rfl

theorem matchFeaturesMap_eq :
    matchFeaturesMap raw featuresMap s = (mapStatuses raw).foldl FeatureStatus.set s := by
  rw [mapStatuses, List.foldl_map]
  rfl

theorem loadArmFeatureMpam_eq :
    loadArmFeatureMpam raw s = (mpamStatuses raw).foldl FeatureStatus.set s := by
  unfold loadArmFeatureMpam mpamStatuses
  dsimp only
  split <;> rfl

/-- The flags before the algorithms of pointer authentication are looked at. -/
theorem loadArmFeaturePauth_eq (hflags : ∀ f, s.1.flags f = false) (level : CpuFeatureLevel) :
    loadArmFeaturePauth ((midrStatuses level ++ mapStatuses raw).foldl FeatureStatus.set s) =
      (midrStatuses level ++ mapStatuses raw ++ [pauthStatus raw]).foldl FeatureStatus.set s := by
  have hflag {g : CpuFeature} (hthumb : g ≠ .thumb) (hjazelle : g ≠ .jazelle) :
      ((midrStatuses level ++ mapStatuses raw).foldl FeatureStatus.set s).1.flags g =
        mapped raw g := by
    rw [foldl_set_flags, hflags, reports_append, reports_mapStatuses,
      reports_midrStatuses hthumb hjazelle]
    simp
  rw [List.foldl_concat]
  unfold loadArmFeaturePauth
  rw [hflag (by decide) (by decide), hflag (by decide) (by decide), hflag (by decide) (by decide)]
  rfl

theorem loadArmFeatureMte4_eq (hflags : ∀ f, s.1.flags f = false) (calls : List FeatureStatus) :
    loadArmFeatureMte4 raw (calls.foldl FeatureStatus.set s) =
      (calls ++ mteStatuses raw ++ [mte4Status (calls ++ mteStatuses raw)]).foldl
        FeatureStatus.set s := by
  have hmte : (if extractsBits (raw.armIdAa64Pfr 1) 11 8 ≥ 2 then
      setFeatureStatus (extractsBits (raw.armIdAa64Pfr 1) 55 52 = 1) .mteNoAddressTags .armV8_7A
        .unknown (setFeatureStatus (extractsBits (raw.armIdAa64Pfr 1) 55 52 = 1)
          .mteCanonicalTags .armV8_7A .unknown
          (setFeatureStatus (extractsBits (raw.armIdAa64Pfr 1) 43 40 = 0) .mteAsync .armV8_5A
            .unknown (calls.foldl FeatureStatus.set s)))
      else calls.foldl FeatureStatus.set s) =
        (calls ++ mteStatuses raw).foldl FeatureStatus.set s := by
    rw [List.foldl_append]
    unfold mteStatuses
    split <;> rfl
  have hreports (g : CpuFeature) : ((calls ++ mteStatuses raw).foldl FeatureStatus.set s).1.flags g =
      reports (calls ++ mteStatuses raw) g := by
    rw [foldl_set_flags, hflags, Bool.false_or]
  rw [List.foldl_concat]
  unfold loadArmFeatureMte4
  dsimp only
  rw [hmte, hreports, hreports, hreports, hreports]
  rfl

/-- `load_arm_features`, on a record without flags, makes the calls of `featureStatuses`. -/
theorem loadArmFeatures_eq (hflags : ∀ f, s.1.flags f = false) :
    loadArmFeatures raw s =
      (featureStatuses raw s.1.featureLevel).foldl FeatureStatus.set s := by
  unfold loadArmFeatures
  dsimp only
  rw [loadArmFeatureJazelle_eq, matchFeaturesMap_eq, ← List.foldl_append,
    loadArmFeaturePauth_eq raw s hflags, loadArmFeatureMpam_eq, ← List.foldl_append,
    loadArmFeatureMte4_eq raw s hflags]
  rfl

end Load

end LibCpuid
