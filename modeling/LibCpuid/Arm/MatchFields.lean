import LibCpuid.Arm.Recog
import LibCpuid.BasicIdentify

/-! Which fields `match_arm_features` looks at: those that stand before the first one that names no
register for the current mode. -/

namespace LibCpuid

/-- The field names a register for the mode. -/
def ArmFeatureField.names (isAarch64 : Bool) (field : ArmFeatureField) : Bool :=
  if isAarch64 then field.aarch64Reg.isSome else field.aarch32Reg.isSome

/-- The field names a register for the mode, and its bits hold the value of the field. -/
def ArmFeatureField.Matches (isAarch64 : Bool) (raw : CpuRawData) (field : ArmFeatureField) :
    Prop :=
  ∃ regValue, field.regValue isAarch64 raw = some regValue ∧ field.isPresent regValue = true

instance (isAarch64 : Bool) (raw : CpuRawData) (field : ArmFeatureField) :
    Decidable (field.Matches isAarch64 raw) :=
  decidable_of_iff ((field.regValue isAarch64 raw).any field.isPresent = true) (by
    simp [ArmFeatureField.Matches, Option.any_eq_true])

/-- The fields of a map before the first one of NULL registers alone. -/
def ArmFeatureMap.listed (featureMap : ArmFeatureMap) : List ArmFeatureField :=
  featureMap.fields.takeWhile fun field => field.names true || field.names false

/-- The fields of a map before the first one that names no register for the mode. -/
def ArmFeatureMap.reached (isAarch64 : Bool) (featureMap : ArmFeatureMap) :
    List ArmFeatureField :=
  featureMap.fields.takeWhile (·.names isAarch64)

theorem ArmFeatureField.names_iff {isAarch64 : Bool} {raw : CpuRawData} {field : ArmFeatureField} :
    field.names isAarch64 = true ↔ ∃ regValue, field.regValue isAarch64 raw = some regValue := by
  unfold ArmFeatureField.names ArmFeatureField.regValue
  cases isAarch64 <;> simp [Option.isSome_iff_exists]

/-- The loop finds a match when one stands before the first field with no register. -/
theorem matchArmFields_iff {isAarch64 : Bool} {raw : CpuRawData} {fields : List ArmFeatureField}
    {featureIsPresent : Bool} :
    matchArmFields isAarch64 raw fields featureIsPresent = true ↔
      featureIsPresent = true ∨
        ∃ field ∈ fields.takeWhile (·.names isAarch64), field.Matches isAarch64 raw := by
  induction fields generalizing featureIsPresent with
  | nil => simp [matchArmFields]
  | cons field rest ih =>
    cases hreg : field.regValue isAarch64 raw with
    | none =>
      have hno : field.names isAarch64 = false := by
        rw [Bool.eq_false_iff, ne_eq, @ArmFeatureField.names_iff isAarch64 raw, hreg]
        simp
      simp [matchArmFields, hreg, hno]
    | some regValue =>
      have hyes : field.names isAarch64 = true := ArmFeatureField.names_iff.mpr ⟨_, hreg⟩
      have hmatch : field.Matches isAarch64 raw ↔ field.isPresent regValue = true := by
        simp [ArmFeatureField.Matches, hreg]
      rw [matchArmFields, hreg, List.takeWhile_cons_of_pos hyes]
      simp only [ih, Bool.or_eq_true, List.mem_cons, exists_eq_or_imp, hmatch, or_assoc]

theorem takeWhile_subset_takeWhile {α : Type} {p q : α → Bool} (h : ∀ a, p a = true → q a = true)
    (l : List α) : l.takeWhile p ⊆ l.takeWhile q := by
  induction l with
  | nil => simp
  | cons a l ih =>
    by_cases ha : p a = true
    · rw [List.takeWhile_cons_of_pos ha, List.takeWhile_cons_of_pos (h a ha)]
      exact List.cons_subset_cons a ih
    · rw [List.takeWhile_cons_of_neg ha]
      exact List.nil_subset _

/-- A feature that is set stays set, and the one that is given is set when it is present. -/
theorem setFeatureStatus_flags (isPresent : Bool) (feature : CpuFeature)
    (optionalFrom mandatoryFrom : CpuFeatureLevel) (s : CpuId × ArmArchExtension)
    (g : CpuFeature) :
    (setFeatureStatus isPresent feature optionalFrom mandatoryFrom s).1.flags g =
      (s.1.flags g || (isPresent && decide (g = feature))) := by
  unfold setFeatureStatus
  cases isPresent with
  | false => simp
  | true =>
    by_cases h : g = feature
    · subst h
      simp [CpuId.setFlag]
    · simp [CpuId.setFlag, h]

/-- `match_arm_features` reports a feature exactly when a listed field of the mode matches, if and
only if no match stands behind the first field that names no register for the mode, unless another
stands before it. -/
theorem matchArmFeatures_exact_iff {isAarch64 : Bool} {raw : CpuRawData} {feature : CpuFeature}
    {featureMap : ArmFeatureMap} {s : CpuId × ArmArchExtension}
    (hs : s.1.flags feature = false) :
    ((matchArmFeatures isAarch64 raw feature featureMap s).1.flags feature = true ↔
        ∃ field ∈ featureMap.listed, field.Matches isAarch64 raw) ↔
      ((∃ field ∈ featureMap.listed, field.Matches isAarch64 raw) →
        ∃ field ∈ featureMap.reached isAarch64, field.Matches isAarch64 raw) := by
  have hreached : (matchArmFeatures isAarch64 raw feature featureMap s).1.flags feature = true ↔
      ∃ field ∈ featureMap.reached isAarch64, field.Matches isAarch64 raw := by
    rw [matchArmFeatures, setFeatureStatus_flags, hs]
    simp [matchArmFields_iff, ArmFeatureMap.reached]
  -- a field that the loop gets to is a listed one
  have hsub : featureMap.reached isAarch64 ⊆ featureMap.listed :=
    takeWhile_subset_takeWhile (fun field h => by cases isAarch64 <;> simp [h]) _
  rw [hreached]
  constructor
  · exact fun h => h.mpr
  · exact fun h => ⟨fun ⟨field, hf, hm⟩ => ⟨field, hsub hf, hm⟩, h⟩

/-- The row of `CPU_FEATURE_PMUV3` in `features_map`. -/
def pmuv3Map : ArmFeatureMap :=
  featureMap .armV8_0A .unknown
    [aarch64Field (.dfr 0) 11 8 1, aarch32Field (.dfr 0) 27 24 3]

/-- A Cortex-A72 core that runs in AArch32, with the debug register that it reports. -/
def cortexA72Aarch32 : CpuRawData :=
  { CpuRawData.zero with
    armMidr := 0x410fd083
    armIdDfr := fun i => if i = 0 then 0x03010066 else 0 }

/-- The same core in AArch64. -/
def cortexA72Aarch64 : CpuRawData :=
  { CpuRawData.zero with
    armMidr := 0x410fd083
    armIdAa64Dfr := fun i => if i = 0 then 0x10305106 else 0 }

/-- The AArch64 field stands first, and matches. -/
theorem matchArmFeatures_exact_pmuv3 :
    (matchArmFeatures true cortexA72Aarch64 .pmuv3 pmuv3Map (cpuIdConstructor, .zero)).1.flags
        .pmuv3 = true ↔
      ∃ field ∈ pmuv3Map.listed, field.Matches true cortexA72Aarch64 := by
  have hs : cpuIdConstructor.flags .pmuv3 = false := rfl
  refine (matchArmFeatures_exact_iff (s := (cpuIdConstructor, .zero)) hs).mpr fun _ => ?_
  exact ⟨aarch64Field (.dfr 0) 11 8 1, List.mem_cons_self .., _, rfl, by decide⟩

/-- The AArch32 field matches, but the loop does not get to it. -/
theorem matchArmFeatures_misses_pmuv3 :
    (CpuFeature.pmuv3, pmuv3Map) ∈ featuresMap ∧
    (∃ field ∈ pmuv3Map.listed, field.Matches false cortexA72Aarch32) ∧
    (matchArmFeatures false cortexA72Aarch32 .pmuv3 pmuv3Map (cpuIdConstructor, .zero)).1.flags
      .pmuv3 = false := by
  have hrow : featuresMap[29]? = some (CpuFeature.pmuv3, pmuv3Map) := rfl
  refine ⟨List.mem_of_getElem? hrow, ?_, rfl⟩
  exact ⟨aarch32Field (.dfr 0) 27 24 3, by decide, _, rfl, by decide⟩

end LibCpuid
