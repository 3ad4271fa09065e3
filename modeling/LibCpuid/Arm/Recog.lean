import LibCpuid.Extract
import LibCpuid.Util
import LibCpuid.Arm.Parts
import LibCpuid.Arm.FeaturesMap

/-! The decoders of `recog_arm.c`: the features and the architecture level of an ARM processor. -/

namespace LibCpuid

/-- `arm_arch_feature_t`.  The counters of the source have 8 bits; there are fewer than 256 calls
of `set_feature_status`, and none moves a counter by more than one. -/
structure ArmArchFeature where
  optional : Nat
  mandatory : Nat

/-- `arm_arch_extension_t`. -/
structure ArmArchExtension where
  present : CpuFeatureLevel → ArmArchFeature
  total : CpuFeatureLevel → ArmArchFeature

/-- `ext_status` before any feature is loaded. -/
def ArmArchExtension.zero : ArmArchExtension := ⟨fun _ => ⟨0, 0⟩, fun _ => ⟨0, 0⟩⟩

/-- `counters[level].optional++` when the level is one. -/
def countOptional (counters : CpuFeatureLevel → ArmArchFeature) (level : CpuFeatureLevel) :
    CpuFeatureLevel → ArmArchFeature :=
  if level.value ≥ 0 then
    Function.update counters level
      { counters level with optional := (counters level).optional + 1 }
  else counters

/-- `counters[level].mandatory++` when the level is one. -/
def countMandatory (counters : CpuFeatureLevel → ArmArchFeature) (level : CpuFeatureLevel) :
    CpuFeatureLevel → ArmArchFeature :=
  if level.value ≥ 0 then
    Function.update counters level
      { counters level with mandatory := (counters level).mandatory + 1 }
  else counters

/-- `set_feature_status`. -/
def setFeatureStatus (isPresent : Bool) (feature : CpuFeature)
    (optionalFrom mandatoryFrom : CpuFeatureLevel) (s : CpuId × ArmArchExtension) :
    CpuId × ArmArchExtension :=
  let total := countMandatory (countOptional s.2.total optionalFrom) mandatoryFrom
  if isPresent then
    (s.1.setFlag feature,
      { total
        present :=
          if optionalFrom.value ≥ 0 then
            countMandatory (countOptional s.2.present optionalFrom) mandatoryFrom
          else s.2.present })
  else (s.1, { s.2 with total })

/-- The register that a field names for the current mode. -/
def ArmFeatureField.regValue (field : ArmFeatureField) (isAarch64 : Bool) (raw : CpuRawData) :
    Option (BitVec 64) :=
  if isAarch64 then field.aarch64Reg.map raw.reg64
  else field.aarch32Reg.map fun reg => (raw.reg32 reg).zeroExtend 64

/-- `field_is_present`: whether the bits of a register hold the value of a field. -/
def ArmFeatureField.isPresent (field : ArmFeatureField) (regValue : BitVec 64) : Bool :=
  extractsBits regValue field.highbit field.lowbit = field.value

/-- The loop of `match_arm_features`, with `feature_is_present`.  It stops at the first field that
names no register for the current mode. -/
def matchArmFields (isAarch64 : Bool) (raw : CpuRawData) : List ArmFeatureField → Bool → Bool
  | [], featureIsPresent => featureIsPresent
  | field :: rest, featureIsPresent =>
    match field.regValue isAarch64 raw with
    | some regValue =>
      matchArmFields isAarch64 raw rest (featureIsPresent || field.isPresent regValue)
    | none => featureIsPresent

/-- `match_arm_features`, for the registers that the map points into. -/
def matchArmFeatures (isAarch64 : Bool) (raw : CpuRawData) (feature : CpuFeature)
    (featureMap : ArmFeatureMap) (s : CpuId × ArmArchExtension) : CpuId × ArmArchExtension :=
  setFeatureStatus (matchArmFields isAarch64 raw featureMap.fields false) feature
    featureMap.verOptional featureMap.verMandatory s

/-- `load_arm_feature_pauth`. -/
def loadArmFeaturePauth (s : CpuId × ArmArchExtension) : CpuId × ArmArchExtension :=
  setFeatureStatus (s.1.flags .pacimp || s.1.flags .pacqarma3 || s.1.flags .pacqarma5)
    .pauth .armV8_2A .armV8_3A s

/-- `load_arm_feature_mpam`. -/
def loadArmFeatureMpam (raw : CpuRawData) (s : CpuId × ArmArchExtension) :
    CpuId × ArmArchExtension :=
  let mpam := extractsBits (raw.armIdAa64Pfr 0) 43 40
  let mpamFrac := extractsBits (raw.armIdAa64Pfr 1) 19 16
  if mpam ≠ 0 ∨ mpamFrac ≠ 0 then
    let s := setFeatureStatus true .mpam .armV8_2A .unknown s
    let s := setFeatureStatus (mpam = 0 ∧ mpamFrac = 1) .mpamv0p1 .armV8_5A .unknown s
    setFeatureStatus (mpam = 1 ∧ mpamFrac = 1) .mpamv1p1 .armV8_5A .unknown s
  else s

/-- `load_arm_feature_mte4`. -/
def loadArmFeatureMte4 (raw : CpuRawData) (s : CpuId × ArmArchExtension) :
    CpuId × ArmArchExtension :=
  let mte := extractsBits (raw.armIdAa64Pfr 1) 11 8
  let s :=
    if mte ≥ 2 then
      let mteFrac := extractsBits (raw.armIdAa64Pfr 1) 43 40
      let mtex := extractsBits (raw.armIdAa64Pfr 1) 55 52
      let s := setFeatureStatus (mteFrac = 0) .mteAsync .armV8_5A .unknown s
      let s := setFeatureStatus (mtex = 1) .mteCanonicalTags .armV8_7A .unknown s
      setFeatureStatus (mtex = 1) .mteNoAddressTags .armV8_7A .unknown s
    else s
  setFeatureStatus
    (s.1.flags .mteCanonicalTags && s.1.flags .mteNoAddressTags && s.1.flags .mteTaggedFar &&
      s.1.flags .mteStoreOnly) .mte4 .armV8_7A .unknown s

/-- `is_aarch64_mode`. -/
def isAarch64Mode (raw : CpuRawData) : Bool :=
  raw.armIdAa64Afr 0 ≠ 0 || raw.armIdAa64Dfr 0 ≠ 0 || raw.armIdAa64Isar 0 ≠ 0 ||
    raw.armIdAa64Mmfr 0 ≠ 0 || raw.armIdAa64Pfr 0 ≠ 0

/-- The loop of `load_arm_features` over `features_map`. -/
def matchFeaturesMap (raw : CpuRawData) (rows : List (CpuFeature × ArmFeatureMap))
    (s : CpuId × ArmArchExtension) : CpuId × ArmArchExtension :=
  rows.foldl (fun s row => matchArmFeatures (isAarch64Mode raw) raw row.1 row.2 s) s

/-- The Thumb instructions, which the level of the MIDR implies. -/
def loadArmFeatureThumb (s : CpuId × ArmArchExtension) : CpuId × ArmArchExtension :=
  let level := s.1.featureLevel
  setFeatureStatus
    (level = .armV4T || level = .armV5T || level = .armV5TE || level = .armV5TEJ)
    .thumb .unknown .unknown s

/-- The Jazelle extension, which the level of the MIDR implies. -/
def loadArmFeatureJazelle (s : CpuId × ArmArchExtension) : CpuId × ArmArchExtension :=
  setFeatureStatus (s.1.featureLevel = .armV5TEJ) .jazelle .unknown .unknown s

/-- `load_arm_features`. -/
def loadArmFeatures (raw : CpuRawData) (s : CpuId × ArmArchExtension) :
    CpuId × ArmArchExtension :=
  let s := loadArmFeatureJazelle (loadArmFeatureThumb s)
  let s := matchFeaturesMap raw featuresMap s
  loadArmFeatureMte4 raw (loadArmFeatureMpam raw (loadArmFeaturePauth s))

/-! ### The architecture level -/

/-- `architecture_matchtable` of `decode_arm_architecture_version_by_midr`. -/
def midrMatchtable : List (Nat × CpuFeatureLevel) :=
  [(0, .unknown), (1, .armV4), (2, .armV4T), (3, .armV5), (4, .armV5T), (5, .armV5TE),
    (6, .armV5TEJ), (7, .armV6), (8, .unknown), (9, .unknown), (10, .unknown), (11, .unknown),
    (12, .armV6M), (13, .unknown), (14, .unknown)]

/-- `decode_arm_architecture_version_by_midr`: the level, when the MIDR gives one. -/
def decodeArmArchitectureVersionByMidr (raw : CpuRawData) : Option CpuFeatureLevel :=
  let architecture := extractsBits raw.armMidr 19 16
  (midrMatchtable.find? fun row => architecture = row.1).map (·.2)

/-- The level of a processor before ARMv8-A, or of another profile, from its AArch32 registers. -/
def earlyArmLevel (raw : CpuRawData) : CpuFeatureLevel :=
  let copdbg := extractsBits (raw.armIdDfr 0) 3 0
  let simd := extractsBits (raw.armIdIsar 3) 7 4
  let psrM := extractsBits (raw.armIdIsar 4) 27 24
  let vmsa := extractsBits (raw.armIdMmfr 0) 3 0
  let pmsa := extractsBits (raw.armIdMmfr 0) 7 4
  let ras := extractsBits (raw.armIdPfr 0) 31 28
  let mprogmod := extractsBits (raw.armIdPfr 1) 11 8
  if copdbg = 2 ∨ copdbg = 3 then
    if psrM = 1 then .armV6M else .armV6
  else if copdbg = 4 ∨ copdbg = 5 then
    if psrM = 1 then if simd = 3 then .armV7EM else .armV7M
    else if vmsa ≠ 0 then .armV7A
    else if pmsa ≠ 0 then .armV7R
    else .unknown
  else if psrM = 1 ∧ mprogmod = 2 then
    if ras = 2 then .armV8_1M else .armV8_0M
  else if pmsa ≠ 0 then .armV8_0R
  else .unknown

/-- `architecture_arm_v8a`, without the entry that ends it. -/
def architectureArmV8a : List CpuFeatureLevel :=
  [.armV8_0A, .armV8_1A, .armV8_2A, .armV8_3A, .armV8_4A, .armV8_5A, .armV8_6A, .armV8_7A,
    .armV8_8A, .armV8_9A]

/-- `architecture_arm_v9a`, without the entry that ends it. -/
def architectureArmV9a : List CpuFeatureLevel :=
  [.armV9_0A, .armV9_1A, .armV9_2A, .armV9_3A, .armV9_4A]

/-- The test of a level that lets the loop over a ladder go on. -/
def ArmArchExtension.compliant (ext : ArmArchExtension) (level : CpuFeatureLevel) : Bool :=
  ¬(ext.present level).mandatory < (ext.total level).mandatory ∧
    ¬((ext.total level).mandatory = 0 ∧ (ext.present level).optional = 0)

/-- The loop over a ladder, with the level so far. -/
def ladderLevel (ext : ArmArchExtension) :
    List CpuFeatureLevel → CpuFeatureLevel → CpuFeatureLevel
  | [], featureLevel => featureLevel
  | level :: rest, featureLevel =>
    if ext.compliant level then ladderLevel ext rest level else featureLevel

/-- Whether any feature of a level is present, which chooses its ladder. -/
def ArmArchExtension.starts (ext : ArmArchExtension) (level : CpuFeatureLevel) : Bool :=
  (ext.present level).optional > 0 ∨ (ext.present level).mandatory > 0

/-- `decode_arm_architecture_version_by_cpuid`. -/
def decodeArmArchitectureVersionByCpuid (raw : CpuRawData) (ext : ArmArchExtension) :
    CpuFeatureLevel :=
  let early := earlyArmLevel raw
  if early ≠ .unknown then early
  else if ext.starts .armV9_0A then ladderLevel ext architectureArmV9a .unknown
  else if ext.starts .armV8_0A then ladderLevel ext architectureArmV8a .unknown
  else .unknown

/-! ### Identification -/

/-- The part that the MIDR names. -/
def armIdPart (raw : CpuRawData) : ArmIdPart :=
  getCpuImplementerParts (getCpuImplementerFromCode (extractsBits raw.armMidr 31 24))
    (extractsBits raw.armMidr 15 4)

/-- `cpuid_identify_purpose_arm`. -/
def cpuidIdentifyPurposeArm (raw : CpuRawData) : CpuPurpose :=
  let isMatch (pattern : String) : Bool :=
    matchPattern (armIdPart raw).name.toList pattern.toList ≠ 0
  if isMatch "Cortex-X[012356789]" then .uPerformance
  else if isMatch "Cortex-A[67][012356789]" || isMatch "Cortex-A[5][6789]" then .performance
  else if isMatch "Cortex-A[5][012345]" || isMatch "Cortex-A[3][0123456789]" then .efficiency
  else .general

/-- The fields that `cpuid_identify_arm` sets before it loads the features. -/
def decodeArmMidr (raw : CpuRawData) (data : CpuId) : CpuId :=
  let implementer := extractsBits raw.armMidr 31 24
  let hwImpl := getCpuImplementerFromCode implementer
  let idPart := armIdPart raw
  { data with
    arm :=
      { implementer
        variant := extractsBits raw.armMidr 23 20
        partNum := extractsBits raw.armMidr 15 4
        revision := extractsBits raw.armMidr 3 0 }
    purpose := cpuidIdentifyPurposeArm raw
    vendor := hwImpl.vendor
    -- `snprintf` leaves room for the NUL
    vendorStr := hwImpl.name.toList.take 15
    brandStr := idPart.name.toList.take 63
    cpuCodename := idPart.codename.toList.take 63
    technologyNode := idPart.technology.toList.take 15
    featureLevel := (decodeArmArchitectureVersionByMidr raw).getD data.featureLevel }

/-- `cpuid_identify_arm`. -/
def cpuidIdentifyArm (raw : CpuRawData) (data : CpuId) : CpuId :=
  let (data, extStatus) := loadArmFeatures raw (decodeArmMidr raw data, .zero)
  match decodeArmArchitectureVersionByMidr raw with
  | some _ => data
  | none => { data with featureLevel := decodeArmArchitectureVersionByCpuid raw extStatus }

end LibCpuid
