import LibCpuid.Types

/-! `features_map` of `recog_arm.c`: the features that an ARM processor reports in its ID registers.
The rows stand in the order in which the loop over `cpu_feature_t` visits them. -/

namespace LibCpuid

/-- The AArch32 registers that a field may point to. -/
inductive ArmReg32
  | dfr (i : Fin maxArmIdDfrRegs)
  | isar (i : Fin maxArmIdIsarRegs)
  | mmfr (i : Fin maxArmIdMmfrRegs)
  | pfr (i : Fin maxArmIdPfrRegs)
  deriving DecidableEq

/-- The AArch64 registers that a field may point to. -/
inductive ArmReg64
  | dfr (i : Fin maxArmIdAa64DfrRegs)
  | fpfr (i : Fin maxArmIdAa64FpfrRegs)
  | isar (i : Fin maxArmIdAa64IsarRegs)
  | mmfr (i : Fin maxArmIdAa64MmfrRegs)
  | pfr (i : Fin maxArmIdAa64PfrRegs)
  | smfr (i : Fin maxArmIdAa64SmfrRegs)
  | zfr (i : Fin maxArmIdAa64ZfrRegs)
  deriving DecidableEq

/-- The register that a pointer to an AArch32 register reads. -/
def CpuRawData.reg32 (raw : CpuRawData) : ArmReg32 → BitVec 32
  | .dfr i => raw.armIdDfr i
  | .isar i => raw.armIdIsar i
  | .mmfr i => raw.armIdMmfr i
  | .pfr i => raw.armIdPfr i

/-- The register that a pointer to an AArch64 register reads. -/
def CpuRawData.reg64 (raw : CpuRawData) : ArmReg64 → BitVec 64
  | .dfr i => raw.armIdAa64Dfr i
  | .fpfr i => raw.armIdAa64Fpfr i
  | .isar i => raw.armIdAa64Isar i
  | .mmfr i => raw.armIdAa64Mmfr i
  | .pfr i => raw.armIdAa64Pfr i
  | .smfr i => raw.armIdAa64Smfr i
  | .zfr i => raw.armIdAa64Zfr i

/-- `arm_feature_field_t`.  `none` stands for a NULL register. -/
structure ArmFeatureField where
  aarch32Reg : Option ArmReg32
  aarch64Reg : Option ArmReg64
  highbit : Nat
  lowbit : Nat
  value : Nat
  deriving DecidableEq

/-- A field of an AArch32 register alone. -/
def aarch32Field (reg : ArmReg32) (highbit lowbit value : Nat) : ArmFeatureField :=
  ⟨some reg, none, highbit, lowbit, value⟩

/-- A field of an AArch64 register alone. -/
def aarch64Field (reg : ArmReg64) (highbit lowbit value : Nat) : ArmFeatureField :=
  ⟨none, some reg, highbit, lowbit, value⟩

/-- A field at the same bits of an AArch32 register and of an AArch64 register. -/
def sharedField (reg32 : ArmReg32) (reg64 : ArmReg64) (highbit lowbit value : Nat) :
    ArmFeatureField :=
  ⟨some reg32, some reg64, highbit, lowbit, value⟩

/-- `MAX_IDENTIFY_FIELDS`. -/
abbrev maxIdentifyFields : Nat := 6

/-- `arm_feature_map_t`.  The rows of NULL registers that fill the array up are left out: the walk
stops at such a row as it does at the end.  `unknown` stands for a version of -1. -/
structure ArmFeatureMap where
  verOptional : CpuFeatureLevel
  verMandatory : CpuFeatureLevel
  fields : List ArmFeatureField
  length_le : fields.length ≤ maxIdentifyFields

/-- The map with the given fields, of which the array has room for `MAX_IDENTIFY_FIELDS`. -/
def featureMap (verOptional verMandatory : CpuFeatureLevel) (fields : List ArmFeatureField) :
    ArmFeatureMap :=
  ⟨verOptional, verMandatory, fields.take maxIdentifyFields, List.length_take_le _ _⟩

/-- `features_map`. -/
def featuresMap : List (CpuFeature × ArmFeatureMap) :=
  [(.aes, featureMap .armV8_0A .unknown [aarch64Field (.isar 0) 7 4 1]),
    (.swap, featureMap .unknown .unknown [aarch32Field (.isar 0) 3 0 1]),
    (.thumb, featureMap .unknown .unknown [aarch32Field (.pfr 0) 7 4 1]),
    (.advmultu, featureMap .unknown .unknown
      [aarch32Field (.isar 2) 23 20 1, aarch32Field (.isar 2) 23 20 2]),
    (.advmults, featureMap .unknown .unknown
      [aarch32Field (.isar 2) 19 16 1, aarch32Field (.isar 2) 19 16 2,
        aarch32Field (.isar 2) 19 16 3]),
    (.jazelle, featureMap .unknown .unknown
      [aarch32Field (.pfr 0) 11 8 1, aarch32Field (.pfr 0) 11 8 2]),
    (.debugv6, featureMap .armV6 .unknown [aarch32Field (.dfr 0) 3 0 2]),
    (.debugv6p1, featureMap .armV6 .unknown [aarch32Field (.dfr 0) 3 0 3]),
    (.thumb2, featureMap .armV6 .unknown [aarch32Field (.pfr 0) 7 4 3]),
    (.debugv7, featureMap .armV7A .unknown [aarch32Field (.dfr 0) 3 0 4]),
    (.debugv7p1, featureMap .armV7A .unknown [aarch32Field (.dfr 0) 3 0 5]),
    (.thumbee, featureMap .armV7A .unknown [aarch32Field (.pfr 0) 15 12 1]),
    (.divide, featureMap .armV7A .unknown
      [aarch32Field (.isar 0) 27 24 1, aarch32Field (.isar 0) 27 24 2]),
    (.lpae, featureMap .armV7A .unknown [aarch32Field (.mmfr 0) 3 0 5]),
    (.pmuv1, featureMap .armV7A .unknown [aarch32Field (.dfr 0) 31 28 1]),
    (.pmuv2, featureMap .armV7A .unknown [aarch32Field (.dfr 0) 31 28 2]),
    (.asid16, featureMap .armV8_0A .unknown [aarch64Field (.mmfr 0) 7 4 2]),
    (.advsimd, featureMap .armV8_0A .unknown
      [aarch64Field (.pfr 0) 23 20 0, aarch64Field (.pfr 0) 23 20 1]),
    (.crc32, featureMap .armV8_0A .armV8_1A [sharedField (.isar 5) (.isar 0) 19 16 1]),
    (.csv2_1p1, featureMap .armV8_0A .unknown [aarch64Field (.pfr 1) 35 32 1]),
    (.csv2_1p2, featureMap .armV8_0A .unknown [aarch64Field (.pfr 1) 35 32 2]),
    (.csv2_2, featureMap .armV8_0A .unknown [aarch64Field (.pfr 0) 59 56 2]),
    (.csv2_3, featureMap .armV8_0A .unknown [aarch64Field (.pfr 0) 59 56 3]),
    (.doublelock, featureMap .armV8_0A .unknown [aarch64Field (.dfr 0) 39 36 0]),
    (.ets2, featureMap .armV8_0A .armV8_8A
      [aarch64Field (.mmfr 1) 39 36 2, aarch32Field (.mmfr 5) 3 0 2]),
    (.fp, featureMap .armV8_0A .unknown [aarch64Field (.pfr 0) 19 16 0]),
    (.mixedend, featureMap .armV8_0A .unknown [aarch64Field (.mmfr 0) 11 8 1]),
    (.mixedendel0, featureMap .armV8_0A .unknown [aarch64Field (.mmfr 0) 19 16 1]),
    (.pmull, featureMap .armV8_0A .unknown [aarch64Field (.isar 0) 7 4 2]),
    (.pmuv3, featureMap .armV8_0A .unknown
      [aarch64Field (.dfr 0) 11 8 1, aarch32Field (.dfr 0) 27 24 3]),
    (.sha1, featureMap .armV8_0A .unknown [aarch64Field (.isar 0) 11 8 1]),
    (.sha256, featureMap .armV8_0A .unknown [aarch64Field (.isar 0) 15 12 1]),
    (.ntlbpa, featureMap .armV8_0A .unknown
      [aarch64Field (.mmfr 1) 51 48 1, aarch32Field (.mmfr 5) 7 4 1]),
    (.hafdbs, featureMap .armV8_0A .unknown
      [aarch64Field (.mmfr 1) 3 0 1, aarch64Field (.mmfr 1) 3 0 2]),
    (.hpds, featureMap .armV8_0A .armV8_1A [aarch64Field (.mmfr 1) 15 12 1]),
    (.lor, featureMap .armV8_0A .armV8_1A [aarch64Field (.mmfr 1) 19 16 1]),
    (.lse, featureMap .armV8_0A .armV8_1A [aarch64Field (.isar 0) 23 20 2]),
    (.pan, featureMap .armV8_0A .armV8_1A
      [aarch64Field (.mmfr 1) 23 20 1, aarch32Field (.mmfr 3) 19 16 1]),
    (.pmuv3p1, featureMap .armV8_1A .unknown
      [aarch64Field (.dfr 0) 11 8 4, aarch32Field (.dfr 0) 27 24 4]),
    (.rdm, featureMap .armV8_0A .unknown
      [aarch64Field (.isar 0) 31 28 1, aarch32Field (.isar 5) 27 24 1]),
    (.vhe, featureMap .armV8_0A .unknown
      [aarch64Field (.mmfr 1) 11 8 1, sharedField (.dfr 0) (.dfr 0) 3 0 7]),
    (.vmid16, featureMap .armV8_0A .unknown [aarch64Field (.mmfr 1) 7 4 2]),
    (.aa32hpd, featureMap .armV8_1A .unknown [aarch32Field (.mmfr 4) 19 16 1]),
    (.aa32i8mm, featureMap .armV8_1A .unknown [aarch32Field (.isar 6) 27 24 1]),
    (.dpb, featureMap .armV8_1A .armV8_2A [aarch64Field (.isar 1) 3 0 1]),
    (.debugv8p2, featureMap .armV8_1A .armV8_2A [sharedField (.dfr 0) (.dfr 0) 3 0 8]),
    (.f32mm, featureMap .armV8_2A .unknown [aarch64Field (.zfr 0) 55 52 1]),
    (.f64mm, featureMap .armV8_2A .unknown [aarch64Field (.zfr 0) 59 56 1]),
    (.fp16, featureMap .armV8_2A .unknown
      [aarch64Field (.pfr 0) 23 20 1, aarch64Field (.pfr 0) 19 16 1]),
    (.hpds2, featureMap .armV8_1A .unknown
      [aarch64Field (.mmfr 1) 15 12 2, aarch32Field (.mmfr 4) 19 16 2]),
    (.i8mm, featureMap .armV8_1A .armV8_6A
      [aarch64Field (.isar 1) 55 52 1, aarch64Field (.zfr 0) 47 44 1]),
    (.iesb, featureMap .armV8_1A .unknown [aarch64Field (.mmfr 2) 15 12 1]),
    (.lpa, featureMap .armV8_1A .unknown [aarch64Field (.mmfr 0) 3 0 6]),
    (.lsmaoc, featureMap .armV8_1A .unknown
      [aarch64Field (.mmfr 2) 11 8 1, aarch32Field (.mmfr 4) 23 20 1]),
    (.lva, featureMap .armV8_1A .unknown [aarch64Field (.mmfr 2) 19 16 1]),
    (.pan2, featureMap .armV8_1A .armV8_2A
      [aarch64Field (.mmfr 1) 23 20 2, aarch32Field (.mmfr 3) 19 16 2]),
    (.ras, featureMap .armV8_0A .armV8_2A [sharedField (.pfr 0) (.pfr 0) 31 28 1]),
    (.sha3, featureMap .armV8_1A .unknown [aarch64Field (.isar 0) 35 32 1]),
    (.sha512, featureMap .armV8_1A .unknown [aarch64Field (.isar 0) 15 12 2]),
    (.sm3, featureMap .armV8_1A .unknown [aarch64Field (.isar 0) 39 36 1]),
    (.sm4, featureMap .armV8_1A .unknown [aarch64Field (.isar 0) 43 40 1]),
    (.spe, featureMap .armV8_1A .unknown [aarch64Field (.dfr 0) 35 32 1]),
    (.sve, featureMap .armV8_2A .unknown [aarch64Field (.pfr 0) 35 32 1]),
    (.ttcnp, featureMap .armV8_1A .armV8_2A
      [aarch64Field (.mmfr 2) 3 0 1, aarch32Field (.mmfr 4) 15 12 1]),
    (.uao, featureMap .armV8_1A .armV8_2A [aarch64Field (.mmfr 2) 7 4 1]),
    (.xnx, featureMap .armV8_1A .unknown
      [aarch64Field (.mmfr 1) 31 28 1, aarch32Field (.mmfr 4) 11 8 1]),
    (.ccidx, featureMap .armV8_2A .unknown
      [aarch64Field (.mmfr 2) 23 20 1, aarch32Field (.mmfr 4) 27 24 1]),
    (.constpacfield, featureMap .armV8_2A .unknown [aarch64Field (.isar 2) 27 24 1]),
    (.epac, featureMap .armV8_2A .unknown
      [aarch64Field (.isar 1) 11 8 2, aarch64Field (.isar 1) 7 4 2,
        aarch64Field (.isar 2) 15 12 2]),
    (.fcma, featureMap .armV8_2A .unknown
      [aarch64Field (.isar 1) 19 16 1, aarch32Field (.isar 5) 31 28 1]),
    (.fpac, featureMap .armV8_2A .unknown
      [aarch64Field (.isar 1) 11 8 4, aarch64Field (.isar 1) 7 4 4,
        aarch64Field (.isar 2) 15 12 4]),
    (.fpaccombine, featureMap .armV8_2A .unknown
      [aarch64Field (.isar 1) 11 8 5, aarch64Field (.isar 1) 7 4 5,
        aarch64Field (.isar 2) 15 12 5]),
    (.jscvt, featureMap .armV8_2A .unknown
      [aarch64Field (.isar 1) 15 12 1, aarch32Field (.isar 6) 3 0 1]),
    (.lrcpc, featureMap .armV8_2A .armV8_3A [aarch64Field (.isar 1) 23 20 1]),
    (.pacimp, featureMap .armV8_2A .unknown [aarch64Field (.isar 1) 31 28 1]),
    (.pacqarma3, featureMap .armV8_2A .unknown [aarch64Field (.isar 2) 11 8 1]),
    (.pacqarma5, featureMap .armV8_2A .unknown [aarch64Field (.isar 1) 27 24 1]),
    (.pauth, featureMap .armV8_2A .armV8_3A
      [aarch64Field (.isar 1) 11 8 1, aarch64Field (.isar 1) 7 4 1,
        aarch64Field (.isar 2) 15 12 1]),
    (.spev1p1, featureMap .armV8_2A .unknown [aarch64Field (.dfr 0) 35 32 2]),
    (.amuv1, featureMap .armV8_3A .unknown
      [aarch64Field (.pfr 0) 47 44 1, aarch32Field (.pfr 0) 23 20 1]),
    (.bbm, featureMap .armV8_3A .armV8_4A
      [aarch64Field (.mmfr 2) 55 52 0, aarch64Field (.mmfr 2) 55 52 1,
        aarch64Field (.mmfr 2) 55 52 2]),
    (.dit, featureMap .armV8_3A .armV8_4A
      [aarch64Field (.pfr 0) 51 48 1, aarch32Field (.pfr 0) 27 24 1]),
    (.debugv8p4, featureMap .armV8_3A .armV8_4A [sharedField (.dfr 0) (.dfr 0) 3 0 9]),
    (.dotprod, featureMap .armV8_1A .unknown
      [aarch64Field (.isar 0) 47 44 1, aarch32Field (.isar 6) 7 4 1]),
    (.doublefault, featureMap .armV8_4A .unknown [aarch64Field (.pfr 0) 31 28 2]),
    (.fhm, featureMap .armV8_1A .unknown
      [aarch64Field (.isar 0) 51 48 1, aarch32Field (.isar 6) 11 8 1]),
    (.flagm, featureMap .armV8_1A .armV8_4A [aarch64Field (.isar 0) 55 52 1]),
    (.idst, featureMap .armV8_3A .armV8_4A [aarch64Field (.mmfr 2) 39 36 1]),
    (.lrcpc2, featureMap .armV8_2A .armV8_4A [aarch64Field (.isar 1) 23 20 2]),
    (.lse2, featureMap .armV8_2A .armV8_4A [aarch64Field (.mmfr 2) 35 32 1]),
    (.pmuv3p4, featureMap .armV8_3A .unknown
      [aarch64Field (.dfr 0) 11 8 5, aarch32Field (.dfr 0) 27 24 5]),
    (.rasv1p1, featureMap .armV8_2A .unknown [sharedField (.pfr 0) (.pfr 0) 31 28 2]),
    (.s2fwb, featureMap .armV8_3A .unknown [aarch64Field (.mmfr 2) 43 40 1]),
    (.sel2, featureMap .armV8_3A .unknown [aarch64Field (.pfr 0) 39 36 1]),
    (.tlbios, featureMap .armV8_3A .armV8_4A
      [aarch64Field (.isar 0) 59 56 1, aarch64Field (.isar 0) 59 56 2]),
    (.tlbirange, featureMap .armV8_3A .armV8_4A [aarch64Field (.isar 0) 59 56 2]),
    (.trf, featureMap .armV8_3A .unknown
      [aarch64Field (.dfr 0) 43 40 1, aarch32Field (.dfr 0) 31 28 1]),
    (.ttl, featureMap .armV8_3A .armV8_4A [aarch64Field (.mmfr 2) 51 48 1]),
    (.ttst, featureMap .armV8_3A .unknown [aarch64Field (.mmfr 2) 31 28 1]),
    (.bti, featureMap .armV8_4A .armV8_5A [aarch64Field (.pfr 1) 3 0 1]),
    (.csv2, featureMap .armV8_0A .armV8_5A
      [aarch64Field (.pfr 0) 59 56 1, aarch32Field (.pfr 0) 19 16 1]),
    (.csv3, featureMap .armV8_0A .armV8_5A [aarch64Field (.pfr 0) 63 60 1]),
    (.dpb2, featureMap .armV8_1A .armV8_5A [aarch64Field (.isar 1) 3 0 2]),
    (.e0pd, featureMap .armV8_4A .armV8_5A [aarch64Field (.mmfr 2) 63 60 1]),
    (.evt, featureMap .armV8_2A .unknown
      [aarch64Field (.mmfr 2) 59 56 1, aarch64Field (.mmfr 2) 59 56 2,
        aarch32Field (.mmfr 4) 31 28 1, aarch32Field (.mmfr 4) 31 28 2]),
    (.exs, featureMap .armV8_4A .unknown [aarch64Field (.mmfr 0) 47 44 1]),
    (.frintts, featureMap .armV8_4A .unknown [aarch64Field (.isar 1) 35 32 1]),
    (.flagm2, featureMap .armV8_4A .unknown [aarch64Field (.isar 0) 55 52 2]),
    (.mte, featureMap .armV8_4A .unknown [aarch64Field (.pfr 1) 11 8 1]),
    (.mte2, featureMap .armV8_4A .unknown [aarch64Field (.pfr 1) 11 8 2]),
    (.pmuv3p5, featureMap .armV8_4A .unknown
      [aarch64Field (.dfr 0) 11 8 6, aarch32Field (.dfr 0) 27 24 6]),
    (.rng, featureMap .armV8_4A .unknown [aarch64Field (.isar 0) 63 60 1]),
    (.rngTrap, featureMap .armV8_4A .unknown [aarch64Field (.pfr 1) 31 28 1]),
    (.sb, featureMap .armV8_0A .armV8_5A
      [aarch64Field (.isar 1) 39 36 1, aarch32Field (.isar 6) 15 12 1]),
    (.specres, featureMap .armV8_0A .armV8_5A
      [aarch64Field (.isar 1) 43 40 1, aarch32Field (.isar 6) 19 16 1]),
    (.ssbs, featureMap .armV8_0A .unknown [sharedField (.pfr 2) (.pfr 1) 7 4 1]),
    (.ssbs2, featureMap .armV8_0A .unknown [aarch64Field (.pfr 1) 7 4 2]),
    (.aa32bf16, featureMap .armV8_2A .unknown [aarch32Field (.isar 6) 23 20 1]),
    (.amuv1p1, featureMap .armV8_5A .unknown
      [aarch64Field (.pfr 0) 47 44 2, aarch32Field (.pfr 0) 23 20 2]),
    (.bf16, featureMap .armV8_2A .armV8_6A
      [aarch64Field (.isar 1) 47 44 1, aarch64Field (.zfr 0) 23 20 1]),
    (.dgh, featureMap .armV8_0A .unknown [aarch64Field (.isar 1) 51 48 1]),
    (.ecv, featureMap .armV8_5A .armV8_6A
      [aarch64Field (.mmfr 0) 63 60 1, aarch64Field (.mmfr 0) 63 60 2]),
    (.fgt, featureMap .armV8_5A .unknown [aarch64Field (.mmfr 0) 59 56 1]),
    (.hpmn0, featureMap .armV8_5A .unknown
      [aarch64Field (.dfr 0) 63 60 1, aarch32Field (.dfr 0) 7 4 1]),
    (.mtpmu, featureMap .armV8_5A .unknown
      [aarch64Field (.dfr 0) 51 48 1, aarch32Field (.dfr 1) 3 0 1]),
    (.pauth2, featureMap .armV8_2A .armV8_6A
      [aarch64Field (.isar 1) 11 8 3, aarch64Field (.isar 1) 7 4 3,
        aarch64Field (.isar 2) 15 12 3]),
    (.twed, featureMap .armV8_5A .unknown [aarch64Field (.mmfr 1) 35 32 1]),
    (.afp, featureMap .armV8_6A .unknown [aarch64Field (.mmfr 1) 47 44 1]),
    (.ebf16, featureMap .armV8_2A .unknown
      [aarch64Field (.isar 1) 47 44 2, aarch64Field (.zfr 0) 23 20 2]),
    (.hcx, featureMap .armV8_6A .unknown [aarch64Field (.mmfr 1) 43 40 1]),
    (.lpa2, featureMap .armV8_6A .unknown
      [aarch64Field (.mmfr 0) 31 28 1, aarch64Field (.mmfr 0) 23 20 1]),
    (.ls64, featureMap .armV8_6A .unknown [aarch64Field (.isar 1) 63 60 1]),
    (.ls64Accdata, featureMap .armV8_6A .unknown [aarch64Field (.isar 1) 63 60 3]),
    (.ls64V, featureMap .armV8_6A .unknown [aarch64Field (.isar 1) 63 60 2]),
    (.mte3, featureMap .armV8_5A .unknown [aarch64Field (.pfr 1) 11 8 3]),
    (.mteAsymFault, featureMap .armV8_7A .unknown [aarch64Field (.pfr 1) 11 8 3]),
    (.pan3, featureMap .armV8_0A .armV8_7A [aarch64Field (.mmfr 1) 23 20 3]),
    (.pmuv3p7, featureMap .armV8_6A .unknown
      [aarch64Field (.dfr 0) 11 8 7, aarch32Field (.dfr 0) 27 24 7]),
    (.rpres, featureMap .armV8_6A .unknown [aarch64Field (.isar 2) 7 4 1]),
    (.spev1p2, featureMap .armV8_6A .unknown [aarch64Field (.dfr 0) 35 32 3]),
    (.wfxt, featureMap .armV8_6A .armV8_7A [aarch64Field (.isar 2) 3 0 2]),
    (.xs, featureMap .armV8_6A .armV8_7A [aarch64Field (.isar 1) 59 56 1]),
    (.cmow, featureMap .armV8_7A .armV8_8A [aarch64Field (.mmfr 1) 59 56 1]),
    (.debugv8p8, featureMap .armV8_7A .armV8_8A [sharedField (.dfr 0) (.dfr 0) 3 0 10]),
    (.hbc, featureMap .armV8_7A .armV8_8A [aarch64Field (.isar 2) 23 20 1]),
    (.mops, featureMap .armV8_7A .armV8_8A [aarch64Field (.isar 2) 19 16 1]),
    (.nmi, featureMap .armV8_7A .armV8_8A [aarch64Field (.pfr 1) 39 36 1]),
    (.pmuv3p8, featureMap .armV8_7A .unknown
      [aarch64Field (.dfr 0) 11 8 8, aarch32Field (.dfr 0) 27 24 8]),
    (.sctlr2, featureMap .armV8_0A .armV8_9A [aarch64Field (.mmfr 3) 7 4 1]),
    (.spev1p3, featureMap .armV8_7A .unknown [aarch64Field (.dfr 0) 35 32 4]),
    (.tcr2, featureMap .armV8_0A .armV8_9A [aarch64Field (.mmfr 3) 3 0 1]),
    (.tidcp1, featureMap .armV8_7A .armV8_8A [aarch64Field (.mmfr 1) 55 52 1]),
    (.aderr, featureMap .armV8_8A .unknown
      [aarch64Field (.mmfr 3) 59 56 2, aarch64Field (.mmfr 3) 55 52 2]),
    (.aie, featureMap .armV8_8A .unknown [aarch64Field (.mmfr 3) 27 24 1]),
    (.anerr, featureMap .armV8_8A .unknown
      [aarch64Field (.mmfr 3) 47 44 2, aarch64Field (.mmfr 3) 43 40 2]),
    (.ats1a, featureMap .armV8_8A .unknown [aarch64Field (.isar 2) 63 60 1]),
    (.clrbhb, featureMap .armV8_0A .armV8_9A [sharedField (.isar 6) (.isar 2) 31 28 1]),
    (.cssc, featureMap .armV8_7A .unknown [aarch64Field (.isar 2) 55 52 1]),
    (.debugv8p9, featureMap .armV8_8A .armV8_9A [sharedField (.dfr 0) (.dfr 0) 3 0 11]),
    (.doublefault2, featureMap .armV8_8A .unknown [aarch64Field (.pfr 1) 59 56 1]),
    (.ecbhb, featureMap .armV8_0A .armV8_9A [aarch64Field (.mmfr 1) 63 60 1]),
    (.fgt2, featureMap .armV8_8A .unknown [aarch64Field (.mmfr 0) 59 56 2]),
    (.haft, featureMap .armV8_7A .unknown [aarch64Field (.mmfr 1) 3 0 3]),
    (.lrcpc3, featureMap .armV8_2A .unknown [aarch64Field (.isar 1) 23 20 3]),
    (.mtePerm, featureMap .armV8_7A .unknown [aarch64Field (.pfr 2) 3 0 1]),
    (.mteStoreOnly, featureMap .armV8_7A .unknown [aarch64Field (.pfr 2) 7 4 1]),
    (.mteTaggedFar, featureMap .armV8_7A .unknown [aarch64Field (.pfr 2) 11 8 1]),
    (.pfar, featureMap .armV8_8A .unknown [aarch64Field (.pfr 1) 63 60 1]),
    (.pmuv3Icntr, featureMap .armV8_8A .unknown [aarch64Field (.dfr 1) 39 36 1]),
    (.pmuv3Ss, featureMap .armV8_8A .unknown [aarch64Field (.dfr 0) 19 16 1]),
    (.pmuv3p9, featureMap .armV8_8A .unknown
      [aarch64Field (.dfr 0) 11 8 9, aarch32Field (.dfr 0) 27 24 9]),
    (.prfmslc, featureMap .armV8_0A .unknown [aarch64Field (.isar 2) 43 40 1]),
    (.rasv2, featureMap .armV8_8A .unknown [sharedField (.pfr 0) (.pfr 0) 31 28 3]),
    (.rprfm, featureMap .armV8_0A .unknown [aarch64Field (.isar 2) 51 48 1]),
    (.s1pie, featureMap .armV8_8A .unknown [aarch64Field (.mmfr 3) 11 8 1]),
    (.s1poe, featureMap .armV8_8A .unknown [aarch64Field (.mmfr 3) 19 16 1]),
    (.s2pie, featureMap .armV8_8A .unknown [aarch64Field (.mmfr 3) 15 12 1]),
    (.s2poe, featureMap .armV8_8A .unknown [aarch64Field (.mmfr 3) 23 20 1]),
    (.specres2, featureMap .armV8_0A .armV8_9A
      [aarch64Field (.isar 1) 43 40 2, aarch32Field (.isar 6) 19 16 2]),
    (.speDpfzs, featureMap .armV8_6A .unknown [aarch64Field (.dfr 1) 55 52 1]),
    (.spev1p4, featureMap .armV8_8A .unknown [aarch64Field (.dfr 0) 35 32 5]),
    (.spmu, featureMap .armV8_8A .unknown [aarch64Field (.dfr 1) 35 32 1]),
    (.the, featureMap .armV8_8A .unknown [aarch64Field (.dfr 1) 51 48 1]),
    (.sve2, featureMap .armV9_0A .unknown [aarch64Field (.zfr 0) 3 0 1]),
    (.sveAes, featureMap .armV9_0A .unknown [aarch64Field (.zfr 0) 7 4 1]),
    (.sveBitperm, featureMap .armV9_0A .unknown [aarch64Field (.zfr 0) 19 16 1]),
    (.svePmull128, featureMap .armV9_0A .unknown [aarch64Field (.zfr 0) 7 4 2]),
    (.sveSha3, featureMap .armV9_0A .unknown [aarch64Field (.zfr 0) 35 32 1]),
    (.sveSm4, featureMap .armV9_0A .unknown [aarch64Field (.zfr 0) 43 40 1]),
    (.tme, featureMap .armV9_0A .unknown [aarch64Field (.isar 0) 27 24 1]),
    (.trbe, featureMap .armV9_0A .unknown [aarch64Field (.dfr 0) 47 44 1]),
    (.brbe, featureMap .armV9_1A .unknown [aarch64Field (.dfr 0) 55 52 1]),
    (.rme, featureMap .armV9_1A .unknown [aarch64Field (.pfr 0) 55 52 1]),
    (.sme, featureMap .armV9_2A .unknown [aarch64Field (.pfr 1) 27 24 1]),
    (.smeF64f64, featureMap .armV9_2A .unknown [aarch64Field (.smfr 0) 48 48 1]),
    (.smeFa64, featureMap .armV9_2A .unknown [aarch64Field (.smfr 0) 63 63 1]),
    (.smeI16i64, featureMap .armV9_2A .unknown [aarch64Field (.smfr 0) 55 52 15]),
    (.brbev1p1, featureMap .armV9_2A .unknown [aarch64Field (.dfr 0) 55 52 2]),
    (.mec, featureMap .armV9_2A .unknown [aarch64Field (.mmfr 3) 31 28 1]),
    (.sme2, featureMap .armV9_2A .unknown
      [aarch64Field (.smfr 0) 59 56 1, aarch64Field (.pfr 1) 27 24 2]),
    (.able, featureMap .armV9_3A .unknown [aarch64Field (.dfr 1) 43 40 1]),
    (.bwe, featureMap .armV9_3A .unknown [aarch64Field (.dfr 1) 43 40 1]),
    (.d128, featureMap .armV9_3A .unknown [aarch64Field (.mmfr 3) 35 32 1]),
    (.ebep, featureMap .armV9_3A .unknown [aarch64Field (.dfr 1) 51 48 1]),
    (.gcs, featureMap .armV9_3A .unknown [aarch64Field (.pfr 1) 47 44 1]),
    (.ite, featureMap .armV9_3A .unknown [aarch64Field (.dfr 1) 47 44 1]),
    (.lse128, featureMap .armV9_3A .unknown [aarch64Field (.dfr 1) 23 20 3]),
    (.lva3, featureMap .armV9_3A .unknown [aarch64Field (.mmfr 2) 19 16 2]),
    (.sebep, featureMap .armV9_3A .unknown [aarch64Field (.dfr 0) 27 24 1]),
    (.sme2p1, featureMap .armV9_2A .unknown [aarch64Field (.smfr 0) 59 56 2]),
    (.smeF16f16, featureMap .armV9_2A .unknown [aarch64Field (.smfr 0) 42 42 1]),
    (.sve2p1, featureMap .armV9_2A .unknown [aarch64Field (.zfr 0) 3 0 2]),
    (.sveB16b16, featureMap .armV9_2A .unknown
      [aarch64Field (.smfr 0) 43 43 1, aarch64Field (.zfr 0) 27 24 1]),
    (.sysinstr128, featureMap .armV9_3A .unknown [aarch64Field (.isar 2) 39 36 1]),
    (.sysreg128, featureMap .armV9_3A .unknown [aarch64Field (.isar 2) 35 32 1]),
    (.trbeExt, featureMap .armV9_3A .unknown [aarch64Field (.dfr 0) 59 56 1]),
    (.asid2, featureMap .armV9_4A .armV9_5A [aarch64Field (.mmfr 4) 11 8 1]),
    (.bwe2, featureMap .armV9_4A .unknown [aarch64Field (.dfr 2) 7 4 2]),
    (.cpa, featureMap .armV9_4A .armV9_5A [aarch64Field (.isar 3) 3 0 1]),
    (.cpa2, featureMap .armV9_4A .unknown [aarch64Field (.isar 3) 3 0 1]),
    (.e2h0, featureMap .armV8_0A .unknown [aarch64Field (.mmfr 4) 27 24 0]),
    (.e3dse, featureMap .armV9_4A .unknown [aarch64Field (.mmfr 4) 39 36 1]),
    (.ets3, featureMap .armV9_4A .armV9_5A
      [aarch64Field (.mmfr 1) 39 36 3, aarch32Field (.mmfr 5) 3 0 3]),
    (.faminmax, featureMap .armV9_2A .unknown [aarch64Field (.isar 3) 7 4 1]),
    (.fgwte3, featureMap .armV9_4A .unknown [aarch64Field (.mmfr 4) 19 16 1]),
    (.fp8, featureMap .armV9_2A .unknown
      [aarch64Field (.fpfr 0) 31 31 1, aarch64Field (.fpfr 0) 1 1 1, aarch64Field (.fpfr 0) 0 0 1]),
    (.fp8dot2, featureMap .armV9_2A .unknown [aarch64Field (.fpfr 0) 28 28 1]),
    (.fp8dot4, featureMap .armV9_2A .unknown [aarch64Field (.fpfr 0) 29 29 1]),
    (.fp8fma, featureMap .armV9_2A .unknown [aarch64Field (.fpfr 0) 30 30 1]),
    (.fpmr, featureMap .armV9_2A .unknown [aarch64Field (.pfr 2) 35 32 1]),
    (.hacdbs, featureMap .armV9_4A .unknown [aarch64Field (.mmfr 4) 15 12 1]),
    (.hdbss, featureMap .armV9_4A .unknown [aarch64Field (.mmfr 1) 3 0 4]),
    (.lut, featureMap .armV9_2A .unknown [aarch64Field (.isar 2) 59 56 1]),
    (.pauthLr, featureMap .armV9_4A .unknown
      [aarch64Field (.isar 1) 7 3 6, aarch64Field (.isar 1) 11 8 6,
        aarch64Field (.isar 2) 15 12 6]),
    (.rmeGpc2, featureMap .armV9_4A .unknown [aarch64Field (.pfr 0) 55 52 2]),
    (.smeF8f16, featureMap .armV9_2A .unknown [aarch64Field (.smfr 0) 41 41 1]),
    (.smeF8f32, featureMap .armV9_2A .unknown [aarch64Field (.smfr 0) 40 40 1]),
    (.smeLutv2, featureMap .armV9_2A .unknown [aarch64Field (.smfr 0) 60 60 1]),
    (.spmu2, featureMap .armV9_4A .unknown [aarch64Field (.dfr 1) 35 32 2]),
    (.ssveFp8dot2, featureMap .armV9_2A .unknown [aarch64Field (.smfr 0) 28 28 1]),
    (.ssveFp8dot4, featureMap .armV9_2A .unknown [aarch64Field (.smfr 0) 29 29 1]),
    (.ssveFp8fma, featureMap .armV9_2A .unknown [aarch64Field (.smfr 0) 30 30 1]),
    (.step2, featureMap .armV9_4A .armV9_5A [aarch64Field (.dfr 2) 3 0 1]),
    (.tlbiw, featureMap .armV9_4A .unknown [aarch64Field (.isar 3) 11 8 1])]

end LibCpuid
