import LibCpuid.Arm.IdFields

/-! Which features of `features_map` some ARM processor has one of and not the other. -/

namespace LibCpuid

/-! ### Cores with one field -/

/-- The raw data with another value in an AArch32 register. -/
def CpuRawData.setReg32 (raw : CpuRawData) : ArmReg32 → BitVec 32 → CpuRawData
  | .dfr i, x => { raw with armIdDfr := Function.update raw.armIdDfr i x }
  | .isar i, x => { raw with armIdIsar := Function.update raw.armIdIsar i x }
  | .mmfr i, x => { raw with armIdMmfr := Function.update raw.armIdMmfr i x }
  | .pfr i, x => { raw with armIdPfr := Function.update raw.armIdPfr i x }

/-- A core that no row matches: ones in the registers of 4-bit fields, and zeros in those with fields
of one bit. -/
def quietCore (isAarch64 : Bool) : CpuRawData :=
  if isAarch64 then
    { CpuRawData.zero with
      armMidr := 0x410fd400
      armIdAa64Afr := fun _ => 1
      armIdAa64Dfr := fun _ => -1
      armIdAa64Isar := fun _ => -1
      armIdAa64Mmfr := fun _ => -1
      armIdAa64Pfr := fun _ => -1
      armIdAa64Zfr := fun _ => -1 }
  else
    { CpuRawData.zero with
      armMidr := 0x410fd400
      armIdDfr := fun _ => -1
      armIdIsar := fun _ => -1
      armIdMmfr := fun _ => -1
      armIdPfr := fun _ => -1 }

/-- A register of either state. -/
abbrev ArmReg := ArmReg64 ⊕ ArmReg32

/-- The registers of either state. -/
def armRegs : List ArmReg :=
  ([(List.finRange _).map ArmReg64.dfr, (List.finRange _).map .fpfr, (List.finRange _).map .isar,
      (List.finRange _).map .mmfr, (List.finRange _).map .pfr, (List.finRange _).map .smfr,
      (List.finRange _).map .zfr].flatten.map .inl) ++
    [(List.finRange _).map ArmReg32.dfr, (List.finRange _).map .isar,
      (List.finRange _).map .mmfr, (List.finRange _).map .pfr].flatten.map .inr

/-- The register that a field names in a state. -/
def ArmFeatureField.regIn (field : ArmFeatureField) (isAarch64 : Bool) : Option ArmReg :=
  if isAarch64 then field.aarch64Reg.map .inl else field.aarch32Reg.map .inr

/-- The quiet core with the value of a field in its bits. -/
def fieldCore (isAarch64 : Bool) (field : ArmFeatureField) : CpuRawData :=
  let core := quietCore isAarch64
  let width := field.highbit - field.lowbit + 1
  match field.regIn isAarch64 with
  | some (.inl reg) => core.setReg64 reg
      (.ofNat 64 (CLang.setField (core.reg64 reg).toNat field.lowbit width field.value))
  | some (.inr reg) => core.setReg32 reg
      (.ofNat 32 (CLang.setField (core.reg32 reg).toNat field.lowbit width field.value))
  | none => core

/-- The fields that the loop of `match_arm_features` gets to, in either state. -/
def rowFields (row : CpuFeature × ArmFeatureMap) : List (Bool × ArmFeatureField) :=
  (row.2.reached true).map (true, ·) ++ (row.2.reached false).map (false, ·)

/-- The features whose rows share each field with another row. -/
def sharingFeatures : List CpuFeature :=
  [.doublefault, .tlbirange, .mte3, .mteAsymFault, .the, .ebep, .able, .bwe, .cpa, .cpa2]

/-- The field of a row that stands in no other row, if there is one: the first, but for three
rows. -/
def ownField (row : CpuFeature × ArmFeatureMap) : Option (Bool × ArmFeatureField) :=
  (rowFields row)[if row.1 ∈ [CpuFeature.fp16, .rasv1p1, .pauthLr] then 1 else 0]?

/-- The core with the own field of a row. -/
def rowCore (row : CpuFeature × ArmFeatureMap) : CpuRawData :=
  (ownField row).elim .zero fun own => fieldCore own.1 own.2

/-- The register of the own field. -/
def ownReg (row : CpuFeature × ArmFeatureMap) : Option ArmReg :=
  (ownField row).bind fun own => own.2.regIn own.1

/-- Whether a row reads a register. -/
def readsReg (reg : ArmReg) (row : CpuFeature × ArmFeatureMap) : Bool :=
  (rowFields row).any fun field => field.2.regIn field.1 = some reg

/-! ### The rows -/

/-- The features whose rows read one value of one field, though the architecture has two. -/
def copiedRows : List (CpuFeature × CpuFeature) := [(.the, .ebep), (.able, .bwe), (.cpa, .cpa2)]

/-- The two features stand for one architected value. -/
def OneValue (f g : CpuFeature) : Prop :=
  (f = .mte3 ∧ g = .mteAsymFault) ∨ (f = .mteAsymFault ∧ g = .mte3)

/-- The rows of two features are copies. -/
def Copied (f g : CpuFeature) : Prop := (f, g) ∈ copiedRows ∨ (g, f) ∈ copiedRows

instance (f g : CpuFeature) : Decidable (OneValue f g) :=
  inferInstanceAs (Decidable ((_ ∧ _) ∨ (_ ∧ _)))

instance (f g : CpuFeature) : Decidable (Copied f g) :=
  inferInstanceAs (Decidable (_ ∨ _))

/-- No row matches a quiet core, and each row matches its own one. -/
theorem featuresMap_cores : ∀ row ∈ featuresMap,
    (rowMatches (quietCore true) row = false ∧ rowMatches (quietCore false) row = false) ∧
      (ownReg row).isSome ∧ rowMatches (rowCore row) row = true := by
  decide +kernel

/-- Among the rows that read a register, the core of one that owns a field of it matches no other. -/
theorem featuresMap_apart : ∀ reg ∈ armRegs, ∀ row ∈ featuresMap.filter (readsReg reg),
    ownReg row = some reg → row.1 ∉ sharingFeatures →
      ∀ other ∈ featuresMap.filter (readsReg reg),
        other.1 = row.1 ∨ rowMatches (rowCore row) other = false := by
  decide +kernel

/-- Of two rows that own no field, one has a core that does not match the other, unless they are
copies. -/
theorem featuresMap_sharing : ∀ row ∈ featuresMap.filter (·.1 ∈ sharingFeatures),
    ∀ other ∈ featuresMap.filter (·.1 ∈ sharingFeatures),
      row.1 = other.1 ∨ OneValue row.1 other.1 ∨ Copied row.1 other.1 ∨
        rowMatches (rowCore row) other = false ∨ rowMatches (rowCore other) row = false := by
  decide +kernel

/-- The rows of copied features have the same fields. -/
theorem featuresMap_copied : ∀ pair ∈ copiedRows, pair.1 ∉ specialFeatures ∧
    pair.2 ∉ specialFeatures ∧ ∃ row ∈ featuresMap, row.1 = pair.1 ∧
      ∃ other ∈ featuresMap, other.1 = pair.2 ∧ row.2.fields = other.2.fields := by
  decide +kernel

/-! ### Registers -/

theorem mem_armRegs (reg : ArmReg) : reg ∈ armRegs := by
  rcases reg with reg | reg <;> cases reg <;> simp [armRegs]

section Cores

variable {isAarch64 : Bool} {field : ArmFeatureField} {row : CpuFeature × ArmFeatureMap}

theorem reg32_setReg32_of_ne {raw : CpuRawData} {reg reg' : ArmReg32} {x : BitVec 32}
    (h : reg' ≠ reg) : (raw.setReg32 reg x).reg32 reg' = raw.reg32 reg' := by
  cases reg <;> cases reg' <;> simp_all [CpuRawData.setReg32, CpuRawData.reg32]

theorem isAarch64Mode_quietCore : isAarch64Mode (quietCore isAarch64) = isAarch64 := by
  cases isAarch64 <;> decide

/-- The field of a core changes neither the state nor the MIDR. -/
theorem fieldCore_facts : isAarch64Mode (fieldCore isAarch64 field) = isAarch64 ∧
    (fieldCore isAarch64 field).armMidr = 0x410fd400 ∧
      cpuidArchitectureIdentify (fieldCore isAarch64 field) = .arm := by
  unfold fieldCore
  dsimp only
  split
  · next reg hreg =>
    cases isAarch64 with
    | false => simp [ArmFeatureField.regIn] at hreg
    | true => cases reg <;> exact ⟨rfl, rfl, rfl⟩
  · next reg hreg =>
    cases isAarch64 with
    | false => cases reg <;> exact ⟨rfl, rfl, rfl⟩
    | true => simp [ArmFeatureField.regIn] at hreg
  · cases isAarch64 <;> exact ⟨rfl, rfl, rfl⟩

theorem regValue_fieldCore {other : ArmFeatureField}
    (h : other.regIn isAarch64 ≠ field.regIn isAarch64) :
    other.regValue isAarch64 (fieldCore isAarch64 field) =
      other.regValue isAarch64 (quietCore isAarch64) := by
  unfold fieldCore
  dsimp only
  split
  · next reg hreg =>
    cases isAarch64 with
    | false => simp [ArmFeatureField.regIn] at hreg
    | true =>
      cases hother : other.aarch64Reg with
      | none => simp [ArmFeatureField.regValue, hother]
      | some reg' =>
        have hne : reg' ≠ reg := by
          rintro rfl
          exact h (by rw [hreg]; simp [ArmFeatureField.regIn, hother])
        simp [ArmFeatureField.regValue, hother, reg64_setReg64_of_ne _ _ _ hne]
  · next reg hreg =>
    cases isAarch64 with
    | false =>
      cases hother : other.aarch32Reg with
      | none => simp [ArmFeatureField.regValue, hother]
      | some reg' =>
        have hne : reg' ≠ reg := by
          rintro rfl
          exact h (by rw [hreg]; simp [ArmFeatureField.regIn, hother])
        simp [ArmFeatureField.regValue, hother, reg32_setReg32_of_ne hne]
    | true => simp [ArmFeatureField.regIn] at hreg
  · rfl

theorem mem_rowFields {a : Bool} {other : ArmFeatureField} :
    (a, other) ∈ rowFields row ↔ other ∈ row.2.reached a := by
  cases a <;> simp [rowFields]

/-- A row that does not read the register of the field matches the core as it does the quiet one. -/
theorem rowMatches_fieldCore {reg : ArmReg} (hreg : field.regIn isAarch64 = some reg)
    (hnot : readsReg reg row = false) :
    rowMatches (fieldCore isAarch64 field) row = rowMatches (quietCore isAarch64) row := by
  rw [Bool.eq_iff_iff, rowMatches, rowMatches, fieldCore_facts.1, isAarch64Mode_quietCore,
    matchArmFields_iff, matchArmFields_iff]
  refine or_congr_right (exists_congr fun other => and_congr_right fun hother => ?_)
  have hne : other.regIn isAarch64 ≠ field.regIn isAarch64 := by
    intro heq
    have hall := List.any_eq_false.mp hnot (isAarch64, other) (mem_rowFields.mpr hother)
    exact hall (decide_eq_true (heq.trans hreg))
  rw [ArmFeatureField.Matches, ArmFeatureField.Matches, regValue_fieldCore hne]

end Cores

/-! ### Flags -/

/-- With `0xF` in the MIDR it gives no level. -/
theorem midrLevel_eq_unknown {raw : CpuRawData} (h : extractsBits raw.armMidr 19 16 = 0xf) :
    midrLevel raw = .unknown := by
  have hnone : decodeArmArchitectureVersionByMidr raw = none := by
    rw [decodeArmArchitectureVersionByMidr, h]
    rfl
  rw [midrLevel, decodeArmMidr]
  dsimp only
  rw [hnone]
  rfl

/-- The special features that have no row. -/
def rowlessFeatures : List CpuFeature :=
  [.mpam, .mpamv0p1, .mpamv1p1, .mteAsync, .mteCanonicalTags, .mteNoAddressTags, .mte4]

theorem featuresMap_rowless : ∀ row ∈ featuresMap, row.1 ∉ rowlessFeatures := by
  decide +kernel

/-- Without a level of the MIDR the flags are those of the rows, and that of pointer authentication
follows the algorithms too. -/
theorem flags_eq_mapped {raw : CpuRawData} (h : midrLevel raw = .unknown) {f : CpuFeature}
    (hf : f ∉ rowlessFeatures) :
    (loadedArmFeatures raw).1.flags f =
      (mapped raw f || (decide (f = .pauth) && pacMapped raw)) := by
  simp only [rowlessFeatures, List.mem_cons, List.not_mem_nil, or_false, not_or] at hf
  have hmidr : reports (midrStatuses .unknown) f = false := by
    simp [reports, midrStatuses]
  have hmpam : reports (mpamStatuses raw) f = false := by
    unfold mpamStatuses
    dsimp only
    split <;> simp [reports, hf]
  have hmte : reports (mteStatuses raw) f = false := by
    unfold mteStatuses
    dsimp only
    split <;> simp [reports, hf]
  have hmte4 (calls : List FeatureStatus) : reports [mte4Status calls] f = false := by
    simp [reports, mte4Status, hf]
  have hpauth : reports [pauthStatus raw] f = (decide (f = .pauth) && pacMapped raw) := by
    simp [reports, pauthStatus, Bool.and_comm]
  rw [loadedArmFeatures_flags, h]
  simp only [featureStatuses, statusesBeforeMte4, reports_append, reports_mapStatuses, hmidr, hmpam,
    hmte, hmte4, hpauth, Bool.false_or, Bool.or_false]

/-! ### Telling features apart -/

/-- An ARM processor of either state has one of two features and not the other. -/
def ToldApart (f g : CpuFeature) : Prop :=
  ∃ raw, cpuidArchitectureIdentify raw = .arm ∧
    (loadedArmFeatures raw).1.flags f ≠ (loadedArmFeatures raw).1.flags g

theorem ToldApart.symm {f g : CpuFeature} (h : ToldApart f g) : ToldApart g f := by
  obtain ⟨raw, harm, hne⟩ := h
  exact ⟨raw, harm, hne.symm⟩

/-- A feature that `features_map` lists. -/
def IsMapped (f : CpuFeature) : Prop := ∃ row ∈ featuresMap, row.1 = f

instance (f : CpuFeature) : Decidable (IsMapped f) :=
  inferInstanceAs (Decidable (∃ row ∈ featuresMap, _))

section Rows

variable {row other : CpuFeature × ArmFeatureMap} (hrow : row ∈ featuresMap)
  (hother : other ∈ featuresMap)

theorem mapped_eq_false {raw : CpuRawData} {f : CpuFeature}
    (h : ∀ row ∈ featuresMap, row.1 = f → rowMatches raw row = false) : mapped raw f = false := by
  refine List.any_eq_false.mpr fun row hrow hmatch => ?_
  rw [Bool.and_eq_true, decide_eq_true_eq] at hmatch
  exact absurd hmatch.2 (by simp [h row hrow hmatch.1])

include hrow

/-- Each row has an own field, and the core of the row is the one with this field. -/
theorem exists_ownField : ∃ a field reg, (a, field) ∈ rowFields row ∧ field.regIn a = some reg ∧
    ownReg row = some reg ∧ rowCore row = fieldCore a field := by
  obtain ⟨reg, hreg⟩ := Option.isSome_iff_exists.mp (featuresMap_cores row hrow).2.1
  obtain ⟨⟨a, field⟩, hfield, hregIn⟩ := Option.bind_eq_some_iff.mp hreg
  refine ⟨a, field, reg, List.mem_of_getElem? hfield, hregIn, hreg, ?_⟩
  rw [rowCore, hfield]
  rfl

/-- The core of a row that owns its field matches no other row. -/
theorem rowMatches_rowCore_of_ne (hown : row.1 ∉ sharingFeatures) {other}
    (hother : other ∈ featuresMap) (hne : other.1 ≠ row.1) :
    rowMatches (rowCore row) other = false := by
  obtain ⟨a, field, reg, hmem, hregIn, hreg, hcore⟩ := exists_ownField hrow
  have hreads : readsReg reg row = true :=
    List.any_eq_true.mpr ⟨(a, field), hmem, decide_eq_true hregIn⟩
  cases hreads' : readsReg reg other with
  | true =>
    exact (featuresMap_apart reg (mem_armRegs reg) row (List.mem_filter.mpr ⟨hrow, hreads⟩) hreg
      hown other (List.mem_filter.mpr ⟨hother, hreads'⟩)).resolve_left hne
  | false =>
    rw [hcore, rowMatches_fieldCore hregIn hreads']
    obtain ⟨⟨h64, h32⟩, -⟩ := featuresMap_cores other hother
    cases a
    · exact h32
    · exact h64

include hother

/-- The core of a row tells its feature from one whose row it does not match. -/
theorem toldApart_of_rowCore (hnot : rowMatches (rowCore row) other = false)
    (hpac : other.1 = .pauth → pacMapped (rowCore row) = false) : ToldApart row.1 other.1 := by
  obtain ⟨a, field, -, -, -, -, hcore⟩ := exists_ownField hrow
  have hlevel : midrLevel (rowCore row) = .unknown := by
    apply midrLevel_eq_unknown
    rw [hcore, fieldCore_facts.2.1]
    decide
  refine ⟨rowCore row, by rw [hcore]; exact fieldCore_facts.2.2, ?_⟩
  rw [flags_eq_mapped hlevel (featuresMap_rowless row hrow), mapped_eq_rowMatches hrow,
    (featuresMap_cores row hrow).2.2, flags_eq_mapped hlevel (featuresMap_rowless other hother),
    mapped_eq_rowMatches hother, hnot]
  by_cases hpauth : other.1 = .pauth
  · simp [hpac hpauth]
  · simp [hpauth]

/-- A row that owns its field is told from each other one. -/
theorem toldApart_of_owns (hown : row.1 ∉ sharingFeatures) (hne : row.1 ≠ other.1) :
    ToldApart row.1 other.1 := by
  by_cases hpac : other.1 = .pauth ∧ row.1 ∈ [CpuFeature.pacimp, .pacqarma3, .pacqarma5]
  · -- an algorithm sets the flag of pointer authentication too, but not the other way round
    obtain ⟨hpauth, halgorithm⟩ := hpac
    have hown' : other.1 ∉ sharingFeatures := by rw [hpauth]; decide
    refine (toldApart_of_rowCore hother hrow
      (rowMatches_rowCore_of_ne hother hown' hrow hne) fun h => ?_).symm
    rw [h] at halgorithm
    exact absurd halgorithm (by decide)
  · refine toldApart_of_rowCore hrow hother (rowMatches_rowCore_of_ne hrow hown hother hne.symm)
      fun hpauth => ?_
    have hnone {f : CpuFeature} (hf : f ∈ [CpuFeature.pacimp, .pacqarma3, .pacqarma5]) :
        mapped (rowCore row) f = false :=
      mapped_eq_false fun row' hrow' heq => rowMatches_rowCore_of_ne hrow hown hrow' fun hsame =>
        hpac ⟨hpauth, by rw [← hsame, heq]; exact hf⟩
    rw [pacMapped, hnone (by decide), hnone (by decide), hnone (by decide)]
    rfl

end Rows

/-- Copied rows report the same on every processor. -/
theorem not_toldApart_of_copied {f g : CpuFeature} (h : Copied f g) : ¬ToldApart f g := by
  have hpair {f g : CpuFeature} (h : (f, g) ∈ copiedRows) : ¬ToldApart f g := by
    rintro ⟨raw, -, hne⟩
    obtain ⟨hf, hg, row, hrow, rfl, other, hother, rfl, hfields⟩ := featuresMap_copied _ h
    rw [loadedArmFeatures_flags, loadedArmFeatures_flags, reports_featureStatuses hf,
      reports_featureStatuses hg, mapped_eq_rowMatches hrow, mapped_eq_rowMatches hother,
      rowMatches, rowMatches, hfields] at hne
    exact hne rfl
  exact h.elim hpair fun h told => hpair h told.symm

/-- Two listed features are told apart exactly when their rows are not copies. -/
theorem toldApart_iff {f g : CpuFeature} (hf : IsMapped f) (hg : IsMapped g) (hne : f ≠ g)
    (hvalue : ¬OneValue f g) : ToldApart f g ↔ ¬Copied f g := by
  refine ⟨fun told copied => not_toldApart_of_copied copied told, fun hcopied => ?_⟩
  obtain ⟨row, hrow, rfl⟩ := hf
  obtain ⟨other, hother, rfl⟩ := hg
  by_cases hown : row.1 ∈ sharingFeatures
  · by_cases hown' : other.1 ∈ sharingFeatures
    · have hpauth : CpuFeature.pauth ∉ sharingFeatures := by decide
      have hmem {row : CpuFeature × ArmFeatureMap} (hrow : row ∈ featuresMap)
          (h : row.1 ∈ sharingFeatures) : row ∈ featuresMap.filter (·.1 ∈ sharingFeatures) :=
        List.mem_filter.mpr ⟨hrow, decide_eq_true h⟩
      rcases featuresMap_sharing row (hmem hrow hown) other (hmem hother hown') with
        h | h | h | h | h
      · exact absurd h hne
      · exact absurd h hvalue
      · exact absurd h hcopied
      · exact toldApart_of_rowCore hrow hother h fun h => absurd (h ▸ hown') hpauth
      · exact (toldApart_of_rowCore hother hrow h fun h => absurd (h ▸ hown) hpauth).symm
    · exact (toldApart_of_owns hother hrow hown' hne.symm).symm
  · exact toldApart_of_owns hrow hother hown hne

theorem toldApart_iff_thumb2 : ToldApart .thumb .thumb2 ↔ ¬Copied .thumb .thumb2 :=
  toldApart_iff (by decide) (by decide) (by decide) (by decide)

/-- The second version of checked pointer arithmetic is flagged exactly where the first one is. -/
theorem not_toldApart_cpa2 : IsMapped .cpa ∧ IsMapped .cpa2 ∧ CpuFeature.cpa ≠ .cpa2 ∧
    ¬OneValue .cpa .cpa2 ∧ ¬ToldApart .cpa .cpa2 := by
  have hpair : (CpuFeature.cpa, CpuFeature.cpa2) ∈ copiedRows := by decide
  obtain ⟨-, -, row, hrow, hcpa, other, hother, hcpa2, -⟩ := featuresMap_copied _ hpair
  exact ⟨⟨row, hrow, hcpa⟩, ⟨other, hother, hcpa2⟩, by decide, by decide,
    not_toldApart_of_copied (.inl hpair)⟩

end LibCpuid
