import LibCpuid.Arm.Ladder
import LibCpuid.Arm.IdFields
import Mathlib.Data.List.TakeWhile

/-! What a higher value in a 4-bit ID field does to the feature flags and to the architecture
level. -/

namespace LibCpuid

/-- The rows of `features_map` take the loop over the ladder of ARMv8-A to ARMv8.3-A. -/
structure ReachesArmV8_3A (raw : CpuRawData) : Prop where
  early : earlyArmLevel raw = .unknown
  v9_0 : ¬OptionalMatch raw .armV9_0A
  v8_0 : OptionalMatch raw .armV8_0A
  v8_1 : MandatoryMatch raw .armV8_1A
  v8_2 : MandatoryMatch raw .armV8_2A
  v8_3 : MandatoryMatch raw .armV8_3A

theorem mem_takeWhile_cons {α : Type} {p : α → Bool} {a b : α} {l : List α} :
    b ∈ (a :: l).takeWhile p ↔ p a = true ∧ (b = a ∨ b ∈ l.takeWhile p) := by
  by_cases ha : p a = true
  · simp [List.takeWhile_cons_of_pos ha, ha]
  · simp [List.takeWhile_cons_of_neg ha, ha]

theorem armV8_3A_mem_takeWhile {raw : CpuRawData} :
    .armV8_3A ∈ architectureArmV8a.takeWhile (loadedArmFeatures raw).2.compliant ↔
      OptionalMatch raw .armV8_0A ∧ MandatoryMatch raw .armV8_1A ∧
        MandatoryMatch raw .armV8_2A ∧ MandatoryMatch raw .armV8_3A ∧ pacMapped raw = true := by
  have h0 := @compliant_optional_iff raw .armV8_0A (by decide)
  have h1 := @compliant_mandatory_iff raw .armV8_1A (by decide)
  have h2 := @compliant_mandatory_iff raw .armV8_2A (by decide)
  have h3 := @compliant_mandatory_iff raw .armV8_3A (by decide)
  simp only [architectureArmV8a, mem_takeWhile_cons, h0, h1, h2, h3]
  simp

/-! ### Rows that are kept -/

/-- Between two raw data, every row that matched still matches, but that of pointer authentication
may not, when an algorithm reports it as well. -/
structure KeepsRows (raw raw' : CpuRawData) : Prop where
  early : earlyArmLevel raw' = earlyArmLevel raw
  rows : ∀ row ∈ featuresMap, rowMatches raw row = true → row.1 ≠ .pauth →
    rowMatches raw' row = true
  pauth : ∀ row ∈ featuresMap, rowMatches raw row = true → row.1 = .pauth →
    rowMatches raw' row = true ∨ (pacMapped raw = true ∧ ¬ReachesArmV8_3A raw)

/-- The rows of the features that `load_arm_features` also sets elsewhere, one pass over the table. -/
theorem featuresMap_elsewhere : ∀ row ∈ featuresMap,
    (row.1 = .pauth → row.2.verOptional = .armV8_2A ∧ row.2.verMandatory = .armV8_3A) ∧
    (row.1 ∈ specialFeatures → row.1 = .pauth ∨ row.2.reached true = []) := by decide +kernel

theorem featuresMap_pauth (row) (hrow : row ∈ featuresMap) (h : row.1 = .pauth) :
    row.2.verOptional = .armV8_2A ∧ row.2.verMandatory = .armV8_3A :=
  (featuresMap_elsewhere row hrow).1 h

/-- Such a row has no AArch64 field, but for pointer authentication. -/
theorem featuresMap_special_aarch64 (row) (hrow : row ∈ featuresMap) (h : row.1 ∈ specialFeatures) :
    row.1 = .pauth ∨ row.2.reached true = [] :=
  (featuresMap_elsewhere row hrow).2 h

namespace KeepsRows

variable {raw raw' : CpuRawData} (h : KeepsRows raw raw')
include h

theorem mapped_of_ne {f : CpuFeature} (hf : f ≠ .pauth) (hm : mapped raw f = true) :
    mapped raw' f = true := by
  rw [mapped, List.any_eq_true] at hm ⊢
  obtain ⟨row, hrow, hr⟩ := hm
  rw [Bool.and_eq_true, decide_eq_true_eq] at hr
  obtain ⟨rfl, hr⟩ := hr
  exact ⟨row, hrow, by simp [h.rows row hrow hr hf]⟩

theorem pac (hp : pacMapped raw = true) : pacMapped raw' = true := by
  simp only [pacMapped, Bool.or_eq_true] at hp ⊢
  exact hp.imp (Or.imp (h.mapped_of_ne (by decide)) (h.mapped_of_ne (by decide)))
    (h.mapped_of_ne (by decide))

theorem optionalMatch {L : CpuFeatureLevel} (hL : L ∈ optionalLevels)
    (hm : OptionalMatch raw L) : OptionalMatch raw' L := by
  obtain ⟨row, hrow, rfl, hr⟩ := hm
  refine ⟨row, hrow, rfl, h.rows row hrow hr fun hp => ?_⟩
  rw [(featuresMap_pauth row hrow hp).1] at hL
  revert hL
  decide

theorem mandatoryMatch {L : CpuFeatureLevel} (hL : L ≠ .armV8_3A)
    (hm : MandatoryMatch raw L) : MandatoryMatch raw' L := by
  intro row hrow hrL
  refine h.rows row hrow (hm row hrow hrL) fun hp => ?_
  rw [(featuresMap_pauth row hrow hp).2] at hrL
  exact hL hrL.symm

theorem compliant {L : CpuFeatureLevel} (hL : L ∈ optionalLevels ++ mandatoryLevels)
    (hne : L ≠ .armV8_3A) (hc : (loadedArmFeatures raw).2.compliant L = true) :
    (loadedArmFeatures raw').2.compliant L = true := by
  rcases List.mem_append.mp hL with hL | hL
  · rw [compliant_optional_iff hL] at hc ⊢
    exact h.optionalMatch hL hc
  · rw [compliant_mandatory_iff hL] at hc ⊢
    exact ⟨h.mandatoryMatch hne hc.1, fun h3 => absurd h3 hne⟩

/-- The level does not fall. -/
theorem levelByCpuid_le : (levelByCpuid raw).value ≤ (levelByCpuid raw').value := by
  by_cases hearly : earlyArmLevel raw = .unknown
  case neg =>
    rw [levelByCpuid_early hearly, levelByCpuid_early (h.early ▸ hearly), h.early]
  have hearly' : earlyArmLevel raw' = .unknown := h.early.trans hearly
  by_cases hv9 : OptionalMatch raw .armV9_0A
  · rw [levelByCpuid_v9 hearly hv9,
      levelByCpuid_v9 hearly' (h.optionalMatch (by decide) hv9)]
    refine ladderLevel_mono architectureArmV9a_sorted fun L hL => ?_
    have hmem : L ∈ optionalLevels :=
      architectureArmV9a_subset (List.takeWhile_subset _ hL)
    refine h.compliant (List.mem_append_left _ hmem) ?_ (List.mem_takeWhile_imp hL)
    rintro rfl
    revert hmem
    decide
  rw [levelByCpuid_v8 hearly hv9]
  by_cases hv9' : OptionalMatch raw' .armV9_0A
  · -- the ladder of ARMv9-A stands above that of ARMv8-A
    have hle : ∀ L ∈ CpuFeatureLevel.unknown :: architectureArmV8a,
        L.value ≤ CpuFeatureLevel.armV9_0A.value := by decide
    rw [levelByCpuid_v9 hearly' hv9']
    refine (hle _ ladderLevel_mem).trans (le_ladderLevel architectureArmV9a_sorted ?_)
    exact mem_takeWhile_cons.mpr ⟨(compliant_optional_iff (by decide)).mpr hv9', .inl rfl⟩
  · rw [levelByCpuid_v8 hearly' hv9']
    refine ladderLevel_mono architectureArmV8a_sorted fun L hL => ?_
    by_cases h3 : L = .armV8_3A
    · -- the loop got to ARMv8.3-A, so the row of pointer authentication is kept
      subst h3
      obtain ⟨h0, h1, h2, h3, hpac⟩ := armV8_3A_mem_takeWhile.mp hL
      refine (compliant_mandatory_iff (by decide)).mpr ⟨fun row hrow hrL => ?_, fun _ =>
        h.pac hpac⟩
      by_cases hp : row.1 = .pauth
      · refine (h.pauth row hrow (h3 row hrow hrL) hp).resolve_right fun hnot => ?_
        exact hnot.2 ⟨hearly, hv9, h0, h1, h2, h3⟩
      · exact h.rows row hrow (h3 row hrow hrL) hp
    · exact h.compliant (architectureArmV8a_subset (List.takeWhile_subset _ hL)) h3
        (List.mem_takeWhile_imp hL)

end KeepsRows

/-! ### Flags -/

/-- Between two raw data, the fields outside `features_map` that `load_arm_feature_mpam` and
`load_arm_feature_mte4` read hold the same, and MTE2 is not lost. -/
structure KeepsExtras (raw raw' : CpuRawData) : Prop where
  mpam : extractsBits (raw'.armIdAa64Pfr 0) 43 40 = extractsBits (raw.armIdAa64Pfr 0) 43 40
  mpamFrac : extractsBits (raw'.armIdAa64Pfr 1) 19 16 = extractsBits (raw.armIdAa64Pfr 1) 19 16
  mteFrac : extractsBits (raw'.armIdAa64Pfr 1) 43 40 = extractsBits (raw.armIdAa64Pfr 1) 43 40
  mtex : extractsBits (raw'.armIdAa64Pfr 1) 55 52 = extractsBits (raw.armIdAa64Pfr 1) 55 52
  mte : 2 ≤ extractsBits (raw.armIdAa64Pfr 1) 11 8 → 2 ≤ extractsBits (raw'.armIdAa64Pfr 1) 11 8

section Flags

variable {raw raw' : CpuRawData}

theorem KeepsExtras.mpamStatuses_eq (h : KeepsExtras raw raw') :
    mpamStatuses raw' = mpamStatuses raw := by
  unfold mpamStatuses
  rw [h.mpam, h.mpamFrac]

theorem KeepsExtras.mteStatuses_subset (h : KeepsExtras raw raw') :
    mteStatuses raw ⊆ mteStatuses raw' := by
  unfold mteStatuses
  dsimp only
  rw [h.mteFrac, h.mtex]
  by_cases hmte : extractsBits (raw.armIdAa64Pfr 1) 11 8 ≥ 2
  · rw [if_pos hmte, if_pos (h.mte hmte)]
    exact List.Subset.refl _
  · rw [if_neg hmte]
    exact List.nil_subset _

theorem reports_of_subset {calls calls' : List FeatureStatus} (h : calls ⊆ calls')
    {f : CpuFeature} (hf : reports calls f = true) : reports calls' f = true := by
  rw [reports, List.any_eq_true] at hf ⊢
  obtain ⟨c, hc, hr⟩ := hf
  exact ⟨c, h hc, hr⟩

/-- A feature that the rows of `features_map` or the algorithms of pointer authentication report. -/
theorem KeepsRows.reports_rows (h : KeepsRows raw raw') {f : CpuFeature}
    (hf : reports (mapStatuses raw ++ [pauthStatus raw]) f = true) :
    reports (mapStatuses raw' ++ [pauthStatus raw']) f = true := by
  have hpauth {raw : CpuRawData} : reports [pauthStatus raw] f = true ↔
      pacMapped raw = true ∧ f = .pauth := by
    simp [reports, pauthStatus]
  rw [reports_append, reports_mapStatuses, Bool.or_eq_true, hpauth] at hf ⊢
  rcases hf with hf | ⟨hpac, rfl⟩
  · by_cases hp : f = .pauth
    · subst hp
      rw [mapped, List.any_eq_true] at hf
      obtain ⟨row, hrow, hr⟩ := hf
      rw [Bool.and_eq_true, decide_eq_true_eq] at hr
      rcases h.pauth row hrow hr.2 hr.1 with hr' | ⟨hpac, -⟩
      · rw [← hr.1, mapped_eq_rowMatches hrow]
        exact .inl hr'
      · exact .inr ⟨h.pac hpac, rfl⟩
    · exact .inl (h.mapped_of_ne hp hf)
  · exact .inr ⟨h.pac hpac, rfl⟩

/-- No flag is lost. -/
theorem KeepsRows.reports_featureStatuses (h : KeepsRows raw raw') (hx : KeepsExtras raw raw')
    {level : CpuFeatureLevel} {f : CpuFeature}
    (hf : reports (featureStatuses raw level) f = true) :
    reports (featureStatuses raw' level) f = true := by
  have hbefore {g : CpuFeature} (hg : reports (statusesBeforeMte4 raw level) g = true) :
      reports (statusesBeforeMte4 raw' level) g = true := by
    unfold statusesBeforeMte4 at hg ⊢
    rw [List.append_assoc (midrStatuses level), reports_append, reports_append, reports_append,
      Bool.or_eq_true, Bool.or_eq_true, Bool.or_eq_true] at hg ⊢
    rw [hx.mpamStatuses_eq]
    exact hg.imp (Or.imp (Or.imp id h.reports_rows) id) (reports_of_subset hx.mteStatuses_subset)
  unfold featureStatuses at hf ⊢
  rw [reports_append, Bool.or_eq_true] at hf ⊢
  refine hf.imp hbefore fun hlast => ?_
  simp only [reports, mte4Status, List.any_cons, List.any_nil, Bool.or_false, Bool.and_eq_true]
    at hlast ⊢
  obtain ⟨⟨⟨⟨h1, h2⟩, h3⟩, h4⟩, h5⟩ := hlast
  exact ⟨⟨⟨⟨hbefore h1, hbefore h2⟩, hbefore h3⟩, hbefore h4⟩, h5⟩

/-- A row that matches reports its feature. -/
theorem reports_of_rowMatches {level : CpuFeatureLevel} {row : CpuFeature × ArmFeatureMap}
    (hrow : row ∈ featuresMap) (hr : rowMatches raw row = true) :
    reports (featureStatuses raw level) row.1 = true := by
  have hmap : reports (mapStatuses raw) row.1 = true := by
    rw [reports_mapStatuses, mapped_eq_rowMatches hrow, hr]
  simp [featureStatuses, statusesBeforeMte4, reports_append, hmap]

end Flags

/-! ### The result of `cpuid_identify_arm` -/

/-- The flags are those that the features load. -/
theorem cpuidIdentifyArm_flags (raw : CpuRawData) (f : CpuFeature) :
    (cpuidIdentifyArm raw armRecord).flags f = reports (featureStatuses raw (midrLevel raw)) f := by
  rw [← loadedArmFeatures_flags]
  unfold cpuidIdentifyArm loadedArmFeatures
  dsimp only
  split <;> rfl

/-- With `0xF` in the MIDR the level is that of the ID registers. -/
theorem cpuidIdentifyArm_featureLevel {raw : CpuRawData}
    (harch : extractsBits raw.armMidr 19 16 = 0xf) :
    (cpuidIdentifyArm raw armRecord).featureLevel = levelByCpuid raw := by
  have hnone : decodeArmArchitectureVersionByMidr raw = none := by
    unfold decodeArmArchitectureVersionByMidr
    rw [harch]
    rfl
  unfold cpuidIdentifyArm levelByCpuid loadedArmFeatures
  dsimp only
  rw [hnone]

theorem midrLevel_setReg64 (raw : CpuRawData) (reg : ArmReg64) (x : BitVec 64) :
    midrLevel (raw.setReg64 reg x) = midrLevel raw := by
  cases reg <;> rfl

/-! ### A higher value in an ID field -/

/-- The listed 4-bit fields are not those that `load_arm_feature_mpam` and `load_arm_feature_mte4`
read for themselves, the version of MTE apart. -/
theorem mapFields_extras : ∀ field ∈ mapFields, field.highbit = field.lowbit + 3 →
    (field.aarch64Reg = some (.pfr 0) → field.lowbit ≠ 40) ∧
      (field.aarch64Reg = some (.pfr 1) →
        field.lowbit ≠ 16 ∧ field.lowbit ≠ 40 ∧ field.lowbit ≠ 52) := by decide +kernel

/-- The rows of the algorithms of pointer authentication, and of ARMv9.0-A. -/
def apartFromPauth : List (CpuFeature × ArmFeatureMap) :=
  featuresMap.filter fun row => row.1 = .pacimp || row.1 = .pacqarma3 || row.1 = .pacqarma5 ||
    row.2.verOptional = .armV9_0A

/-- They share no bit with the 4-bit fields of pointer authentication. -/
theorem apartFromPauth_disjoint : ∀ row ∈ featuresMap, row.1 = .pauth →
    ∀ field ∈ row.2.fields, field.highbit = field.lowbit + 3 ∧
      ∀ other ∈ apartFromPauth.flatMap (·.2.fields), other.aarch64Reg = field.aarch64Reg →
        other.highbit < field.lowbit ∨ field.highbit < other.lowbit := by decide +kernel

section SetIdField

variable {raw : CpuRawData} {reg : ArmReg64} {lowbit v w : Nat}
  (hmode : isAarch64Mode raw = true) (hv : ListsValue reg lowbit v)
  (hw : ListsValue reg lowbit w) (hpos : 0 < v) (hvw : v < w)
  (hraw : extractsBits (raw.reg64 reg) (lowbit + 3) lowbit = v)

theorem ListsValue.extras {reg : ArmReg64} {lowbit v : Nat} (h : ListsValue reg lowbit v) :
    (reg = .pfr 0 → lowbit ≠ 40) ∧ (reg = .pfr 1 → lowbit ≠ 16 ∧ lowbit ≠ 40 ∧ lowbit ≠ 52) := by
  obtain ⟨row, hrow, field, hfield, ⟨hreg, hhigh, rfl, rfl⟩⟩ := h
  have := mapFields_extras field (mem_mapFields hrow hfield) hhigh
  rw [hreg] at this
  exact ⟨fun h => this.1 (h ▸ rfl), fun h => this.2 (h ▸ rfl)⟩

include hv hw hvw hraw in
theorem keepsExtras_setIdField : KeepsExtras raw (raw.setIdField reg lowbit w) := by
  obtain ⟨hlow, hmod, hw16⟩ := hw.bounds
  obtain ⟨hpfr0, hpfr1⟩ := hw.extras
  have hsame (reg' : ArmReg64) (low : Nat) (hlow4 : low % 4 = 0)
      (hne : reg = reg' → lowbit ≠ low) :
      extractsBits ((raw.setIdField reg lowbit w).reg64 reg') (low + 3) low =
        extractsBits (raw.reg64 reg') (low + 3) low := by
    refine extractsBits_setIdField_of_disjoint hlow hw16 (by omega) ?_
    by_cases hr : reg' = reg
    · have := hne hr.symm
      exact .inr (by omega)
    · exact .inl hr
  refine ⟨hsame (.pfr 0) 40 (by decide) hpfr0,
    hsame (.pfr 1) 16 (by decide) fun h => (hpfr1 h).1,
    hsame (.pfr 1) 40 (by decide) fun h => (hpfr1 h).2.1,
    hsame (.pfr 1) 52 (by decide) fun h => (hpfr1 h).2.2, fun hmte => ?_⟩
  by_cases h : reg = .pfr 1 ∧ lowbit = 8
  · obtain ⟨rfl, rfl⟩ := h
    have hself := @extractsBits_setIdField_self raw (.pfr 1) _ _ hlow hw16
    have h1 : extractsBits (raw.armIdAa64Pfr 1) 11 8 = v := hraw
    have h2 : extractsBits ((raw.setIdField (.pfr 1) 8 w).armIdAa64Pfr 1) 11 8 = w := hself
    omega
  · have := hsame (.pfr 1) 8 (by decide) fun hr hl => h ⟨hr, hl⟩
    exact this.symm ▸ hmte

include hmode hv hw hpos hvw hraw

theorem keepsRows_setIdField
    (hcond : ∀ row ∈ featuresMap, MatchesThrough raw reg lowbit row.2 →
      MatchesWith raw reg lowbit w row.2 ∨
        (row.1 = .pauth ∧ pacMapped raw = true ∧ ¬ReachesArmV8_3A raw)) :
    KeepsRows raw (raw.setIdField reg lowbit w) := by
  have hkept {row : CpuFeature × ArmFeatureMap} (hrow : row ∈ featuresMap) :=
    rowMatches_setIdField_iff hv hw hraw hmode (hpos.trans hvw) hvw.ne hrow
  refine ⟨earlyArmLevel_setReg64 .., fun row hrow hr hne => ?_, fun row hrow hr hp => ?_⟩
  · refine (hkept hrow).mpr (fun hthrough => ?_) hr
    exact (hcond row hrow hthrough).resolve_right fun h => hne h.1
  · by_cases hthrough : MatchesThrough raw reg lowbit row.2
    · rcases hcond row hrow hthrough with hwith | ⟨-, h⟩
      · exact .inl ((hkept hrow).mpr (fun _ => hwith) hr)
      · exact .inr h
    · exact .inl ((hkept hrow).mpr (fun h => absurd h hthrough) hr)

/-- Where the row of pointer authentication matches through the field, the rows that are apart from
it match as they did. -/
theorem rowMatches_apartFromPauth {pauth : CpuFeature × ArmFeatureMap} (hpauth : pauth ∈ featuresMap)
    (hp : pauth.1 = .pauth) (hthrough : MatchesThrough raw reg lowbit pauth.2)
    {row : CpuFeature × ArmFeatureMap} (hrow : row ∈ apartFromPauth) :
    rowMatches (raw.setIdField reg lowbit w) row = rowMatches raw row := by
  obtain ⟨field, hfield, hcovers, -⟩ := hthrough
  obtain ⟨hfour, hapart⟩ := apartFromPauth_disjoint pauth hpauth hp field
    (List.takeWhile_subset _ hfield)
  refine rowMatches_setIdField_of_not_covers hv hw hraw hmode (hpos.trans hvw)
    (List.mem_of_mem_filter hrow) fun other hother hcovers' => ?_
  have := hapart other (List.mem_flatMap.mpr ⟨row, hrow, hother⟩)
    (hcovers'.reg_eq.trans hcovers.reg_eq.symm)
  have h1 := hcovers.lowbit_le
  have h2 := hcovers.le_highbit
  have h3 := hcovers'.lowbit_le
  have h4 := hcovers'.le_highbit
  omega

/-- Without its row, the level stays below ARMv8.3-A where the loop got to it. -/
theorem levelByCpuid_lt_of_lost {row : CpuFeature × ArmFeatureMap} (hrow : row ∈ featuresMap)
    (hp : row.1 = .pauth) (hthrough : MatchesThrough raw reg lowbit row.2)
    (hlost : rowMatches (raw.setIdField reg lowbit w) row = false) (hpac : pacMapped raw = true)
    (hreaches : ReachesArmV8_3A raw) :
    (levelByCpuid (raw.setIdField reg lowbit w)).value < (levelByCpuid raw).value := by
  have hv9 : ¬OptionalMatch (raw.setIdField reg lowbit w) .armV9_0A := by
    rintro ⟨row', hrow', ho, hr'⟩
    have happart : row' ∈ apartFromPauth := List.mem_filter.mpr ⟨hrow', by simp [ho]⟩
    rw [rowMatches_apartFromPauth hmode hv hw hpos hvw hraw hrow hp hthrough happart] at hr'
    exact hreaches.v9_0 ⟨row', hrow', ho, hr'⟩
  have hnot : (loadedArmFeatures (raw.setIdField reg lowbit w)).2.compliant .armV8_3A = false := by
    rw [Bool.eq_false_iff, ne_eq, compliant_mandatory_iff (by decide)]
    rintro ⟨hm, -⟩
    rw [hm row hrow (featuresMap_pauth row hrow hp).2] at hlost
    cases hlost
  have hearly : earlyArmLevel (raw.setIdField reg lowbit w) = .unknown :=
    (earlyArmLevel_setReg64 ..).trans hreaches.early
  rw [levelByCpuid_v8 hreaches.early hreaches.v9_0, levelByCpuid_v8 hearly hv9]
  refine (ladderLevel_lt architectureArmV8a_sorted (by decide) hnot).trans_le
    (le_ladderLevel architectureArmV8a_sorted ?_)
  exact armV8_3A_mem_takeWhile.mpr
    ⟨hreaches.v8_0, hreaches.v8_1, hreaches.v8_2, hreaches.v8_3, hpac⟩

/-- The algorithms of pointer authentication are those that there were. -/
theorem pacMapped_of_pauth {row : CpuFeature × ArmFeatureMap} (hrow : row ∈ featuresMap)
    (hp : row.1 = .pauth) (hthrough : MatchesThrough raw reg lowbit row.2)
    (hpac : pacMapped (raw.setIdField reg lowbit w) = true) : pacMapped raw = true := by
  have hsame {f : CpuFeature} (hf : f = .pacimp ∨ f = .pacqarma3 ∨ f = .pacqarma5)
      (hm : mapped (raw.setIdField reg lowbit w) f = true) : mapped raw f = true := by
    rw [mapped, List.any_eq_true] at hm ⊢
    obtain ⟨row', hrow', hr'⟩ := hm
    rw [Bool.and_eq_true, decide_eq_true_eq] at hr'
    have happart : row' ∈ apartFromPauth := by
      refine List.mem_filter.mpr ⟨hrow', ?_⟩
      rw [hr'.1]
      rcases hf with rfl | rfl | rfl <;> simp
    rw [rowMatches_apartFromPauth hmode hv hw hpos hvw hraw hrow hp hthrough happart] at hr'
    exact ⟨row', hrow', by simp [hr']⟩
  simp only [pacMapped, Bool.or_eq_true] at hpac ⊢
  exact hpac.imp (Or.imp (hsame (.inl rfl)) (hsame (.inr (.inl rfl))))
    (hsame (.inr (.inr rfl)))

/-- A row whose feature is not lost, with a level that does not fall, matches with the new value or
is that of pointer authentication. -/
theorem matchesWith_of_le
    (hlevel : (levelByCpuid raw).value ≤ (levelByCpuid (raw.setIdField reg lowbit w)).value)
    {row : CpuFeature × ArmFeatureMap} (hrow : row ∈ featuresMap)
    {level : CpuFeatureLevel}
    (hflag : reports (featureStatuses raw level) row.1 = true →
      reports (featureStatuses (raw.setIdField reg lowbit w) level) row.1 = true)
    (hthrough : MatchesThrough raw reg lowbit row.2) :
    MatchesWith raw reg lowbit w row.2 ∨
      (row.1 = .pauth ∧ pacMapped raw = true ∧ ¬ReachesArmV8_3A raw) := by
  have hkept := rowMatches_setIdField_iff hv hw hraw hmode (hpos.trans hvw) hvw.ne hrow
  have hr : rowMatches raw row = true := by
    obtain ⟨field, hfield, -, hm⟩ := hthrough
    exact (rowMatches_iff hmode).mpr ⟨field, hfield, hm⟩
  cases hlost : rowMatches (raw.setIdField reg lowbit w) row with
  | true => exact .inl (hkept.mp (fun _ => hlost) hthrough)
  | false =>
    have hreports := hflag (reports_of_rowMatches hrow hr)
    by_cases hspecial : row.1 ∈ specialFeatures
    · rcases featuresMap_special_aarch64 row hrow hspecial with hp | hnil
      · rw [hp, reports_featureStatuses_pauth, ← hp, mapped_eq_rowMatches hrow, hlost,
          Bool.false_or] at hreports
        have hpac := pacMapped_of_pauth hmode hv hw hpos hvw hraw hrow hp hthrough hreports
        refine .inr ⟨hp, hpac, fun hreaches => ?_⟩
        exact (levelByCpuid_lt_of_lost hmode hv hw hpos hvw hraw hrow hp hthrough hlost hpac
          hreaches).not_ge hlevel
      · obtain ⟨field, hfield, -⟩ := hthrough
        rw [hnil] at hfield
        cases hfield
    · rw [reports_featureStatuses hspecial, mapped_eq_rowMatches hrow, hlost] at hreports
      cases hreports

end SetIdField

/-- A higher listed value `w` in place of the value `v` of a 4-bit ID field neither lowers the
feature level nor clears a flag, if and only if each row of `features_map` that `v` makes match also
lists `w` or matches by another field; but the row of pointer authentication may be lost where an
algorithm sets the flag as well and the level does not depend on the row. -/
theorem cpuidIdentifyArm_mono_iff {raw : CpuRawData} {reg : ArmReg64} {lowbit v w : Nat}
    (hmode : isAarch64Mode raw = true) (harch : extractsBits raw.armMidr 19 16 = 0xf)
    (hv : ListsValue reg lowbit v) (hw : ListsValue reg lowbit w) (hpos : 0 < v) (hvw : v < w)
    (hraw : extractsBits (raw.reg64 reg) (lowbit + 3) lowbit = v) :
    ((cpuidIdentifyArm raw armRecord).featureLevel.value ≤
          (cpuidIdentifyArm (raw.setIdField reg lowbit w) armRecord).featureLevel.value ∧
        ∀ f, (cpuidIdentifyArm raw armRecord).flags f = true →
          (cpuidIdentifyArm (raw.setIdField reg lowbit w) armRecord).flags f = true) ↔
      ∀ row ∈ featuresMap, MatchesThrough raw reg lowbit row.2 →
        MatchesWith raw reg lowbit w row.2 ∨
          (row.1 = .pauth ∧ pacMapped raw = true ∧ ¬ReachesArmV8_3A raw) := by
  have hmidr : (raw.setIdField reg lowbit w).armMidr = raw.armMidr := armMidr_setReg64 ..
  have hlevel : midrLevel (raw.setIdField reg lowbit w) = midrLevel raw := midrLevel_setReg64 ..
  rw [cpuidIdentifyArm_featureLevel harch, cpuidIdentifyArm_featureLevel (hmidr ▸ harch)]
  simp only [cpuidIdentifyArm_flags, hlevel]
  constructor
  · rintro ⟨hle, hflags⟩ row hrow hthrough
    exact matchesWith_of_le hmode hv hw hpos hvw hraw hle hrow (hflags row.1) hthrough
  · intro hcond
    have hrows := keepsRows_setIdField hmode hv hw hpos hvw hraw hcond
    have hextras := keepsExtras_setIdField hv hw hvw hraw
    exact ⟨hrows.levelByCpuid_le, fun f => hrows.reports_featureStatuses hextras⟩

/-- An AArch64 core with the given `ID_AA64ISAR0_EL1` and `ID_AA64MMFR1_EL1`. -/
def mmfr1Core (isar0 mmfr1 : BitVec 64) : CpuRawData :=
  { CpuRawData.zero with
    armMidr := 0x410fd0a0
    armIdAa64Isar := fun i => if i = 0 then isar0 else 0
    armIdAa64Mmfr := fun i => if i = 1 then mmfr1 else 0
    armIdAa64Pfr := fun i => if i = 0 then 0x11 else 0 }

/-- The row of HAFDBS lists both values of its field. -/
theorem cpuidIdentifyArm_mono_hafdbs :
    (cpuidIdentifyArm (mmfr1Core 0 1) armRecord).featureLevel.value ≤
        (cpuidIdentifyArm ((mmfr1Core 0 1).setIdField (.mmfr 1) 0 2) armRecord).featureLevel.value ∧
      ∀ f, (cpuidIdentifyArm (mmfr1Core 0 1) armRecord).flags f = true →
        (cpuidIdentifyArm ((mmfr1Core 0 1).setIdField (.mmfr 1) 0 2) armRecord).flags f = true := by
  have hrows : ∀ row ∈ featuresMap, MatchesThrough (mmfr1Core 0 1) (.mmfr 1) 0 row.2 →
      MatchesWith (mmfr1Core 0 1) (.mmfr 1) 0 2 row.2 := by decide +kernel
  exact (cpuidIdentifyArm_mono_iff (by decide) (by decide) (by decide +kernel)
    (by decide +kernel) (by decide) (by decide : 1 < 2) (by decide)).mpr
      fun row hrow h => .inl (hrows row hrow h)

/-- The row of PAN lists the value 1 alone, and is mandatory from ARMv8.1-A. -/
theorem cpuidIdentifyArm_not_mono_pan :
    (isAarch64Mode (mmfr1Core 0x00210000 0x00111000) = true ∧
      extractsBits (mmfr1Core 0x00210000 0x00111000).armMidr 19 16 = 0xf ∧
      ListsValue (.mmfr 1) 20 1 ∧ ListsValue (.mmfr 1) 20 2 ∧
      extractsBits ((mmfr1Core 0x00210000 0x00111000).reg64 (.mmfr 1)) 23 20 = 1) ∧
    (cpuidIdentifyArm (mmfr1Core 0x00210000 0x00111000) armRecord).featureLevel = .armV8_1A ∧
    (cpuidIdentifyArm ((mmfr1Core 0x00210000 0x00111000).setIdField (.mmfr 1) 20 2)
      armRecord).featureLevel = .armV8_0A ∧
    (cpuidIdentifyArm (mmfr1Core 0x00210000 0x00111000) armRecord).flags .pan = true ∧
    (cpuidIdentifyArm ((mmfr1Core 0x00210000 0x00111000).setIdField (.mmfr 1) 20 2)
      armRecord).flags .pan = false := by
  refine ⟨by decide +kernel, ?_⟩
  decide +kernel

end LibCpuid
