import LibCpuid.Arm.Compliance

/-! Another value in a 4-bit field of an AArch64 ID register: which rows of `features_map` see it. -/

namespace LibCpuid

open CLang

/-- The raw data with another value in an AArch64 register. -/
def CpuRawData.setReg64 (raw : CpuRawData) : ArmReg64 → BitVec 64 → CpuRawData
  | .dfr i, x => { raw with armIdAa64Dfr := Function.update raw.armIdAa64Dfr i x }
  | .fpfr i, x => { raw with armIdAa64Fpfr := Function.update raw.armIdAa64Fpfr i x }
  | .isar i, x => { raw with armIdAa64Isar := Function.update raw.armIdAa64Isar i x }
  | .mmfr i, x => { raw with armIdAa64Mmfr := Function.update raw.armIdAa64Mmfr i x }
  | .pfr i, x => { raw with armIdAa64Pfr := Function.update raw.armIdAa64Pfr i x }
  | .smfr i, x => { raw with armIdAa64Smfr := Function.update raw.armIdAa64Smfr i x }
  | .zfr i, x => { raw with armIdAa64Zfr := Function.update raw.armIdAa64Zfr i x }

/-- The raw data with the value `v` in the four bits of a register from `lowbit` on. -/
def CpuRawData.setIdField (raw : CpuRawData) (reg : ArmReg64) (lowbit v : Nat) : CpuRawData :=
  raw.setReg64 reg (.ofNat 64 (setField (raw.reg64 reg).toNat lowbit 4 v))

/-- A field of `features_map` is the 4-bit field of an AArch64 register, with the given value. -/
structure ArmFeatureField.IsIdField (field : ArmFeatureField) (reg : ArmReg64)
    (lowbit value : Nat) : Prop where
  reg_eq : field.aarch64Reg = some reg
  highbit_eq : field.highbit = lowbit + 3
  lowbit_eq : field.lowbit = lowbit
  value_eq : field.value = value

/-- The bits of a field of `features_map` include the 4-bit field. -/
structure ArmFeatureField.Covers (field : ArmFeatureField) (reg : ArmReg64) (lowbit : Nat) :
    Prop where
  reg_eq : field.aarch64Reg = some reg
  lowbit_le : field.lowbit ≤ lowbit
  le_highbit : lowbit + 3 ≤ field.highbit

instance (field : ArmFeatureField) (reg : ArmReg64) (lowbit value : Nat) :
    Decidable (field.IsIdField reg lowbit value) :=
  decidable_of_iff (field.aarch64Reg = some reg ∧ field.highbit = lowbit + 3 ∧
      field.lowbit = lowbit ∧ field.value = value)
    ⟨fun ⟨h1, h2, h3, h4⟩ => ⟨h1, h2, h3, h4⟩, fun ⟨h1, h2, h3, h4⟩ => ⟨h1, h2, h3, h4⟩⟩

instance (field : ArmFeatureField) (reg : ArmReg64) (lowbit : Nat) :
    Decidable (field.Covers reg lowbit) :=
  decidable_of_iff (field.aarch64Reg = some reg ∧ field.lowbit ≤ lowbit ∧
      lowbit + 3 ≤ field.highbit)
    ⟨fun ⟨h1, h2, h3⟩ => ⟨h1, h2, h3⟩, fun ⟨h1, h2, h3⟩ => ⟨h1, h2, h3⟩⟩

/-- `features_map` lists a value of the 4-bit field. -/
def ListsValue (reg : ArmReg64) (lowbit value : Nat) : Prop :=
  ∃ row ∈ featuresMap, ∃ field ∈ row.2.fields, field.IsIdField reg lowbit value

instance (reg : ArmReg64) (lowbit value : Nat) : Decidable (ListsValue reg lowbit value) :=
  inferInstanceAs (Decidable (∃ row ∈ featuresMap, ∃ field ∈ row.2.fields, _))

/-- A row matches through the 4-bit field. -/
def MatchesThrough (raw : CpuRawData) (reg : ArmReg64) (lowbit : Nat) (map : ArmFeatureMap) :
    Prop :=
  ∃ field ∈ map.reached true, field.Covers reg lowbit ∧ field.Matches true raw

instance (raw : CpuRawData) (reg : ArmReg64) (lowbit : Nat) (map : ArmFeatureMap) :
    Decidable (MatchesThrough raw reg lowbit map) :=
  inferInstanceAs (Decidable (∃ field ∈ map.reached true, _))

/-- A row lists the value `w` of the 4-bit field too, or another field of it matches. -/
def MatchesWith (raw : CpuRawData) (reg : ArmReg64) (lowbit w : Nat) (map : ArmFeatureMap) :
    Prop :=
  (∃ field ∈ map.reached true, field.IsIdField reg lowbit w) ∨
    ∃ field ∈ map.reached true, ¬field.Covers reg lowbit ∧ field.Matches true raw

instance (raw : CpuRawData) (reg : ArmReg64) (lowbit w : Nat) (map : ArmFeatureMap) :
    Decidable (MatchesWith raw reg lowbit w map) :=
  inferInstanceAs (Decidable ((∃ field ∈ map.reached true, _) ∨ ∃ field ∈ map.reached true, _))

/-! ### Registers -/

section SetReg

variable (raw : CpuRawData) (reg : ArmReg64) (x : BitVec 64)

theorem reg64_setReg64_self : (raw.setReg64 reg x).reg64 reg = x := by
  cases reg <;> simp [CpuRawData.setReg64, CpuRawData.reg64]

theorem reg64_setReg64_of_ne {reg' : ArmReg64} (h : reg' ≠ reg) :
    (raw.setReg64 reg x).reg64 reg' = raw.reg64 reg' := by
  cases reg <;> cases reg' <;> simp_all [CpuRawData.setReg64, CpuRawData.reg64]

@[simp] theorem armMidr_setReg64 : (raw.setReg64 reg x).armMidr = raw.armMidr := by
  cases reg <;> rfl

@[simp] theorem reg32_setReg64 (r : ArmReg32) : (raw.setReg64 reg x).reg32 r = raw.reg32 r := by
  cases reg <;> rfl

/-- The early level is that of the AArch32 registers. -/
theorem earlyArmLevel_setReg64 : earlyArmLevel (raw.setReg64 reg x) = earlyArmLevel raw := by
  cases reg <;> rfl

theorem isAarch64Mode_iff : isAarch64Mode raw = true ↔
    raw.armIdAa64Afr 0 ≠ 0 ∨ raw.reg64 (.dfr 0) ≠ 0 ∨ raw.reg64 (.isar 0) ≠ 0 ∨
      raw.reg64 (.mmfr 0) ≠ 0 ∨ raw.reg64 (.pfr 0) ≠ 0 := by
  simp [isAarch64Mode, CpuRawData.reg64, or_assoc]

/-- A register that does not become zero keeps the mode. -/
theorem isAarch64Mode_setReg64 (hmode : isAarch64Mode raw = true) (hx : x ≠ 0) :
    isAarch64Mode (raw.setReg64 reg x) = true := by
  have hafr : (raw.setReg64 reg x).armIdAa64Afr = raw.armIdAa64Afr := by cases reg <;> rfl
  have hreg {r : ArmReg64} (h : raw.reg64 r ≠ 0) : (raw.setReg64 reg x).reg64 r ≠ 0 := by
    by_cases hr : r = reg
    · rw [hr, reg64_setReg64_self]
      exact hx
    · rwa [reg64_setReg64_of_ne _ _ _ hr]
  rw [isAarch64Mode_iff] at hmode ⊢
  rw [hafr]
  exact hmode.imp id (Or.imp hreg (Or.imp hreg (Or.imp hreg hreg)))

end SetReg

/-! ### Fields -/

/-- The fields of the rows, one pass over the table. -/
theorem featuresMap_fields : ∀ row ∈ featuresMap, ∀ field ∈ row.2.fields,
    (field.lowbit ≤ field.highbit ∧ field.highbit < 64 ∧
      (field.highbit = field.lowbit + 3 → field.aarch64Reg ≠ none →
        field.lowbit % 4 = 0 ∧ field.value < 16)) ∧
    (field.highbit ≠ field.lowbit + 3 → ∀ other ∈ row.2.fields,
      other.aarch64Reg = field.aarch64Reg →
        other = field ∨ other.highbit < field.lowbit ∨ field.highbit < other.lowbit) := by
  decide +kernel

section Row

variable {row : CpuFeature × ArmFeatureMap} (hrow : row ∈ featuresMap) {field : ArmFeatureField}
  (hfield : field ∈ row.2.fields)
include hrow hfield

/-- The 4-bit fields stand at multiples of four bits inside their registers. -/
theorem featuresMap_aligned : field.lowbit ≤ field.highbit ∧ field.highbit < 64 ∧
    (field.highbit = field.lowbit + 3 → field.aarch64Reg ≠ none →
      field.lowbit % 4 = 0 ∧ field.value < 16) :=
  (featuresMap_fields row hrow field hfield).1

/-- A field of another width shares no bit with another field of its row. -/
theorem featuresMap_alone (hwide : field.highbit ≠ field.lowbit + 3) : ∀ other ∈ row.2.fields,
    other.aarch64Reg = field.aarch64Reg →
      other = field ∨ other.highbit < field.lowbit ∨ field.highbit < other.lowbit :=
  (featuresMap_fields row hrow field hfield).2 hwide

end Row

/-- The fields of all rows. -/
def mapFields : List ArmFeatureField := featuresMap.flatMap (·.2.fields)

theorem mem_mapFields {row : CpuFeature × ArmFeatureMap} (hrow : row ∈ featuresMap)
    {field : ArmFeatureField} (hfield : field ∈ row.2.fields) : field ∈ mapFields :=
  List.mem_flatMap.mpr ⟨row, hrow, hfield⟩

/-- A field of another width shares no bit with a listed 4-bit field, includes it, or begins at its
topmost bit, which the listed values leave clear. -/
theorem mapFields_wide : ∀ field ∈ mapFields, field.highbit ≠ field.lowbit + 3 →
    ∀ other ∈ mapFields, other.aarch64Reg = field.aarch64Reg →
      other.highbit = other.lowbit + 3 →
        field.highbit < other.lowbit ∨ other.highbit < field.lowbit ∨
          (field.lowbit ≤ other.lowbit ∧ other.highbit ≤ field.highbit) ∨
          (field.lowbit = other.lowbit + 3 ∧ other.value < 8) := by decide +kernel

theorem ListsValue.bounds {reg : ArmReg64} {lowbit v : Nat} (h : ListsValue reg lowbit v) :
    lowbit + 4 ≤ 64 ∧ lowbit % 4 = 0 ∧ v < 2 ^ 4 := by
  obtain ⟨row, hrow, field, hfield, ⟨hreg, hhigh, rfl, rfl⟩⟩ := h
  obtain ⟨-, hlt, hfour⟩ := featuresMap_aligned hrow hfield
  obtain ⟨hmod, hval⟩ := hfour hhigh (by simp [hreg])
  exact ⟨by omega, hmod, hval⟩

/-- How a field of another width lies to a 4-bit field that lists a value. -/
theorem ListsValue.overlap {reg : ArmReg64} {lowbit v : Nat} (h : ListsValue reg lowbit v)
    {field : ArmFeatureField} (hfield : field ∈ mapFields) (hreg : field.aarch64Reg = some reg)
    (hwide : field.highbit ≠ field.lowbit + 3) :
    field.highbit < lowbit ∨ lowbit + 3 < field.lowbit ∨
      (field.lowbit ≤ lowbit ∧ lowbit + 3 ≤ field.highbit) ∨
      (field.lowbit = lowbit + 3 ∧ v < 8) := by
  obtain ⟨row, hrow, other, hother, ⟨hreg', hhigh, rfl, rfl⟩⟩ := h
  have := mapFields_wide field hfield hwide other (mem_mapFields hrow hother)
    (hreg'.trans hreg.symm) hhigh
  rwa [hhigh] at this

section SetIdField

variable {raw : CpuRawData} {reg : ArmReg64} {lowbit v : Nat}

theorem toNat_setIdField (hlow : lowbit + 4 ≤ 64) (hv : v < 2 ^ 4) :
    ((raw.setIdField reg lowbit v).reg64 reg).toNat =
      setField (raw.reg64 reg).toNat lowbit 4 v := by
  rw [CpuRawData.setIdField, reg64_setReg64_self, BitVec.toNat_ofNat]
  exact Nat.mod_eq_of_lt (setField_lt (raw.reg64 reg).isLt hv hlow)

/-- The field holds the value that was set. -/
theorem extractsBits_setIdField_self (hlow : lowbit + 4 ≤ 64) (hv : v < 2 ^ 4) :
    extractsBits ((raw.setIdField reg lowbit v).reg64 reg) (lowbit + 3) lowbit = v := by
  rw [extractsBits_eq_field, toNat_setIdField hlow hv, show lowbit + 3 - lowbit + 1 = 4 by omega,
    field_setField_self hv]

/-- The other bits hold what they held. -/
theorem extractsBits_setIdField_of_disjoint (hlow : lowbit + 4 ≤ 64) (hv : v < 2 ^ 4)
    {reg' : ArmReg64} {high' low' : Nat} (hle : low' ≤ high')
    (h : reg' ≠ reg ∨ high' < lowbit ∨ lowbit + 4 ≤ low') :
    extractsBits ((raw.setIdField reg lowbit v).reg64 reg') high' low' =
      extractsBits (raw.reg64 reg') high' low' := by
  by_cases hr : reg' = reg
  · subst hr
    rw [extractsBits_eq_field, extractsBits_eq_field, toNat_setIdField hlow hv,
      field_setField_disjoint hv]
    rcases h with h | h | h
    · exact absurd rfl h
    · left
      omega
    · right
      exact h
  · rw [CpuRawData.setIdField, reg64_setReg64_of_ne _ _ _ hr]

theorem isAarch64Mode_setIdField (hlow : lowbit + 4 ≤ 64) (hv : v < 2 ^ 4) (hpos : 0 < v)
    (hmode : isAarch64Mode raw = true) :
    isAarch64Mode (raw.setIdField reg lowbit v) = true := by
  refine isAarch64Mode_setReg64 raw reg _ hmode fun h0 => ?_
  have hself := @extractsBits_setIdField_self raw reg _ _ hlow hv
  rw [CpuRawData.setIdField, reg64_setReg64_self, h0, extractsBits_zero] at hself
  omega

/-- A row matches when one of the fields that the loop gets to does. -/
theorem rowMatches_iff (hmode : isAarch64Mode raw = true) {row : CpuFeature × ArmFeatureMap} :
    rowMatches raw row = true ↔ ∃ field ∈ row.2.reached true, field.Matches true raw := by
  rw [rowMatches, hmode, matchArmFields_iff]
  simp [ArmFeatureMap.reached]

theorem matches_iff {field : ArmFeatureField} : field.Matches true raw ↔
    ∃ reg, field.aarch64Reg = some reg ∧
      extractsBits (raw.reg64 reg) field.highbit field.lowbit = field.value := by
  simp [ArmFeatureField.Matches, ArmFeatureField.regValue, ArmFeatureField.isPresent]

theorem matches_of_reg_eq {field : ArmFeatureField} (h : field.aarch64Reg = some reg) :
    field.Matches true raw ↔
      extractsBits (raw.reg64 reg) field.highbit field.lowbit = field.value := by
  simp [matches_iff, h]

theorem ArmFeatureField.IsIdField.matches_iff {field : ArmFeatureField} {value : Nat}
    (h : field.IsIdField reg lowbit value) :
    field.Matches true raw ↔ extractsBits (raw.reg64 reg) (lowbit + 3) lowbit = value := by
  rw [matches_of_reg_eq h.reg_eq, h.highbit_eq, h.lowbit_eq, h.value_eq]

/-- A field that covers the 4-bit field fixes its value. -/
theorem ArmFeatureField.Covers.value_eq {field : ArmFeatureField} (h : field.Covers reg lowbit)
    {raw' : CpuRawData} (hm : field.Matches true raw) (hm' : field.Matches true raw') :
    extractsBits (raw.reg64 reg) (lowbit + 3) lowbit =
      extractsBits (raw'.reg64 reg) (lowbit + 3) lowbit := by
  have hlow := h.lowbit_le
  have hhigh := h.le_highbit
  rw [matches_of_reg_eq h.reg_eq, extractsBits_eq_field] at hm hm'
  have hinside (x : Nat) : CLang.field x lowbit 4 =
      CLang.field (CLang.field x field.lowbit (field.highbit - field.lowbit + 1))
        (lowbit - field.lowbit) 4 := by
    rw [field_field (by omega), Nat.add_sub_cancel' hlow]
  rw [extractsBits_eq_field, extractsBits_eq_field, show lowbit + 3 - lowbit + 1 = 4 by omega,
    hinside, hinside (raw'.reg64 reg).toNat, hm, hm']

variable {w : Nat} (hv : ListsValue reg lowbit v) (hw : ListsValue reg lowbit w)
  (hraw : extractsBits (raw.reg64 reg) (lowbit + 3) lowbit = v)
include hv hw hraw

/-- A field that does not cover the 4-bit field matches as it did. -/
theorem matches_setIdField_of_not_covers {row : CpuFeature × ArmFeatureMap}
    (hrow : row ∈ featuresMap) {field : ArmFeatureField} (hfield : field ∈ row.2.fields)
    (hnot : ¬field.Covers reg lowbit) :
    field.Matches true (raw.setIdField reg lowbit w) ↔ field.Matches true raw := by
  obtain ⟨hlow, hmod, hw16⟩ := hw.bounds
  obtain ⟨hle, hlt, hfour⟩ := featuresMap_aligned hrow hfield
  have hsame (reg' : ArmReg64) (hreg' : field.aarch64Reg = some reg') :
      extractsBits ((raw.setIdField reg lowbit w).reg64 reg') field.highbit field.lowbit =
        extractsBits (raw.reg64 reg') field.highbit field.lowbit := by
    by_cases hne : reg' = reg
    · subst hne
      have hcover : ¬(field.lowbit ≤ lowbit ∧ lowbit + 3 ≤ field.highbit) := fun h =>
        hnot ⟨hreg', h.1, h.2⟩
      by_cases hwide : field.highbit = field.lowbit + 3
      · -- two aligned 4-bit fields
        obtain ⟨hmod', -⟩ := hfour hwide (by simp [hreg'])
        exact extractsBits_setIdField_of_disjoint hlow hw16 hle (.inr (by omega))
      · have hoverlap {u : Nat} (hu : ListsValue reg' lowbit u) :=
          hu.overlap (mem_mapFields hrow hfield) hreg' hwide
        have hv' := hoverlap hv
        have hw' := hoverlap hw
        by_cases htop : field.lowbit = lowbit + 3
        · -- the topmost bit of the 4-bit field is clear before and after
          have hv8 : v < 2 ^ 3 := by omega
          have hw8 : w < 2 ^ 3 := by omega
          rw [extractsBits_eq_field, extractsBits_eq_field, toNat_setIdField hlow hw16]
          refine field_setField_of_testBit hw16 fun i h1 _ _ h4 => ?_
          obtain rfl : i = lowbit + 3 := by omega
          rw [extractsBits_eq_field, show lowbit + 3 - lowbit + 1 = 4 by omega] at hraw
          have hbit := testBit_field (raw.reg64 reg').toNat lowbit 4 3
          rw [hraw, Nat.testBit_lt_two_pow hv8] at hbit
          rw [Nat.add_sub_cancel_left, Nat.testBit_lt_two_pow hw8]
          simpa using hbit
        · exact extractsBits_setIdField_of_disjoint hlow hw16 hle (.inr (by omega))
    · exact extractsBits_setIdField_of_disjoint hlow hw16 hle (.inl hne)
  simp only [matches_iff]
  constructor
  · rintro ⟨reg', hreg', h⟩
    exact ⟨reg', hreg', by rw [← hsame reg' hreg', h]⟩
  · rintro ⟨reg', hreg', h⟩
    exact ⟨reg', hreg', by rw [hsame reg' hreg', h]⟩

/-- A row none of whose fields covers the 4-bit field matches as it did. -/
theorem rowMatches_setIdField_of_not_covers (hmode : isAarch64Mode raw = true) (hpos : 0 < w)
    {row : CpuFeature × ArmFeatureMap} (hrow : row ∈ featuresMap)
    (hnot : ∀ field ∈ row.2.fields, ¬field.Covers reg lowbit) :
    rowMatches (raw.setIdField reg lowbit w) row = rowMatches raw row := by
  obtain ⟨hlow, -, hw16⟩ := hw.bounds
  rw [Bool.eq_iff_iff, rowMatches_iff hmode,
    rowMatches_iff (isAarch64Mode_setIdField hlow hw16 hpos hmode)]
  refine exists_congr fun field => and_congr_right fun hfield => ?_
  have hmem : field ∈ row.2.fields := List.takeWhile_subset _ hfield
  exact matches_setIdField_of_not_covers hv hw hraw hrow hmem (hnot field hmem)

/-- A row still matches with the value `w`, if it does with `v`, when the match is not through the
4-bit field, when the row lists `w` too, or when another field of it matches. -/
theorem rowMatches_setIdField_iff (hmode : isAarch64Mode raw = true) (hpos : 0 < w) (hvw : v ≠ w)
    {row : CpuFeature × ArmFeatureMap} (hrow : row ∈ featuresMap) :
    (rowMatches raw row = true → rowMatches (raw.setIdField reg lowbit w) row = true) ↔
      (MatchesThrough raw reg lowbit row.2 → MatchesWith raw reg lowbit w row.2) := by
  obtain ⟨hlow, hmod, hw16⟩ := hw.bounds
  have hself := @extractsBits_setIdField_self raw reg _ _ hlow hw16
  have hkept {field : ArmFeatureField} (hfield : field ∈ row.2.reached true)
      (hnot : ¬field.Covers reg lowbit) :=
    matches_setIdField_of_not_covers hv hw hraw hrow
      (List.takeWhile_subset _ hfield) hnot
  rw [rowMatches_iff hmode, rowMatches_iff (isAarch64Mode_setIdField hlow hw16 hpos hmode)]
  constructor
  · rintro h ⟨field, hfield, hcovers, hm⟩
    obtain ⟨other, hother, hm'⟩ := h ⟨field, hfield, hm⟩
    by_cases hcovers' : other.Covers reg lowbit
    · by_cases hfour : other.highbit = other.lowbit + 3
      · have h1 := hcovers'.lowbit_le
        have h2 := hcovers'.le_highbit
        obtain rfl : other.lowbit = lowbit := by omega
        refine .inl ⟨other, hother, hcovers'.reg_eq, hfour, rfl, ?_⟩
        rw [matches_of_reg_eq hcovers'.reg_eq, hfour, hself] at hm'
        exact hm'.symm
      · -- no other field of the row covers the 4-bit field
        have heq := featuresMap_alone hrow (List.takeWhile_subset _ hother) hfour field
          (List.takeWhile_subset _ hfield) (by rw [hcovers.reg_eq, hcovers'.reg_eq])
        have h1 := hcovers.lowbit_le
        have h2 := hcovers.le_highbit
        have h3 := hcovers'.lowbit_le
        have h4 := hcovers'.le_highbit
        obtain rfl : field = other := heq.resolve_right (by omega)
        have := hcovers.value_eq hm hm'
        rw [hraw, hself] at this
        exact absurd this hvw
    · exact .inr ⟨other, hother, hcovers', (hkept hother hcovers').mp hm'⟩
  · rintro h ⟨field, hfield, hm⟩
    by_cases hcovers : field.Covers reg lowbit
    · rcases h ⟨field, hfield, hcovers, hm⟩ with ⟨other, hother, hid⟩ | ⟨other, hother, hnot, hm'⟩
      · exact ⟨other, hother, hid.matches_iff.mpr hself⟩
      · exact ⟨other, hother, (hkept hother hnot).mpr hm'⟩
    · exact ⟨field, hfield, (hkept hfield hcovers).mpr hm⟩

end SetIdField

end LibCpuid
