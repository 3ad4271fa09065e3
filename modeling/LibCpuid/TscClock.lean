import LibCpuid.CLang.Wrap
import LibCpuid.IdentifyBounds

/-! `cpu_clock_by_tsc` of `rdtsc.c`: the frequency of the time stamp counter from the crystal clock
and the ratio of leaf 15h. -/

namespace LibCpuid

open CLang

/-! ### The function -/

/-- The nominal core crystal clock frequency of a CPUID signature, in kHz; zero when the `switch`
has no case for it. -/
def signatureFreqKhz (extFamily extModel : Int) : BitVec 32 :=
  if extFamily = 0x6 then
    if extModel = 0x55 then 25000
    else if extModel = 0x4e ∨ extModel = 0x5e ∨ extModel = 0x8e ∨ extModel = 0x9e then 24000
    else if extModel = 0x5c then 19200
    else 0
  else 0

/-- `nominal_freq_khz` from the base frequency in leaf 16h. -/
def baseFreqKhz (raw : CpuRawData) : BitVec 32 :=
  let baseFreqMhz : BitVec 16 := .ofNat 16 (extractsBits (raw.basicCpuid 0x16).eax 15 0)
  baseFreqMhz.setWidth 32 * 1000 * (raw.basicCpuid 0x15).eax / (raw.basicCpuid 0x15).ebx

/-- `nominal_freq_khz`, after the three attempts at it. -/
def nominalFreqKhz (raw : CpuRawData) (id : CpuId) : BitVec 32 :=
  let freq := (raw.basicCpuid 0x15).ecx / 1000
  let freq := if freq = 0 then signatureFreqKhz id.x86.extFamily id.x86.extModel else freq
  if freq = 0 ∧ (raw.basicCpuid 0).eax.toNat ≥ 0x16 then baseFreqKhz raw else freq

/-- `cpu_clock_by_tsc`, on a raw that is given. -/
def cpuClockByTsc (host : Host) (raw : CpuRawData) : Checked Int := do
  let (r, id) ← cpuIdentify host raw
  if r ≠ .ok then .ok (-2)
  else if id.vendor ≠ .intel ∨ (raw.basicCpuid 0).eax.toNat < 0x15 then .ok (-1)
  else
    let denominator := (raw.basicCpuid 0x15).eax
    let numerator := (raw.basicCpuid 0x15).ebx
    if numerator = 0 ∨ denominator = 0 then .ok (-1)
    else
      let freq := nominalFreqKhz raw id
      if freq = 0 then .ok (-1) else .ok (freq * numerator / denominator / 1000).toInt

/-! ### The frequencies in unbounded integers -/

/-- The denominator of the ratio. -/
def ratioDenominator (raw : CpuRawData) : Nat := (raw.basicCpuid 0x15).eax.toNat

/-- The numerator of the ratio. -/
def ratioNumerator (raw : CpuRawData) : Nat := (raw.basicCpuid 0x15).ebx.toNat

/-- The base frequency in MHz. -/
def baseMhz (raw : CpuRawData) : Nat := extractsBits (raw.basicCpuid 0x16).eax 15 0

/-- The crystal frequency that leaf 15h reports or that the CPUID signature gives, in kHz. -/
def reportedKhz (raw : CpuRawData) (id : CpuId) : Nat :=
  if (raw.basicCpuid 0x15).ecx.toNat / 1000 ≠ 0 then (raw.basicCpuid 0x15).ecx.toNat / 1000
  else (signatureFreqKhz id.x86.extFamily id.x86.extModel).toNat

/-- The product that the base frequency gives. -/
def baseProduct (raw : CpuRawData) : Nat := baseMhz raw * 1000 * ratioDenominator raw

/-- The crystal frequency in kHz. -/
def crystalKhz (raw : CpuRawData) (id : CpuId) : Nat :=
  if reportedKhz raw id ≠ 0 then reportedKhz raw id
  else if 0x16 ≤ (raw.basicCpuid 0).eax.toNat then baseProduct raw / ratioNumerator raw
  else 0

/-- The frequency of the time stamp counter in MHz. -/
def tscMhz (raw : CpuRawData) (id : CpuId) : Nat :=
  crystalKhz raw id * ratioNumerator raw / ratioDenominator raw / 1000

/-- An Intel raw that identifies, with a ratio in leaf 15h. -/
structure EnumeratesRatio (host : Host) (raw : CpuRawData) (id : CpuId) : Prop where
  identifies : cpuIdentify host raw = .ok (.ok, id)
  vendor : id.vendor = .intel
  level : 0x15 ≤ (raw.basicCpuid 0).eax.toNat
  denominator : ratioDenominator raw ≠ 0
  numerator : ratioNumerator raw ≠ 0

/-- The clock is the frequency in unbounded integers where an `int` holds it, and `-1` when there is
no crystal frequency. -/
def TscClockExact (host : Host) (raw : CpuRawData) : Prop :=
  ∀ id, EnumeratesRatio host raw id →
    (crystalKhz raw id = 0 → cpuClockByTsc host raw = .ok (-1)) ∧
      (crystalKhz raw id ≠ 0 → tscMhz raw id < 2 ^ 31 →
        cpuClockByTsc host raw = .ok (tscMhz raw id))

/-- The product that the clock is computed from wraps around only where this does not show. -/
def TscProductFits (raw : CpuRawData) (id : CpuId) : Prop :=
  if reportedKhz raw id ≠ 0 then
    reportedKhz raw id * ratioNumerator raw < 2 ^ 32 ∨
      reportedKhz raw id * ratioNumerator raw < ratioDenominator raw * 1000 ∨
      2 ^ 31 ≤ tscMhz raw id
  else
    0x16 ≤ (raw.basicCpuid 0).eax.toNat →
      baseProduct raw < 2 ^ 32 ∨
        (ratioNumerator raw ≤ baseProduct raw % 2 ^ 32 ∧
          baseProduct raw / ratioNumerator raw * ratioNumerator raw < ratioDenominator raw * 1000)

section Clock

variable {host : Host} {raw : CpuRawData} {id : CpuId}

theorem EnumeratesRatio.cpuClockByTsc_eq (h : EnumeratesRatio host raw id) :
    cpuClockByTsc host raw =
      if nominalFreqKhz raw id = 0 then .ok (-1)
      else .ok ((nominalFreqKhz raw id).toNat * ratioNumerator raw % 2 ^ 32 /
        ratioDenominator raw / 1000 : Nat) := by
  have hnumerator : (raw.basicCpuid 0x15).ebx ≠ 0 := fun h0 => h.numerator (congrArg BitVec.toNat h0)
  have hdenominator : (raw.basicCpuid 0x15).eax ≠ 0 :=
    fun h0 => h.denominator (congrArg BitVec.toNat h0)
  have hvalue (k : BitVec 32) :
      (k * (raw.basicCpuid 0x15).ebx / (raw.basicCpuid 0x15).eax / 1000).toInt =
        (k.toNat * ratioNumerator raw % 2 ^ 32 / ratioDenominator raw / 1000 : Nat) := by
    have hnat :
        (k * (raw.basicCpuid 0x15).ebx / (raw.basicCpuid 0x15).eax / 1000).toNat =
          k.toNat * ratioNumerator raw % 2 ^ 32 / ratioDenominator raw / 1000 := by
      rw [BitVec.toNat_udiv, toNat_mul_udiv]
      rfl
    rw [BitVec.toInt_eq_toNat_of_lt, hnat]
    have := (k * (raw.basicCpuid 0x15).ebx / (raw.basicCpuid 0x15).eax).isLt
    rw [BitVec.toNat_udiv, show (1000 : BitVec 32).toNat = 1000 from rfl]
    omega
  have hlevel : ¬(raw.basicCpuid 0).eax.toNat < 0x15 := Nat.not_lt.mpr h.level
  simp only [cpuClockByTsc, h.identifies, ok_bind, ne_eq, not_true_eq_false, if_false, h.vendor,
    hlevel, or_self, hnumerator, hdenominator, hvalue]

theorem toNat_reported (raw : CpuRawData) (id : CpuId) :
    (if (raw.basicCpuid 0x15).ecx / 1000 = 0
      then signatureFreqKhz id.x86.extFamily id.x86.extModel
      else (raw.basicCpuid 0x15).ecx / 1000).toNat = reportedKhz raw id := by
  have hdiv : ((raw.basicCpuid 0x15).ecx / 1000).toNat = (raw.basicCpuid 0x15).ecx.toNat / 1000 :=
    BitVec.toNat_udiv
  have hzero : (raw.basicCpuid 0x15).ecx / 1000 = 0 ↔
      (raw.basicCpuid 0x15).ecx.toNat / 1000 = 0 := by
    rw [← hdiv, BitVec.toNat_eq]
    rfl
  simp only [reportedKhz, hzero, ne_eq, ite_not, ← hdiv, apply_ite BitVec.toNat]

theorem toNat_baseFreqKhz (raw : CpuRawData) :
    (baseFreqKhz raw).toNat = baseProduct raw % 2 ^ 32 / ratioNumerator raw := by
  have hlt : baseMhz raw < 2 ^ 16 := extractsBits_lt _ 15 0
  have hbase : ((BitVec.ofNat 16 (baseMhz raw)).setWidth 32 * 1000).toNat = baseMhz raw * 1000 := by
    rw [BitVec.toNat_mul, BitVec.toNat_setWidth, BitVec.toNat_ofNat, Nat.mod_eq_of_lt hlt]
    show baseMhz raw % 2 ^ 32 * 1000 % 2 ^ 32 = _
    omega
  rw [baseFreqKhz, toNat_mul_udiv]
  exact congrArg (fun n => n * _ % _ / _) hbase

theorem toNat_nominalFreqKhz (raw : CpuRawData) (id : CpuId) :
    (nominalFreqKhz raw id).toNat =
      if reportedKhz raw id ≠ 0 then reportedKhz raw id
      else if 0x16 ≤ (raw.basicCpuid 0).eax.toNat then
        baseProduct raw % 2 ^ 32 / ratioNumerator raw
      else 0 := by
  have hreported := toNat_reported raw id
  unfold nominalFreqKhz
  dsimp only
  generalize (if (raw.basicCpuid 0x15).ecx / 1000 = 0
      then signatureFreqKhz id.x86.extFamily id.x86.extModel
      else (raw.basicCpuid 0x15).ecx / 1000) = freq at hreported ⊢
  have hzero : freq = 0 ↔ reportedKhz raw id = 0 := by
    rw [← hreported, BitVec.toNat_eq]
    rfl
  by_cases hknown : reportedKhz raw id = 0
  · by_cases hlevel : 0x16 ≤ (raw.basicCpuid 0).eax.toNat
    · rw [if_pos ⟨hzero.mpr hknown, hlevel⟩, if_neg (not_not.mpr hknown), if_pos hlevel,
        toNat_baseFreqKhz]
    · rw [if_neg fun h => hlevel h.2, hzero.mpr hknown, if_neg (not_not.mpr hknown), if_neg hlevel]
      rfl
  · rw [if_neg fun h => hknown (hzero.mp h.1), if_pos hknown, hreported]

theorem EnumeratesRatio.clock_eq_neg_one_iff (h : EnumeratesRatio host raw id) :
    cpuClockByTsc host raw = .ok (-1) ↔ (nominalFreqKhz raw id).toNat = 0 := by
  have hzero : nominalFreqKhz raw id = 0 ↔ (nominalFreqKhz raw id).toNat = 0 := BitVec.toNat_eq
  rw [h.cpuClockByTsc_eq, ← hzero]
  split
  case isTrue h0 => exact iff_of_true rfl h0
  case isFalse h0 =>
    refine iff_of_false (fun heq => ?_) h0
    have hnonneg := Except.ok.inj heq ▸ Int.natCast_nonneg _
    omega

theorem EnumeratesRatio.clock_eq_natCast_iff (h : EnumeratesRatio host raw id) (mhz : Nat) :
    cpuClockByTsc host raw = .ok mhz ↔
      (nominalFreqKhz raw id).toNat ≠ 0 ∧
        (nominalFreqKhz raw id).toNat * ratioNumerator raw % 2 ^ 32 /
          (ratioDenominator raw * 1000) = mhz := by
  have hzero : nominalFreqKhz raw id = 0 ↔ (nominalFreqKhz raw id).toNat = 0 := BitVec.toNat_eq
  rw [h.cpuClockByTsc_eq, ← Nat.div_div_eq_div_mul, ne_eq, ← hzero]
  split
  case isTrue h0 =>
    refine iff_of_false (fun heq => ?_) fun hne => hne.1 h0
    have := Except.ok.inj heq
    omega
  case isFalse h0 => rw [Except.ok.injEq, Nat.cast_inj, and_iff_right h0]

/-- A base frequency gives no more than itself. -/
theorem baseProduct_div_le (hE : 0 < ratioDenominator raw * 1000) :
    baseProduct raw / ratioNumerator raw * ratioNumerator raw / (ratioDenominator raw * 1000) ≤
      baseMhz raw := by
  have hproduct : baseProduct raw = baseMhz raw * (ratioDenominator raw * 1000) := by
    rw [baseProduct, Nat.mul_assoc, Nat.mul_comm 1000]
  calc
    baseProduct raw / ratioNumerator raw * ratioNumerator raw / (ratioDenominator raw * 1000)
      ≤ baseProduct raw / (ratioDenominator raw * 1000) :=
        Nat.div_le_div_right (Nat.div_mul_le_self ..)
    _ = baseMhz raw := by rw [hproduct, Nat.mul_div_cancel _ hE]

/-- The crystal frequency from the base frequency, and that from the product that may wrap around,
give the same clock exactly when the product does not wrap around, or the clock is below 1 MHz and
some crystal frequency is left. -/
theorem baseClock_eq_iff {y n e : Nat} (hn : 0 < n) (hlt : n < 2 ^ 32) (he : 0 < e) :
    (y / n ≠ 0 → y % 2 ^ 32 / n ≠ 0 ∧ y % 2 ^ 32 / n * n % 2 ^ 32 / e = y / n * n / e) ↔
      y < 2 ^ 32 ∨ (n ≤ y % 2 ^ 32 ∧ y / n * n < e) := by
  have hsmall : y % 2 ^ 32 / n * n < 2 ^ 32 :=
    lt_of_le_of_lt (Nat.div_mul_le_self ..) (Nat.mod_lt y (by decide))
  have hleft : y % 2 ^ 32 / n ≠ 0 ↔ n ≤ y % 2 ^ 32 := by
    rw [ne_eq, Nat.div_eq_zero_iff_lt hn, Nat.not_lt]
  rw [Nat.mod_eq_of_lt hsmall, mod_div_mul_div_eq_iff (by decide) he, hleft, ne_eq,
    Nat.div_eq_zero_iff_lt hn]
  omega

/-- One identification: the clock is exact exactly when the product fits. -/
theorem EnumeratesRatio.exact_iff (h : EnumeratesRatio host raw id) :
    ((crystalKhz raw id = 0 → cpuClockByTsc host raw = .ok (-1)) ∧
      (crystalKhz raw id ≠ 0 → tscMhz raw id < 2 ^ 31 →
        cpuClockByTsc host raw = .ok (tscMhz raw id))) ↔ TscProductFits raw id := by
  have hN : 0 < ratioNumerator raw := Nat.pos_of_ne_zero h.numerator
  have hE : 0 < ratioDenominator raw * 1000 := by
    have := Nat.pos_of_ne_zero h.denominator
    omega
  rw [h.clock_eq_neg_one_iff, h.clock_eq_natCast_iff, toNat_nominalFreqKhz, TscProductFits]
  by_cases hknown : reportedKhz raw id = 0
  · rw [if_neg (not_not.mpr hknown), if_neg (not_not.mpr hknown)]
    by_cases hlevel : 0x16 ≤ (raw.basicCpuid 0).eax.toNat
    · have hcrystal : crystalKhz raw id = baseProduct raw / ratioNumerator raw := by
        rw [crystalKhz, if_neg (not_not.mpr hknown), if_pos hlevel]
      have hmhz : tscMhz raw id = baseProduct raw / ratioNumerator raw * ratioNumerator raw /
          (ratioDenominator raw * 1000) := by
        rw [tscMhz, hcrystal, Nat.div_div_eq_div_mul]
      have hfits : tscMhz raw id < 2 ^ 31 := by
        have hle := baseProduct_div_le hE
        have hlt : baseMhz raw < 2 ^ 16 := extractsBits_lt _ 15 0
        omega
      have hnone : baseProduct raw / ratioNumerator raw = 0 →
          baseProduct raw % 2 ^ 32 / ratioNumerator raw = 0 := fun h0 =>
        Nat.eq_zero_of_le_zero (h0 ▸ Nat.div_le_div_right (Nat.mod_le ..))
      rw [if_pos hlevel, hcrystal, and_iff_right hnone, forall_prop_of_true hlevel,
        ← baseClock_eq_iff hN (raw.basicCpuid 0x15).ebx.isLt hE, ← hmhz]
      exact forall_congr' fun _ => forall_prop_of_true hfits
    · have hcrystal : crystalKhz raw id = 0 := by
        rw [crystalKhz, if_neg (not_not.mpr hknown), if_neg hlevel]
      simp [hlevel, hcrystal]
  · have hcrystal : crystalKhz raw id = reportedKhz raw id := by
      rw [crystalKhz, if_pos hknown]
    rw [if_pos hknown, if_pos hknown, hcrystal, tscMhz, hcrystal, Nat.div_div_eq_div_mul,
      mod_div_eq_div_iff (by decide) hE]
    omega

/-- The clock is exact exactly when the product fits in every identification. -/
theorem tscClockExact_iff (host : Host) (raw : CpuRawData) :
    TscClockExact host raw ↔ ∀ id, EnumeratesRatio host raw id → TscProductFits raw id :=
  forall_congr' fun _ => forall_congr' fun h => h.exact_iff

end Clock

/-- An Intel processor with a crystal of 38.4 MHz, and a ratio of 112. -/
def fineRatio : CpuRawData :=
  { CpuRawData.zero with
    basicCpuid := fun i =>
      if i = 0 then { eax := 0x15, ebx := 0x756e6547, ecx := 0x6c65746e, edx := 0x49656e69 }
      else if i = 0x15 then { eax := 1000, ebx := 112000, ecx := 38400000, edx := 0 }
      else .zero }

theorem enumeratesRatio_fineRatio : ∃ id, EnumeratesRatio ⟨fun _ _ => .zero, 1⟩ fineRatio id := by
  have hrun : yields (cpuIdentify ⟨fun _ _ => .zero, 1⟩ fineRatio)
      (fun r => decide (r.1 = .ok ∧ r.2.vendor = .intel)) = true := by decide +kernel
  obtain ⟨⟨r, id⟩, hid, hfound⟩ := exists_of_yields hrun
  obtain ⟨rfl, hvendor⟩ := of_decide_eq_true hfound
  exact ⟨id, hid, hvendor, by decide, by decide, by decide⟩

/-- The clock of 4300 MHz is computed as 5 MHz. -/
theorem not_tscClockExact_fineRatio : ¬TscClockExact ⟨fun _ _ => .zero, 1⟩ fineRatio := by
  intro h
  obtain ⟨id, hid⟩ := enumeratesRatio_fineRatio
  have hknown : reportedKhz fineRatio id = 38400 := if_pos (by decide)
  have hmhz : tscMhz fineRatio id = 4300 := by
    rw [tscMhz, crystalKhz, if_pos (by rw [hknown]; decide), hknown]
    rfl
  have hfits := hid.exact_iff.mp (h id hid)
  rw [TscProductFits, if_pos (by rw [hknown]; decide), hknown, hmhz] at hfits
  revert hfits
  decide

end LibCpuid
