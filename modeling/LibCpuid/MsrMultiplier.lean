import Mathlib.Data.Nat.Prime.Basic
import LibCpuid.MsrRuns

/-! The multipliers of the processors of AMD and Hygon: what `cpu_msrinfo` makes of the register of
a P-state, against the quotient that the guides of the processors give for it. -/

namespace LibCpuid

open CLang

/-- The multiplier of a P-state as a quotient, from the value of its register.  The divisors of
family 12h are in halves, and those of family 14h in quarters. -/
def coreMultiplier (id : CpuId) (cpuClock : Int) (value : BitVec 64) : Option (ℕ × ℕ) :=
  let bits := extractsBits value
  if id.x86.extFamily = 0x12 then
    ([2, 3, 4, 6, 8, 12, 16, 24, 32] : List ℕ)[bits 3 0]?.map fun d => (2 * (bits 8 4 + 16), d)
  else if id.x86.extFamily = 0x14 then
    some (4 * (((cpuClock + 5) / 100).toNat + 16), 4 * bits 8 4 + bits 3 0 + 4)
  else if id.x86.extFamily ∈ [(0x10 : Int), 0x11, 0x15, 0x16] then
    let isApu := strstr id.brandStr "APU".toList || strstr id.brandStr "Radeon ".toList
    some (bits 5 0 + (magicConstant id).toNat, 2 ^ bits 8 6 * if isApu then 1 else 2)
  else if id.x86.extFamily ∈ [(0x17 : Int), 0x18, 0x19] then some (2 * bits 7 0, bits 13 8)
  else none

/-- What a request for a multiplier gives, in hundredths: the quotient without its fraction.  An
exact quotient can be one too low when its denominator is a multiple of five. -/
def IsMultiplier (result : Checked Int) : Option (ℕ × ℕ) → Prop
  | none => result = .ok cpuInvalidValue
  | some (_, 0) => result = .error .overflow
  | some (n, d) => ∃ m : ℕ, result = .ok m ∧
      (m = 100 * n / d ∨ m + 1 = 100 * n / d ∧ d ∣ 100 * n ∧ 5 ∣ d)

/-- The P-state of a request. -/
inductive AsksPstate (driver : MsrDriver) : CpuMsrinfoRequest → Nat → Prop
  | max : AsksPstate driver .maxMultiplier 0
  | min {k : Nat} (h : IsLastPstate driver k) : AsksPstate driver .minMultiplier k
  | cur {value : BitVec 64} (h : driver msrPstateS = some value) :
    AsksPstate driver .curMultiplier (extractsBits value 2 0)

theorem AsksPstate.lt {driver : MsrDriver} {which : CpuMsrinfoRequest} {k : Nat}
    (h : AsksPstate driver which k) : k < 8 := by
  cases h with
  | max => decide
  | min h => exact h.lt
  | cur h => exact extractsBits_lt _ 2 0

/-! ### Numbers -/

/-- A quotient of hundredths whose denominator is not a multiple of five has two binary places. -/
theorem isDouble_of_not_five_dvd {n d : ℕ} (hd : 0 < d) (hdvd : d ∣ 100 * n) (h5 : ¬5 ∣ d)
    (hn : 4 * n < 2 ^ 53) : IsDouble ((n : ℚ) / d) := by
  have hcoprime : Nat.Coprime d 25 :=
    Nat.Coprime.pow_right 2 ((Nat.Prime.coprime_iff_not_dvd Nat.prime_five).mpr h5).symm
  have hdvd' : d ∣ 4 * n := by
    refine hcoprime.dvd_of_dvd_mul_left ?_
    rwa [← mul_assoc]
  obtain ⟨k, hk⟩ := hdvd'
  have hkn : k ≤ 4 * n := by
    rw [hk]
    exact Nat.le_mul_of_pos_left k hd
  refine ⟨k, -2, by rw [Nat.abs_cast]; exact_mod_cast hkn.trans_lt hn, ?_⟩
  have hd' : (d : ℚ) ≠ 0 := by exact_mod_cast hd.ne'
  have hk' : (4 : ℚ) * n = d * k := by exact_mod_cast hk
  rw [Int.cast_natCast, show (2 : ℚ) ^ (-2 : ℤ) = 1 / 4 by norm_num, div_eq_iff hd']
  linarith

theorem isDouble_quarter {k : ℕ} (h : k < 2 ^ 53) : IsDouble ((k : ℚ) / 4) :=
  ⟨k, -2, by rw [Nat.abs_cast]; exact_mod_cast h, by norm_num [div_eq_mul_inv]⟩

theorem isDouble_half {k : ℕ} (h : k < 2 ^ 53) : IsDouble ((k : ℚ) / 2) :=
  ⟨k, -1, by rw [Nat.abs_cast]; exact_mod_cast h, by norm_num [div_eq_mul_inv]⟩

theorem doubleOfUInt64_ofNat {n : ℕ} (h : n < 2 ^ 53) :
    doubleOfUInt64 (.ofNat 64 n) = .finite n := by
  rw [doubleOfUInt64, BitVec.toNat_ofNat, Nat.mod_eq_of_lt (h.trans (by decide)),
    Double.ofInt_of_lt (by rw [Nat.abs_cast]; exact_mod_cast h), Int.cast_natCast]

theorem hundredths_none : hundredths none = .ok cpuInvalidValue := by decide +kernel

theorem hundredths_infinite :
    hundredths (some ((Double.infinite false).mul (.ofInt 2))) = .error .overflow := by
  decide +kernel

/-- A multiplier that approximates a quotient. -/
theorem isMultiplier_of_approximates {y : ℚ} {n d : ℕ} (hd : 0 < d) (h : Approximates y (n / d))
    (hn : n < 2 ^ 40) (hfit : 100 * n / d < 2 ^ 31) :
    IsMultiplier (hundredths (some (.finite y))) (some (n, d)) := by
  obtain ⟨m, hm, hfloor⟩ := Double.toInt_mul_ofInt hd h (c := 100) (by omega) (by decide) hfit
  obtain ⟨d, rfl⟩ := Nat.exists_eq_succ_of_ne_zero hd.ne'
  refine ⟨m, hm, hfloor.imp_right ?_⟩
  rintro ⟨hlow, hdvd, hdouble⟩
  exact ⟨hlow, hdvd, by_contra fun h5 => hdouble (isDouble_of_not_five_dvd hd hdvd h5 (by omega))⟩

/-! ### The families -/

theorem MsrCall.range_some {call : MsrCall} {msrIndex : BitVec 32} {value : BitVec 64}
    (hread : call.driver msrIndex = some value) {highbit lowbit : BitVec 8} (hhigh : highbit ≤ 63)
    (hle : lowbit ≤ highbit) :
    call.range msrIndex highbit lowbit =
      (.ok, .ofNat 64 (extractsBits value highbit.toNat lowbit.toNat)) :=
  cpuRdmsrRange_some hread hhigh hle _

theorem divisorT_find : ∀ did < 16,
    (divisorT.find? fun row => row.1 = BitVec.ofNat 64 did).map Prod.snd =
      ([2, 3, 4, 6, 8, 12, 16, 24, 32] : List ℕ)[did]?.map fun d : ℕ => (d : ℚ) / 2 := by
  decide +kernel

theorem pstateAddr_valid : ∀ k < 8, ¬(pstateAddr k < msrPstate0 ∨ msrPstate7 < pstateAddr k) := by
  decide

section Families

variable {id : CpuId} {call : MsrCall} {cpuClock : Int} {k : Nat} {value : BitVec 64}

theorem getAmdMultipliers_12h (hfamily : id.x86.extFamily = 0x12) (hk : k < 8)
    (hread : call.driver (pstateAddr k) = some value) :
    ∃ err mult, getAmdMultipliers id call cpuClock (pstateAddr k) = .ok (err, mult) ∧
      IsMultiplier (hundredths (if err = 0 then mult else none))
        (coreMultiplier id cpuClock value) := by
  have hmagic : magicConstant id = 16 := if_neg (by rw [hfamily]; decide)
  have hfid : extractsBits value 8 4 < 32 := extractsBits_lt _ _ _
  have hdid : extractsBits value 3 0 < 16 := extractsBits_lt _ _ _
  have hreadFid : call.range (pstateAddr k) 8 4 = (.ok, .ofNat 64 (extractsBits value 8 4)) :=
    MsrCall.range_some hread (by decide) (by decide)
  have hreadDid : call.range (pstateAddr k) 3 0 = (.ok, .ofNat 64 (extractsBits value 3 0)) :=
    MsrCall.range_some hread (by decide) (by decide)
  have hfind := divisorT_find _ hdid
  simp only [getAmdMultipliers, coreMultiplier, if_neg (pstateAddr_valid k hk), if_pos hfamily,
    hreadFid, hreadDid, hmagic]
  generalize extractsBits value 8 4 = fid, extractsBits value 3 0 = did at hfid hdid hfind ⊢
  cases hrow : divisorT.find? fun row => row.1 = BitVec.ofNat 64 did with
  | none =>
    rw [hrow, Option.map_none, eq_comm, Option.map_eq_none_iff] at hfind
    rw [hfind]
    exact ⟨_, _, rfl, hundredths_none⟩
  | some row =>
    rw [hrow, Option.map_some, eq_comm, Option.map_eq_some_iff] at hfind
    obtain ⟨d, hd, hdiv⟩ := hfind
    rw [hd]
    have hmem : d ∈ [2, 3, 4, 6, 8, 12, 16, 24, 32] := List.mem_of_getElem? hd
    have hbound : ∀ d ∈ [2, 3, 4, 6, 8, 12, 16, 24, 32], 0 < d ∧ d < 2 ^ 53 := by decide
    obtain ⟨hd0, hd53⟩ := hbound d hmem
    have hquot : ((fid + 16 : ℕ) : ℚ) / row.2 = (2 * (fid + 16) : ℕ) / d := by
      rw [← hdiv]
      push_cast
      rw [div_div_eq_mul_div, mul_comm]
    have hne : row.2 ≠ 0 := by
      rw [← hdiv]
      exact div_ne_zero (by exact_mod_cast hd0.ne') (by norm_num)
    have hmult : (doubleOfUInt64 (.ofNat 64 fid + .ofInt 64 16)).div (.ofDecimal row.2) =
        .finite (roundDouble ((2 * (fid + 16) : ℕ) / d)) := by
      have hnum : BitVec.ofNat 64 fid + .ofInt 64 16 = .ofNat 64 (fid + 16) :=
        (BitVec.ofNat_add _ _).symm
      have hrow : roundDouble row.2 = row.2 := by
        rw [← hdiv]
        exact roundDouble_of_isDouble (isDouble_half hd53)
      rw [hnum, doubleOfUInt64_ofNat (by omega), Double.ofDecimal, hrow, Double.div_finite hne,
        hquot]
    refine ⟨_, _, rfl, ?_⟩
    rw [if_pos (by rfl), hmult]
    exact isMultiplier_of_approximates hd0 (approximates_roundDouble _) (by omega)
      ((Nat.div_le_self _ _).trans_lt (by omega))

theorem getAmdMultipliers_14h (hfamily : id.x86.extFamily = 0x14) (hk : k < 8)
    (hread : call.driver (pstateAddr k) = some value) (hlow : -5 ≤ cpuClock)
    (hhigh : cpuClock < 2 ^ 30) :
    ∃ err mult, getAmdMultipliers id call cpuClock (pstateAddr k) = .ok (err, mult) ∧
      IsMultiplier (hundredths (if err = 0 then mult else none))
        (coreMultiplier id cpuClock value) := by
  have hmagic : magicConstant id = 16 := if_neg (by rw [hfamily]; decide)
  have hne : id.x86.extFamily ≠ 0x12 := by rw [hfamily]; decide
  have hdid : extractsBits value 8 4 < 32 := extractsBits_lt _ _ _
  have hlsd : extractsBits value 3 0 < 16 := extractsBits_lt _ _ _
  have hreadDid : call.range (pstateAddr k) 8 4 = (.ok, .ofNat 64 (extractsBits value 8 4)) :=
    MsrCall.range_some hread (by decide) (by decide)
  have hreadLsd : call.range (pstateAddr k) 3 0 = (.ok, .ofNat 64 (extractsBits value 3 0)) :=
    MsrCall.range_some hread (by decide) (by decide)
  have hclock : intResult (cpuClock + 5) = .ok (cpuClock + 5) := if_pos (by omega)
  obtain ⟨c, hc⟩ := Int.eq_ofNat_of_zero_le (show 0 ≤ cpuClock + 5 by omega)
  have hdiv : (cpuClock + 5).tdiv 100 + 16 = (c / 100 + 16 : ℕ) := by
    rw [hc]
    rfl
  have hdiv' : ((cpuClock + 5) / 100).toNat = c / 100 := by
    rw [hc]
    rfl
  simp only [getAmdMultipliers, coreMultiplier, if_neg (pstateAddr_valid k hk), if_neg hne,
    if_pos hfamily, hreadDid, hreadLsd, hclock, hmagic, hdiv, hdiv', ok_bind]
  generalize extractsBits value 8 4 = did, extractsBits value 3 0 = lsd at hdid hlsd ⊢
  have hquarter : Double.ofDecimal (1 / 4) = .finite (1 / 4) := by
    rw [Double.ofDecimal, roundDouble_of_isDouble]
    exact_mod_cast isDouble_quarter (k := 1) (by decide)
  have hmul : roundDouble ((lsd : ℚ) * (1 / 4)) = lsd / 4 := by
    rw [mul_one_div, roundDouble_of_isDouble (isDouble_quarter (by omega))]
  have hadd : roundDouble ((did : ℚ) + lsd / 4) = (4 * did + lsd : ℕ) / 4 := by
    rw [← roundDouble_of_isDouble (isDouble_quarter (k := 4 * did + lsd) (by omega))]
    congr 1
    push_cast
    ring
  have hadd' : roundDouble (((4 * did + lsd : ℕ) : ℚ) / 4 + 1) = (4 * did + lsd + 4 : ℕ) / 4 := by
    rw [← roundDouble_of_isDouble (isDouble_quarter (k := 4 * did + lsd + 4) (by omega))]
    congr 1
    push_cast
    ring
  have hdivisor : ((doubleOfUInt64 (.ofNat 64 did)).add
      ((doubleOfUInt64 (.ofNat 64 lsd)).mul (.ofDecimal (1 / 4)))).add (.ofInt 1) =
        .finite ((4 * did + lsd + 4 : ℕ) / 4) := by
    rw [doubleOfUInt64_ofNat (by omega), doubleOfUInt64_ofNat (by omega), hquarter, Double.mul, hmul,
      Double.add, hadd, Double.ofInt_of_lt (by decide), Int.cast_one, Double.add, hadd']
  have hpos : (0 : ℚ) < (4 * did + lsd + 4 : ℕ) := by exact_mod_cast Nat.succ_pos _
  have hquot : ((c / 100 + 16 : ℕ) : ℚ) / ((4 * did + lsd + 4 : ℕ) / 4) =
      (4 * (c / 100 + 16) : ℕ) / (4 * did + lsd + 4 : ℕ) := by
    rw [div_div_eq_mul_div, mul_comm]
    push_cast
    rfl
  have hnum : Double.ofInt ((c / 100 + 16 : ℕ) : ℤ) = .finite ((c / 100 + 16 : ℕ) : ℚ) := by
    rw [Double.ofInt_of_lt (by rw [Nat.abs_cast]; omega), Int.cast_natCast]
  refine ⟨_, _, rfl, ?_⟩
  rw [if_pos (by rfl), hdivisor, hnum, Double.div_finite (div_ne_zero hpos.ne' (by norm_num)), hquot]
  refine isMultiplier_of_approximates (by omega) (approximates_roundDouble _) (by omega) ?_
  refine (Nat.div_le_div_left (c := 4) (by omega) (by omega)).trans_lt ?_
  omega

theorem getAmdMultipliers_10h (hfamily : id.x86.extFamily ∈ [(0x10 : Int), 0x11, 0x15, 0x16])
    (hk : k < 8) (hread : call.driver (pstateAddr k) = some value) :
    ∃ err mult, getAmdMultipliers id call cpuClock (pstateAddr k) = .ok (err, mult) ∧
      IsMultiplier (hundredths (if err = 0 then mult else none))
        (coreMultiplier id cpuClock value) := by
  have hne : ∀ f ∈ [(0x10 : Int), 0x11, 0x15, 0x16], f ≠ 0x12 ∧ f ≠ 0x14 := by decide
  obtain ⟨hne12, hne14⟩ := hne _ hfamily
  obtain ⟨magic, hmagic, hle⟩ : ∃ magic : ℕ, magicConstant id = magic ∧ magic ≤ 16 := by
    rw [magicConstant]
    split
    · exact ⟨8, rfl, by decide⟩
    · exact ⟨16, rfl, by decide⟩
  have hfid : extractsBits value 5 0 < 64 := extractsBits_lt _ _ _
  have hdid : extractsBits value 8 6 < 8 := extractsBits_lt _ _ _
  have hreadDid : call.range (pstateAddr k) 8 6 = (.ok, .ofNat 64 (extractsBits value 8 6)) :=
    MsrCall.range_some hread (by decide) (by decide)
  have hreadFid : call.range (pstateAddr k) 5 0 = (.ok, .ofNat 64 (extractsBits value 5 0)) :=
    MsrCall.range_some hread (by decide) (by decide)
  simp only [getAmdMultipliers, coreMultiplier, if_neg (pstateAddr_valid k hk), if_neg hne12,
    if_neg hne14, if_pos hfamily, hreadDid, hreadFid, hmagic, apuDivisor, Int.toNat_natCast]
  generalize extractsBits value 8 6 = did, extractsBits value 5 0 = fid at hdid hfid ⊢
  generalize (strstr id.brandStr "APU".toList || strstr id.brandStr "Radeon ".toList) = isApu
  have hpow : 2 ^ did < 2 ^ 8 := Nat.pow_lt_pow_right (by decide) hdid
  have hlt : BitVec.ofNat 64 did < 64 := by
    rw [BitVec.lt_def, BitVec.toNat_ofNat, Nat.mod_eq_of_lt (by omega)]
    exact hdid.trans (by decide)
  have hshift : (1#64 <<< (BitVec.ofNat 64 did).toNat) = .ofNat 64 (2 ^ did) := by
    apply BitVec.eq_of_toNat_eq
    rw [BitVec.toNat_ofNat, Nat.mod_eq_of_lt (by omega), BitVec.toNat_shiftLeft, BitVec.toNat_ofNat,
      BitVec.toNat_ofNat, Nat.one_mod, Nat.one_shiftLeft]
  have hnum : BitVec.ofNat 64 fid + .ofInt 64 magic = .ofNat 64 (fid + magic) := by
    rw [BitVec.ofInt_natCast, BitVec.ofNat_add]
  have hquot : roundDouble (((fid + magic : ℕ) : ℚ) / (2 ^ did : ℕ)) =
      (fid + magic : ℕ) / (2 ^ did : ℕ) := by
    apply roundDouble_of_isDouble
    refine ⟨(fid + magic : ℕ), -did, by rw [Nat.abs_cast]; omega, ?_⟩
    rw [Int.cast_natCast, zpow_neg, zpow_natCast, div_eq_mul_inv]
    push_cast
    rfl
  obtain ⟨divisor, hdivisor, hdivisor', hpos⟩ : ∃ divisor : ℕ,
      Double.ofDecimal (if isApu then 1 else 2) = .finite divisor ∧
        (if isApu then 1 else 2) = divisor ∧ 0 < divisor := by
    cases isApu with
    | true => exact ⟨1, Double.ofInt_of_lt (n := 1) (by decide), rfl, by decide⟩
    | false => exact ⟨2, Double.ofInt_of_lt (n := 2) (by decide), rfl, by decide⟩
  have hpos' : 0 < 2 ^ did * divisor := Nat.mul_pos (Nat.two_pow_pos did) hpos
  rw [if_pos hlt]
  refine ⟨_, _, rfl, ?_⟩
  rw [if_pos (by rfl), hshift, hnum, doubleOfUInt64_ofNat (by omega),
    doubleOfUInt64_ofNat (by omega), Double.div_finite (by exact_mod_cast (Nat.two_pow_pos did).ne'),
    hquot, hdivisor, Double.div_finite (by exact_mod_cast hpos.ne'), div_div, hdivisor',
    ← Nat.cast_mul]
  exact isMultiplier_of_approximates hpos' (approximates_roundDouble _) (by omega)
    ((Nat.div_le_self _ _).trans_lt (by omega))

theorem getAmdMultipliers_17h (hfamily : id.x86.extFamily ∈ [(0x17 : Int), 0x18, 0x19])
    (hk : k < 8) (hread : call.driver (pstateAddr k) = some value) :
    ∃ err mult, getAmdMultipliers id call cpuClock (pstateAddr k) = .ok (err, mult) ∧
      IsMultiplier (hundredths (if err = 0 then mult else none))
        (coreMultiplier id cpuClock value) := by
  have hne : ∀ f ∈ [(0x17 : Int), 0x18, 0x19],
      f ≠ 0x12 ∧ f ≠ 0x14 ∧ f ∉ [(0x10 : Int), 0x11, 0x15, 0x16] := by decide
  obtain ⟨hne12, hne14, hne10⟩ := hne _ hfamily
  have hfid : extractsBits value 7 0 < 256 := extractsBits_lt _ _ _
  have hdid : extractsBits value 13 8 < 64 := extractsBits_lt _ _ _
  have hreadDid : call.range (pstateAddr k) 13 8 = (.ok, .ofNat 64 (extractsBits value 13 8)) :=
    MsrCall.range_some hread (by decide) (by decide)
  have hreadFid : call.range (pstateAddr k) 7 0 = (.ok, .ofNat 64 (extractsBits value 7 0)) :=
    MsrCall.range_some hread (by decide) (by decide)
  simp only [getAmdMultipliers, coreMultiplier, if_neg (pstateAddr_valid k hk), if_neg hne12,
    if_neg hne14, if_neg hne10, if_pos hfamily, hreadDid, hreadFid]
  generalize extractsBits value 13 8 = did, extractsBits value 7 0 = fid at hdid hfid ⊢
  refine ⟨_, _, rfl, ?_⟩
  rw [if_pos (by rfl), doubleOfUInt64_ofNat (by omega), doubleOfUInt64_ofNat (by omega)]
  cases did with
  | zero =>
    -- an infinite number, or none when `CpuFid` is 0 too
    have hdiv : (Double.finite fid).div (.finite 0) =
        if fid = 0 then .nan else .infinite false := by
      have hneg : ¬(fid : ℚ) < 0 := not_lt.mpr (Nat.cast_nonneg _)
      rw [Double.div, if_neg (by simp)]
      simp [hneg]
    rw [Nat.cast_zero, hdiv]
    split
    · rfl
    · exact hundredths_infinite
  | succ did =>
    have hpos : (0 : ℚ) < (did + 1 : ℕ) := by exact_mod_cast Nat.succ_pos _
    have hquot : (fid : ℚ) / (did + 1 : ℕ) * 2 ^ (1 : ℤ) = (2 * fid : ℕ) / (did + 1 : ℕ) := by
      rw [zpow_one, div_mul_eq_mul_div, mul_comm]
      push_cast
      rfl
    have happrox := (approximates_roundDouble ((fid : ℚ) / (did + 1 : ℕ))).mul_two_zpow
      (isDouble_roundDouble _) 1
    rw [hquot, zpow_one] at happrox
    rw [Double.div_finite hpos.ne', Double.ofInt_of_lt (by decide), Double.mul, Int.cast_ofNat]
    exact isMultiplier_of_approximates (Nat.succ_pos _) happrox (by omega)
      ((Nat.div_le_self _ _).trans_lt (by omega))

/-- The value of a P-state whose register can be read. -/
theorem amdMultiplier_isMultiplier (hk : k < 8) (hread : call.driver (pstateAddr k) = some value)
    (hlow : -5 ≤ cpuClock) (hhigh : cpuClock < 2 ^ 30) :
    IsMultiplier (amdMultiplier call id cpuClock .ok (pstateAddr k) >>= hundredths)
      (coreMultiplier id cpuClock value) := by
  obtain ⟨err, mult, hmult, hresult⟩ : ∃ err mult,
      getAmdMultipliers id call cpuClock (pstateAddr k) = .ok (err, mult) ∧
        IsMultiplier (hundredths (if err = 0 then mult else none))
          (coreMultiplier id cpuClock value) := by
    by_cases h12 : id.x86.extFamily = 0x12
    · exact getAmdMultipliers_12h h12 hk hread
    by_cases h14 : id.x86.extFamily = 0x14
    · exact getAmdMultipliers_14h h14 hk hread hlow hhigh
    by_cases h10 : id.x86.extFamily ∈ [(0x10 : Int), 0x11, 0x15, 0x16]
    · exact getAmdMultipliers_10h h10 hk hread
    by_cases h17 : id.x86.extFamily ∈ [(0x17 : Int), 0x18, 0x19]
    · exact getAmdMultipliers_17h h17 hk hread
    -- no other family has a formula
    refine ⟨1, none, ?_, ?_⟩
    · simp only [getAmdMultipliers, if_neg (pstateAddr_valid k hk), if_neg h12, if_neg h14,
        if_neg h10, if_neg h17]
    · simp only [coreMultiplier, if_neg h12, if_neg h14, if_neg h10, if_neg h17]
      exact hundredths_none
  have hcode : CpuError.ok.code + err = err := Int.zero_add err
  rw [amdMultiplier, hmult, ok_bind, ok_bind, hcode]
  exact hresult

/-! ### Requests -/

variable {s : MsrStatics} {err : Int} {addr : BitVec 32} {which : CpuMsrinfoRequest}

theorem vendor_ne_intel (hamd : isAmdOrHygon id = true) : id.vendor ≠ .intel := by
  intro h
  rw [isAmdOrHygon, h] at hamd
  exact absurd hamd (by decide)

theorem listsCore_amd (cores : List (Int × Int)) (hamd : isAmdOrHygon id = true) :
    listsCore cores id = false := by
  rw [listsCore, decide_eq_false (vendor_ne_intel hamd), Bool.false_and]

/-- The value after a function that leaves the static variables like this. -/
theorem map_fst_hundredths (x : Checked (Option Double)) (s : MsrStatics) :
    ((x >>= fun mult => (.ok (mult, s) : Checked _)) >>= fun r =>
      hundredths r.1 >>= fun value => (.ok (value, r.2) : Checked _)).map Prod.fst =
        x >>= hundredths := by
  cases x with
  | error e => rfl
  | ok mult =>
    rw [ok_bind, ok_bind, ok_bind]
    cases hundredths mult <;> rfl

/-- A request for a multiplier computes it for its P-state. -/
theorem msrSwitch_multiplier
    (hready : Ready err id cpuClock (lastPstateLoop (some call.driver) 8 0) s)
    (hamd : isAmdOrHygon id = true) (hpstate : AsksPstate call.driver which k) :
    (msrSwitch call which s).map Prod.fst =
      amdMultiplier call id cpuClock .ok (pstateAddr k) >>= hundredths := by
  have hne := vendor_ne_intel hamd
  cases hpstate with
  | max =>
    simp only [msrSwitch, getInfoMaxMultiplier, hready.ident, if_neg hne, if_pos hamd, hready.clock]
    exact map_fst_hundredths ..
  | min h =>
    obtain ⟨s₁, hplatform, hready₁⟩ := msrPlatformInfoSupported_ready hready
    obtain ⟨s₂, hlast, hready₂⟩ := getAmdLastPstateAddr_ready hready₁ rfl
    rw [listsCore_amd _ hamd] at hplatform
    simp only [msrSwitch, getInfoMinMultiplier, hplatform, Bool.false_eq_true, if_false,
      hready₁.ident, if_pos hamd, hlast, h.loop_eq, hready₂.ident, hready₂.clock]
    exact map_fst_hundredths ..
  | @cur value h =>
    have hreg : call.range msrPstateS 2 0 = (.ok, .ofNat 64 (extractsBits value 2 0)) :=
      MsrCall.range_some h (by decide) (by decide)
    have haddr : (BitVec.ofNat 64 (extractsBits value 2 0)).setWidth 32 =
        .ofNat 32 (extractsBits value 2 0) := BitVec.setWidth_ofNat_of_le (by decide) _
    simp only [msrSwitch, getInfoCurMultiplier, hready.ident, if_neg hne, if_pos hamd, hreg, haddr,
      hready.clock]
    exact map_fst_hundredths ..

/-- The processor and the clock of a call: the first call of a process finds them, and a later one
has them in the variables. -/
inductive FindsProcessor (call : MsrCall) (id : CpuId) (cpuClock : Int) : MsrStatics → Prop
  | first {internal : InternalIdInfo} (hdata : call.rawData.1 = .ok)
      (hident : cpuIdentInternal call.host call.rawData.2 = .ok (.ok, id, internal))
      (hclock : call.cpuClock = cpuClock) : FindsProcessor call id cpuClock .start
  | later {s : MsrStatics}
      (hready : Ready 0 id cpuClock (lastPstateLoop (some call.driver) 8 0) s) :
      FindsProcessor call id cpuClock s

theorem FindsProcessor.msrInit (h : FindsProcessor call id cpuClock s) :
    ∃ s', msrInit call s = .ok s' ∧
      Ready 0 id cpuClock (lastPstateLoop (some call.driver) 8 0) s' := by
  cases h with
  | first hdata hident hclock =>
    obtain ⟨s', hinit, hready⟩ :=
      msrInit_start hident (lastPstateLoop (some call.driver) 8 0)
    rw [hdata, hclock] at hready
    exact ⟨s', hinit, hready⟩
  | later hready => exact ⟨s, by rw [LibCpuid.msrInit, if_pos hready.init], hready⟩

/-- For an AMD processor, the least, current and greatest multipliers are those of the last enabled
P-state, the current and the first one, in hundredths without the fraction. -/
theorem cpuMsrinfo_multiplier (hfinds : FindsProcessor call id cpuClock s)
    (hamd : isAmdOrHygon id = true) (hlow : -5 ≤ cpuClock) (hhigh : cpuClock < 2 ^ 30)
    (hpstate : AsksPstate call.driver which k) (hread : call.driver (pstateAddr k) = some value) :
    IsMultiplier ((cpuMsrinfo call which s).map Prod.fst) (coreMultiplier id cpuClock value) := by
  obtain ⟨s', hinit, hready⟩ := hfinds.msrInit
  have hcall : cpuMsrinfo call which s = msrSwitch call which s' := by
    rw [cpuMsrinfo, hinit, ok_bind, if_neg (fun h => h hready.error)]
  rw [hcall, msrSwitch_multiplier hready hamd hpstate]
  exact amdMultiplier_isMultiplier hpstate.lt hread hlow hhigh

end Families

theorem identifies_zenRaw : ∃ id internal,
    cpuIdentInternal (twoPstatesCall 1).host zenRaw = .ok (.ok, id, internal) ∧ id.vendor = .amd ∧
      id.x86.extFamily = 0x17 := by
  have hrun : yields (cpuIdentInternal (twoPstatesCall 1).host zenRaw)
      (fun r => decide (r.1 = .ok ∧ r.2.1.vendor = .amd ∧ r.2.1.x86.extFamily = 0x17)) = true := by
    decide +kernel
  obtain ⟨⟨r, id, internal⟩, hident, hid⟩ := exists_of_yields hrun
  obtain ⟨rfl, hvendor, hfamily⟩ := of_decide_eq_true hid
  exact ⟨id, internal, hident, hvendor, hfamily⟩

/-- The first call of a process: `CpuFid` is 128 and `CpuDfsId` is 10, so that the multiplier is
25.6. -/
theorem cpuMsrinfo_multiplier_zen :
    IsMultiplier ((cpuMsrinfo (twoPstatesCall 1) .curMultiplier .start).map Prod.fst)
      (some (256, 10)) := by
  obtain ⟨id, internal, hident, hvendor, hfamily⟩ := identifies_zenRaw
  have hmult : coreMultiplier id 3600 0x8000000045160a80 = some (256, 10) := by
    rw [coreMultiplier, hfamily]
    rfl
  rw [← hmult]
  exact cpuMsrinfo_multiplier (.first rfl hident rfl) (by rw [isAmdOrHygon, hvendor]; rfl)
    (by decide) (by decide) (.cur (show twoPstates 1 msrPstateS = some 1 from rfl)) rfl

-- `CpuFid` 46 and `CpuDfsId` 5: the multiplier is 18.4.
example : hundredths (some (((Double.ofInt 46).div (.ofInt 5)).mul (.ofInt 2))) = .ok 1839 := by
  decide +kernel

end LibCpuid
