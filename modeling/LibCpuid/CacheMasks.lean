import LibCpuid.IdentifyBounds
import Mathlib.Data.Nat.Log

/-! The cache masks of `decode_deterministic_cache_info_x86`: which number each is, and under which
index it is stored. -/

namespace LibCpuid

open CLang

/-! ### `get_count_order` -/

/-- A mask of the top `n` bits is zero on the words below `2 ^ (32 - n)`. -/
theorem and_topBits_eq_zero_iff {x mask : BitVec 32} {n : Nat}
    (hmask : mask = BitVec.allOnes 32 <<< (32 - n)) :
    x &&& mask = 0 ↔ x.toNat < 2 ^ (32 - n) := by
  subst hmask
  constructor
  · intro h
    refine Nat.lt_pow_two_of_testBit _ fun i hi => ?_
    have hbit := congrArg (fun y : BitVec 32 => y.getLsbD i) h
    simp only [BitVec.getLsbD_and, BitVec.getLsbD_shiftLeft, BitVec.getLsbD_allOnes] at hbit
    rcases Nat.lt_or_ge i 32 with hlt | hge
    · rw [BitVec.testBit_toNat]
      simpa [hlt, Nat.not_lt.mpr hi, show i - (32 - n) < 32 by omega] using hbit
    · exact Nat.testBit_lt_two_pow (lt_of_lt_of_le x.isLt (Nat.pow_le_pow_right (by omega) hge))
  · intro h
    refine BitVec.eq_of_getLsbD_eq fun i hi => ?_
    simp only [BitVec.getLsbD_and, BitVec.getLsbD_shiftLeft, BitVec.getLsbD_allOnes]
    rcases Nat.lt_or_ge i (32 - n) with hlt | hge
    · simp [hlt]
    · have hzero : x.getLsbD i = false := by
        rw [← BitVec.testBit_toNat]
        exact Nat.testBit_lt_two_pow (lt_of_lt_of_le h (Nat.pow_le_pow_right (by omega) hge))
      simp [hzero]

/-- The word `y`, shifted left until its top `n` bits are not all zero, and the number of bits that
are left below the shift. -/
structure ShiftedUp (y n : Nat) (s : BitVec 32 × Int) : Prop where
  top : 2 ^ (32 - n) ≤ s.1.toNat
  word : ∃ r : Nat, s.2 = r ∧ r ≤ 32 ∧ s.1.toNat = y * 2 ^ (32 - r)

/-- One test of `get_count_order`. -/
theorem ShiftedUp.step {y n : Nat} {s : BitVec 32 × Int} {mask : BitVec 32} (hn : n ≤ 16)
    (hmask : mask = BitVec.allOnes 32 <<< (32 - n)) (h : ShiftedUp y (2 * n) s) :
    ShiftedUp y n (if s.1 &&& mask = 0 then (s.1 <<< n, s.2 - n) else s) := by
  obtain ⟨htop, r, hr, hle, hword⟩ := h
  split
  case isTrue hzero =>
    have hlt := (and_topBits_eq_zero_iff hmask).mp hzero
    have hpos : 0 < y := by
      refine Nat.pos_of_ne_zero fun h0 => ?_
      rw [hword, h0, Nat.zero_mul] at htop
      exact absurd htop (Nat.not_le.mpr (Nat.two_pow_pos _))
    have hnr : n < r := by
      rw [hword] at hlt
      have := lt_of_le_of_lt (Nat.le_mul_of_pos_left (2 ^ (32 - r)) hpos) hlt
      have := (Nat.pow_lt_pow_iff_right (by omega)).mp this
      omega
    have hshift : (s.1 <<< n).toNat = s.1.toNat * 2 ^ n := by
      rw [BitVec.toNat_shiftLeft, Nat.shiftLeft_eq, Nat.mod_eq_of_lt]
      calc
        s.1.toNat * 2 ^ n < 2 ^ (32 - n) * 2 ^ n :=
          Nat.mul_lt_mul_of_pos_right hlt (Nat.two_pow_pos n)
        _ = 2 ^ 32 := by rw [← Nat.pow_add, Nat.sub_add_cancel (by omega)]
    refine ⟨?_, r - n, by simp only; omega, by omega, ?_⟩
    · show _ ≤ (s.1 <<< n).toNat
      rw [hshift]
      calc
        2 ^ (32 - n) = 2 ^ (32 - 2 * n) * 2 ^ n := by rw [← Nat.pow_add]; congr 1; omega
        _ ≤ s.1.toNat * 2 ^ n := Nat.mul_le_mul_right _ htop
    · show (s.1 <<< n).toNat = _
      rw [hshift, hword, Nat.mul_assoc, ← Nat.pow_add]
      congr 2
      omega
  case isFalse hnonzero =>
    refine ⟨?_, r, hr, hle, hword⟩
    exact Nat.not_lt.mp fun hlt => hnonzero ((and_topBits_eq_zero_iff hmask).mpr hlt)

/-- A word whose top bit is set and that is `y` shifted left holds `y` in `r` bits and no fewer. -/
theorem ShiftedUp.clog {y : Nat} {s : BitVec 32 × Int} (h : ShiftedUp y 1 s) :
    s.2 = Nat.clog 2 (y + 1) := by
  obtain ⟨htop, r, hr, hle, hword⟩ := h
  have hlt : y * 2 ^ (32 - r) < 2 ^ 32 := hword ▸ s.1.isLt
  rw [hword] at htop
  have hsplit : 2 ^ 32 = 2 ^ r * 2 ^ (32 - r) := by
    rw [← Nat.pow_add, Nat.add_sub_of_le hle]
  have hupper : y < 2 ^ r := Nat.lt_of_mul_lt_mul_right (a := 2 ^ (32 - r)) (hsplit ▸ hlt)
  have hlower : 2 ^ r ≤ 2 * y := by
    refine Nat.le_of_mul_le_mul_right (c := 2 ^ (32 - r)) ?_ (Nat.two_pow_pos _)
    calc
      2 ^ r * 2 ^ (32 - r) = 2 * 2 ^ (32 - 1) := by rw [← hsplit]; rfl
      _ ≤ 2 * (y * 2 ^ (32 - r)) := Nat.mul_le_mul_left 2 htop
      _ = 2 * y * 2 ^ (32 - r) := (Nat.mul_assoc ..).symm
  rw [hr]
  congr 1
  apply Nat.le_antisymm
  · cases r with
    | zero => exact Nat.zero_le _
    | succ r =>
      have : 2 ^ r < y + 1 := by rw [Nat.pow_succ] at hlower; omega
      exact (Nat.lt_clog_iff_pow_lt (by omega)).mpr this
  · exact Nat.clog_le_of_le_pow (by omega)

/-- `get_count_order` is the least exponent of a power of two that is not below the number. -/
theorem getCountOrder_eq_clog {x : BitVec 32} (hx : x ≠ 0) :
    getCountOrder x = Nat.clog 2 x.toNat := by
  have hpos : 0 < x.toNat := Nat.pos_of_ne_zero fun h => hx (BitVec.eq_of_toNat_eq h)
  have hsub : (x - 1).toNat = x.toNat - 1 :=
    BitVec.toNat_sub_of_le (show (1 : BitVec 32) ≤ x by rw [BitVec.le_def]; exact hpos)
  rw [getCountOrder, if_neg hx]
  dsimp only
  split
  case isTrue hone =>
    have h0 : x.toNat - 1 = 0 := by rw [← hsub, hone]; rfl
    rw [show x.toNat = 1 by omega, Nat.clog_one_right]
    rfl
  case isFalse hmore =>
    have hy : 1 ≤ x.toNat - 1 := by
      rw [← hsub]
      exact Nat.pos_of_ne_zero fun h => hmore (BitVec.eq_of_toNat_eq h)
    have hstart : ShiftedUp (x.toNat - 1) 32 (x - 1, 32) := by
      refine ⟨?_, 32, rfl, le_rfl, ?_⟩
      · show 2 ^ (32 - 32) ≤ (x - 1).toNat
        rw [hsub]
        exact hy
      · show (x - 1).toNat = _
        rw [hsub, Nat.sub_self, Nat.pow_zero, Nat.mul_one]
    have h16 := @ShiftedUp.step _ 16 _ 0xffff0000 (by omega) (by decide) hstart
    have h8 := @ShiftedUp.step _ 8 _ 0xff000000 (by omega) (by decide) h16
    have h4 := @ShiftedUp.step _ 4 _ 0xf0000000 (by omega) (by decide) h8
    have h2 := @ShiftedUp.step _ 2 _ 0xc0000000 (by omega) (by decide) h4
    have h1 := @ShiftedUp.step _ 1 _ 0x80000000 (by omega) (by decide) h2
    have := h1.clog
    rwa [Nat.sub_add_cancel hpos] at this

theorem isLeast_clog {b : Nat} (hb : 1 < b) (n : Nat) :
    IsLeast {k : Nat | n ≤ b ^ k} (Nat.clog b n) :=
  ⟨Nat.le_pow_clog hb n, fun _ hk => Nat.clog_le_of_le_pow hk⟩

/-- `get_count_order` is `-1` at zero, and elsewhere the least exponent of a power of two that is
not below the number. -/
theorem getCountOrder_isLeast (x : BitVec 32) :
    (x = 0 → getCountOrder x = -1) ∧
      (x ≠ 0 → ∃ r : Nat,
        getCountOrder x = r ∧ r ≤ 32 ∧ IsLeast {k : Nat | x.toNat ≤ 2 ^ k} r) := by
  constructor
  · rintro rfl
    rfl
  · intro hx
    refine ⟨Nat.clog 2 x.toNat, getCountOrder_eq_clog hx, ?_, isLeast_clog one_lt_two _⟩
    apply Nat.clog_le_of_le_pow
    exact x.isLt.le

/-! ### Masks -/

instance : DecidablePred DescribesCache := fun regs => by
  unfold DescribesCache
  infer_instance

/-- The sub-leaves before the first one that describes no cache. -/
def liveSubleaves (leaves : List Regs) : List Regs := leaves.takeWhile fun r => DescribesCache r

/-- The last of the live sub-leaves that describes a cache of a type. -/
def lastOfType (leaves : List Regs) (type : CacheType) : Option Regs :=
  ((liveSubleaves leaves).filter fun r => knownCache r = some type).getLast?

/-- The known cache that the live sub-leaf of a number describes. -/
def knownSubleaf (leaves : List Regs) (i : Nat) : Option Regs :=
  (liveSubleaves leaves)[i]?.filter fun r => (knownCache r).isSome

/-- The number of logical CPUs that share the cache of a sub-leaf. -/
def sharingCpus (regs : Regs) : Nat := extractsBits regs.eax 25 14 + 1

/-- The least exponent of a power of two that is not below the number of sharing CPUs. -/
def sharingOrder (regs : Regs) : Nat := Nat.clog 2 (sharingCpus regs)

/-- The mask of the cache ids of a cache that `2 ^ k` CPUs share. -/
def maskOfOrder (k : Nat) : BitVec 32 := ~~~(BitVec.ofNat 32 (2 ^ k - 1))

/-- The mask that a type should end with. -/
def expectedMask (leaves : List Regs) (type : CacheType) : BitVec 32 :=
  (lastOfType leaves type).elim 0 fun regs => maskOfOrder (sharingOrder regs)

theorem sharingCpus_le (regs : Regs) : sharingCpus regs ≤ 2 ^ 12 :=
  extractsBits_lt _ 25 14

theorem sharingOrder_le (regs : Regs) : sharingOrder regs ≤ 12 :=
  Nat.clog_le_of_le_pow (sharingCpus_le regs)

theorem maskOfOrder_ne_zero (regs : Regs) : maskOfOrder (sharingOrder regs) ≠ 0 := by
  have h : ∀ k ≤ 12, maskOfOrder k ≠ 0 := by decide
  exact h _ (sharingOrder_le regs)

theorem maskOfOrder_inj {a b : Regs} :
    maskOfOrder (sharingOrder a) = maskOfOrder (sharingOrder b) ↔
      sharingOrder a = sharingOrder b := by
  have h : ∀ j ≤ 12, ∀ k ≤ 12, maskOfOrder j = maskOfOrder k → j = k := by decide
  exact ⟨h _ (sharingOrder_le a) _ (sharingOrder_le b), congrArg maskOfOrder⟩

theorem deterministicCacheMask_eq (regs : Regs) :
    deterministicCacheMask regs = maskOfOrder (sharingOrder regs) := by
  have hlt : sharingCpus regs < 2 ^ 32 := lt_of_le_of_lt (sharingCpus_le regs) (by decide)
  have hnat : (BitVec.ofNat 32 (sharingCpus regs)).toNat = sharingCpus regs := by
    rw [BitVec.toNat_ofNat, Nat.mod_eq_of_lt hlt]
  have hne : BitVec.ofNat 32 (sharingCpus regs) ≠ 0 := by
    intro h
    rw [h] at hnat
    exact absurd hnat.symm (Nat.succ_ne_zero _)
  have horder : getCountOrder (BitVec.ofNat 32 (sharingCpus regs)) = sharingOrder regs := by
    rw [getCountOrder_eq_clog hne, hnat]
    rfl
  have hshift : ∀ k ≤ 12, ~~~((1#32 <<< k) - 1) = maskOfOrder k := by decide
  calc
    deterministicCacheMask regs
      = ~~~((1#32 <<< (getCountOrder (BitVec.ofNat 32 (sharingCpus regs))).toNat) - 1) := rfl
    _ = ~~~((1#32 <<< sharingOrder regs) - 1) := by rw [horder, Int.toNat_natCast]
    _ = maskOfOrder (sharingOrder regs) := hshift _ (sharingOrder_le regs)

/-! ### What the scan writes -/

theorem liveSubleaves_cons (regs : Regs) (rest : List Regs) :
    liveSubleaves (regs :: rest) =
      if DescribesCache regs then regs :: liveSubleaves rest else [] := by
  by_cases h : DescribesCache regs <;> simp [liveSubleaves, h]

theorem knownSubleaf_of_not {regs : Regs} (h : ¬DescribesCache regs) (rest : List Regs) (k : Nat) :
    knownSubleaf (regs :: rest) k = none := by
  simp [knownSubleaf, liveSubleaves_cons, h]

theorem knownSubleaf_zero {regs : Regs} (h : DescribesCache regs) (rest : List Regs) :
    knownSubleaf (regs :: rest) 0 = if (knownCache regs).isSome then some regs else none := by
  simp [knownSubleaf, liveSubleaves_cons, h, Option.filter]

theorem knownSubleaf_succ {regs : Regs} (h : DescribesCache regs) (rest : List Regs) (k : Nat) :
    knownSubleaf (regs :: rest) (k + 1) = knownSubleaf rest k := by
  simp [knownSubleaf, liveSubleaves_cons, h]

/-- What the scan does with its first sub-leaf. -/
theorem decodeDeterministicCacheInfoX86_cons (i : Nat) (regs : Regs) (rest : List Regs)
    (data : CpuId) (internal : InternalIdInfo) :
    (¬DescribesCache regs ∧
      decodeDeterministicCacheInfoX86 i (regs :: rest) (data, internal) = .ok (data, internal)) ∨
    (DescribesCache regs ∧ knownCache regs = none ∧
      decodeDeterministicCacheInfoX86 i (regs :: rest) (data, internal) =
        decodeDeterministicCacheInfoX86 (i + 1) rest (data, internal)) ∨
    (DescribesCache regs ∧ ∃ type, knownCache regs = some type ∧
      decodeDeterministicCacheInfoX86 i (regs :: rest) (data, internal) = (do
        let cacheMask ← store internal.cacheMask i (deterministicCacheMask regs)
        let data := assignCacheData true type (deterministicCacheSize regs).toInt
          (extractsBits regs.ebx 31 22 + 1) (extractsBits regs.ebx 11 0 + 1) data
        decodeDeterministicCacheInfoX86 (i + 1) rest (data, { internal with cacheMask }))) := by
  simp only [decodeDeterministicCacheInfoX86]
  split
  case isTrue h => exact .inl ⟨fun hd => h.elim hd.1 hd.2, rfl⟩
  case isFalse h =>
    have hd : DescribesCache regs := not_or.mp h
    split
    case h_1 hknown => exact .inr (.inl ⟨hd, hknown, rfl⟩)
    case h_2 type hknown => exact .inr (.inr ⟨hd, type, hknown, rfl⟩)

/-- The scan stays inside `cache_mask` exactly when each known live sub-leaf has a number below the
number of cache types. -/
theorem decodeDeterministicCacheInfoX86_returns {leaves : List Regs} {i : Nat}
    {s : CpuId × InternalIdInfo} :
    (∃ s', decodeDeterministicCacheInfoX86 i leaves s = .ok s') ↔
      ∀ k regs, knownSubleaf leaves k = some regs → i + k < numCacheTypes := by
  induction leaves generalizing i s with
  | nil => simp [decodeDeterministicCacheInfoX86, knownSubleaf, liveSubleaves]
  | cons regs rest ih =>
    obtain ⟨data, internal⟩ := s
    rcases decodeDeterministicCacheInfoX86_cons i regs rest data internal with
      ⟨hd, h⟩ | ⟨hd, hknown, h⟩ | ⟨hd, type, hknown, h⟩
    · rw [h]
      exact iff_of_true ⟨_, rfl⟩ fun k r hr => by simp [knownSubleaf_of_not hd] at hr
    · rw [h, ih]
      constructor
      · intro hall k r hr
        cases k with
        | zero => simp [knownSubleaf_zero hd, hknown] at hr
        | succ k =>
          have := hall k r (knownSubleaf_succ hd rest k ▸ hr)
          omega
      · intro hall k r hr
        have := hall (k + 1) r ((knownSubleaf_succ hd rest k).trans hr)
        omega
    · rw [h]
      constructor
      · rintro ⟨s', hs'⟩ k r hr
        obtain ⟨mask, hmask, hs'⟩ := bind_eq_ok.mp hs'
        cases k with
        | zero => exact (store_eq_ok.mp hmask).1
        | succ k =>
          have := ih.mp ⟨s', hs'⟩ k r (knownSubleaf_succ hd rest k ▸ hr)
          omega
      · intro hall
        have hi : i < numCacheTypes := hall 0 regs (by simp [knownSubleaf_zero hd, hknown])
        rw [store_of_lt _ hi, ok_bind]
        refine ih.mpr fun k r hr => ?_
        have := hall (k + 1) r ((knownSubleaf_succ hd rest k).trans hr)
        omega

/-- The scan stores the mask of each known live sub-leaf at the number of the sub-leaf, and no other
mask. -/
theorem decodeDeterministicCacheInfoX86_cacheMask {leaves : List Regs} {i : Nat}
    {s s' : CpuId × InternalIdInfo} (h : decodeDeterministicCacheInfoX86 i leaves s = .ok s')
    (j : Fin numCacheTypes) :
    s'.2.cacheMask j =
      if i ≤ j then (knownSubleaf leaves (j - i)).elim (s.2.cacheMask j) deterministicCacheMask
      else s.2.cacheMask j := by
  induction leaves generalizing i s with
  | nil =>
    cases h
    simp [knownSubleaf, liveSubleaves]
  | cons regs rest ih =>
    obtain ⟨data, internal⟩ := s
    -- the sub-leaf at `j - i`, when `j` is past `i`
    have hnext (hd : DescribesCache regs) (hlt : i < j.val) :
        knownSubleaf (regs :: rest) (j - i) = knownSubleaf rest (j - (i + 1)) := by
      rw [show j.val - i = j.val - (i + 1) + 1 by omega, knownSubleaf_succ hd]
    rcases decodeDeterministicCacheInfoX86_cons i regs rest data internal with
      ⟨hd, hstep⟩ | ⟨hd, hknown, hstep⟩ | ⟨hd, type, hknown, hstep⟩
    · rw [hstep] at h
      cases h
      simp [knownSubleaf_of_not hd]
    · rw [hstep] at h
      rw [ih h]
      rcases Nat.lt_trichotomy i j.val with hlt | heq | hgt
      · rw [if_pos (by omega), if_pos (by omega), hnext hd hlt]
      · rw [if_neg (by omega), if_pos (by omega), ← heq, Nat.sub_self, knownSubleaf_zero hd,
          hknown]
        rfl
      · rw [if_neg (by omega), if_neg (by omega)]
    · rw [hstep] at h
      obtain ⟨mask, hmask, h⟩ := bind_eq_ok.mp h
      obtain ⟨hi, rfl⟩ := store_eq_ok.mp hmask
      rw [ih h]
      rcases Nat.lt_trichotomy i j.val with hlt | heq | hgt
      · have hne : j ≠ ⟨i, hi⟩ := fun he => by simp [he] at hlt
        rw [if_pos (by omega), if_pos (by omega), hnext hd hlt]
        simp only [Function.update_of_ne hne]
      · have he : j = ⟨i, hi⟩ := Fin.ext heq.symm
        rw [if_neg (by omega), if_pos (by omega), ← heq, Nat.sub_self, knownSubleaf_zero hd,
          hknown, he]
        exact Function.update_self ..
      · have hne : j ≠ ⟨i, hi⟩ := fun he => by simp [he] at hgt
        rw [if_neg (by omega), if_neg (by omega)]
        exact Function.update_of_ne hne ..

/-! ### Types and numbers -/

/-- The masks of a table of sub-leaves are filed under the types of the caches: from masks that are
all zero the scan stays inside `cache_mask` and leaves each type its mask. -/
def MasksFiledByType (leaves : List Regs) : Prop :=
  ∀ data score, ∃ data' internal',
    decodeDeterministicCacheInfoX86 0 leaves (data, { score, cacheMask := fun _ => 0 }) =
        .ok (data', internal') ∧
      ∀ type, internal'.cacheMask (CacheType.index type) = expectedMask leaves type

/-- The live sub-leaves are numbered as the cache types are: no known one has a number past the
types, and the one with the number of a type describes a known cache exactly when some live
sub-leaf is of that type, shared by as many CPUs, up to the next power of two, as the last one. -/
structure NumberedByType (leaves : List Regs) : Prop where
  inside : ∀ i, numCacheTypes ≤ i → knownSubleaf leaves i = none
  sharing : ∀ type, (knownSubleaf leaves (CacheType.index type)).map sharingOrder =
    (lastOfType leaves type).map sharingOrder

theorem elim_maskOfOrder_inj {a b : Option Regs} :
    (a.elim 0 fun r => maskOfOrder (sharingOrder r)) =
        (b.elim 0 fun r => maskOfOrder (sharingOrder r)) ↔
      a.map sharingOrder = b.map sharingOrder := by
  cases a with
  | none =>
    cases b with
    | none => simp
    | some b => simpa using (maskOfOrder_ne_zero b).symm
  | some a =>
    cases b with
    | none => simpa using maskOfOrder_ne_zero a
    | some b => simpa using maskOfOrder_inj

/-- The mask that a type ends with is its own exactly when the sub-leaf numbered as the type has as
many sharing CPUs as the last one of the type. -/
theorem cacheMask_eq_expectedMask_iff {leaves : List Regs} {data data' : CpuId} {score : Int}
    {internal' : InternalIdInfo}
    (h : decodeDeterministicCacheInfoX86 0 leaves (data, { score, cacheMask := fun _ => 0 }) =
      .ok (data', internal')) (type : CacheType) :
    internal'.cacheMask type.index = expectedMask leaves type ↔
      (knownSubleaf leaves type.index).map sharingOrder =
        (lastOfType leaves type).map sharingOrder := by
  have hmask := decodeDeterministicCacheInfoX86_cacheMask h type.index
  rw [if_pos (Nat.zero_le _), Nat.sub_zero] at hmask
  rw [funext deterministicCacheMask_eq] at hmask
  rw [← elim_maskOfOrder_inj]
  exact hmask ▸ Iff.rfl

/-- The masks are filed under the types exactly when the sub-leaves are numbered as the types. -/
theorem masksFiledByType_iff (leaves : List Regs) :
    MasksFiledByType leaves ↔ NumberedByType leaves := by
  constructor
  · intro h
    obtain ⟨data', internal', hok, hall⟩ := h cpuIdConstructor 0
    refine ⟨fun i hi => ?_, fun type => (cacheMask_eq_expectedMask_iff hok type).mp (hall type)⟩
    cases hknown : knownSubleaf leaves i with
    | none => rfl
    | some regs =>
      have := decodeDeterministicCacheInfoX86_returns.mp ⟨_, hok⟩ i regs hknown
      omega
  · intro h data score
    obtain ⟨⟨data', internal'⟩, hok⟩ :
        ∃ s', decodeDeterministicCacheInfoX86 0 leaves
          (data, { score, cacheMask := fun _ => 0 }) = .ok s' := by
      refine decodeDeterministicCacheInfoX86_returns.mpr fun i regs hknown => ?_
      rcases Nat.lt_or_ge i numCacheTypes with hlt | hge
      · omega
      · rw [h.inside i hge] at hknown
        cases hknown
    exact ⟨data', internal', hok, fun type =>
      (cacheMask_eq_expectedMask_iff hok type).mpr (h.sharing type)⟩

/-- A leaf 8000001Dh of a module of two cores: an L1 data cache for each, and an L1 instruction
cache and an L2 cache that both share. -/
def moduleCacheLeaves : List Regs :=
  [⟨0x121, 0x00c0003f, 63, 0⟩, ⟨0x4122, 0x0040003f, 511, 0⟩, ⟨0x4143, 0x03c0003f, 2047, 0⟩,
    ⟨0x1c163, 0x0fc0003f, 2047, 0⟩]

/-- The mask of the data cache lands under the instruction cache. -/
theorem not_masksFiledByType_module : ¬MasksFiledByType moduleCacheLeaves := by
  intro h
  obtain ⟨data', internal', hok, hall⟩ := h cpuIdConstructor 0
  have := (cacheMask_eq_expectedMask_iff hok .l1i).mp (hall .l1i)
  revert this
  decide +kernel

end LibCpuid
