import LibCpuid.CLang.Wrap
import LibCpuid.CacheMasks

/-! The cache sizes of `decode_deterministic_cache_info_x86`, against the products of the register
fields in unbounded integers. -/

namespace LibCpuid

open CLang

/-! ### One sub-leaf -/

/-- The number of bytes of the cache that a sub-leaf describes. -/
def cacheBytes (regs : Regs) : Nat :=
  (extractsBits regs.ebx 31 22 + 1) * (extractsBits regs.ebx 21 12 + 1) *
    (extractsBits regs.ebx 11 0 + 1) * (extractsBits regs.ecx 31 0 + 1)

/-- The size that is stored is that of the product modulo `2 ^ 32`. -/
theorem toNat_deterministicCacheSize (regs : Regs) :
    (deterministicCacheSize regs).toNat = cacheBytes regs % 2 ^ 32 / 1024 := by
  have hproduct :
      (BitVec.ofNat 32 (extractsBits regs.ebx 31 22 + 1) *
        BitVec.ofNat 32 (extractsBits regs.ebx 21 12 + 1) *
        BitVec.ofNat 32 (extractsBits regs.ebx 11 0 + 1) *
        BitVec.ofNat 32 (extractsBits regs.ecx 31 0 + 1)) = BitVec.ofNat 32 (cacheBytes regs) := by
    simp only [cacheBytes, BitVec.ofNat_mul]
  rw [deterministicCacheSize, hproduct, BitVec.toNat_udiv, BitVec.toNat_ofNat]
  rfl

theorem toInt_deterministicCacheSize (regs : Regs) :
    (deterministicCacheSize regs).toInt = (cacheBytes regs % 2 ^ 32 / 1024 : Nat) := by
  rw [BitVec.toInt_eq_toNat_of_lt, toNat_deterministicCacheSize]
  rw [toNat_deterministicCacheSize]
  omega

/-- The quotient of the product modulo `2 ^ 32` is that of the product, where an `int32_t` holds the
latter, exactly when nothing wrapped around or the quotient does not fit. -/
theorem wrappedSize_eq_iff (bytes : Nat) :
    (bytes / 1024 < 2 ^ 31 → bytes % 2 ^ 32 / 1024 = bytes / 1024) ↔
      bytes < 2 ^ 32 ∨ 2 ^ 41 ≤ bytes := by
  rw [mod_div_eq_div_iff (by decide) (by decide)]
  omega

/-! ### The scan -/

theorem lastOfType_cons {regs : Regs} (hd : DescribesCache regs) (rest : List Regs)
    (type : CacheType) :
    lastOfType (regs :: rest) type =
      (lastOfType rest type).or (if knownCache regs = some type then some regs else none) := by
  rw [lastOfType, liveSubleaves_cons, if_pos hd, List.filter_cons]
  by_cases h : knownCache regs = some type
  · rw [if_pos (decide_eq_true h), if_pos h, List.getLast?_cons, ← lastOfType]
    cases lastOfType rest type <;> rfl
  · rw [if_neg (by simpa using h), if_neg h, Option.or_none, ← lastOfType]

theorem lastOfType_of_not {regs : Regs} (hd : ¬DescribesCache regs) (rest : List Regs)
    (type : CacheType) : lastOfType (regs :: rest) type = none := by
  rw [lastOfType, liveSubleaves_cons, if_neg hd]
  rfl

/-- The scan leaves each type the size of the last live sub-leaf of the type. -/
theorem decodeDeterministicCacheInfoX86_cache {leaves : List Regs} {i : Nat}
    {s s' : CpuId × InternalIdInfo} (h : decodeDeterministicCacheInfoX86 i leaves s = .ok s')
    (type : CacheType) :
    s'.1.cache type =
      (lastOfType leaves type).elim (s.1.cache type) fun r => (deterministicCacheSize r).toInt := by
  induction leaves generalizing i s with
  | nil =>
    cases h
    rfl
  | cons regs rest ih =>
    obtain ⟨data, internal⟩ := s
    rcases decodeDeterministicCacheInfoX86_cons i regs rest data internal with
      ⟨hd, hstep⟩ | ⟨hd, hknown, hstep⟩ | ⟨hd, known, hknown, hstep⟩
    · rw [hstep] at h
      cases h
      rw [lastOfType_of_not hd]
      rfl
    · rw [hstep] at h
      rw [ih h, lastOfType_cons hd, hknown, if_neg nofun, Option.or_none]
    · rw [hstep] at h
      obtain ⟨mask, -, h⟩ := bind_eq_ok.mp h
      rw [ih h, lastOfType_cons hd, hknown]
      cases lastOfType rest type with
      | some last => rfl
      | none =>
        show Function.update data.cache known (deterministicCacheSize regs).toInt type = _
        by_cases heq : known = type
        · subst heq
          rw [Function.update_self, if_pos rfl]
          rfl
        · rw [Function.update_of_ne (Ne.symm heq), if_neg (mt Option.some.inj heq)]
          rfl

theorem liveSubleaves_take (leaves : List Regs) (n : Nat) :
    liveSubleaves (leaves.take n) = (liveSubleaves leaves).take n :=
  List.take_takeWhile.symm

/-- A known sub-leaf is the last one of its type among those up to it. -/
theorem lastOfType_take {leaves : List Regs} {k : Nat} {regs : Regs} {type : CacheType}
    (h : knownSubleaf leaves k = some regs) (hknown : knownCache regs = some type) :
    lastOfType (leaves.take (k + 1)) type = some regs := by
  obtain ⟨hget, -⟩ := Option.filter_eq_some_iff.mp h
  rw [lastOfType, liveSubleaves_take, List.take_add_one, hget, Option.toList_some,
    List.filter_append, List.filter_singleton, decide_eq_true hknown]
  exact List.getLast?_concat

/-! ### Exact sizes -/

/-- Each known sub-leaf that the scan gets to leaves its type the exact size of its cache, when an
`int32_t` holds it. -/
def CacheSizesExact (leaves : List Regs) : Prop :=
  ∀ k regs type, knownSubleaf leaves k = some regs → knownCache regs = some type →
    ∀ s s', decodeDeterministicCacheInfoX86 0 (leaves.take (k + 1)) s = .ok s' →
      cacheBytes regs / 1024 < 2 ^ 31 → s'.1.cache type = (cacheBytes regs / 1024 : Nat)

theorem cache_eq_cacheBytes_iff {leaves : List Regs} {k : Nat} {regs : Regs} {type : CacheType}
    {s s' : CpuId × InternalIdInfo} (h : knownSubleaf leaves k = some regs)
    (hknown : knownCache regs = some type)
    (hrun : decodeDeterministicCacheInfoX86 0 (leaves.take (k + 1)) s = .ok s') :
    (cacheBytes regs / 1024 < 2 ^ 31 → s'.1.cache type = (cacheBytes regs / 1024 : Nat)) ↔
      cacheBytes regs < 2 ^ 32 ∨ 2 ^ 41 ≤ cacheBytes regs := by
  rw [decodeDeterministicCacheInfoX86_cache hrun, lastOfType_take h hknown, Option.elim_some,
    toInt_deterministicCacheSize, Nat.cast_inj, wrappedSize_eq_iff]

/-- The scan of the sub-leaves up to one that `cache_mask` has an element for returns. -/
theorem decodeDeterministicCacheInfoX86_take (leaves : List Regs) {k : Nat}
    (hk : k < numCacheTypes) (s : CpuId × InternalIdInfo) :
    ∃ s', decodeDeterministicCacheInfoX86 0 (leaves.take (k + 1)) s = .ok s' := by
  apply decodeDeterministicCacheInfoX86_returns.mpr
  intro j regs hj
  obtain ⟨hget, -⟩ := Option.filter_eq_some_iff.mp hj
  obtain ⟨hlt, -⟩ := List.getElem?_eq_some_iff.mp hget
  rw [liveSubleaves_take, List.length_take] at hlt
  omega

/-- The sizes are exact exactly when no known sub-leaf that `cache_mask` has an element for describes
a cache whose number of bytes wraps around, while its number of kilobytes fits. -/
theorem cacheSizesExact_iff (leaves : List Regs) :
    CacheSizesExact leaves ↔
      ∀ k < numCacheTypes, ∀ regs, knownSubleaf leaves k = some regs →
        cacheBytes regs < 2 ^ 32 ∨ 2 ^ 41 ≤ cacheBytes regs := by
  constructor
  · intro hexact k hk regs h
    obtain ⟨-, hsome⟩ := Option.filter_eq_some_iff.mp h
    obtain ⟨type, hknown⟩ := Option.isSome_iff_exists.mp hsome
    obtain ⟨s', hrun⟩ := decodeDeterministicCacheInfoX86_take leaves hk
      (cpuIdConstructor, { score := 0, cacheMask := fun _ => 0 })
    exact (cache_eq_cacheBytes_iff h hknown hrun).mp (hexact k regs type h hknown _ _ hrun)
  · intro hsmall k regs type h hknown s s' hrun
    refine (cache_eq_cacheBytes_iff h hknown hrun).mpr (hsmall k ?_ regs h)
    have hinside : knownSubleaf (leaves.take (k + 1)) k = some regs := by
      rw [knownSubleaf, liveSubleaves_take, List.getElem?_take_of_lt (Nat.lt_succ_self k)]
      exact h
    have := decodeDeterministicCacheInfoX86_returns.mp ⟨s', hrun⟩ k regs hinside
    omega

/-- A leaf 4 whose only cache, an L3 cache, has 16 ways of 2 ^ 22 sets of 64-byte lines. -/
def hugeCacheLeaves : List Regs := [⟨0x163, 0x03c0003f, 0x3fffff, 0⟩]

/-- The size of a cache of 4 GB is stored as zero. -/
theorem not_cacheSizesExact_huge : ¬CacheSizesExact hugeCacheLeaves := by
  intro h
  have hknown : knownSubleaf hugeCacheLeaves 0 = some ⟨0x163, 0x03c0003f, 0x3fffff, 0⟩ := by
    decide
  obtain ⟨s', hrun⟩ := decodeDeterministicCacheInfoX86_take hugeCacheLeaves
    (show 0 < numCacheTypes by decide) (cpuIdConstructor, { score := 0, cacheMask := fun _ => 0 })
  have := (cache_eq_cacheBytes_iff hknown rfl hrun).mp (h 0 _ _ hknown rfl _ _ hrun)
  revert this
  decide

end LibCpuid
