import LibCpuid.CpuGroups

/-! When the core and cache counters of `cpu_identify_all` are exact.  A table has one slot for each
id modulo its size, so ids that share a slot are counted once, and its counter has eight bits. -/

namespace LibCpuid

open CLang

/-- The logical CPUs whose bit is set in an affinity mask. -/
def membersOf (mask : CpuAffinityMask) (cpus : List IdentifiedCpu) : List IdentifiedCpu :=
  cpus.zipIdx.filterMap fun c =>
    if getAffinityMaskBit (Fin.ofNat _ c.2) mask then some c.1 else none

/-- The core ids of the logical CPUs in an affinity mask. -/
def coreIdsIn (mask : CpuAffinityMask) (cpus : List IdentifiedCpu) : List (BitVec 32) :=
  (membersOf mask cpus).map fun c => c.topology.coreId

/-- The ids of the caches of one cache mask, of the logical CPUs in an affinity mask. -/
def cacheIdsIn (mask : CpuAffinityMask) (cacheMask : BitVec 32) (cpus : List IdentifiedCpu) :
    List (BitVec 32) :=
  if cacheMask = 0 then [] else (membersOf mask cpus).map fun c => c.topology.apicId &&& cacheMask

/-- The core ids of the logical CPUs of a type. -/
def coreIdsOf (τ : CoreType) (cpus : List IdentifiedCpu) : List (BitVec 32) :=
  (cpus.filter fun c => c.type = τ).map fun c => c.topology.coreId

/-- The ids of the caches of a level, of the logical CPUs whose entries have a mask for it. -/
def cacheIdsOf (level : CacheType) (cpus : List IdentifiedCpu) : List (BitVec 32) :=
  cpus.filterMap fun c =>
    let mask := entryMask cpus c level.index
    if mask = 0 then none else some (c.topology.apicId &&& mask)

/-- Ids that a table counts exactly: no two share a slot, and the counter does not wrap. -/
def CountedExactly (ids : List (BitVec 32)) : Prop :=
  (∀ x ∈ ids, ∀ y ∈ ids, htableIndex x = htableIndex y → x = y) ∧ ids.toFinset.card < 2 ^ 8

/-! ### Tables and lists of ids -/

/-- The counter of a table is exact on the ids that it recorded, in whatever order and how often. -/
theorem Instances.Records.exact_iff {keys ids : List (BitVec 32)} {t : Instances}
    (h : t.Records keys) (hmem : ∀ x, x ∈ keys ↔ x ∈ ids) :
    (t.instances : Int) = ids.toFinset.card ↔ CountedExactly ids := by
  have hset : keys.toFinset = ids.toFinset := by
    ext x
    rw [List.mem_toFinset, List.mem_toFinset, hmem]
  have hiff := SlotTable.Records.instances_eq_card_iff h le_rfl (by decide)
  simp only [hset, hmem] at hiff
  rw [Nat.cast_inj]
  exact hiff

theorem CountedExactly.subset {ids ids' : List (BitVec 32)} (h : CountedExactly ids)
    (hsub : ids' ⊆ ids) : CountedExactly ids' := by
  refine ⟨fun x hx y hy => h.1 x (hsub hx) y (hsub hy), lt_of_le_of_lt ?_ h.2⟩
  refine Finset.card_le_card fun x hx => ?_
  exact List.mem_toFinset.mpr (hsub (List.mem_toFinset.mp hx))

theorem CountedExactly.congr {ids ids' : List (BitVec 32)} (h : ∀ x, x ∈ ids ↔ x ∈ ids') :
    CountedExactly ids ↔ CountedExactly ids' :=
  ⟨fun he => he.subset fun x hx => (h x).mpr hx, fun he => he.subset fun x hx => (h x).mp hx⟩

/-! ### Members of an entry -/

theorem mem_membersOf {mask : CpuAffinityMask} {cpus : List IdentifiedCpu} {c : IdentifiedCpu} :
    c ∈ membersOf mask cpus ↔
      ∃ i, cpus[i]? = some c ∧ getAffinityMaskBit (Fin.ofNat _ i) mask = true := by
  simp only [membersOf, List.mem_filterMap, Prod.exists, List.mem_zipIdx_iff_getElem?]
  constructor
  · rintro ⟨d, i, hd, h⟩
    split at h
    · next hbit => exact ⟨i, Option.some.inj h ▸ hd, hbit⟩
    · cases h
  · rintro ⟨i, hi, hbit⟩
    exact ⟨c, i, hi, by rw [if_pos hbit]⟩

theorem mem_cacheIdsIn {mask : CpuAffinityMask} {cacheMask : BitVec 32}
    {cpus : List IdentifiedCpu} {x : BitVec 32} :
    x ∈ cacheIdsIn mask cacheMask cpus ↔
      ∃ c ∈ membersOf mask cpus, cacheMask ≠ 0 ∧ c.topology.apicId &&& cacheMask = x := by
  unfold cacheIdsIn
  split
  · next h =>
    simp only [h, List.not_mem_nil, ne_eq, not_true_eq_false, false_and, and_false, exists_false]
  · next h => simp only [List.mem_map, ne_eq, h, not_false_eq_true, true_and]

theorem Visit.cacheId_eq_some {level : CacheType} {v : Visit} {x : BitVec 32} :
    v.cacheId level = some x ↔
      v.cacheMask level.index ≠ 0 ∧ v.topology.apicId &&& v.cacheMask level.index = x := by
  unfold Visit.cacheId
  dsimp only
  split
  · next h => simp only [h, reduceCtorEq, ne_eq, not_true_eq_false, false_and]
  · next h => simp only [h, Option.some.injEq, ne_eq, not_false_eq_true, true_and]

section Run

variable {raws : List CpuRawData} {cpus : List IdentifiedCpu} {hist : List Visit}
  {s : IdentState} {j : Nat} {data : CpuId} {info : InternalTypeInfo}

theorem Tracks.bit_iff (ht : Tracks hist s) (hdata : s.cpuTypes[j]? = some data) {i : Nat}
    (hi : i < 2 ^ 16) :
    getAffinityMaskBit (Fin.ofNat _ i) data.affinityMask = true ↔
      ∃ v, hist[i]? = some v ∧ v.entry = j := by
  have hval : (Fin.ofNat (2 ^ 16) i).val = i := Nat.mod_eq_of_lt hi
  rw [ht.mask j data hdata, hval]

/-- The members of an entry are the logical CPUs of its type. -/
theorem Groups.mem_membersOf (hg : Groups cpus hist s) (ht : Tracks hist s)
    (hlen : cpus.length < 2 ^ 16) (hdata : s.cpuTypes[j]? = some data)
    (hinfo : s.typeInfo[j]? = some info) {c : IdentifiedCpu} :
    c ∈ membersOf data.affinityMask cpus ↔ c ∈ cpus ∧ c.type = info.type := by
  have htype : ((groups cpus).map Prod.fst)[j]? = some info.type := by
    rw [← hg.entries, List.map_map, List.getElem?_map, hinfo]
    rfl
  rw [LibCpuid.mem_membersOf]
  constructor
  · rintro ⟨i, hc, hset⟩
    obtain ⟨v, hv, rfl⟩ :=
      (ht.bit_iff hdata ((List.getElem?_eq_some_iff.mp hc).1.trans hlen)).mp hset
    refine ⟨List.mem_of_getElem? hc, ?_⟩
    have := (hg.visit i v c hv hc).2
    rw [htype] at this
    exact (Option.some.inj this).symm
  · rintro ⟨hmem, hct⟩
    obtain ⟨i, hc⟩ := List.mem_iff_getElem?.mp hmem
    have hi := (List.getElem?_eq_some_iff.mp hc).1
    have hi' : i < hist.length := hg.length ▸ hi
    have hv : hist[i]? = some hist[i] := List.getElem?_eq_getElem _
    refine ⟨i, hc, (ht.bit_iff hdata (hi.trans hlen)).mpr ⟨_, hv, ?_⟩⟩
    -- the types of the entries are distinct, so the entry of the visit is this one
    have hentry := (hg.visit i _ c hv hc).2
    rw [hct, ← htype] at hentry
    have hlt : hist[i].entry < ((groups cpus).map Prod.fst).length :=
      (List.getElem?_eq_some_iff.mp (hentry.trans htype)).1
    exact (List.getElem?_inj hlt (groups_nodup cpus)).mp hentry

/-- The visits of an entry are those of its members. -/
theorem Groups.mem_visitsOf (hg : Groups cpus hist s) (htab : Tabulates raws hist s)
    (ht : Tracks hist s) (hlen : cpus.length < 2 ^ 16) (hdata : s.cpuTypes[j]? = some data)
    (hinfo : s.typeInfo[j]? = some info) {p : Visit → Prop} {q : IdentifiedCpu → Prop}
    (hpq : ∀ v c, Visit.Of cpus v c → v.cacheMask = info.idInfo.cacheMask → (p v ↔ q c)) :
    (∃ v ∈ visitsOf j hist, p v) ↔ ∃ c ∈ membersOf data.affinityMask cpus, q c := by
  have hmask {v : Visit} (hv : v ∈ hist) (he : v.entry = j) :
      v.cacheMask = info.idInfo.cacheMask := htab.cacheMask v hv info (he ▸ hinfo)
  constructor
  · rintro ⟨v, hv, hp⟩
    obtain ⟨hv, he⟩ := List.mem_filter.mp hv
    obtain ⟨i, hi⟩ := List.mem_iff_getElem?.mp hv
    have hlt : i < cpus.length := hg.length ▸ (List.getElem?_eq_some_iff.mp hi).1
    have hc : cpus[i]? = some cpus[i] := List.getElem?_eq_getElem hlt
    have he := of_decide_eq_true he
    refine ⟨cpus[i], LibCpuid.mem_membersOf.mpr
      ⟨i, hc, (ht.bit_iff hdata (hlt.trans hlen)).mpr ⟨v, hi, he⟩⟩, ?_⟩
    exact (hpq v _ (hg.visit_of htab hi hc) (hmask hv he)).mp hp
  · rintro ⟨c, hc, hq⟩
    obtain ⟨i, hc, hset⟩ := LibCpuid.mem_membersOf.mp hc
    obtain ⟨v, hv, he⟩ :=
      (ht.bit_iff hdata ((List.getElem?_eq_some_iff.mp hc).1.trans hlen)).mp hset
    have hmem := List.mem_of_getElem? hv
    refine ⟨v, List.mem_filter.mpr ⟨hmem, by simpa using he⟩, ?_⟩
    exact (hpq v c (hg.visit_of htab hv hc) (hmask hmem he)).mpr hq

/-- The core table of an entry is exact when it counts the core ids of its members exactly. -/
theorem Groups.cores_exact_iff (hg : Groups cpus hist s) (htab : Tabulates raws hist s)
    (ht : Tracks hist s) (hlen : cpus.length < 2 ^ 16) (hdata : s.cpuTypes[j]? = some data)
    (hinfo : s.typeInfo[j]? = some info) :
    (info.coreInstances.instances : Int) = (coreIdsIn data.affinityMask cpus).toFinset.card ↔
      CountedExactly (coreIdsIn data.affinityMask cpus) := by
  refine (htab.cores j info hinfo).exact_iff fun x => ?_
  simp only [coreIds, coreIdsIn, List.mem_map]
  exact hg.mem_visitsOf htab ht hlen hdata hinfo fun v c hvc _ => by rw [hvc.topology]

/-- The cache ids that an entry records are those of its members. -/
theorem Groups.mem_cacheIds_visitsOf (hg : Groups cpus hist s) (htab : Tabulates raws hist s)
    (ht : Tracks hist s) (hlen : cpus.length < 2 ^ 16) (hdata : s.cpuTypes[j]? = some data)
    (hinfo : s.typeInfo[j]? = some info) (level : CacheType) (x : BitVec 32) :
    x ∈ cacheIds level (visitsOf j hist) ↔
      x ∈ cacheIdsIn data.affinityMask (info.idInfo.cacheMask level.index) cpus := by
  rw [LibCpuid.mem_cacheIdsIn, cacheIds, List.mem_filterMap]
  refine hg.mem_visitsOf htab ht hlen hdata hinfo fun v c hvc hmask => ?_
  rw [Visit.cacheId_eq_some, hmask, hvc.topology]

/-- The cache tables of an entry, likewise. -/
theorem Groups.caches_exact_iff (hg : Groups cpus hist s) (htab : Tabulates raws hist s)
    (ht : Tracks hist s) (hlen : cpus.length < 2 ^ 16) (hdata : s.cpuTypes[j]? = some data)
    (hinfo : s.typeInfo[j]? = some info) (level : CacheType) :
    ((info.cacheInstances level).instances : Int) =
        (cacheIdsIn data.affinityMask (info.idInfo.cacheMask level.index) cpus).toFinset.card ↔
      CountedExactly
        (cacheIdsIn data.affinityMask (info.idInfo.cacheMask level.index) cpus) :=
  (htab.caches j info hinfo level).exact_iff
    (hg.mem_cacheIds_visitsOf htab ht hlen hdata hinfo level)

/-- The members of an entry have the core ids of its type. -/
theorem Groups.mem_coreIdsIn (hg : Groups cpus hist s) (ht : Tracks hist s)
    (hlen : cpus.length < 2 ^ 16) (hdata : s.cpuTypes[j]? = some data)
    (hinfo : s.typeInfo[j]? = some info) (x : BitVec 32) :
    x ∈ coreIdsIn data.affinityMask cpus ↔ x ∈ coreIdsOf info.type cpus := by
  simp [coreIdsIn, coreIdsOf, hg.mem_membersOf ht hlen hdata hinfo]

/-- The masks of an entry are those that its logical CPUs are counted with. -/
theorem Groups.entryMask_eq (hg : Groups cpus hist s) (hinfo : s.typeInfo[j]? = some info)
    {c : IdentifiedCpu} (hc : c.type = info.type) :
    entryMask cpus c = info.idInfo.cacheMask := by
  refine LibCpuid.entryMask_eq ?_
  rw [← hg.entries, hc]
  exact List.mem_map.mpr ⟨info, List.mem_of_getElem? hinfo, rfl⟩

theorem Groups.mem_cacheIdsIn (hg : Groups cpus hist s) (ht : Tracks hist s)
    (hlen : cpus.length < 2 ^ 16) (hdata : s.cpuTypes[j]? = some data)
    (hinfo : s.typeInfo[j]? = some info) (level : CacheType) (x : BitVec 32) :
    x ∈ cacheIdsIn data.affinityMask (info.idInfo.cacheMask level.index) cpus ↔
      ∃ c ∈ cpus, c.type = info.type ∧ entryMask cpus c level.index ≠ 0 ∧
        c.topology.apicId &&& entryMask cpus c level.index = x := by
  rw [LibCpuid.mem_cacheIdsIn]
  constructor
  · rintro ⟨c, hc, h⟩
    obtain ⟨hc, htype⟩ := (hg.mem_membersOf ht hlen hdata hinfo).mp hc
    exact ⟨c, hc, htype, by rwa [hg.entryMask_eq hinfo htype]⟩
  · rintro ⟨c, hc, htype, h⟩
    refine ⟨c, (hg.mem_membersOf ht hlen hdata hinfo).mpr ⟨hc, htype⟩, ?_⟩
    rwa [← hg.entryMask_eq hinfo htype]

theorem mem_cacheIdsOf {level : CacheType} {x : BitVec 32} :
    x ∈ cacheIdsOf level cpus ↔ ∃ c ∈ cpus, entryMask cpus c level.index ≠ 0 ∧
      c.topology.apicId &&& entryMask cpus c level.index = x := by
  simp only [cacheIdsOf, List.mem_filterMap]
  refine exists_congr fun c => and_congr_right fun _ => ?_
  split
  · next h => simp only [h, reduceCtorEq, ne_eq, not_true_eq_false, false_and]
  · next h => simp only [h, Option.some.injEq, ne_eq, not_false_eq_true, true_and]

/-- The cache ids that the system records are those of all logical CPUs. -/
theorem Groups.mem_cacheIds (hg : Groups cpus hist s) (htab : Tabulates raws hist s)
    (level : CacheType) (x : BitVec 32) :
    x ∈ cacheIds level hist ↔ x ∈ cacheIdsOf level cpus := by
  have hid {v : Visit} {c : IdentifiedCpu} (hvc : Visit.Of cpus v c) :
      v.cacheId level = some x ↔ entryMask cpus c level.index ≠ 0 ∧
        c.topology.apicId &&& entryMask cpus c level.index = x := by
    rw [Visit.cacheId_eq_some, hvc.cacheMask, hvc.topology]
  rw [mem_cacheIdsOf, cacheIds, List.mem_filterMap]
  constructor
  · rintro ⟨v, hv, hx⟩
    obtain ⟨c, hc, hvc⟩ := hg.exists_cpu htab hv
    exact ⟨c, hc, (hid hvc).mp hx⟩
  · rintro ⟨c, hc, hx⟩
    obtain ⟨v, hv, hvc⟩ := hg.exists_visit htab hc
    exact ⟨v, hv, (hid hvc).mpr hx⟩

theorem Groups.total_exact_iff (hg : Groups cpus hist s) (htab : Tabulates raws hist s)
    (level : CacheType) :
    ((s.cachesAll level).instances : Int) = (cacheIdsOf level cpus).toFinset.card ↔
      CountedExactly (cacheIdsOf level cpus) :=
  (htab.cachesAll level).exact_iff (hg.mem_cacheIds htab level)

end Run

end LibCpuid
