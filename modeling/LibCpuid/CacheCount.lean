import LibCpuid.CoreCount

/-! The cache instances of the entries and of the system, on arrays whose logical CPUs have a
topology and are identified. -/

namespace LibCpuid

open CLang

/-- The ids of the caches of a level, of the logical CPUs in the affinity mask of an entry. -/
def entryCacheIds (cpus : List IdentifiedCpu) (level : CacheType)
    (entry : CpuId × InternalTypeInfo) : List (BitVec 32) :=
  cacheIdsIn entry.1.affinityMask (entry.2.idInfo.cacheMask level.index) cpus

/-- Each entry reports the number of caches of its logical CPUs, by the masks that the last state of
the loop holds for it, and the system the number of caches of all entries. -/
structure SystemId.CachesExact (system : SystemId) (s : IdentState) (cpus : List IdentifiedCpu) :
    Prop where
  entry : ∀ entry ∈ system.cpuTypes.zip s.typeInfo, ∀ level : CacheType,
    entry.1.instances level = (entryCacheIds cpus level entry).toFinset.card
  total : ∀ level : CacheType, system.totalInstances level =
    ((system.cpuTypes.zip s.typeInfo).flatMap (entryCacheIds cpus level)).toFinset.card

section Run

variable {host : Host} {a : CpuRawDataArray} {cpus : List IdentifiedCpu} {hist : List Visit}
  {s : IdentState}

/-- The entries of the system, with what the loop knows of each. -/
theorem mem_finish_zip {numRaw : Nat} {entry : CpuId × InternalTypeInfo}
    (h : entry ∈ (s.finish true numRaw).cpuTypes.zip s.typeInfo) :
    ∃ (j : Nat) (data : CpuId), s.cpuTypes[j]? = some data ∧ s.typeInfo[j]? = some entry.2 ∧
      entry.1 = finishType true s.isTopologySupported numRaw entry.2 data := by
  obtain ⟨j, hj⟩ := List.mem_iff_getElem?.mp h
  obtain ⟨h1, h2⟩ := List.getElem?_zip_eq_some.mp hj
  obtain ⟨info, data, hinfo, hdata, heq⟩ := IdentState.finish_cpuTypes.mp h1
  rw [h2] at hinfo
  obtain rfl := Option.some.inj hinfo
  exact ⟨j, data, hdata, h2, heq⟩

/-- The entries have the cache ids of all logical CPUs. -/
theorem Groups.mem_flatMap_entryCacheIds (hg : Groups cpus hist s) (ht : Tracks hist s)
    (hlen : cpus.length < 2 ^ 16) (numRaw : Nat) (level : CacheType) (x : BitVec 32) :
    x ∈ ((s.finish true numRaw).cpuTypes.zip s.typeInfo).flatMap (entryCacheIds cpus level) ↔
      x ∈ cacheIdsOf level cpus := by
  rw [List.mem_flatMap, mem_cacheIdsOf]
  constructor
  · rintro ⟨entry, hentry, hx⟩
    obtain ⟨j, data, hdata, hinfo, heq⟩ := mem_finish_zip hentry
    rw [entryCacheIds, heq, finishType_affinityMask,
      hg.mem_cacheIdsIn ht hlen hdata hinfo] at hx
    obtain ⟨c, hc, -, h⟩ := hx
    exact ⟨c, hc, h⟩
  · rintro ⟨c, hc, h⟩
    obtain ⟨j, hj⟩ := List.mem_iff_getElem?.mp
      (mem_groups_types.mpr (List.mem_map.mpr ⟨c, hc, rfl⟩))
    rw [← hg.entries, List.map_map, List.getElem?_map, Option.map_eq_some_iff] at hj
    obtain ⟨info, hinfo, htype⟩ := hj
    have hlt : j < s.cpuTypes.length := by
      rw [← ht.aligned.typeInfo]
      exact (List.getElem?_eq_some_iff.mp hinfo).1
    have hdata : s.cpuTypes[j]? = some s.cpuTypes[j] := List.getElem?_eq_getElem hlt
    have hfin : (s.finish true numRaw).cpuTypes[j]? =
        some (finishType true s.isTopologySupported numRaw info s.cpuTypes[j]) :=
      IdentState.finish_cpuTypes.mpr ⟨info, s.cpuTypes[j], hinfo, hdata, rfl⟩
    refine ⟨(finishType true s.isTopologySupported numRaw info s.cpuTypes[j], info),
      List.mem_of_getElem? (List.getElem?_zip_eq_some.mpr ⟨hfin, hinfo⟩), ?_⟩
    rw [entryCacheIds, finishType_affinityMask, hg.mem_cacheIdsIn ht hlen hdata hinfo]
    exact ⟨c, hc, htype.symm, h⟩

theorem Groups.cachesExact_iff {raws : List CpuRawData} (hg : Groups cpus hist s)
    (htab : Tabulates raws hist s) (ht : Tracks hist s) (hlen : cpus.length < 2 ^ 16)
    (numRaw : Nat) :
    (s.finish true numRaw).CachesExact s cpus ↔
      ∀ level, CountedExactly (cacheIdsOf level cpus) := by
  have hmem := hg.mem_flatMap_entryCacheIds ht hlen numRaw
  have htotal (level : CacheType) :
      (s.finish true numRaw).totalInstances level =
          (((s.finish true numRaw).cpuTypes.zip s.typeInfo).flatMap
            (entryCacheIds cpus level)).toFinset.card ↔
        CountedExactly (cacheIdsOf level cpus) := by
    have hset : (((s.finish true numRaw).cpuTypes.zip s.typeInfo).flatMap
        (entryCacheIds cpus level)).toFinset = (cacheIdsOf level cpus).toFinset := by
      ext x
      rw [List.mem_toFinset, List.mem_toFinset, hmem]
    have hsystem : (s.finish true numRaw).totalInstances level = (s.cachesAll level).instances := by
      simp only [IdentState.finish, hg.supported, if_true]
    rw [hset, hsystem, hg.total_exact_iff htab level]
  constructor
  · exact fun h level => (htotal level).mp (h.total level)
  · intro hall
    refine ⟨fun entry hentry level => ?_, fun level => (htotal level).mpr (hall level)⟩
    obtain ⟨j, data, hdata, hinfo, heq⟩ := mem_finish_zip hentry
    -- the ids of an entry are among those of the system, so its table counts them exactly too
    have hsub : entryCacheIds cpus level entry ⊆ cacheIdsOf level cpus := fun x hx =>
      (hmem level x).mp (List.mem_flatMap.mpr ⟨entry, hentry, hx⟩)
    have hexact := (hall level).subset hsub
    rw [entryCacheIds, heq, finishType_affinityMask] at hexact ⊢
    rw [← (hg.caches_exact_iff htab ht hlen hdata hinfo level).mpr hexact, hg.supported]
    rfl

/-- `cpu_identify_all` counts the caches exactly if and only if its tables have room, and at no
level two cache ids share a slot or the ids fill the table. -/
theorem cacheInstances_exact_iff (h : a.Identified host cpus) :
    (∃ s system, identLoop host a = .ok s ∧ cpuIdentifyAll host a = .ok (.ok, system) ∧
        system.CachesExact s cpus) ↔
      InTables cpus ∧ ∀ level, CountedExactly (cacheIdsOf level cpus) := by
  have hlen : cpus.length < 2 ^ 16 := h.length ▸ a.numRaw_lt
  constructor
  · rintro ⟨s, system, hloop, hall, hexact⟩
    rw [cpuIdentifyAll_of_loop hloop] at hall
    obtain rfl := (Prod.mk.inj (Except.ok.inj hall)).2
    obtain ⟨hist, ht, htab, hg⟩ := identLoop_groups h hloop
    rw [h.affinity, hg.cachesExact_iff htab ht hlen] at hexact
    exact ⟨(identLoop_ok_iff h).mp ⟨s, hloop⟩, hexact⟩
  · rintro ⟨hin, hexact⟩
    obtain ⟨s, hloop⟩ := (identLoop_ok_iff h).mpr hin
    obtain ⟨hist, ht, htab, hg⟩ := identLoop_groups h hloop
    refine ⟨s, _, hloop, cpuIdentifyAll_of_loop hloop, ?_⟩
    rw [h.affinity, hg.cachesExact_iff htab ht hlen]
    exact hexact

end Run

/-- An Intel processor like `intelX2apic`, each of whose logical CPUs has a cache of its own and
shares another one with its sibling. -/
def intelX2apicShared (apicId : BitVec 32) : CpuRawData :=
  { intelX2apic apicId with
    intelFn4 := fun i =>
      if i = 0 then { eax := 0x21, ebx := 0, ecx := 0, edx := 0 }
      else if i = 1 then { eax := 0x4043, ebx := 0, ecx := 0, edx := 0 }
      else .zero }

/-- The two logical CPUs of a core. -/
def intelX2apicSharedArray : CpuRawDataArray where
  withAffinity := true
  raw := [intelX2apicShared 0, intelX2apicShared 1]
  numRaw_lt := by decide

/-- What identification finds about a logical CPU of `intelX2apicSharedArray`. -/
def intelX2apicSharedCpu (logicalCpu : Nat) (apicId smtId : BitVec 32) : IdentifiedCpu where
  purpose := .general
  topology := { apicId, packageId := 0, coreId := 0, smtId, logicalCpu }
  cacheMask := fun i => if i = 0 then -1 else if i = 1 then -2 else 0

/-- The logical CPUs of `intelX2apicSharedArray`. -/
def intelX2apicSharedCpus : List IdentifiedCpu :=
  [intelX2apicSharedCpu 0 0 0, intelX2apicSharedCpu 1 1 1]

theorem identified_intelX2apicShared :
    intelX2apicSharedArray.Identified ⟨fun _ _ => .zero, 2⟩ intelX2apicSharedCpus where
  affinity := rfl
  length := rfl
  each i raw c hraw hc := by
    match i with
    | 0 =>
      obtain rfl := Option.some.inj hraw
      obtain rfl := Option.some.inj hc
      exact Identifies.of_eval rfl (by decide +kernel)
    | 1 =>
      obtain rfl := Option.some.inj hraw
      obtain rfl := Option.some.inj hc
      exact Identifies.of_eval rfl (by decide +kernel)
    | _ + 2 => cases hraw

theorem inTables_intelX2apicShared : InTables intelX2apicSharedCpus where
  types := by decide +kernel
  ids c hc := by
    simp only [intelX2apicSharedCpus, List.mem_cons, List.not_mem_nil, or_false] at hc
    have hmask : entryMask intelX2apicSharedCpus c = (intelX2apicSharedCpu 0 0 0).cacheMask := by
      rcases hc with rfl | rfl <;> rfl
    rw [hmask]
    refine ⟨?_, fun level _ => ?_⟩
    · rcases hc with rfl | rfl <;> decide
    · rcases hc with rfl | rfl <;> cases level <;> decide

/-- Two caches at the first level, and one at the next. -/
theorem countedExactly_intelX2apicShared (level : CacheType) :
    CountedExactly (cacheIdsOf level intelX2apicSharedCpus) := by
  have hids : cacheIdsOf level intelX2apicSharedCpus ⊆ [0, 1] := by
    cases level <;> decide +kernel
  exact countedExactly_zero_one.subset hids

theorem cacheInstances_exact_intelX2apicShared :
    ∃ s system, identLoop ⟨fun _ _ => .zero, 2⟩ intelX2apicSharedArray = .ok s ∧
      cpuIdentifyAll ⟨fun _ _ => .zero, 2⟩ intelX2apicSharedArray = .ok (.ok, system) ∧
      system.CachesExact s intelX2apicSharedCpus :=
  (cacheInstances_exact_iff identified_intelX2apicShared).mpr
    ⟨inTables_intelX2apicShared, countedExactly_intelX2apicShared⟩

/-- An Intel processor like `intelX2apic`, each of whose logical CPUs has a cache of its own. -/
def intelX2apicCache (apicId : BitVec 32) : CpuRawData :=
  { intelX2apic apicId with
    intelFn4 := fun i => if i = 0 then { eax := 0x21, ebx := 0, ecx := 0, edx := 0 } else .zero }

/-- Two logical CPUs of one package whose cache ids differ by the size of the table. -/
def intelX2apicCacheArray : CpuRawDataArray where
  withAffinity := true
  raw := [intelX2apicCache 0, intelX2apicCache 256]
  numRaw_lt := by decide

/-- The logical CPUs of `intelX2apicCacheArray`. -/
def intelX2apicCacheCpus : List IdentifiedCpu :=
  intelX2apicCpus.map fun c => { c with cacheMask := fun i => if i = 0 then -1 else 0 }

theorem cacheInstances_collision_intelX2apic :
    intelX2apicCacheArray.Identified ⟨fun _ _ => .zero, 2⟩ intelX2apicCacheCpus ∧
    ∃ s system, identLoop ⟨fun _ _ => .zero, 2⟩ intelX2apicCacheArray = .ok s ∧
      cpuIdentifyAll ⟨fun _ _ => .zero, 2⟩ intelX2apicCacheArray = .ok (.ok, system) ∧
      ¬system.CachesExact s intelX2apicCacheCpus := by
  refine ⟨⟨rfl, rfl, fun i raw c hraw hc => ?_⟩, ?_⟩
  · match i with
    | 0 =>
      obtain rfl := Option.some.inj hraw
      obtain rfl := Option.some.inj hc
      exact Identifies.of_eval rfl (by decide +kernel)
    | 1 =>
      obtain rfl := Option.some.inj hraw
      obtain rfl := Option.some.inj hc
      exact Identifies.of_eval rfl (by decide +kernel)
    | _ + 2 => cases hraw
  · have hrun : yields (identLoop ⟨fun _ _ => .zero, 2⟩ intelX2apicCacheArray)
        (fun s => decide ((s.finish true 2).totalInstances .l1i = 1 ∧
          (((s.finish true 2).cpuTypes.zip s.typeInfo).flatMap
            (entryCacheIds intelX2apicCacheCpus .l1i)).toFinset.card = 2)) = true := by
      decide +kernel
    obtain ⟨s, h, hcounts⟩ := exists_of_yields hrun
    refine ⟨s, _, h, cpuIdentifyAll_of_loop h, fun hexact => ?_⟩
    obtain ⟨hone, htwo⟩ := of_decide_eq_true hcounts
    have htotal := hexact.total .l1i
    change (s.finish true 2).totalInstances .l1i = _ at htotal
    rw [hone] at htotal
    change _ = (((((s.finish true 2).cpuTypes.zip s.typeInfo).flatMap
      (entryCacheIds intelX2apicCacheCpus .l1i)).toFinset.card : Nat) : Int) at htotal
    rw [htwo] at htotal
    cases htotal

end LibCpuid
