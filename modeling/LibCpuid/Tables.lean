import LibCpuid.Visits

/-! The core and cache tables of a run in which topology support lasts: what they record of the
visits. -/

namespace LibCpuid

open CLang

/-- The table holds what visits of `ids` leave. -/
abbrev Instances.Records (ids : List (BitVec 32)) (t : Instances) : Prop :=
  SlotTable.Records htableIndex (2 ^ 8) ids t

/-- The id of the cache of a level that a logical CPU uses, unless the mask of its entry is 0. -/
def Visit.cacheId (level : CacheType) (v : Visit) : Option (BitVec 32) :=
  let mask := v.cacheMask level.index
  if mask = 0 then none else some (v.topology.apicId &&& mask)

/-- The visits of the entry at index `j`. -/
def visitsOf (j : Nat) (hist : List Visit) : List Visit := hist.filter fun v => v.entry = j

/-- The core ids of some visits. -/
def coreIds (hist : List Visit) : List (BitVec 32) := hist.map fun v => v.topology.coreId

/-- The cache ids of a level of some visits. -/
def cacheIds (level : CacheType) (hist : List Visit) : List (BitVec 32) :=
  hist.filterMap (Visit.cacheId level)

theorem visitsOf_append (j : Nat) (hist : List Visit) (v : Visit) :
    visitsOf j (hist ++ [v]) = visitsOf j hist ++ if v.entry = j then [v] else [] := by
  rw [visitsOf, List.filter_append]
  by_cases h : v.entry = j <;> simp [visitsOf, h]

theorem visitsOf_length_le (j : Nat) (hist : List Visit) :
    (visitsOf j hist).length ≤ hist.length := List.length_filter_le _ _

theorem cacheIds_append (level : CacheType) (hist : List Visit) (v : Visit) :
    cacheIds level (hist ++ [v]) = cacheIds level hist ++ (v.cacheId level).toList := by
  rw [cacheIds, List.filterMap_append]
  cases h : v.cacheId level <;> simp [cacheIds, h]

theorem cacheIds_length_le (level : CacheType) (hist : List Visit) :
    (cacheIds level hist).length ≤ hist.length := List.length_filterMap_le _ _

/-- No visit is one of an entry that does not exist yet. -/
theorem visitsOf_new {hist : List Visit} {s : IdentState} (h : Tracks hist s) :
    visitsOf s.cpuTypes.length hist = [] := by
  rw [visitsOf, List.filter_eq_nil_iff]
  intro v hv
  have := h.entry_lt v hv
  simp only [decide_eq_true_eq]
  omega

/-! ### The updates -/

/-- What `update_cache_instances` does with the table of a level. -/
theorem updateCacheLevels_spec {topology : InternalTopology} {idInfo : InternalIdInfo}
    {levels : List CacheType} (hnodup : levels.Nodup) {caches caches' : CacheInstances}
    (h : levels.foldlM (updateCacheLevel topology idInfo) caches = .ok caches')
    (level : CacheType) :
    if level ∈ levels ∧ idInfo.cacheMask level.index ≠ 0 then
      (caches level).visit (topology.apicId &&& idInfo.cacheMask level.index) =
        .ok (caches' level)
    else caches' level = caches level := by
  induction levels generalizing caches with
  | nil =>
    obtain rfl : caches = caches' := Except.ok.inj h
    simp
  | cons l levels ih =>
    rw [List.foldlM_cons, bind_eq_ok] at h
    obtain ⟨caches1, hstep, hrest⟩ := h
    obtain ⟨hl, hnodup⟩ := List.nodup_cons.mp hnodup
    have hlast := ih hnodup hrest
    unfold updateCacheLevel at hstep
    dsimp only at hstep
    by_cases hm : idInfo.cacheMask l.index = 0
    · rw [if_pos hm] at hstep
      obtain rfl := Except.ok.inj hstep
      by_cases hlevel : level = l
      · subst hlevel
        simpa [hl, hm] using hlast
      · simpa [hlevel] using hlast
    · rw [if_neg hm] at hstep
      obtain ⟨t, ht, hstep⟩ := bind_eq_ok.mp hstep
      obtain rfl := Except.ok.inj hstep
      by_cases hlevel : level = l
      · subst hlevel
        rw [if_neg (by simp [hl])] at hlast
        rw [if_pos ⟨List.mem_cons_self .., hm⟩, ht, hlast, Function.update_self]
      · simpa [hlevel, Function.update_of_ne hlevel] using hlast

theorem CacheType.mem_all (level : CacheType) : level ∈ CacheType.all := by
  cases level <;> decide

/-- `update_cache_instances` records the cache id of a visit in the table of each level. -/
theorem updateCacheInstances_records {v : Visit} {idInfo : InternalIdInfo}
    {caches caches' : CacheInstances} (hmask : v.cacheMask = idInfo.cacheMask)
    (h : updateCacheInstances caches v.topology idInfo = .ok caches') (level : CacheType)
    {hist : List Visit} (hlen : hist.length + 1 < 2 ^ 16)
    (hr : (caches level).Records (cacheIds level hist)) :
    (caches' level).Records (cacheIds level (hist ++ [v])) := by
  have hspec := updateCacheLevels_spec (by decide) h level
  have hle := cacheIds_length_le level hist
  rw [cacheIds_append, Visit.cacheId, hmask]
  by_cases hm : idInfo.cacheMask level.index = 0
  · rw [if_neg (by simp [hm])] at hspec
    rw [if_pos hm, Option.toList_none, List.append_nil, hspec]
    exact hr
  · rw [if_pos ⟨level.mem_all, hm⟩] at hspec
    rw [if_neg hm, Option.toList_some]
    exact hr.visit (by omega) hspec

/-- `update_core_instances` records the core id of a visit. -/
theorem updateCoreInstances_records {v : Visit} {cores cores' : Instances}
    (h : updateCoreInstances cores v.topology = .ok cores') {hist : List Visit}
    (hlen : hist.length + 1 < 2 ^ 16) (hr : cores.Records (coreIds hist)) :
    cores'.Records (coreIds (hist ++ [v])) := by
  have hmap : coreIds (hist ++ [v]) = coreIds hist ++ [v.topology.coreId] := by
    simp [coreIds]
  rw [hmap]
  exact hr.visit (by simpa [coreIds] using hlen) h

/-! ### The invariant -/

/-- The tables after the visits of `hist`, of the logical CPUs of `raws`. -/
structure Tabulates (raws : List CpuRawData) (hist : List Visit) (s : IdentState) : Prop where
  length : hist.length = raws.length
  topology : ∀ (i : Nat) (v : Visit) (raw : CpuRawData), hist[i]? = some v →
    raws[i]? = some raw → cpuIdentId i raw = .ok (true, v.topology)
  cacheMask : ∀ v ∈ hist, ∀ info : InternalTypeInfo, s.typeInfo[v.entry]? = some info →
    v.cacheMask = info.idInfo.cacheMask
  cores : ∀ (j : Nat) (info : InternalTypeInfo), s.typeInfo[j]? = some info →
    info.coreInstances.Records (coreIds (visitsOf j hist))
  caches : ∀ (j : Nat) (info : InternalTypeInfo), s.typeInfo[j]? = some info → ∀ level,
    (info.cacheInstances level).Records (cacheIds level (visitsOf j hist))
  cachesAll : ∀ level, (s.cachesAll level).Records (cacheIds level hist)

theorem tabulates_start : Tabulates [] [] .start where
  length := rfl
  topology i v raw hv := by simp at hv
  cacheMask v hv := by simp at hv
  cores j info h := by simp [IdentState.start] at h
  caches j info h := by simp [IdentState.start] at h
  cachesAll _ := SlotTable.records_empty

section Steps

variable {host : Host} {raw : CpuRawData} {raws : List CpuRawData} {purpose : CpuPurpose}
  {hist : List Visit} {s s' : IdentState}

theorem Tabulates.of_reads {logicalCpu : Nat} {topology : InternalTopology}
    (h : Tabulates raws hist s) (hr : ReadsTopology true logicalCpu raw s s' topology) :
    Tabulates raws hist s' where
  length := h.length
  topology := h.topology
  cacheMask v hv info hinfo := h.cacheMask v hv info (hr.typeInfo ▸ hinfo)
  cores j info hj := h.cores j info (hr.typeInfo ▸ hj)
  caches j info hj := h.caches j info (hr.typeInfo ▸ hj)
  cachesAll level := hr.cachesAll ▸ h.cachesAll level

/-- The tables of the state with a new entry are old ones or empty. -/
theorem opened_typeInfo {data : CpuId} {idInfo : InternalIdInfo} {j : Nat}
    {info : InternalTypeInfo} (hs : s.Aligned)
    (h : (s.opened true purpose data idInfo).typeInfo[j]? = some info) :
    s.typeInfo[j]? = some info ∨
      (j = s.cpuTypes.length ∧ info = { typeInfoConstructor with
        purpose
        packageId := if s.isTopologySupported then s.curPackageId else 0
        idInfo }) := by
  simp only [IdentState.opened] at h
  rcases Nat.lt_or_ge j s.typeInfo.length with hlt | hge
  · exact .inl (by rwa [List.getElem?_append_left hlt] at h)
  · rw [List.getElem?_append_right hge, List.getElem?_singleton] at h
    split at h
    · exact .inr ⟨by rw [← hs.typeInfo]; omega, (Option.some.inj h).symm⟩
    · cases h

theorem Tabulates.of_opened {data : CpuId} {idInfo : InternalIdInfo} (ht : Tracks hist s)
    (h : Tabulates raws hist s) : Tabulates raws hist (s.opened true purpose data idInfo) where
  length := h.length
  topology := h.topology
  cacheMask v hv info hinfo := by
    rcases opened_typeInfo ht.aligned hinfo with hinfo | ⟨hj, -⟩
    · exact h.cacheMask v hv info hinfo
    · exact absurd hj (ht.entry_lt v hv).ne
  cores j info hj := by
    rcases opened_typeInfo ht.aligned hj with hj | ⟨rfl, rfl⟩
    · exact h.cores j info hj
    · rw [visitsOf_new ht]
      exact SlotTable.records_empty
  caches j info hj level := by
    rcases opened_typeInfo ht.aligned hj with hj | ⟨rfl, rfl⟩
    · exact h.caches j info hj level
    · rw [visitsOf_new ht]
      exact SlotTable.records_empty
  cachesAll := h.cachesAll

theorem Tabulates.of_count {v : Visit} {info info' : InternalTypeInfo}
    (h : Tabulates raws hist s) (hlen : hist.length + 1 < 2 ^ 16)
    (hid : cpuIdentId hist.length raw = .ok (true, v.topology))
    (hmask : v.cacheMask = info.idInfo.cacheMask)
    (hc : CountsTopology v.topology v.entry s s' info info') :
    Tabulates (raws ++ [raw]) (hist ++ [v]) s' := by
  have hi : v.entry < s.typeInfo.length := (List.getElem?_eq_some_iff.mp hc.old).1
  have hinfos {j : Nat} {info'' : InternalTypeInfo} (hj : s'.typeInfo[j]? = some info'') :
      (j = v.entry ∧ info'' = info') ∨ (j ≠ v.entry ∧ s.typeInfo[j]? = some info'') := by
    rw [hc.typeInfo] at hj
    by_cases hij : v.entry = j
    · rw [← hij, List.getElem?_set_self hi] at hj
      exact .inl ⟨hij.symm, (Option.some.inj hj).symm⟩
    · rw [List.getElem?_set_ne hij] at hj
      exact .inr ⟨Ne.symm hij, hj⟩
  have hself : visitsOf v.entry (hist ++ [v]) = visitsOf v.entry hist ++ [v] := by
    rw [visitsOf_append, if_pos rfl]
  have hother {j : Nat} (hj : j ≠ v.entry) : visitsOf j (hist ++ [v]) = visitsOf j hist := by
    rw [visitsOf_append, if_neg (Ne.symm hj), List.append_nil]
  have hlen' : (visitsOf v.entry hist).length + 1 < 2 ^ 16 := by
    have := visitsOf_length_le v.entry hist
    omega
  refine ⟨by simp [h.length], ?_, ?_, ?_, ?_, ?_⟩
  · intro i w raw' hw hraw
    rcases Nat.lt_trichotomy i hist.length with hi | rfl | hi
    · rw [List.getElem?_append_left hi] at hw
      rw [List.getElem?_append_left (h.length ▸ hi)] at hraw
      exact h.topology i w raw' hw hraw
    · obtain rfl : v = w := by simpa using hw
      obtain rfl : raw = raw' := by simpa [h.length] using hraw
      exact hid
    · rw [List.getElem?_eq_none (by simpa using Nat.succ_le_of_lt hi)] at hw
      cases hw
  · intro w hw info'' hinfo
    rcases hinfos hinfo with ⟨hj, rfl⟩ | ⟨hj, hinfo⟩
    · rw [hc.idInfo]
      rcases List.mem_append.mp hw with hw | hw
      · exact h.cacheMask w hw info (hj ▸ hc.old)
      · rw [List.mem_singleton.mp hw, hmask]
    · rcases List.mem_append.mp hw with hw | hw
      · exact h.cacheMask w hw info'' hinfo
      · exact absurd (congrArg Visit.entry (List.mem_singleton.mp hw)) hj
  · intro j info'' hj
    rcases hinfos hj with ⟨rfl, rfl⟩ | ⟨hne, hj⟩
    · rw [hself]
      exact updateCoreInstances_records hc.cores hlen' (h.cores v.entry info hc.old)
    · rw [hother hne]
      exact h.cores j info'' hj
  · intro j info'' hj level
    rcases hinfos hj with ⟨rfl, rfl⟩ | ⟨hne, hj⟩
    · rw [hself]
      exact updateCacheInstances_records hmask hc.caches level hlen'
        (h.caches v.entry info hc.old level)
    · rw [hother hne]
      exact h.caches j info'' hj level
  · intro level
    exact updateCacheInstances_records hmask hc.cachesAll level hlen (h.cachesAll level)

/-- How an iteration made a visit. -/
def MakesVisit (host : Host) (logicalCpu : Nat) (raw : CpuRawData) (v : Visit)
    (s s' : IdentState) : Prop :=
  ∃ purpose s1 s2, cpuIdentPurpose raw = .ok purpose ∧
    readTopology true logicalCpu raw s = .ok (s1, v.topology) ∧
    findEntry host true raw purpose s1 = .ok (s2, v.entry) ∧
    incrementCounters true logicalCpu v.topology v.entry s2 = .ok s'

/-- An iteration after which topology is still supported adds one visit to the tables. -/
theorem Tabulates.of_step (ht : Tracks hist s) (h : Tabulates raws hist s)
    (hlen : hist.length + 1 < 2 ^ 16)
    (hstep : identStep host true hist.length raw s = .ok s')
    (hsup : s'.isTopologySupported = true) :
    ∃ v : Visit, MakesVisit host hist.length raw v s s' ∧ Tracks (hist ++ [v]) s' ∧
      Tabulates (raws ++ [raw]) (hist ++ [v]) s' := by
  obtain ⟨purpose, s1, topology, s2, i, hpurpose, hread, hfind, hcount⟩ := identStep_cases hstep
  have hs' := identStep_aligned ht.aligned hstep
  have hr := readTopology_reads hread
  have ht1 := ht.of_reads hr
  have h1 := h.of_reads hr
  obtain ⟨ht2, h2, hsup2⟩ : Tracks hist s2 ∧ Tabulates raws hist s2 ∧
      s2.isTopologySupported = s1.isTopologySupported := by
    rcases findEntry_cases ht1.aligned hfind with ⟨rfl, -⟩ | ⟨-, hlt, -, data, idInfo, hid, rfl⟩
    · exact ⟨ht1, h1, rfl⟩
    · exact ⟨ht1.of_opened hlt hid, h1.of_opened ht1, rfl⟩
  obtain ⟨data, hdata, htypes, hsup', -, hinfos⟩ := incrementCounters_cases hcount
  rcases hinfos with ⟨hfalse, -⟩ | ⟨-, info, info', hc⟩
  · rw [hsup'] at hsup
    rw [hsup] at hfalse
    cases hfalse
  · have hid := (hr.supported rfl (by rw [← hsup2, ← hsup', hsup])).1
    exact ⟨⟨topology, i, info.idInfo.cacheMask⟩, ⟨purpose, s1, s2, hpurpose, hread, hfind, hcount⟩,
      ht2.of_count hs' (by omega) hdata htypes rfl,
      h2.of_count (v := ⟨topology, i, info.idInfo.cacheMask⟩) hlen hid rfl hc⟩

end Steps

end LibCpuid
