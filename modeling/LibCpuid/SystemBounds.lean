import LibCpuid.IdentifyBounds
import LibCpuid.Tables

/-! When `cpu_identify_all` stays inside its arrays: what each iteration asks of the registers and
of the state before it. -/

namespace LibCpuid

open CLang

/-- An id that has a slot in the tables.  The remainder of a negative id is negative, unless it is
zero. -/
def InTable (id : BitVec 32) : Prop := 0 ≤ id.toInt ∨ (256 : Int) ∣ id.toInt

instance : DecidablePred InTable := fun id =>
  inferInstanceAs (Decidable (0 ≤ id.toInt ∨ (256 : Int) ∣ id.toInt))

/-- The masks that a logical CPU is counted with: those of the entry that it finds, or the ones that
identification gives a new entry. -/
def CountsWith (host : Host) (raw : CpuRawData) (purpose : CpuPurpose) (s : IdentState)
    (masks : Fin numCacheTypes → BitVec 32) : Prop :=
  match cpuidFindIndexSystemId s purpose with
  | .ok (some i) => ∃ info, s.typeInfo[i]? = some info ∧ masks = info.idInfo.cacheMask
  | .ok none => ∃ data idInfo, cpuIdentInternal host raw = .ok (.ok, data, idInfo) ∧
      masks = idInfo.cacheMask
  | .error _ => False

/-- The core and cache ids of a logical CPU have slots in the tables. -/
def IdsInTables (topology : InternalTopology) (masks : Fin numCacheTypes → BitVec 32) : Prop :=
  InTable topology.coreId ∧
    ∀ level : CacheType, masks level.index ≠ 0 → InTable (topology.apicId &&& masks level.index)

/-- What an iteration of `cpu_identify_all` asks of a logical CPU and of the state before it. -/
structure StepInBounds (host : Host) (withAffinity : Bool) (logicalCpu : Nat) (raw : CpuRawData)
    (s : IdentState) : Prop where
  purpose : PurposeInBounds raw
  topology : withAffinity = true → s.isTopologySupported = true → TopologyInBounds raw
  entry : ∀ purpose s1 topology, cpuIdentPurpose raw = .ok purpose →
    readTopology withAffinity logicalCpu raw s = .ok (s1, topology) →
    cpuidFindIndexSystemId s1 purpose = .ok none → s.cpuTypes.length < 255 ∧ IdentInBounds raw
  tables : ∀ purpose s1 topology masks, cpuIdentPurpose raw = .ok purpose →
    readTopology withAffinity logicalCpu raw s = .ok (s1, topology) →
    CountsWith host raw purpose s1 masks → withAffinity = true → s1.isTopologySupported = true →
    IdsInTables topology masks

/-! ### The tables -/

theorem htableIndex_lt_iff {id : BitVec 32} : htableIndex id < htableSize ↔ InTable id := by
  change (BitVec.ofInt 32 (id.toInt.tmod 256)).toNat < 256 ↔ _
  rw [BitVec.toNat_ofInt, InTable]
  rcases Int.le_total 0 id.toInt with h | h
  · rw [Int.tmod_eq_emod_of_nonneg h]
    refine iff_of_true ?_ (.inl h)
    omega
  · obtain ⟨x, hx⟩ : ∃ x, id.toInt = -x := ⟨-id.toInt, by omega⟩
    rw [hx] at h ⊢
    rw [Int.neg_tmod, Int.tmod_eq_emod_of_nonneg (by omega)]
    omega

theorem Instances.visit_ok_iff {id : BitVec 32} {t : Instances} :
    (∃ t', t.visit id = .ok t') ↔ InTable id := by
  rw [← htableIndex_lt_iff]
  exact SlotTable.visit_eq_ok_iff id t

theorem Instances.visit_error {id : BitVec 32} {t : Instances} {f : Fault}
    (h : t.visit id = .error f) : f = .outOfBounds := by
  have hge : htableSize ≤ htableIndex id := Nat.not_lt.mp fun hlt => by
    obtain ⟨t', ht'⟩ := Instances.visit_ok_iff.mpr (htableIndex_lt_iff.mp hlt)
    rw [ht'] at h
    cases h
  rw [Instances.visit, SlotTable.visit_error hge] at h
  exact (Except.error.inj h).symm

section Tables

variable {topology : InternalTopology} {idInfo : InternalIdInfo}

theorem updateCacheLevel_ok_iff {caches : CacheInstances} {level : CacheType} :
    (∃ caches', updateCacheLevel topology idInfo caches level = .ok caches') ↔
      (idInfo.cacheMask level.index ≠ 0 →
        InTable (topology.apicId &&& idInfo.cacheMask level.index)) := by
  unfold updateCacheLevel
  dsimp only
  split
  · next h => exact iff_of_true ⟨_, rfl⟩ fun h' => absurd h h'
  · next h =>
    simp only [bind_eq_ok, ne_eq, h, not_false_eq_true, true_imp_iff]
    constructor
    · rintro ⟨_, t, ht, -⟩
      exact Instances.visit_ok_iff.mp ⟨t, ht⟩
    · intro hid
      obtain ⟨t, ht⟩ := (Instances.visit_ok_iff (t := caches level)).mpr hid
      exact ⟨_, t, ht, rfl⟩

theorem updateCacheLevels_ok_iff {levels : List CacheType} {caches : CacheInstances} :
    (∃ caches', levels.foldlM (updateCacheLevel topology idInfo) caches = .ok caches') ↔
      ∀ level ∈ levels, idInfo.cacheMask level.index ≠ 0 →
        InTable (topology.apicId &&& idInfo.cacheMask level.index) := by
  induction levels generalizing caches with
  | nil => exact iff_of_true ⟨caches, rfl⟩ fun level h => absurd h List.not_mem_nil
  | cons l levels ih =>
    simp only [List.foldlM_cons, bind_eq_ok, List.forall_mem_cons]
    constructor
    · rintro ⟨caches', caches1, h1, hrest⟩
      exact ⟨updateCacheLevel_ok_iff.mp ⟨caches1, h1⟩, ih.mp ⟨caches', hrest⟩⟩
    · rintro ⟨hl, hrest⟩
      obtain ⟨caches1, h1⟩ := updateCacheLevel_ok_iff.mpr hl
      obtain ⟨caches', h⟩ := ih.mpr hrest
      exact ⟨caches', caches1, h1, h⟩

theorem updateCacheLevels_error {levels : List CacheType} {caches : CacheInstances} {f : Fault}
    (h : levels.foldlM (updateCacheLevel topology idInfo) caches = .error f) :
    f = .outOfBounds := by
  induction levels generalizing caches with
  | nil => cases h
  | cons l levels ih =>
    rw [List.foldlM_cons, bind_eq_error] at h
    rcases h with h | ⟨caches1, -, h⟩
    · unfold updateCacheLevel at h
      dsimp only at h
      split at h
      · cases h
      · rcases bind_eq_error.mp h with h | ⟨t, -, h⟩
        · exact Instances.visit_error h
        · cases h
    · exact ih h

/-- `update_cache_instances` runs to its end exactly when the cache ids have slots. -/
theorem updateCacheInstances_ok_iff {caches : CacheInstances} :
    (∃ caches', updateCacheInstances caches topology idInfo = .ok caches') ↔
      ∀ level : CacheType, idInfo.cacheMask level.index ≠ 0 →
        InTable (topology.apicId &&& idInfo.cacheMask level.index) := by
  rw [updateCacheInstances, updateCacheLevels_ok_iff]
  exact ⟨fun h level => h level level.mem_all, fun h level _ => h level⟩

/-- Counting a logical CPU in the tables runs to its end exactly when its ids have slots. -/
theorem countTopology_ok_iff {s : IdentState} {i : Nat} {info : InternalTypeInfo}
    (hinfo : s.typeInfo[i]? = some info) :
    (∃ s', countTopology topology i s = .ok s') ↔ IdsInTables topology info.idInfo.cacheMask := by
  unfold countTopology IdsInTables
  simp only [bind_eq_ok, loadList_eq_ok.mpr hinfo, Except.ok.injEq, exists_eq_left',
    updateCoreInstances]
  constructor
  · rintro ⟨s', cores, hcores, caches, hcaches, -⟩
    exact ⟨Instances.visit_ok_iff.mp ⟨cores, hcores⟩,
      updateCacheInstances_ok_iff.mp ⟨caches, hcaches⟩⟩
  · rintro ⟨hcore, hcache⟩
    obtain ⟨cores, hcores⟩ := Instances.visit_ok_iff.mpr hcore
    obtain ⟨caches, hcaches⟩ := updateCacheInstances_ok_iff.mpr hcache
    obtain ⟨all, hall⟩ := updateCacheInstances_ok_iff.mpr hcache
    exact ⟨_, cores, hcores, caches, hcaches, all, hall, rfl⟩

theorem countTopology_error {s : IdentState} {i : Nat} {info : InternalTypeInfo} {f : Fault}
    (hinfo : s.typeInfo[i]? = some info) (h : countTopology topology i s = .error f) :
    f = .outOfBounds := by
  unfold countTopology at h
  rw [loadList_eq_ok.mpr hinfo, ok_bind] at h
  rcases bind_eq_error.mp h with h | ⟨cores, -, h⟩
  · exact Instances.visit_error h
  rcases bind_eq_error.mp h with h | ⟨caches, -, h⟩
  · exact updateCacheLevels_error h
  rcases bind_eq_error.mp h with h | ⟨all, -, h⟩
  · exact updateCacheLevels_error h
  · cases h

end Tables

/-! ### One iteration -/

theorem avoids_liftChecked {α : Type} {x : Checked α} {f : Fault} :
    Avoids (.fault f) (liftChecked x) ↔ Avoids f x := by
  cases x <;> simp

/-- A computation whose only fault is `f` avoids it exactly when it runs to its end. -/
theorem avoids_iff_ok {α : Type} {x : Checked α} {f : Fault}
    (h : ∀ f', x = .error f' → f' = f) : Avoids f x ↔ ∃ a, x = .ok a := by
  cases x with
  | error f' => simp [h f' rfl]
  | ok a => simp

section Step

variable {host : Host} {withAffinity : Bool} {logicalCpu : Nat} {raw : CpuRawData}
  {purpose : CpuPurpose} {s : IdentState}

theorem readTopology_avoids :
    Avoids .outOfBounds (readTopology withAffinity logicalCpu raw s) ↔
      (withAffinity = true → s.isTopologySupported = true → TopologyInBounds raw) := by
  unfold readTopology
  split
  · next h =>
    rw [Bool.and_eq_true] at h
    simp only [avoids_bind, cpuIdentId_avoids, avoids_ok, implies_true, and_true, h, true_imp_iff]
  · next h =>
    refine iff_of_true (avoids_ok _ _) fun hwa hsup => ?_
    simp [hwa, hsup] at h

theorem findEntry_avoids (hs : s.Aligned) :
    Avoids (.fault .outOfBounds) (findEntry host withAffinity raw purpose s) ↔
      (cpuidFindIndexSystemId s purpose = .ok none →
        s.cpuTypes.length < 255 ∧ IdentInBounds raw) := by
  unfold findEntry
  rcases cpuidFindIndexSystemId_spec hs purpose with ⟨j, hj, -⟩ | ⟨hnone, -⟩
  · simp [hj]
  · simp only [hnone, liftChecked_ok, ok_bind, true_imp_iff]
    rcases Nat.lt_or_ge s.cpuTypes.length 255 with hlt | hge
    · rw [openEntry_of_lt hs hlt, ← @cpuIdentInternal_avoids host]
      cases cpuIdentInternal host raw with
      | error f => simp [hlt]
      | ok result =>
        dsimp only
        refine iff_of_true ?_ ⟨hlt, avoids_ok _ _⟩
        split <;> simp
    · rw [openEntry_of_full (Nat.le_antisymm hs.le hge)]
      exact iff_of_false (by simp) fun h => absurd h.1 (Nat.not_lt.mpr hge)

theorem incrementCounters_avoids {i : Nat} {topology : InternalTopology} {data : CpuId}
    {info : InternalTypeInfo} (hdata : s.cpuTypes[i]? = some data)
    (hinfo : s.typeInfo[i]? = some info) :
    Avoids .outOfBounds (incrementCounters withAffinity logicalCpu topology i s) ↔
      (withAffinity = true → s.isTopologySupported = true →
        IdsInTables topology info.idInfo.cacheMask) := by
  unfold incrementCounters
  cases withAffinity with
  | false => simp
  | true =>
    simp only [if_true, loadList_eq_ok.mpr hdata, ok_bind, true_imp_iff]
    split
    · next hsup =>
      rw [iff_true_intro hsup, true_imp_iff, ← countTopology_ok_iff
        (s := { s with cpuTypes := s.cpuTypes.set i (countCpu (Fin.ofNat _ logicalCpu) data) }) hinfo]
      exact avoids_iff_ok fun f => countTopology_error hinfo
    · next hsup => exact iff_of_true (avoids_ok _ _) fun h => absurd h hsup

/-- The masks that an iteration counts with are those of its entry. -/
theorem findEntry_countsWith {s' : IdentState} {i : Nat} (hs : s.Aligned)
    (h : findEntry host withAffinity raw purpose s = .ok (s', i)) :
    s'.isTopologySupported = s.isTopologySupported ∧ ∃ data info, s'.cpuTypes[i]? = some data ∧
      s'.typeInfo[i]? = some info ∧ ∀ masks, CountsWith host raw purpose s masks ↔
        masks = info.idInfo.cacheMask := by
  rcases cpuidFindIndexSystemId_spec hs purpose with ⟨j, hj, hm⟩ | ⟨hnone, hall⟩
  · rw [findEntry, hj, liftChecked_ok, ok_bind] at h
    obtain ⟨rfl, rfl⟩ := Prod.mk.inj (Except.ok.inj h)
    obtain ⟨data, info, hdata, hinfo, -⟩ := hm
    refine ⟨rfl, data, info, hdata, hinfo, fun masks => ?_⟩
    simp [CountsWith, hj, hinfo]
  · rcases findEntry_cases hs h with ⟨rfl, hm⟩ | ⟨-, hlt, rfl, data, idInfo, hid, rfl⟩
    · exact absurd hm (hall i)
    · have hlast : (s.opened withAffinity purpose data idInfo).typeInfo[s.cpuTypes.length]? =
          some { typeInfoConstructor with
            purpose
            packageId := if s.isTopologySupported then s.curPackageId else 0
            idInfo } := by simp [IdentState.opened, ← hs.typeInfo]
      refine ⟨rfl, _, _, List.getElem?_concat_length, hlast, fun masks => ?_⟩
      simp [CountsWith, hnone, hid]

/-- An entry is found whenever there are masks to count with. -/
theorem CountsWith.findEntry_ok {masks : Fin numCacheTypes → BitVec 32} (hs : s.Aligned)
    (hmasks : CountsWith host raw purpose s masks)
    (h : Avoids (.fault .outOfBounds) (findEntry host withAffinity raw purpose s)) :
    ∃ s' i, findEntry host withAffinity raw purpose s = .ok (s', i) := by
  rcases cpuidFindIndexSystemId_spec hs purpose with ⟨j, hj, -⟩ | ⟨hnone, -⟩
  · exact ⟨s, j, by rw [findEntry, hj, liftChecked_ok, ok_bind]⟩
  · simp only [CountsWith, hnone] at hmasks
    obtain ⟨data, idInfo, hid, -⟩ := hmasks
    have hlt := ((findEntry_avoids hs).mp h hnone).1
    exact ⟨_, _, by
      rw [findEntry, hnone, liftChecked_ok, ok_bind, openEntry_of_lt hs hlt, hid]
      rfl⟩

/-- An iteration stays inside the arrays exactly when `StepInBounds` holds before it. -/
theorem identStep_avoids (hs : s.Aligned) :
    Avoids (.fault .outOfBounds) (identStep host withAffinity logicalCpu raw s) ↔
      StepInBounds host withAffinity logicalCpu raw s := by
  unfold identStep
  simp only [avoids_bind, avoids_liftChecked, liftChecked_eq_ok, cpuIdentPurpose_avoids,
    Prod.forall, readTopology_avoids]
  constructor
  · rintro ⟨hpurpose, h⟩
    obtain ⟨purpose, hp⟩ :=
      (avoids_iff_ok fun f => cpuIdentPurpose_error).mp (cpuIdentPurpose_avoids.mpr hpurpose)
    refine ⟨hpurpose, (h purpose hp).1, fun purpose s1 topology hp hread hnone => ?_,
      fun purpose s1 topology masks hp hread hmasks hwa hsup1 => ?_⟩
    all_goals
      have hr := readTopology_reads hread
      have hs1 := hr.aligned hs
      obtain ⟨hfind, hcount⟩ := (h purpose hp).2 s1 topology hread
    · rw [findEntry_avoids hs1, hr.cpuTypes] at hfind
      exact hfind hnone
    · obtain ⟨s2, i, hok⟩ := hmasks.findEntry_ok hs1 hfind
      obtain ⟨hsup, data, info, hdata, hinfo, hall⟩ := findEntry_countsWith hs1 hok
      rw [(hall masks).mp hmasks]
      exact (incrementCounters_avoids hdata hinfo).mp (hcount s2 i hok) hwa (hsup ▸ hsup1)
  · rintro ⟨hpurpose, htopology, hentry, htables⟩
    refine ⟨hpurpose, fun purpose hp => ⟨htopology, fun s1 topology hread => ?_⟩⟩
    have hr := readTopology_reads hread
    rw [findEntry_avoids (hr.aligned hs), hr.cpuTypes]
    refine ⟨hentry purpose s1 topology hp hread, fun s2 i hfind => ?_⟩
    obtain ⟨hsup, data, info, hdata, hinfo, hmasks⟩ := findEntry_countsWith (hr.aligned hs) hfind
    rw [incrementCounters_avoids hdata hinfo, hsup]
    exact htables purpose s1 topology _ hp hread ((hmasks _).mpr rfl)

end Step

/-! ### Whole runs -/

theorem cpuIdentifyAll_avoids {host : Host} {a : CpuRawDataArray} :
    Avoids .outOfBounds (cpuIdentifyAll host a) ↔
      Avoids (.fault .outOfBounds) (identLoop host a) := by
  cases hloop : identLoop host a with
  | ok s =>
    rw [cpuIdentifyAll_of_loop hloop]
    exact iff_of_true (avoids_ok _ _) (avoids_ok _ _)
  | error e =>
    rw [cpuIdentifyAll, hloop]
    cases e <;> simp

/-- A run of `cpu_identify_all` stays inside its arrays exactly when each logical CPU that it gets
to, in the state that the ones before left, asks for nothing outside them. -/
theorem cpuIdentifyAll_inBounds_iff {host : Host} {a : CpuRawDataArray} :
    cpuIdentifyAll host a ≠ .error .outOfBounds ↔
      ∀ k raw s, a.raw[k]? = some raw →
        loop (identStep host a.withAffinity) (a.raw.take k) 0 .start = .ok s →
        StepInBounds host a.withAffinity k raw s := by
  have hloop : Avoids .outOfBounds (cpuIdentifyAll host a) ↔ _ :=
    cpuIdentifyAll_avoids.trans avoids_loop
  refine hloop.trans ?_
  constructor
  · exact fun h k raw s hk hs => (identStep_avoids (loop_aligned hs)).mp (h k raw s hk hs)
  · exact fun h k raw s hk hs => (identStep_avoids (loop_aligned hs)).mpr (h k raw s hk hs)

/-- An AMD processor in whose leaf 80000026h no sub-leaf is empty or names a core. -/
def amdFullTopology : CpuRawData :=
  { CpuRawData.zero with
    basicCpuid := fun i =>
      if i = 0 then { eax := 1, ebx := 0x68747541, ecx := 0x444d4163, edx := 0x69746e65 }
      else .zero
    amdFn80000026h := fun _ => { eax := 1, ebx := 1, ecx := 1, edx := 0 } }

theorem cpuIdentifyAll_outOfBounds_amd :
    cpuIdentifyAll ⟨fun _ _ => .zero, 1⟩ ⟨false, [amdFullTopology], by decide⟩ =
      .error .outOfBounds := by
  have hpurpose : cpuIdentPurpose amdFullTopology = .error .outOfBounds := by decide +kernel
  simp only [cpuIdentifyAll, identLoop, loop, identStep, hpurpose, liftChecked_error, error_bind]

end LibCpuid
