import LibCpuid.IdentifyFrame
import LibCpuid.CacheCount

/-! When the instance counts of the entries of `cpu_identify_all` agree with the totals of the
system: both are undetermined, or each is at most the total. -/

namespace LibCpuid

open CLang

/-! ### The counts before the last loop -/

section Instances

variable {host : Host} {raw : CpuRawData} {withAffinity : Bool} {s s' : IdentState}

theorem cpuidBasicIdentify_instances (host : Host) (raw : CpuRawData) (d : CpuId) :
    (cpuidBasicIdentify host raw d).2.instances = d.instances := by
  have hload := fun d => untouched_instances.loadFeaturesCommon raw d
  simp only [cpuidBasicIdentify]
  repeat' split
  all_goals simp only [hload]

/-- Identification counts no instances. -/
theorem cpuIdentInternal_instances {r : CpuError} {data : CpuId} {idInfo : InternalIdInfo}
    (h : cpuIdentInternal host raw = .ok (r, data, idInfo)) : data.instances = fun _ => -1 := by
  have hf := untouched_instances
  simp only [cpuIdentInternal] at h
  cases harch : cpuidArchitectureIdentify raw with
  | unknown =>
    simp only [harch, Except.ok.injEq, Prod.mk.injEq] at h
    obtain ⟨-, rfl, -⟩ := h
    rfl
  | arm =>
    simp only [harch, Except.ok.injEq, Prod.mk.injEq] at h
    obtain ⟨-, rfl, -⟩ := h
    have hload := fun s => @loadArmFeatures_frame _ CpuId.instances (fun _ _ => rfl) raw s
    rw [cpuidIdentifyArm]
    dsimp only
    split <;> exact hload _
  | x86 =>
    simp only [harch] at h
    have hbasic := cpuidBasicIdentify_instances host raw
      { cpuIdConstructor with architecture := .x86 }
    generalize cpuidBasicIdentify host raw { cpuIdConstructor with architecture := .x86 } = basic
      at h hbasic
    obtain ⟨r', d⟩ := basic
    replace hbasic : d.instances = fun _ => -1 := hbasic
    split at h
    · next d' heq =>
      obtain ⟨-, rfl⟩ := Prod.mk.inj heq
      cases hv : d.vendor with
      | intel =>
        simp only [hv, bind_eq_ok, Except.ok.injEq, Prod.mk.injEq, Prod.exists] at h
        obtain ⟨d', internal', hid, -, rfl, -⟩ := h
        exact (hf.cpuidIdentifyIntel hid).trans hbasic
      | amd | hygon =>
        simp only [hv, bind_eq_ok, Except.ok.injEq, Prod.mk.injEq, Prod.exists] at h
        obtain ⟨d', internal', hid, -, rfl, -⟩ := h
        exact (hf.cpuidIdentifyAmd hid).trans hbasic
      | centaur =>
        simp only [hv, bind_eq_ok, Except.ok.injEq, Prod.mk.injEq, Prod.exists] at h
        obtain ⟨d', internal', hid, -, rfl, -⟩ := h
        exact (hf.cpuidIdentifyCentaur hid).trans hbasic
      | _ =>
        simp only [hv, Except.ok.injEq, Prod.mk.injEq] at h
        obtain ⟨-, rfl, -⟩ := h
        exact hbasic
    · next heq =>
      obtain ⟨-, rfl⟩ := Prod.mk.inj heq
      simp only [Except.ok.injEq, Prod.mk.injEq] at h
      obtain ⟨-, rfl, -⟩ := h
      exact hbasic

/-- No entry has counts of instances yet. -/
def IdentState.NoInstances (s : IdentState) : Prop :=
  ∀ data ∈ s.cpuTypes, data.instances = fun _ => -1

theorem IdentState.NoInstances.opened {purpose : CpuPurpose} {data : CpuId}
    {idInfo : InternalIdInfo} (h : s.NoInstances)
    (hid : cpuIdentInternal host raw = .ok (.ok, data, idInfo)) :
    (s.opened withAffinity purpose data idInfo).NoInstances := by
  intro data' hmem
  rcases List.mem_append.mp hmem with hmem | hmem
  · exact h data' hmem
  · rw [List.mem_singleton.mp hmem, ← cpuIdentInternal_instances hid]
    split <;> rfl

theorem IdentState.NoInstances.counted {logicalCpu i : Nat} {topology : InternalTopology}
    (h : s.NoInstances)
    (hcount : incrementCounters withAffinity logicalCpu topology i s = .ok s') :
    s'.NoInstances := by
  cases withAffinity with
  | false =>
    rw [incrementCounters, if_neg (by decide)] at hcount
    exact Except.ok.inj hcount ▸ h
  | true =>
    obtain ⟨data, hdata, htypes, -⟩ := incrementCounters_cases hcount
    intro data' hmem
    rw [htypes] at hmem
    rcases List.mem_or_eq_of_mem_set hmem with hmem | rfl
    · exact h data' hmem
    · exact h data (List.mem_of_getElem? hdata)

theorem identStep_noInstances {logicalCpu : Nat} (hs : s.Aligned) (h : s.NoInstances)
    (hstep : identStep host withAffinity logicalCpu raw s = .ok s') : s'.NoInstances := by
  obtain ⟨purpose, s1, topology, s2, i, -, hread, hfind, hcount⟩ := identStep_cases hstep
  have hr := readTopology_reads hread
  have h1 : s1.NoInstances := fun data hmem => h data (hr.cpuTypes ▸ hmem)
  refine IdentState.NoInstances.counted ?_ hcount
  rcases findEntry_cases (hr.aligned hs) hfind with ⟨rfl, -⟩ | ⟨-, -, -, data, idInfo, hid, rfl⟩
  · exact h1
  · exact h1.opened hid

/-- After an iteration there is an entry. -/
theorem identStep_cpuTypes_ne_nil {logicalCpu : Nat} (hs : s.Aligned)
    (hstep : identStep host withAffinity logicalCpu raw s = .ok s') : s'.cpuTypes ≠ [] := by
  obtain ⟨purpose, s1, topology, s2, i, -, hread, hfind, hcount⟩ := identStep_cases hstep
  have h2 : s2.cpuTypes ≠ [] := by
    rcases findEntry_cases ((readTopology_reads hread).aligned hs) hfind with
      ⟨rfl, hm⟩ | ⟨-, -, -, data, idInfo, -, rfl⟩
    · exact List.ne_nil_of_length_pos (Nat.zero_lt_of_lt hm.lt)
    · exact List.append_ne_nil_of_right_ne_nil _ (List.cons_ne_nil _ _)
  cases withAffinity with
  | false =>
    rw [incrementCounters, if_neg (by decide)] at hcount
    exact Except.ok.inj hcount ▸ h2
  | true =>
    obtain ⟨data, -, htypes, -⟩ := incrementCounters_cases hcount
    rw [← List.length_pos_iff] at h2 ⊢
    rw [htypes, List.length_set]
    exact h2

/-- Without affinity an iteration leaves topology support and the tables alone. -/
theorem identStep_noAffinity {logicalCpu : Nat} (hs : s.Aligned)
    (hstep : identStep host false logicalCpu raw s = .ok s') :
    s'.isTopologySupported = s.isTopologySupported ∧ s'.cachesAll = s.cachesAll := by
  obtain ⟨purpose, s1, topology, s2, i, -, hread, hfind, hcount⟩ := identStep_cases hstep
  rw [readTopology, Bool.false_and, if_neg (by decide)] at hread
  obtain ⟨rfl, -⟩ := Prod.mk.inj (Except.ok.inj hread)
  rw [incrementCounters, if_neg (by decide)] at hcount
  obtain rfl := Except.ok.inj hcount
  rcases findEntry_cases hs hfind with ⟨rfl, -⟩ | ⟨-, -, -, data, idInfo, -, rfl⟩ <;>
    exact ⟨rfl, rfl⟩

/-- With affinity topology support lasts as long as `cpu_ident_id` returns true. -/
theorem identStep_supported_iff {logicalCpu : Nat} (hs : s.Aligned)
    (hstep : identStep host true logicalCpu raw s = .ok s') :
    s'.isTopologySupported = true ↔ s.isTopologySupported = true ∧
      ∃ topology, cpuIdentId logicalCpu raw = .ok (true, topology) := by
  constructor
  · intro hsup
    obtain ⟨purpose, s1, topology, s2, i, -, hread, hfind, hcount⟩ := identStep_cases hstep
    have hr := readTopology_reads hread
    obtain ⟨-, -, -, hsup2, -⟩ := incrementCounters_cases hcount
    have hsup1 : s1.isTopologySupported = true := by
      rw [hsup2] at hsup
      rcases findEntry_cases (hr.aligned hs) hfind with ⟨rfl, -⟩ | ⟨-, -, -, _, _, -, rfl⟩
      · exact hsup
      · exact hsup
    exact ⟨hr.mono hsup1, topology, (hr.supported rfl hsup1).1⟩
  · rintro ⟨hsup, topology, hid⟩
    rw [identStep_supported hs hid hstep, hsup]
    rfl

end Instances

/-! ### The end of the loop -/

/-- `cpu_ident_id` returns true for every logical CPU. -/
def CpuRawDataArray.KeepsTopology (a : CpuRawDataArray) : Prop :=
  ∀ (i : Nat) (raw : CpuRawData), a.raw[i]? = some raw →
    ∃ topology, cpuIdentId i raw = .ok (true, topology)

section Runs

variable {host : Host} {a : CpuRawDataArray} {s : IdentState}

theorem identLoop_noInstances (h : identLoop host a = .ok s) : s.NoInstances :=
  (loop_induct (fun _ s => s.Aligned ∧ s.NoInstances)
    ⟨IdentState.aligned_start, fun _ hmem => absurd hmem List.not_mem_nil⟩
    (fun _ _ _ _ ih hstep =>
      ⟨identStep_aligned ih.1 hstep, identStep_noInstances ih.1 ih.2 hstep⟩) h).2

theorem identLoop_cpuTypes_ne_nil (hraw : a.raw ≠ []) (h : identLoop host a = .ok s) :
    s.cpuTypes ≠ [] :=
  (loop_induct (fun done s => s.Aligned ∧ (done ≠ [] → s.cpuTypes ≠ []))
    ⟨IdentState.aligned_start, fun hne => absurd rfl hne⟩
    (fun _ _ _ _ ih hstep =>
      ⟨identStep_aligned ih.1 hstep, fun _ => identStep_cpuTypes_ne_nil ih.1 hstep⟩) h).2 hraw

theorem identLoop_noAffinity (haffinity : a.withAffinity = false) (h : identLoop host a = .ok s) :
    s.isTopologySupported = true ∧ ∀ level, (s.cachesAll level).instances = 0 := by
  rw [identLoop, haffinity] at h
  refine (loop_induct (fun _ s => s.Aligned ∧ s.isTopologySupported = true ∧
    ∀ level, (s.cachesAll level).instances = 0) ⟨IdentState.aligned_start, rfl, fun _ => rfl⟩
    (fun _ _ _ _ ih hstep => ?_) h).2
  obtain ⟨hsup, hcaches⟩ := identStep_noAffinity ih.1 hstep
  rw [hsup, hcaches]
  exact ⟨identStep_aligned ih.1 hstep, ih.2⟩

theorem identLoop_supported_iff (haffinity : a.withAffinity = true)
    (h : identLoop host a = .ok s) : s.isTopologySupported = true ↔ a.KeepsTopology := by
  rw [identLoop, haffinity] at h
  refine (loop_induct (fun done s => s.Aligned ∧ (s.isTopologySupported = true ↔
    ∀ (i : Nat) (raw : CpuRawData), done[i]? = some raw →
      ∃ topology, cpuIdentId i raw = .ok (true, topology)))
    ⟨IdentState.aligned_start, iff_of_true rfl fun i raw hi => by cases hi⟩
    (fun done raw s s' ih hstep => ?_) h).2
  refine ⟨identStep_aligned ih.1 hstep, ?_⟩
  rw [identStep_supported_iff ih.1 hstep, ih.2]
  constructor
  · rintro ⟨hdone, hlast⟩ i raw' hi
    rcases Nat.lt_trichotomy i done.length with hlt | rfl | hgt
    · rw [List.getElem?_append_left hlt] at hi
      exact hdone i raw' hi
    · obtain rfl : raw = raw' := by simpa using hi
      exact hlast
    · rw [List.getElem?_eq_none (by simpa using Nat.succ_le_of_lt hgt)] at hi
      cases hi
  · intro hall
    refine ⟨fun i raw' hi => hall i raw' ?_, hall done.length raw (by simp)⟩
    rw [List.getElem?_append_left (List.getElem?_eq_some_iff.mp hi).1, hi]

end Runs

/-! ### The logical CPUs of a run that keeps its topology -/

/-- What the loop finds about a logical CPU when it asks. -/
def seenCpu (host : Host) (logicalCpu : Nat) (raw : CpuRawData) : IdentifiedCpu where
  purpose :=
    match cpuIdentPurpose raw with
    | .ok purpose => purpose
    | .error _ => .general
  topology :=
    match cpuIdentId logicalCpu raw with
    | .ok (_, topology) => topology
    | .error _ => topologyConstructor logicalCpu
  cacheMask :=
    match cpuIdentInternal host raw with
    | .ok (_, _, idInfo) => idInfo.cacheMask
    | .error _ => fun _ => 0

/-- The logical CPUs of an array. -/
def CpuRawDataArray.seenCpus (a : CpuRawDataArray) (host : Host) : List IdentifiedCpu :=
  a.raw.mapIdx (seenCpu host)

theorem sees_seenCpu {host : Host} {logicalCpu : Nat} {raw : CpuRawData} {purpose : CpuPurpose}
    {topology : InternalTopology} (hid : cpuIdentId logicalCpu raw = .ok (true, topology))
    (hpurpose : cpuIdentPurpose raw = .ok purpose) :
    Sees host logicalCpu raw (seenCpu host logicalCpu raw) := by
  simp only [Sees, seenCpu, hid, hpurpose, true_and]
  intro data idInfo hint
  rw [hint]
  exact ⟨Except.ok.inj ((cpuIdentPurpose_of_topology hid hint).symm.trans hpurpose), rfl⟩

theorem identLoop_purposes {host : Host} {a : CpuRawDataArray} {s : IdentState}
    (h : identLoop host a = .ok s) : ∀ raw ∈ a.raw, ∃ purpose, cpuIdentPurpose raw = .ok purpose :=
  loop_induct (fun done _ => ∀ raw ∈ done, ∃ purpose, cpuIdentPurpose raw = .ok purpose)
    (fun raw hmem => absurd hmem List.not_mem_nil)
    (fun done raw _ _ ih hstep raw' hmem => by
      obtain ⟨purpose, -, -, -, -, hpurpose, -⟩ := identStep_cases hstep
      rcases List.mem_append.mp hmem with hmem | hmem
      · exact ih raw' hmem
      · exact ⟨purpose, List.mem_singleton.mp hmem ▸ hpurpose⟩) h

theorem CpuRawDataArray.KeepsTopology.seen {host : Host} {a : CpuRawDataArray} {s : IdentState}
    (hkeeps : a.KeepsTopology) (h : identLoop host a = .ok s) :
    a.Seen host (a.seenCpus host) := by
  refine ⟨List.length_mapIdx, fun i raw c hraw hc => ?_⟩
  obtain ⟨topology, hid⟩ := hkeeps i raw hraw
  obtain ⟨purpose, hpurpose⟩ := identLoop_purposes h raw (List.mem_of_getElem? hraw)
  rw [CpuRawDataArray.seenCpus, List.getElem?_mapIdx, hraw, Option.map_some,
    Option.some.injEq] at hc
  exact hc ▸ sees_seenCpu hid hpurpose

/-! ### Slots -/

/-- The slots that some ids use. -/
def slotsOf (ids : List (BitVec 32)) : Finset Nat := (ids.map htableIndex).toFinset

/-- The ids of the caches of a level, of the logical CPUs of a type. -/
def cacheIdsOfType (level : CacheType) (τ : CoreType) (cpus : List IdentifiedCpu) :
    List (BitVec 32) :=
  cpus.filterMap fun c =>
    let mask := entryMask cpus c level.index
    if c.type = τ ∧ mask ≠ 0 then some (c.topology.apicId &&& mask) else none

theorem mem_cacheIdsOfType {level : CacheType} {τ : CoreType} {cpus : List IdentifiedCpu}
    {x : BitVec 32} : x ∈ cacheIdsOfType level τ cpus ↔
      ∃ c ∈ cpus, c.type = τ ∧ entryMask cpus c level.index ≠ 0 ∧
        c.topology.apicId &&& entryMask cpus c level.index = x := by
  simp only [cacheIdsOfType, List.mem_filterMap]
  refine exists_congr fun c => and_congr_right fun _ => ?_
  split
  · next h => simp only [h, Option.some.injEq, ne_eq, not_false_eq_true, true_and]
  · next h =>
    refine iff_of_false (by simp) fun ⟨hτ, hmask, _⟩ => h ⟨hτ, hmask⟩

theorem cacheIdsOfType_subset (level : CacheType) (τ : CoreType) (cpus : List IdentifiedCpu) :
    cacheIdsOfType level τ cpus ⊆ cacheIdsOf level cpus := by
  intro x hx
  obtain ⟨c, hc, -, h⟩ := mem_cacheIdsOfType.mp hx
  exact mem_cacheIdsOf.mpr ⟨c, hc, h⟩

theorem slotsOf_subset {ids ids' : List (BitVec 32)} (h : ids ⊆ ids') :
    slotsOf ids ⊆ slotsOf ids' := by
  intro i hi
  obtain ⟨x, hx, rfl⟩ := List.mem_map.mp (List.mem_toFinset.mp hi)
  exact List.mem_toFinset.mpr (List.mem_map.mpr ⟨x, h hx, rfl⟩)

/-- The counter of a table is the number of slots in use, in eight bits. -/
theorem Instances.Records.instances_eq {keys ids : List (BitVec 32)} {t : Instances}
    (h : t.Records keys) (hmem : ∀ x, x ∈ keys ↔ x ∈ ids) :
    t.instances = (slotsOf ids).card % 2 ^ 8 := by
  have hslots : slotsOf keys = slotsOf ids :=
    (slotsOf_subset fun x hx => (hmem x).mp hx).antisymm (slotsOf_subset fun x hx => (hmem x).mpr hx)
  rw [← hslots]
  exact h.count

theorem Instances.Records.card_le {keys ids : List (BitVec 32)} {t : Instances}
    (h : t.Records keys) (hmem : ∀ x, x ∈ keys ↔ x ∈ ids) : (slotsOf ids).card ≤ htableSize := by
  have hrange : slotsOf ids ⊆ Finset.range htableSize := by
    intro i hi
    obtain ⟨x, hx, rfl⟩ := List.mem_map.mp (List.mem_toFinset.mp hi)
    exact Finset.mem_range.mpr (h.inRange x ((hmem x).mpr hx))
  exact (Finset.card_le_card hrange).trans_eq (Finset.card_range htableSize)

/-! ### Entries and totals -/

/-- A total is -1 when every entry is, and otherwise no entry is negative or above the total. -/
def SystemId.TotalsConsistent (system : SystemId) : Prop :=
  ∀ level, (system.totalInstances level = -1 ↔
      ∀ data ∈ system.cpuTypes, data.instances level = -1) ∧
    (system.totalInstances level ≠ -1 → ∀ data ∈ system.cpuTypes,
      0 ≤ data.instances level ∧ data.instances level ≤ system.totalInstances level)

/-- There is affinity, and when the topology lasts, at no level the cache ids use every slot while
those of one type use some of them only. -/
def TotalsHold (host : Host) (a : CpuRawDataArray) : Prop :=
  a.withAffinity = true ∧ (a.KeepsTopology → ∀ level,
    (slotsOf (cacheIdsOf level (a.seenCpus host))).card = htableSize → ∀ τ,
      (slotsOf (cacheIdsOfType level τ (a.seenCpus host))).card = 0 ∨
        (slotsOf (cacheIdsOfType level τ (a.seenCpus host))).card = htableSize)

section Finish

variable {host : Host} {a : CpuRawDataArray} {s : IdentState} {numRaw : Nat}

/-- What the last loop leaves of entries without counts. -/
theorem IdentState.NoInstances.finish {withAffinity : Bool} (h : s.NoInstances)
    (hkept : (withAffinity && s.isTopologySupported) = false) :
    ∀ data ∈ (s.finish withAffinity numRaw).cpuTypes, data.instances = fun _ => -1 := by
  intro data' hmem
  obtain ⟨j, hj⟩ := List.mem_iff_getElem?.mp hmem
  obtain ⟨info, data, -, hdata, rfl⟩ := IdentState.finish_cpuTypes.mp hj
  rw [← h data (List.mem_of_getElem? hdata)]
  unfold finishType
  dsimp only
  cases withAffinity with
  | false => rfl
  | true =>
    rw [Bool.true_and] at hkept
    rw [hkept]
    rfl

/-- Without affinity the totals are zero, though no entry has counts. -/
theorem not_totalsConsistent_noAffinity (haffinity : a.withAffinity = false)
    (hloop : identLoop host a = .ok s) : ¬(s.finish false numRaw).TotalsConsistent := by
  intro h
  obtain ⟨hsup, hzero⟩ := identLoop_noAffinity haffinity hloop
  have hnone : ∀ data ∈ (s.finish false numRaw).cpuTypes, data.instances .l2 = -1 :=
    fun data hmem => congrFun ((identLoop_noInstances hloop).finish rfl data hmem) .l2
  have htotal : (if s.isTopologySupported then ((s.cachesAll .l2).instances : Int) else -1) = -1 :=
    (h .l2).1.mpr hnone
  rw [if_pos hsup, hzero] at htotal
  cases htotal

/-- When the topology is lost nothing is determined. -/
theorem totalsConsistent_lost (hsup : s.isTopologySupported = false)
    (hloop : identLoop host a = .ok s) : (s.finish true numRaw).TotalsConsistent := by
  intro level
  have htotal : (s.finish true numRaw).totalInstances level = -1 := by
    show (if s.isTopologySupported then ((s.cachesAll level).instances : Int) else -1) = -1
    rw [hsup]
    rfl
  have hnone : ∀ data ∈ (s.finish true numRaw).cpuTypes, data.instances level = -1 :=
    fun data hmem =>
      congrFun ((identLoop_noInstances hloop).finish (by rw [hsup]; rfl) data hmem) level
  exact ⟨iff_of_true htotal hnone, fun h => absurd htotal h⟩

variable {cpus : List IdentifiedCpu} {hist : List Visit} {raws : List CpuRawData}

/-- The counts of a run that keeps its topology are the slots that the cache ids use. -/
theorem Groups.entry_instances_eq (hg : Groups cpus hist s) (htab : Tabulates raws hist s)
    (ht : Tracks hist s) (hlen : cpus.length < 2 ^ 16) {j : Nat} {data : CpuId}
    {info : InternalTypeInfo} (hdata : s.cpuTypes[j]? = some data)
    (hinfo : s.typeInfo[j]? = some info) (level : CacheType) :
    (info.cacheInstances level).instances =
      (slotsOf (cacheIdsOfType level info.type cpus)).card % 2 ^ 8 := by
  refine (htab.caches j info hinfo level).instances_eq fun x => ?_
  rw [hg.mem_cacheIds_visitsOf htab ht hlen hdata hinfo, hg.mem_cacheIdsIn ht hlen hdata hinfo,
    mem_cacheIdsOfType]

theorem Groups.consistent_iff (hg : Groups cpus hist s) (htab : Tabulates raws hist s)
    (ht : Tracks hist s) (hlen : cpus.length < 2 ^ 16) (hne : s.cpuTypes ≠ []) :
    (s.finish true numRaw).TotalsConsistent ↔ ∀ level,
      (slotsOf (cacheIdsOf level cpus)).card = htableSize → ∀ τ,
        (slotsOf (cacheIdsOfType level τ cpus)).card = 0 ∨
          (slotsOf (cacheIdsOfType level τ cpus)).card = htableSize := by
  have htotal (level : CacheType) : (s.finish true numRaw).totalInstances level =
      ((slotsOf (cacheIdsOf level cpus)).card % 2 ^ 8 : Nat) := by
    rw [← (htab.cachesAll level).instances_eq (hg.mem_cacheIds htab level)]
    show (if s.isTopologySupported then ((s.cachesAll level).instances : Int) else -1) = _
    rw [if_pos hg.supported]
  -- an entry has the count of its type, and each type with a logical CPU has an entry
  have hentry {j : Nat} {data : CpuId} {info : InternalTypeInfo}
      (hdata : s.cpuTypes[j]? = some data) (hinfo : s.typeInfo[j]? = some info)
      (level : CacheType) :
      (finishType true s.isTopologySupported numRaw info data).instances level =
        ((slotsOf (cacheIdsOfType level info.type cpus)).card % 2 ^ 8 : Nat) := by
    rw [← hg.entry_instances_eq htab ht hlen hdata hinfo level, hg.supported]
    rfl
  have hle (level : CacheType) (τ : CoreType) :
      (slotsOf (cacheIdsOfType level τ cpus)).card ≤ (slotsOf (cacheIdsOf level cpus)).card ∧
        (slotsOf (cacheIdsOf level cpus)).card ≤ 256 :=
    ⟨Finset.card_le_card (slotsOf_subset (cacheIdsOfType_subset level τ cpus)),
      (htab.cachesAll level).card_le (hg.mem_cacheIds htab level)⟩
  have hwrap (level : CacheType) (τ : CoreType) :
      (slotsOf (cacheIdsOfType level τ cpus)).card % 2 ^ 8 ≤
          (slotsOf (cacheIdsOf level cpus)).card % 2 ^ 8 ↔
        ((slotsOf (cacheIdsOf level cpus)).card = 256 →
          (slotsOf (cacheIdsOfType level τ cpus)).card = 0 ∨
            (slotsOf (cacheIdsOfType level τ cpus)).card = 256) := by
    obtain ⟨h1, h2⟩ := hle level τ
    omega
  constructor
  · intro h level hfull τ
    refine (hwrap level τ).mp ?_ hfull
    by_cases hτ : τ ∈ (groups cpus).map Prod.fst
    · obtain ⟨j, hj⟩ := List.mem_iff_getElem?.mp hτ
      rw [← hg.entries, List.map_map, List.getElem?_map, Option.map_eq_some_iff] at hj
      obtain ⟨info, hinfo, rfl⟩ := hj
      have hlt : j < s.cpuTypes.length := by
        rw [← ht.aligned.typeInfo]
        exact (List.getElem?_eq_some_iff.mp hinfo).1
      have hdata : s.cpuTypes[j]? = some s.cpuTypes[j] := List.getElem?_eq_getElem hlt
      have hj : (s.finish true numRaw).cpuTypes[j]? = some _ :=
        IdentState.finish_cpuTypes.mpr ⟨info, s.cpuTypes[j], hinfo, hdata, rfl⟩
      have hbound := ((h level).2 (by rw [htotal]; omega) _ (List.mem_of_getElem? hj)).2
      rw [hentry hdata hinfo, htotal] at hbound
      exact_mod_cast hbound
    · have hnil : cacheIdsOfType level τ cpus = [] := by
        refine List.eq_nil_iff_forall_not_mem.mpr fun x hx => hτ ?_
        obtain ⟨c, hc, htype, -⟩ := mem_cacheIdsOfType.mp hx
        exact mem_groups_types.mpr (List.mem_map.mpr ⟨c, hc, htype⟩)
      rw [hnil]
      exact Nat.zero_le _
  · intro h level
    have hcounts : ∀ data ∈ (s.finish true numRaw).cpuTypes,
        0 ≤ data.instances level ∧
          data.instances level ≤ (s.finish true numRaw).totalInstances level := by
      intro data' hmem
      obtain ⟨j, hj⟩ := List.mem_iff_getElem?.mp hmem
      obtain ⟨info, data, hinfo, hdata, rfl⟩ := IdentState.finish_cpuTypes.mp hj
      rw [hentry hdata hinfo, htotal]
      exact ⟨Int.natCast_nonneg _,
        Int.ofNat_le.mpr ((hwrap level info.type).mpr fun hfull => h level hfull info.type)⟩
    refine ⟨iff_of_false (by rw [htotal]; omega) fun hall => ?_, fun _ => hcounts⟩
    obtain ⟨data, rest, hcons⟩ := List.exists_cons_of_ne_nil hne
    have hlt : 0 < s.typeInfo.length := by
      rw [ht.aligned.typeInfo, hcons]
      exact Nat.succ_pos _
    have hj : (s.finish true numRaw).cpuTypes[0]? = some _ := IdentState.finish_cpuTypes.mpr
      ⟨s.typeInfo[0], data, List.getElem?_eq_getElem hlt, by rw [hcons]; rfl, rfl⟩
    have hmem := List.mem_of_getElem? hj
    have hneg := hall _ hmem
    have hpos := (hcounts _ hmem).1
    omega

end Finish

/-- When the counts of the entries and the totals of the system agree. -/
theorem totalsConsistent_iff {host : Host} {a : CpuRawDataArray} {system : SystemId}
    (hraw : a.raw ≠ []) (h : cpuIdentifyAll host a = .ok (.ok, system)) :
    system.TotalsConsistent ↔ TotalsHold host a := by
  obtain ⟨s, hloop, rfl⟩ := cpuIdentifyAll_eq_ok.mp h
  cases haffinity : a.withAffinity with
  | false =>
    refine iff_of_false (not_totalsConsistent_noAffinity haffinity hloop) fun hh => ?_
    exact absurd (haffinity.symm.trans hh.1) (by decide)
  | true =>
    rw [TotalsHold, and_iff_right haffinity]
    by_cases hkeeps : a.KeepsTopology
    · have hseen := hkeeps.seen hloop
      obtain ⟨hist, ht, htab, hg⟩ := identLoop_seen haffinity hseen hloop
      have hlen : (a.seenCpus host).length < 2 ^ 16 := hseen.length ▸ a.numRaw_lt
      rw [hg.consistent_iff htab ht hlen (identLoop_cpuTypes_ne_nil hraw hloop)]
      exact ⟨fun h _ => h, fun h => h hkeeps⟩
    · refine iff_of_true (totalsConsistent_lost ?_ hloop) fun hk => absurd hk hkeeps
      rwa [← Bool.not_eq_true, identLoop_supported_iff haffinity hloop]

theorem totalsConsistent_iff_intelX2apicShared :
    ∃ system, cpuIdentifyAll ⟨fun _ _ => .zero, 2⟩ intelX2apicSharedArray = .ok (.ok, system) ∧
      (system.TotalsConsistent ↔ TotalsHold ⟨fun _ _ => .zero, 2⟩ intelX2apicSharedArray) := by
  have hrun : yields (cpuIdentifyAll ⟨fun _ _ => .zero, 2⟩ intelX2apicSharedArray)
      (fun r => decide (r.1 = .ok)) = true := by decide +kernel
  obtain ⟨system, h⟩ := exists_of_yields_fst hrun
  exact ⟨system, h, totalsConsistent_iff (List.cons_ne_nil _ _) h⟩

/-- The dump of one processor: the entry has no counts, and the totals are zero. -/
theorem totals_zero_cortexA53 :
    ∃ system, cpuIdentifyAll ⟨fun _ _ => .zero, 1⟩ ⟨false, [cortexA53 0], by decide⟩ =
        .ok (.ok, system) ∧
      (∀ data ∈ system.cpuTypes, data.instances .l2 = -1) ∧ system.totalInstances .l2 = 0 ∧
      ¬system.TotalsConsistent := by
  have hrun : yields (identLoop ⟨fun _ _ => .zero, 1⟩ ⟨false, [cortexA53 0], by decide⟩)
      (fun _ => true) = true := by decide +kernel
  obtain ⟨s, h, -⟩ := exists_of_yields hrun
  obtain ⟨hsup, hzero⟩ := identLoop_noAffinity rfl h
  refine ⟨_, cpuIdentifyAll_of_loop h,
    fun data hmem => congrFun ((identLoop_noInstances h).finish rfl data hmem) .l2, ?_,
    not_totalsConsistent_noAffinity rfl h⟩
  show (if s.isTopologySupported then ((s.cachesAll .l2).instances : Int) else -1) = 0
  rw [if_pos hsup, hzero]
  rfl

end LibCpuid
