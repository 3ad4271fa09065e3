import LibCpuid.Partition

/-! One entry for each type of core.  The lookup of `cpu_identify_all` compares the purpose that
`cpu_ident_purpose` finds with the one that `cpu_ident_internal` stored.  The two agree but for Hygon
processors: only the second takes these to the AMD decoder. -/

namespace LibCpuid

open CLang

/-- A Hygon processor whose extended topology gives its cores a purpose of their own. -/
def IsHygonHybrid (raw : CpuRawData) : Prop :=
  cpuidArchitectureIdentify raw = .x86 ∧ cpuidVendorIdentify (raw.basicCpuid 0) = .hygon ∧
    cpuidIdentifyPurposeAmd raw ≠ .ok .general

theorem cpuIdentPurpose_eq_storedPurpose_iff (raw : CpuRawData) :
    cpuIdentPurpose raw = storedPurpose raw ↔ ¬IsHygonHybrid raw := by
  unfold cpuIdentPurpose storedPurpose IsHygonHybrid
  cases cpuidArchitectureIdentify raw with
  | arm | unknown => simp
  | x86 =>
    cases cpuidVendorIdentify (raw.basicCpuid 0) with
    | hygon => simp [eq_comm]
    | _ => simp

/-- No two entries are of one type: of one purpose and package, or of one purpose when topology is
not supported. -/
def IdentState.NoTwins (s : IdentState) : Prop :=
  ∀ (j j' : Nat) (data data' : CpuId) (info info' : InternalTypeInfo),
    s.cpuTypes[j]? = some data → s.typeInfo[j]? = some info →
    s.cpuTypes[j']? = some data' → s.typeInfo[j']? = some info' →
    data.purpose = data'.purpose →
    (s.isTopologySupported = true → info.packageId = info'.packageId) → j = j'

section Steps

variable {host : Host} {raw : CpuRawData} {s s' : IdentState}

/-- A new entry is no twin when none matched and its record has the purpose that was looked up. -/
theorem IdentState.NoTwins.opened {purpose : CpuPurpose} {data : CpuId} {idInfo : InternalIdInfo}
    (hs : s.Aligned) (h : s.NoTwins) (hnone : ∀ j, ¬s.Matches purpose j)
    (hpurpose : data.purpose = purpose) :
    (s.opened true purpose data idInfo).NoTwins := by
  -- an old entry does not have the type of the new one
  have hnew {j : Nat} {d : CpuId} {info : InternalTypeInfo} (hd : s.cpuTypes[j]? = some d)
      (hi : s.typeInfo[j]? = some info) (hp : d.purpose = purpose)
      (hk : s.isTopologySupported = true → info.packageId = s.curPackageId) : False :=
    hnone j ⟨d, info, hd, hi, hp, hk⟩
  have hsplit {j : Nat} {d : CpuId} {info : InternalTypeInfo}
      (hd : (s.opened true purpose data idInfo).cpuTypes[j]? = some d)
      (hi : (s.opened true purpose data idInfo).typeInfo[j]? = some info) :
      (s.cpuTypes[j]? = some d ∧ s.typeInfo[j]? = some info) ∨
        (j = s.cpuTypes.length ∧ d.purpose = purpose ∧
          (s.isTopologySupported = true → info.packageId = s.curPackageId)) := by
    simp only [IdentState.opened] at hd hi
    rcases Nat.lt_or_ge j s.cpuTypes.length with hlt | hge
    · rw [List.getElem?_append_left hlt] at hd
      rw [List.getElem?_append_left (hs.typeInfo ▸ hlt)] at hi
      exact .inl ⟨hd, hi⟩
    · rw [List.getElem?_append_right hge, List.getElem?_singleton] at hd
      rw [List.getElem?_append_right (hs.typeInfo ▸ hge), List.getElem?_singleton] at hi
      split at hd
      · split at hi
        · obtain rfl := Option.some.inj hd
          obtain rfl := Option.some.inj hi
          exact .inr ⟨by omega, hpurpose, fun hsup => by simp [hsup]⟩
        · cases hi
      · cases hd
  intro j j' d d' info info' hd hi hd' hi' hp hk
  rcases hsplit hd hi with ⟨hd, hi⟩ | ⟨hj, hdp, hdk⟩
  · rcases hsplit hd' hi' with ⟨hd', hi'⟩ | ⟨hj', hdp', hdk'⟩
    · exact h j j' d d' info info' hd hi hd' hi' hp hk
    · exact (hnew hd hi (hp.trans hdp') fun hsup => (hk hsup).trans (hdk' hsup)).elim
  · rcases hsplit hd' hi' with ⟨hd', hi'⟩ | ⟨hj', -, -⟩
    · exact (hnew hd' hi' (hp.symm.trans hdp) fun hsup => (hk hsup).symm.trans (hdk hsup)).elim
    · rw [hj, hj']

/-- Counting a logical CPU changes no type. -/
theorem IdentState.NoTwins.counted {logicalCpu i : Nat} {topology : InternalTopology}
    (h : s.NoTwins) (hc : incrementCounters true logicalCpu topology i s = .ok s') :
    s'.NoTwins := by
  obtain ⟨data, hdata, htypes, hsup, -, hinfos⟩ := incrementCounters_cases hc
  have hold {j : Nat} {d : CpuId} {info : InternalTypeInfo} (hd : s'.cpuTypes[j]? = some d)
      (hi : s'.typeInfo[j]? = some info) : ∃ d0 info0, s.cpuTypes[j]? = some d0 ∧
        s.typeInfo[j]? = some info0 ∧ d0.purpose = d.purpose ∧
        info0.packageId = info.packageId := by
    obtain ⟨d0, hd0, hp⟩ : ∃ d0, s.cpuTypes[j]? = some d0 ∧ d0.purpose = d.purpose := by
      rw [htypes] at hd
      by_cases hij : i = j
      · subst hij
        rw [List.getElem?_set_self (List.getElem?_eq_some_iff.mp hdata).1] at hd
        exact ⟨data, hdata, by rw [← Option.some.inj hd]; rfl⟩
      · rw [List.getElem?_set_ne hij] at hd
        exact ⟨d, hd, rfl⟩
    obtain ⟨info0, hinfo0, hk⟩ : ∃ info0, s.typeInfo[j]? = some info0 ∧
        info0.packageId = info.packageId := by
      rcases hinfos with ⟨-, heq, -⟩ | ⟨-, info1, info', hcount⟩
      · exact ⟨info, heq ▸ hi, rfl⟩
      · rw [hcount.typeInfo] at hi
        by_cases hij : i = j
        · subst hij
          rw [List.getElem?_set_self (List.getElem?_eq_some_iff.mp hcount.old).1] at hi
          exact ⟨info1, hcount.old, by rw [← Option.some.inj hi, hcount.packageId]⟩
        · rw [List.getElem?_set_ne hij] at hi
          exact ⟨info, hi, rfl⟩
    exact ⟨d0, info0, hd0, hinfo0, hp, hk⟩
  intro j j' d d' info info' hd hi hd' hi' hp hk
  obtain ⟨d0, info0, hd0, hi0, hp0, hk0⟩ := hold hd hi
  obtain ⟨d0', info0', hd0', hi0', hp0', hk0'⟩ := hold hd' hi'
  refine h j j' d0 d0' info0 info0' hd0 hi0 hd0' hi0' (hp0.trans (hp.trans hp0'.symm)) ?_
  intro hs
  rw [hk0, hk0']
  exact hk (hsup.trans hs)

/-- Whether topology is supported after an iteration with affinity. -/
theorem identStep_supported {logicalCpu : Nat} {supported : Bool} {topology : InternalTopology}
    (hs : s.Aligned) (hid : cpuIdentId logicalCpu raw = .ok (supported, topology))
    (h : identStep host true logicalCpu raw s = .ok s') :
    s'.isTopologySupported = (s.isTopologySupported && supported) := by
  obtain ⟨purpose, s1, topology', s2, i, -, hread, hfind, hcount⟩ := identStep_cases h
  have h1 : s1.isTopologySupported = (s.isTopologySupported && supported) := by
    unfold readTopology at hread
    cases hsup : s.isTopologySupported with
    | true =>
      simp only [hsup, Bool.and_self, if_true, hid, ok_bind, Except.ok.injEq,
        Prod.mk.injEq] at hread
      rw [← hread.1, Bool.true_and]
    | false =>
      simp only [hsup, Bool.and_false, Bool.false_eq_true, if_false, Except.ok.injEq,
        Prod.mk.injEq] at hread
      rw [← hread.1, hsup, Bool.false_and]
  have h2 : s2.isTopologySupported = s1.isTopologySupported := by
    rcases findEntry_cases ((readTopology_reads hread).aligned hs) hfind with
      ⟨rfl, -⟩ | ⟨-, -, -, data, idInfo, -, rfl⟩ <;> rfl
  obtain ⟨data, -, -, h3, -⟩ := incrementCounters_cases hcount
  rw [h3, h2, h1]

/-- An iteration opens no second entry for a type, unless topology support is lost on the way. -/
theorem IdentState.NoTwins.of_step {logicalCpu : Nat} (hs : s.Aligned) (h : s.NoTwins)
    (hraw : ¬IsHygonHybrid raw)
    (hflag : s'.isTopologySupported = s.isTopologySupported ∨ s.cpuTypes = [])
    (hstep : identStep host true logicalCpu raw s = .ok s') : s'.NoTwins := by
  obtain ⟨purpose, s1, topology, s2, i, hpurpose, hread, hfind, hcount⟩ := identStep_cases hstep
  have hr := readTopology_reads hread
  have hs1 := hr.aligned hs
  have hflag2 : s2.isTopologySupported = s1.isTopologySupported := by
    rcases findEntry_cases hs1 hfind with ⟨rfl, -⟩ | ⟨-, -, -, data, idInfo, -, rfl⟩ <;> rfl
  obtain ⟨-, -, -, hflag3, -⟩ := incrementCounters_cases hcount
  have h1 : s1.NoTwins := by
    intro j j' d d' info info' hd hi hd' hi' hp hk
    rw [hr.cpuTypes] at hd hd'
    rw [hr.typeInfo] at hi hi'
    rcases hflag with hflag | hnil
    · rw [hflag3, hflag2] at hflag
      exact h j j' d d' info info' hd hi hd' hi' hp fun hsup => hk (hflag.trans hsup)
    · rw [hnil] at hd
      cases hd
  refine IdentState.NoTwins.counted ?_ hcount
  rcases findEntry_cases hs1 hfind with ⟨rfl, -⟩ | ⟨hnone, -, -, data, idInfo, hid, rfl⟩
  · exact h1
  · refine h1.opened hs1 hnone ?_
    have hstored := (cpuIdentInternal_facts hid).2
    rw [← (cpuIdentPurpose_eq_storedPurpose_iff raw).mpr hraw, hpurpose] at hstored
    exact (Except.ok.inj hstored).symm

end Steps

/-! ### Whole runs -/

/-- Every logical CPU has topology support, or none has. -/
def CpuRawDataArray.UniformTopology (a : CpuRawDataArray) : Prop :=
  ∃ supported, ∀ (i : Nat) (raw : CpuRawData), a.raw[i]? = some raw →
    ∃ topology, cpuIdentId i raw = .ok (supported, topology)

theorem noTwins_start : IdentState.start.NoTwins := by
  intro j j' d d' info info' hd
  simp [IdentState.start] at hd

/-- The states that the loop reaches on logical CPUs of one kind of topology support. -/
theorem loop_noTwins {host : Host} {supported : Bool} {raws : List CpuRawData} {s : IdentState}
    (hid : ∀ (i : Nat) (raw : CpuRawData), raws[i]? = some raw →
      ∃ topology, cpuIdentId i raw = .ok (supported, topology))
    (hraws : ∀ raw ∈ raws, ¬IsHygonHybrid raw)
    (h : loop (identStep host true) raws 0 .start = .ok s) : s.NoTwins := by
  -- topology support has settled, or no logical CPU has been identified yet
  have hinv := loop_induct
    (fun done s => done <+: raws → s.Aligned ∧ s.NoTwins ∧
      (s.isTopologySupported = supported ∨ (s.cpuTypes = [] ∧ s.isTopologySupported = true)))
    (fun _ => ⟨IdentState.aligned_start, noTwins_start, .inr ⟨rfl, rfl⟩⟩)
    (fun done raw s s' ih hstep hpre => by
      obtain ⟨hs, htwins, hflag⟩ := ih ((List.prefix_append done [raw]).trans hpre)
      have hget : raws[done.length]? = some raw := by
        obtain ⟨rest, rfl⟩ := hpre
        simp
      obtain ⟨topology, hid⟩ := hid _ _ hget
      have hflag' : s'.isTopologySupported = supported := by
        rw [identStep_supported hs hid hstep]
        rcases hflag with hflag | ⟨-, hflag⟩
        · rw [hflag, Bool.and_self]
        · rw [hflag, Bool.true_and]
      refine ⟨identStep_aligned hs hstep, htwins.of_step hs ?_ ?_ hstep, .inl hflag'⟩
      · exact hraws raw (List.mem_of_getElem? hget)
      · exact hflag.imp (fun h => hflag'.trans h.symm) fun h => h.1) h
  exact (hinv (List.prefix_refl raws)).2.1

/-- The purpose that is stored is the one that is looked up, but for Hygon processors whose cores
have a purpose of their own; and a run without these never has two entries of one type. -/
theorem one_entry_per_type (host : Host) (a : CpuRawDataArray) :
    (∀ (raw : CpuRawData) (data : CpuId) (idInfo : InternalIdInfo),
      cpuIdentInternal host raw = .ok (.ok, data, idInfo) →
      (cpuIdentPurpose raw = .ok data.purpose ↔ ¬IsHygonHybrid raw)) ∧
    (a.withAffinity = true → a.UniformTopology → (∀ raw ∈ a.raw, ¬IsHygonHybrid raw) →
      ∀ (k : Nat) (s : IdentState),
      loop (identStep host a.withAffinity) (a.raw.take k) 0 .start = .ok s → s.NoTwins) := by
  constructor
  · intro raw data idInfo h
    rw [← (cpuIdentInternal_facts h).2]
    exact cpuIdentPurpose_eq_storedPurpose_iff raw
  · intro haffinity huniform hraws k s h
    obtain ⟨supported, hid⟩ := huniform
    rw [haffinity] at h
    have hprefix : ∀ (i : Nat) (raw : CpuRawData), (a.raw.take k)[i]? = some raw →
        ∃ topology, cpuIdentId i raw = .ok (supported, topology) := by
      intro i raw hget
      rw [List.getElem?_take] at hget
      split at hget
      · exact hid i raw hget
      · cases hget
    exact loop_noTwins hprefix (fun raw hraw => hraws raw (List.mem_of_mem_take hraw)) h

/-- The run of `cortexA53Array` keeps one entry for each of its two packages. -/
theorem one_entry_per_type_cortexA53 :
    (∃ data, cpuIdentPurpose (cortexA53 0x80000000) = .ok (CpuId.purpose data)) ∧
    ∃ s, loop (identStep ⟨fun _ _ => .zero, 3⟩ true) (cortexA53Array.raw.take 3) 0 .start = .ok s ∧
      s.NoTwins := by
  have hnot (mpidr : BitVec 64) : ¬IsHygonHybrid (cortexA53 mpidr) := fun h => by
    have harch : cpuidArchitectureIdentify (cortexA53 mpidr) = .arm := rfl
    rw [IsHygonHybrid, harch] at h
    cases h.1
  have hmem {raw : CpuRawData} (h : raw ∈ cortexA53Array.raw) :
      raw = cortexA53 0x80000000 ∨ raw = cortexA53 0x80000001 ∨ raw = cortexA53 0x80000100 := by
    simpa [cortexA53Array] using h
  constructor
  · have hrun : yields (cpuIdentInternal ⟨fun _ _ => .zero, 3⟩ (cortexA53 0x80000000))
        (fun r => decide (r.1 = .ok)) = true := by decide +kernel
    obtain ⟨⟨data, idInfo⟩, h⟩ := exists_of_yields_fst hrun
    exact ⟨data, ((one_entry_per_type _ cortexA53Array).1 _ _ _ h).mpr (hnot _)⟩
  · have hrun : yields (identLoop ⟨fun _ _ => .zero, 3⟩ cortexA53Array)
        (fun _ => true) = true := by decide +kernel
    obtain ⟨s, h, -⟩ := exists_of_yields hrun
    refine ⟨s, h,
      (one_entry_per_type _ cortexA53Array).2 rfl ⟨true, fun i raw hi => ?_⟩ ?_ 3 s h⟩
    · rcases hmem (List.mem_of_getElem? hi) with rfl | rfl | rfl <;> exact ⟨_, rfl⟩
    · intro raw hraw
      rcases hmem hraw with rfl | rfl | rfl <;> exact hnot _

/-- A Hygon processor whose extended topology names a performance core. -/
def hygonHybrid : CpuRawData :=
  { CpuRawData.zero with
    basicCpuid := fun i =>
      if i = 0 then { eax := 1, ebx := 0x6f677948, ecx := 0x656e6975, edx := 0x6e65476e }
      else .zero
    amdFn80000026h := fun i =>
      if i = 0 then { eax := 0x40000000, ebx := 1, ecx := 0x100, edx := 0 } else .zero }

/-- Two logical CPUs of that processor. -/
def hygonArray : CpuRawDataArray where
  withAffinity := true
  raw := [hygonHybrid, hygonHybrid]
  numRaw_lt := by decide

theorem one_entry_per_type_hygon :
    (∃ data idInfo, cpuIdentInternal ⟨fun _ _ => .zero, 2⟩ hygonHybrid = .ok (.ok, data, idInfo) ∧
      cpuIdentPurpose hygonHybrid ≠ .ok data.purpose) ∧
    hygonArray.UniformTopology ∧
    ∃ s, identLoop ⟨fun _ _ => .zero, 2⟩ hygonArray = .ok s ∧ ¬s.NoTwins := by
  refine ⟨?_, ?_, ?_⟩
  · have hid : yields (cpuIdentInternal ⟨fun _ _ => .zero, 2⟩ hygonHybrid)
        (fun r => decide (r.1 = .ok ∧ r.2.1.purpose = .performance)) = true := by decide +kernel
    have hpurpose : cpuIdentPurpose hygonHybrid = .ok .general := by decide +kernel
    obtain ⟨⟨r, data, idInfo⟩, h, hfound⟩ := exists_of_yields hid
    obtain ⟨rfl, hperformance⟩ := of_decide_eq_true hfound
    refine ⟨data, idInfo, h, ?_⟩
    rw [hpurpose, hperformance]
    decide
  · refine ⟨false, fun i raw hi => ?_⟩
    have hraw : raw = hygonHybrid := by
      have := List.mem_of_getElem? hi
      simpa [hygonArray] using this
    subst hraw
    exact ⟨topologyConstructor i, rfl⟩
  · have hloop : yields (identLoop ⟨fun _ _ => .zero, 2⟩ hygonArray)
        (fun s => decide (s.cpuTypes.map CpuId.purpose = [.performance, .performance] ∧
          s.isTopologySupported = false ∧ s.typeInfo.length = 2)) = true := by decide +kernel
    obtain ⟨s, h, hentries⟩ := exists_of_yields hloop
    refine ⟨s, h, fun htwins => ?_⟩
    obtain ⟨htypes, hsup, hinfos⟩ := of_decide_eq_true hentries
    obtain ⟨d, d', hd⟩ : ∃ d d', s.cpuTypes = [d, d'] := by
      have hlen := congrArg List.length htypes
      rw [List.length_map] at hlen
      exact List.length_eq_two.mp hlen
    obtain ⟨i, i', hi⟩ := List.length_eq_two.mp hinfos
    rw [hd] at htypes
    simp only [List.map_cons, List.map_nil, List.cons.injEq, and_true] at htypes
    have := htwins 0 1 d d' i i' (by simp [hd]) (by simp [hi]) (by simp [hd]) (by simp [hi])
      (htypes.1.trans htypes.2.symm) (by simp [hsup])
    cases this

end LibCpuid
