import LibCpuid.Counts

/-! `num_cores` of the entries, on arrays whose logical CPUs have a topology and are identified. -/

namespace LibCpuid

open CLang

/-- Each entry reports the number of core ids of the logical CPUs in its affinity mask. -/
def SystemId.CoresExact (system : SystemId) (cpus : List IdentifiedCpu) : Prop :=
  ∀ data ∈ system.cpuTypes, data.numCores = (coreIdsIn data.affinityMask cpus).toFinset.card

section Run

variable {host : Host} {a : CpuRawDataArray} {cpus : List IdentifiedCpu} {hist : List Visit}
  {s : IdentState}

theorem Groups.coresExact_iff {raws : List CpuRawData} (hg : Groups cpus hist s)
    (htab : Tabulates raws hist s) (ht : Tracks hist s) (hlen : cpus.length < 2 ^ 16)
    (numRaw : Nat) :
    (s.finish true numRaw).CoresExact cpus ↔ ∀ τ, CountedExactly (coreIdsOf τ cpus) := by
  -- an entry is exact when the core ids of its type are counted exactly
  have hentry {j : Nat} {data : CpuId} {info : InternalTypeInfo}
      (hdata : s.cpuTypes[j]? = some data) (hinfo : s.typeInfo[j]? = some info) :
      (finishType true s.isTopologySupported numRaw info data).numCores =
          (coreIdsIn data.affinityMask cpus).toFinset.card ↔
        CountedExactly (coreIdsOf info.type cpus) := by
    rw [← CountedExactly.congr (hg.mem_coreIdsIn ht hlen hdata hinfo),
      ← hg.cores_exact_iff htab ht hlen hdata hinfo, hg.supported]
    rfl
  constructor
  · intro hexact τ
    by_cases hτ : τ ∈ (groups cpus).map Prod.fst
    · obtain ⟨j, hj⟩ := List.mem_iff_getElem?.mp hτ
      rw [← hg.entries, List.map_map, List.getElem?_map, Option.map_eq_some_iff] at hj
      obtain ⟨info, hinfo, rfl⟩ := hj
      have hlt : j < s.cpuTypes.length := by
        rw [← ht.aligned.typeInfo]
        exact (List.getElem?_eq_some_iff.mp hinfo).1
      have hdata : s.cpuTypes[j]? = some s.cpuTypes[j] := List.getElem?_eq_getElem hlt
      have hj : (s.finish true numRaw).cpuTypes[j]? = some _ :=
        IdentState.finish_cpuTypes.mpr ⟨info, s.cpuTypes[j], hinfo, hdata, rfl⟩
      have hcores := hexact _ (List.mem_of_getElem? hj)
      rw [finishType_affinityMask] at hcores
      exact (hentry hdata hinfo).mp hcores
    · have hnil : coreIdsOf τ cpus = [] := by
        rw [mem_groups_types, List.mem_map] at hτ
        rw [coreIdsOf, List.map_eq_nil_iff, List.filter_eq_nil_iff]
        exact fun c hc he => hτ ⟨c, hc, of_decide_eq_true he⟩
      rw [hnil]
      exact ⟨fun x hx => absurd hx List.not_mem_nil, by decide⟩
  · intro hall data' hmem
    obtain ⟨j, hj⟩ := List.mem_iff_getElem?.mp hmem
    obtain ⟨info, data, hinfo, hdata, rfl⟩ := IdentState.finish_cpuTypes.mp hj
    rw [finishType_affinityMask]
    exact (hentry hdata hinfo).mpr (hall info.type)

/-- `cpu_identify_all` counts the cores of each entry exactly if and only if its tables have room,
and no two core ids of one type share a slot or fill the table. -/
theorem numCores_exact_iff (h : a.Identified host cpus) :
    (∃ system, cpuIdentifyAll host a = .ok (.ok, system) ∧ system.CoresExact cpus) ↔
      InTables cpus ∧ ∀ τ, CountedExactly (coreIdsOf τ cpus) := by
  have hlen : cpus.length < 2 ^ 16 := h.length ▸ a.numRaw_lt
  constructor
  · rintro ⟨system, hall, hexact⟩
    obtain ⟨s, hloop, rfl⟩ := cpuIdentifyAll_eq_ok.mp hall
    obtain ⟨hist, ht, htab, hg⟩ := identLoop_groups h hloop
    rw [h.affinity, hg.coresExact_iff htab ht hlen] at hexact
    exact ⟨(identLoop_ok_iff h).mp ⟨s, hloop⟩, hexact⟩
  · rintro ⟨hin, hexact⟩
    obtain ⟨s, hloop⟩ := (identLoop_ok_iff h).mpr hin
    obtain ⟨hist, ht, htab, hg⟩ := identLoop_groups h hloop
    refine ⟨_, cpuIdentifyAll_of_loop hloop, ?_⟩
    rw [h.affinity, hg.coresExact_iff htab ht hlen]
    exact hexact

end Run

/-- What identification finds about a core of `cortexA53Array`. -/
def cortexA53Cpu (logicalCpu : Nat) (packageId coreId : BitVec 32) : IdentifiedCpu where
  purpose := .efficiency
  topology := { apicId := -1, packageId, coreId, smtId := -1, logicalCpu }
  cacheMask := fun _ => 0

theorem identifies_cortexA53 {host : Host} {mpidr : BitVec 64} {logicalCpu : Nat}
    {packageId coreId : BitVec 32}
    (hid : cpuIdentId logicalCpu (cortexA53 mpidr) =
      .ok (true, (cortexA53Cpu logicalCpu packageId coreId).topology))
    (hpurpose : cpuidIdentifyPurposeArm (cortexA53 mpidr) = .efficiency) :
    Identifies host logicalCpu (cortexA53 mpidr) (cortexA53Cpu logicalCpu packageId coreId) := by
  have hint : cpuIdentInternal host (cortexA53 mpidr) = .ok (.ok, cpuidIdentifyArm (cortexA53 mpidr)
      { cpuIdConstructor with architecture := .arm }, { score := 0, cacheMask := fun _ => 0 }) := rfl
  have hstored : storedPurpose (cortexA53 mpidr) = .ok (cpuidIdentifyPurposeArm (cortexA53 mpidr)) :=
    rfl
  rw [(cpuIdentInternal_facts hint).2] at hstored
  exact ⟨hid, _, _, hint, (Except.ok.inj hstored).trans hpurpose, rfl⟩

/-- The logical CPUs of `cortexA53Array`. -/
def cortexA53Cpus : List IdentifiedCpu :=
  [cortexA53Cpu 0 0 0, cortexA53Cpu 1 0 1, cortexA53Cpu 2 1 0]

theorem identified_cortexA53 (host : Host) : cortexA53Array.Identified host cortexA53Cpus where
  affinity := rfl
  length := rfl
  each i raw c hraw hc := by
    match i with
    | 0 =>
      obtain rfl := Option.some.inj hraw
      obtain rfl := Option.some.inj hc
      exact identifies_cortexA53 rfl (by decide +kernel)
    | 1 =>
      obtain rfl := Option.some.inj hraw
      obtain rfl := Option.some.inj hc
      exact identifies_cortexA53 rfl (by decide +kernel)
    | 2 =>
      obtain rfl := Option.some.inj hraw
      obtain rfl := Option.some.inj hc
      exact identifies_cortexA53 rfl (by decide +kernel)
    | _ + 3 => cases hraw

theorem inTables_cortexA53 : InTables cortexA53Cpus where
  types := by decide +kernel
  ids c hc := by
    have hmask : entryMask cortexA53Cpus c = fun _ => 0 := by
      unfold entryMask
      split
      · next c' h =>
        have := List.mem_of_find?_eq_some h
        simp only [cortexA53Cpus, List.mem_cons, List.not_mem_nil, or_false] at this
        rcases this with rfl | rfl | rfl <;> rfl
      · rfl
    refine ⟨?_, fun level hm => absurd (congrFun hmask level.index) hm⟩
    simp only [cortexA53Cpus, List.mem_cons, List.not_mem_nil, or_false] at hc
    rcases hc with rfl | rfl | rfl <;> decide

theorem countedExactly_zero_one : CountedExactly [0, 1] := by
  refine ⟨fun x hx y hy => ?_, by decide⟩
  simp only [List.mem_cons, List.not_mem_nil, or_false] at hx hy
  rcases hx with rfl | rfl <;> rcases hy with rfl | rfl <;> decide

theorem numCores_exact_cortexA53 :
    ∃ system, cpuIdentifyAll ⟨fun _ _ => .zero, 3⟩ cortexA53Array = .ok (.ok, system) ∧
      system.CoresExact cortexA53Cpus := by
  refine (numCores_exact_iff (identified_cortexA53 _)).mpr ⟨inTables_cortexA53, fun τ => ?_⟩
  refine countedExactly_zero_one.subset fun x hx => ?_
  simp only [coreIdsOf, List.mem_map, List.mem_filter] at hx
  obtain ⟨c, ⟨hc, -⟩, rfl⟩ := hx
  simp only [cortexA53Cpus, List.mem_cons, List.not_mem_nil, or_false] at hc
  rcases hc with rfl | rfl | rfl <;> decide

/-- An Intel processor with a leaf 11 in which bits 1 to 9 of the APIC id are the core id. -/
def intelX2apic (apicId : BitVec 32) : CpuRawData :=
  { CpuRawData.zero with
    basicCpuid := fun i =>
      if i = 0 then { eax := 11, ebx := 0x756e6547, ecx := 0x6c65746e, edx := 0x49656e69 }
      else if i = 11 then { eax := 1, ebx := 2, ecx := 0x100, edx := apicId }
      else .zero
    intelFn11 := fun i =>
      if i = 0 then { eax := 1, ebx := 2, ecx := 0x100, edx := apicId }
      else if i = 1 then { eax := 10, ebx := 1024, ecx := 0x201, edx := apicId }
      else .zero }

/-- Two logical CPUs of one package whose core ids differ by the size of the table. -/
def intelX2apicArray : CpuRawDataArray where
  withAffinity := true
  raw := [intelX2apic 0, intelX2apic 256]
  numRaw_lt := by decide

/-- The logical CPUs of `intelX2apicArray`. -/
def intelX2apicCpus : List IdentifiedCpu :=
  [{ purpose := .general
     topology := { apicId := 0, packageId := 0, coreId := 0, smtId := 0, logicalCpu := 0 }
     cacheMask := fun _ => 0 },
   { purpose := .general
     topology := { apicId := 256, packageId := 0, coreId := 256, smtId := 0, logicalCpu := 1 }
     cacheMask := fun _ => 0 }]

theorem identified_intelX2apic :
    intelX2apicArray.Identified ⟨fun _ _ => .zero, 2⟩ intelX2apicCpus where
  affinity := rfl
  length := rfl
  each i raw c hraw hc := by
    match i with
    | 0 =>
      obtain rfl := Option.some.inj hraw
      obtain rfl := Option.some.inj hc
      exact Identifies.of_eval rfl (by decide +kernel)
    | 1 =>
      obtain rfl := Option.some.inj hraw
      obtain rfl := Option.some.inj hc
      exact Identifies.of_eval rfl (by decide +kernel)
    | _ + 2 => cases hraw

theorem numCores_collision_intelX2apic :
    intelX2apicArray.Identified ⟨fun _ _ => .zero, 2⟩ intelX2apicCpus ∧
    ∃ system, cpuIdentifyAll ⟨fun _ _ => .zero, 2⟩ intelX2apicArray = .ok (.ok, system) ∧
      ¬system.CoresExact intelX2apicCpus := by
  refine ⟨identified_intelX2apic, ?_⟩
  have hrun : yields (cpuIdentifyAll ⟨fun _ _ => .zero, 2⟩ intelX2apicArray)
      (fun r => decide (r.1 = .ok ∧ r.2.cpuTypes.map (fun data =>
        (data.numCores, (coreIdsIn data.affinityMask intelX2apicCpus).toFinset.card)) =
          [(1, 2)])) = true := by decide +kernel
  obtain ⟨⟨r, system⟩, h, hfound⟩ := exists_of_yields hrun
  obtain ⟨rfl, hcores⟩ := of_decide_eq_true hfound
  refine ⟨system, h, fun hexact => ?_⟩
  obtain ⟨data, hdata⟩ : ∃ data, system.cpuTypes = [data] := by
    have hlen := congrArg List.length hcores
    rw [List.length_map] at hlen
    exact List.length_eq_one_iff.mp hlen
  have hone := hexact data (by simp [hdata])
  rw [hdata] at hcores
  simp only [List.map_cons, List.map_nil, List.cons.injEq, Prod.mk.injEq, and_true] at hcores
  rw [hcores.1, hcores.2] at hone
  cases hone

end LibCpuid
