import LibCpuid.Visits

/-! `cpu_identify_all` partitions the logical CPUs: each is in the affinity mask of one entry, and
the counters of the entries are those of the masks. -/

namespace LibCpuid

open CLang

/-- The masks of the entries part the logical CPUs below `numRaw`, and the counters agree. -/
structure SystemId.Partitions (system : SystemId) (numRaw : Nat) : Prop where
  one : ∀ i : LogicalCpu, i.val < numRaw → ∃! j : Fin system.cpuTypes.length,
    getAffinityMaskBit i (system.cpuTypes.get j).affinityMask = true
  none : ∀ i : LogicalCpu, numRaw ≤ i.val → ∀ data ∈ system.cpuTypes,
    getAffinityMaskBit i data.affinityMask = false
  count : ∀ data ∈ system.cpuTypes, data.numLogicalCpus = data.affinityMask.count
  total : ∀ data ∈ system.cpuTypes, data.totalLogicalCpus = numRaw
  sum : (system.cpuTypes.map CpuId.numLogicalCpus).sum = numRaw

@[simp] theorem finishType_affinityMask (withAffinity isTopologySupported : Bool) (numRaw : Nat)
    (info : InternalTypeInfo) (data : CpuId) :
    (finishType withAffinity isTopologySupported numRaw info data).affinityMask =
      data.affinityMask := by
  unfold finishType
  cases withAffinity <;> cases isTopologySupported <;> rfl

@[simp] theorem finishType_numLogicalCpus (withAffinity isTopologySupported : Bool)
    (numRaw : Nat) (info : InternalTypeInfo) (data : CpuId) :
    (finishType withAffinity isTopologySupported numRaw info data).numLogicalCpus =
      data.numLogicalCpus := by
  unfold finishType
  cases withAffinity <;> cases isTopologySupported <;> rfl

/-- The system of a state that tracks a history. -/
theorem Tracks.partitions {hist : List Visit} {s : IdentState} (h : Tracks hist s) :
    (s.finish true hist.length).Partitions hist.length := by
  have hentry {j : Nat} (hj : j < (s.finish true hist.length).cpuTypes.length) :
      ∃ data, s.cpuTypes[j]? = some data ∧
        (s.finish true hist.length).cpuTypes[j].affinityMask = data.affinityMask ∧
        (s.finish true hist.length).cpuTypes[j].numLogicalCpus = data.numLogicalCpus ∧
        (s.finish true hist.length).cpuTypes[j].totalLogicalCpus = hist.length := by
    obtain ⟨info, data, -, hdata, heq⟩ :=
      IdentState.finish_cpuTypes.mp (List.getElem?_eq_getElem hj)
    exact ⟨data, hdata, by simp [heq], by simp [heq], by rw [heq]; rfl⟩
  have hlen : (s.finish true hist.length).cpuTypes.length = s.cpuTypes.length := by
    simp [IdentState.finish, h.aligned.typeInfo]
  refine ⟨?_, ?_, ?_, ?_, ?_⟩
  · intro i hi
    obtain ⟨v, hv⟩ : ∃ v, hist[i.val]? = some v := ⟨_, List.getElem?_eq_getElem hi⟩
    refine ⟨⟨v.entry, by rw [hlen]; exact h.entry_lt v (List.mem_of_getElem? hv)⟩, ?_, ?_⟩
    · obtain ⟨data, hdata, hmask, -⟩ := hentry (by
        rw [hlen]
        exact h.entry_lt v (List.mem_of_getElem? hv))
      simp only [List.get_eq_getElem, hmask, h.mask _ data hdata]
      exact ⟨v, hv, rfl⟩
    · intro j hj
      obtain ⟨data, hdata, hmask, -⟩ := hentry j.isLt
      simp only [List.get_eq_getElem, hmask, h.mask _ data hdata] at hj
      obtain ⟨w, hw, hj⟩ := hj
      rw [hv] at hw
      exact Fin.ext (Option.some.inj hw ▸ hj.symm)
  · intro i hi data' hmem
    obtain ⟨j, hj, rfl⟩ := List.getElem_of_mem hmem
    obtain ⟨data, hdata, hmask, -⟩ := hentry hj
    rw [hmask, Bool.eq_false_iff, ne_eq, h.mask _ data hdata, List.getElem?_eq_none hi]
    rintro ⟨w, hw, -⟩
    cases hw
  · intro data' hmem
    obtain ⟨j, hj, rfl⟩ := List.getElem_of_mem hmem
    obtain ⟨data, hdata, hmask, hcount, -⟩ := hentry hj
    rw [hmask, hcount, h.count _ data hdata]
  · intro data' hmem
    obtain ⟨j, hj, rfl⟩ := List.getElem_of_mem hmem
    obtain ⟨data, -, -, -, htotal⟩ := hentry hj
    exact htotal
  · have hmap : (s.finish true hist.length).cpuTypes.map CpuId.numLogicalCpus =
        s.cpuTypes.map CpuId.numLogicalCpus := by
      apply List.ext_getElem (by simpa using hlen)
      intro j hj hj'
      rw [List.length_map] at hj
      obtain ⟨data, hdata, -, hcount, -⟩ := hentry hj
      rw [List.getElem_map, List.getElem_map, hcount,
        (List.getElem?_eq_some_iff.mp hdata).2]
    rw [hmap, h.sum]

/-- When `cpu_identify_all` returns `ERR_OK` on an array with affinity, its entries part the
logical CPUs. -/
theorem cpuIdentifyAll_partitions {host : Host} {a : CpuRawDataArray} {system : SystemId}
    (haffinity : a.withAffinity = true) (h : cpuIdentifyAll host a = .ok (.ok, system)) :
    system.Partitions a.numRaw := by
  obtain ⟨s, hloop, rfl⟩ := cpuIdentifyAll_eq_ok.mp h
  rw [identLoop, haffinity] at hloop
  obtain ⟨hist, hlen, htracks⟩ := loop_tracks a.numRaw_lt hloop
  rw [haffinity, CpuRawDataArray.numRaw, ← hlen]
  exact htracks.partitions

/-- The registers of a Cortex-A53 core with the given affinity fields. -/
def cortexA53 (mpidr : BitVec 64) : CpuRawData :=
  { CpuRawData.zero with armMidr := 0x410fd034, armMpidr := mpidr }

/-- Two cores of one package and one of another. -/
def cortexA53Array : CpuRawDataArray where
  withAffinity := true
  raw := [cortexA53 0x80000000, cortexA53 0x80000001, cortexA53 0x80000100]
  numRaw_lt := by decide

theorem cpuIdentifyAll_partitions_cortexA53 :
    ∃ system, cpuIdentifyAll ⟨fun _ _ => .zero, 3⟩ cortexA53Array = .ok (.ok, system) ∧
      system.Partitions 3 := by
  have hrun : yields (cpuIdentifyAll ⟨fun _ _ => .zero, 3⟩ cortexA53Array)
      (fun r => decide (r.1 = .ok)) = true := by decide +kernel
  obtain ⟨system, h⟩ := exists_of_yields_fst hrun
  exact ⟨system, h, cpuIdentifyAll_partitions rfl h⟩

end LibCpuid
