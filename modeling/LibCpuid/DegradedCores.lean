import LibCpuid.TotalInstances
import Mathlib.Data.Rat.Floor
import Mathlib.Order.Bounds.Basic

/-! The counters that `cpu_identify_all` leaves when topology identification fails for a logical
CPU: the number of cores of an entry then rests on what was decoded for its first logical CPU. -/

namespace LibCpuid

open CLang

/-! ### The divisions -/

/-- `a % b` of two numbers of type `int`. -/
def remainder (a b : Int) : Checked Int := if b = 0 then .error .divByZero else .ok (a.tmod b)

/-- `a / b` of two numbers of type `int`. -/
def quotient (a b : Int) : Checked Int := if b = 0 then .error .divByZero else .ok (a.tdiv b)

/-- `a / b` of two numbers of type `double`. -/
def doubleQuotient (a b : ℚ) : Checked ℚ := if b = 0 then .error .divByZero else .ok (a / b)

/-- The conversion of a `double` to `int32_t`, which drops the fraction. -/
def truncate (q : ℚ) : Int := if 0 ≤ q then ⌊q⌋ else ⌈q⌉

/-- `num_cores` when there is no topology, with each division as the source does it. -/
def degradedCores (data : CpuId) : Checked Int := do
  let isSmtSupported ←
    if data.numCores > 0 then do
      let rest ← remainder data.numLogicalCpus data.numCores
      .ok (decide (rest = 0))
    else .ok false
  let smtDivisor : ℚ ←
    if isSmtSupported then do
      let threads ← quotient data.numLogicalCpus data.numCores
      .ok (threads : ℚ)
    else .ok 1
  let cores ← doubleQuotient data.numLogicalCpus smtDivisor
  .ok (truncate cores)

section Divisions

variable {data : CpuId}

theorem truncate_intCast (n : Int) : truncate n = n := by
  unfold truncate
  split
  · exact Int.floor_intCast n
  · exact Int.ceil_intCast n

theorem coresWithoutTopology_of_dvd (hcores : 0 < data.numCores)
    (hcpus : 1 ≤ data.numLogicalCpus) (hdvd : data.numCores ∣ data.numLogicalCpus) :
    coresWithoutTopology data = data.numCores := by
  obtain ⟨threads, heq⟩ := hdvd
  have hthreads : threads ≠ 0 := by
    rintro rfl
    omega
  rw [coresWithoutTopology, if_pos ⟨hcores, by rw [heq, Int.mul_tmod_right]⟩, heq,
    Int.mul_tdiv_cancel_left _ hcores.ne', Int.mul_tdiv_cancel _ hthreads]

theorem coresWithoutTopology_of_not
    (h : ¬(0 < data.numCores ∧ data.numCores ∣ data.numLogicalCpus)) :
    coresWithoutTopology data = data.numLogicalCpus := by
  rw [coresWithoutTopology, if_neg fun h' => h ⟨h'.1, Int.dvd_of_tmod_eq_zero h'.2⟩, Int.tdiv_one]

/-- An entry that some logical CPU was counted in is divided by nothing that is zero, and the
quotient in floating point is the whole number. -/
theorem degradedCores_eq (hcpus : 1 ≤ data.numLogicalCpus) :
    degradedCores data = .ok (coresWithoutTopology data) := by
  -- without SMT the divisor is 1
  have hone : doubleQuotient data.numLogicalCpus 1 = .ok data.numLogicalCpus := by
    rw [doubleQuotient, if_neg one_ne_zero, div_one]
  by_cases hcores : 0 < data.numCores
  · have hrest : remainder data.numLogicalCpus data.numCores =
        .ok (data.numLogicalCpus.tmod data.numCores) := if_neg hcores.ne'
    by_cases hdvd : data.numCores ∣ data.numLogicalCpus
    · rw [coresWithoutTopology_of_dvd hcores hcpus hdvd]
      obtain ⟨threads, heq⟩ := hdvd
      have hthreads : threads ≠ 0 := by
        rintro rfl
        omega
      have hquotient : quotient data.numLogicalCpus data.numCores = .ok threads := by
        rw [quotient, if_neg hcores.ne', heq, Int.mul_tdiv_cancel_left _ hcores.ne']
      have hdouble : doubleQuotient data.numLogicalCpus threads = .ok data.numCores := by
        rw [doubleQuotient, if_neg (Int.cast_ne_zero.mpr hthreads), heq, Int.cast_mul,
          mul_div_cancel_right₀ _ (Int.cast_ne_zero.mpr hthreads)]
      have hsmt : data.numLogicalCpus.tmod data.numCores = 0 := by rw [heq, Int.mul_tmod_right]
      simp only [degradedCores, if_pos hcores, hrest, ok_bind, hsmt, decide_true, if_true,
        hquotient, hdouble, truncate_intCast]
    · have hsmt : data.numLogicalCpus.tmod data.numCores ≠ 0 :=
        fun h => hdvd (Int.dvd_of_tmod_eq_zero h)
      rw [coresWithoutTopology_of_not fun h => hdvd h.2]
      simp only [degradedCores, if_pos hcores, hrest, ok_bind, hsmt, decide_false, hone,
        truncate_intCast, Bool.false_eq_true, if_false]
  · rw [coresWithoutTopology_of_not fun h => hcores h.1]
    simp only [degradedCores, if_neg hcores, ok_bind, hone, truncate_intCast, Bool.false_eq_true,
      if_false]

end Divisions

/-! ### The first logical CPU of an entry -/

/-- What an entry keeps of its first logical CPU before the last loop. -/
structure OpenedBy (host : Host) (raws : List CpuRawData) (data : CpuId) (first : LogicalCpu)
    (decoded : CpuId) : Prop where
  decodes : ∃ raw, raws[first.val]? = some raw ∧ cpuIdentify host raw = .ok (.ok, decoded)
  least : IsLeast {k | getAffinityMaskBit k data.affinityMask = true} first
  numCores : data.numCores = decoded.numCores
  counted : 1 ≤ data.numLogicalCpus

/-- Each entry has a first logical CPU. -/
def IdentState.HasOpeners (s : IdentState) (host : Host) (raws : List CpuRawData) : Prop :=
  ∀ data ∈ s.cpuTypes, ∃ first decoded, OpenedBy host raws data first decoded

section Steps

variable {host : Host} {raws : List CpuRawData} {raw : CpuRawData} {data : CpuId}
  {first : LogicalCpu} {decoded : CpuId} {s s' : IdentState}

theorem OpenedBy.append (h : OpenedBy host raws data first decoded) (raw : CpuRawData) :
    OpenedBy host (raws ++ [raw]) data first decoded := by
  obtain ⟨raw', hraw, hdec⟩ := h.decodes
  refine ⟨⟨raw', ?_, hdec⟩, h.least, h.numCores, h.counted⟩
  rw [List.getElem?_append_left (List.getElem?_eq_some_iff.mp hraw).1, hraw]

theorem OpenedBy.lt (h : OpenedBy host raws data first decoded) : first.val < raws.length := by
  obtain ⟨raw', hraw, -⟩ := h.decodes
  exact (List.getElem?_eq_some_iff.mp hraw).1

/-- A logical CPU counted in an old entry is not its first one. -/
theorem OpenedBy.count (h : OpenedBy host raws data first decoded) (hlen : raws.length < 2 ^ 16)
    (raw : CpuRawData) :
    OpenedBy host (raws ++ [raw]) (countCpu (Fin.ofNat _ raws.length) data) first decoded := by
  obtain ⟨hdec, ⟨hfirst, hleast⟩, hcores, hcounted⟩ := h.append raw
  refine ⟨hdec, ⟨?_, fun k hk => ?_⟩, hcores, by simp only [countCpu]; omega⟩
  · show getAffinityMaskBit _ (setAffinityMaskBit _ _) = true
    rw [getAffinityMaskBit_set, Bool.or_eq_true]
    exact .inr hfirst
  · change getAffinityMaskBit k (setAffinityMaskBit _ _) = true at hk
    rw [getAffinityMaskBit_set, Bool.or_eq_true, decide_eq_true_eq] at hk
    rcases hk with rfl | hk
    · rw [Fin.le_def]
      show first.val ≤ raws.length % 2 ^ 16
      rw [Nat.mod_eq_of_lt hlen]
      exact h.lt.le
    · exact hleast hk

/-- The logical CPU that a new entry is opened for is its first one. -/
theorem OpenedBy.opened {idInfo : InternalIdInfo} (hlen : raws.length < 2 ^ 16)
    (hid : cpuIdentInternal host raw = .ok (.ok, decoded, idInfo)) :
    OpenedBy host (raws ++ [raw])
      (countCpu (Fin.ofNat _ raws.length) { decoded with numLogicalCpus := 0 })
      (Fin.ofNat _ raws.length) decoded := by
  have hval : (Fin.ofNat (2 ^ 16) raws.length).val = raws.length := Nat.mod_eq_of_lt hlen
  have hbit (k : LogicalCpu) : getAffinityMaskBit k
      (setAffinityMaskBit (Fin.ofNat _ raws.length) decoded.affinityMask) = true ↔
        k = Fin.ofNat _ raws.length := by
    rw [getAffinityMaskBit_set, (cpuIdentInternal_facts hid).1, getAffinityMaskBit_init,
      Bool.or_false, decide_eq_true_eq]
  refine ⟨⟨raw, by rw [hval]; simp, by rw [cpuIdentify, hid]; rfl⟩, ⟨(hbit _).mpr rfl, ?_⟩, rfl, ?_⟩
  · intro k hk
    exact ((hbit k).mp hk).ge
  · show (1 : Int) ≤ 0 + 1
    omega

theorem identStep_hasOpeners (hs : s.Aligned) (hlen : raws.length < 2 ^ 16)
    (h : s.HasOpeners host raws) (hstep : identStep host true raws.length raw s = .ok s') :
    s'.HasOpeners host (raws ++ [raw]) := by
  obtain ⟨purpose, s1, topology, s2, i, -, hread, hfind, hcount⟩ := identStep_cases hstep
  have hr := readTopology_reads hread
  have h1 : s1.HasOpeners host raws := fun data hmem => h data (hr.cpuTypes ▸ hmem)
  obtain ⟨data, hdata, htypes, -⟩ := incrementCounters_cases hcount
  intro data' hmem
  obtain ⟨k, hk⟩ := List.mem_iff_getElem?.mp hmem
  rw [htypes] at hk
  rcases findEntry_cases (hr.aligned hs) hfind with
    ⟨rfl, -⟩ | ⟨-, -, rfl, decoded, idInfo, hid, rfl⟩
  · by_cases hik : i = k
    · subst hik
      rw [List.getElem?_set_self (List.getElem?_eq_some_iff.mp hdata).1] at hk
      obtain rfl := Option.some.inj hk
      obtain ⟨first, decoded, hopen⟩ := h1 data (List.mem_of_getElem? hdata)
      exact ⟨first, decoded, hopen.count hlen raw⟩
    · rw [List.getElem?_set_ne hik] at hk
      obtain ⟨first, decoded, hopen⟩ := h1 data' (List.mem_of_getElem? hk)
      exact ⟨first, decoded, hopen.append raw⟩
  · have hnew : data = { decoded with numLogicalCpus := 0 } := by
      rcases opened_cpuTypes hdata with hold | ⟨-, rfl⟩
      · exact absurd (List.getElem?_eq_some_iff.mp hold).1 (Nat.lt_irrefl _)
      · rfl
    by_cases hik : s1.cpuTypes.length = k
    · subst hik
      rw [List.getElem?_set_self (List.getElem?_eq_some_iff.mp hdata).1] at hk
      obtain rfl := Option.some.inj hk
      exact ⟨_, decoded, hnew ▸ OpenedBy.opened hlen hid⟩
    · rw [List.getElem?_set_ne hik] at hk
      rcases opened_cpuTypes hk with hk | ⟨rfl, -⟩
      · obtain ⟨first, decoded, hopen⟩ := h1 data' (List.mem_of_getElem? hk)
        exact ⟨first, decoded, hopen.append raw⟩
      · exact absurd rfl hik

end Steps

theorem identLoop_hasOpeners {host : Host} {a : CpuRawDataArray} {s : IdentState}
    (haffinity : a.withAffinity = true) (h : identLoop host a = .ok s) :
    s.HasOpeners host a.raw := by
  rw [identLoop, haffinity] at h
  refine (loop_induct (fun done s => s.Aligned ∧ (done.length ≤ 2 ^ 16 → s.HasOpeners host done))
    ⟨IdentState.aligned_start, fun _ _ hmem => absurd hmem List.not_mem_nil⟩
    (fun done raw s s' ih hstep => ⟨identStep_aligned ih.1 hstep, fun hlen => ?_⟩) h).2
      a.numRaw_lt.le
  rw [List.length_append, List.length_singleton] at hlen
  exact identStep_hasOpeners ih.1 (by omega) (ih.2 (by omega)) hstep

/-! ### The counters -/

/-- What `cpu_identify_all` leaves of an entry whose first logical CPU is `first`. -/
structure DegradedEntry (host : Host) (raws : List CpuRawData) (entry : CpuId) (first : LogicalCpu)
    (decoded : CpuId) : Prop where
  decodes : ∃ raw, raws[first.val]? = some raw ∧ cpuIdentify host raw = .ok (.ok, decoded)
  least : IsLeast {k | getAffinityMaskBit k entry.affinityMask = true} first
  pos : 1 ≤ entry.numCores
  le : entry.numCores ≤ entry.numLogicalCpus
  dvd : entry.numCores ∣ entry.numLogicalCpus
  kept : 0 < decoded.numCores → decoded.numCores ∣ entry.numLogicalCpus →
    entry.numCores = decoded.numCores
  divides : degradedCores { entry with numCores := decoded.numCores } = .ok entry.numCores
  instances : entry.instances = fun _ => -1

theorem OpenedBy.finish {host : Host} {raws : List CpuRawData} {data : CpuId}
    {first : LogicalCpu} {decoded : CpuId} (h : OpenedBy host raws data first decoded)
    (hnone : data.instances = fun _ => -1) (numRaw : Nat) (info : InternalTypeInfo) :
    DegradedEntry host raws (finishType true false numRaw info data) first decoded := by
  have hfinish : finishType true false numRaw info data =
      { data with numCores := coresWithoutTopology data, totalLogicalCpus := numRaw } := rfl
  have hcounted := h.counted
  have hdivides : degradedCores { data with
      numCores := decoded.numCores, totalLogicalCpus := numRaw } =
        .ok (coresWithoutTopology data) := by
    rw [← h.numCores]
    exact degradedCores_eq hcounted
  rw [hfinish]
  by_cases hsmt : 0 < data.numCores ∧ data.numCores ∣ data.numLogicalCpus
  · have hcores := coresWithoutTopology_of_dvd hsmt.1 hcounted hsmt.2
    refine ⟨h.decodes, h.least, ?_, ?_, ?_, fun _ _ => ?_, hdivides, hnone⟩
    · show 1 ≤ coresWithoutTopology data
      rw [hcores]
      exact hsmt.1
    · show coresWithoutTopology data ≤ data.numLogicalCpus
      rw [hcores]
      exact Int.le_of_dvd (by omega) hsmt.2
    · show coresWithoutTopology data ∣ data.numLogicalCpus
      rw [hcores]
      exact hsmt.2
    · show coresWithoutTopology data = decoded.numCores
      rw [hcores, h.numCores]
  · have hcores := coresWithoutTopology_of_not hsmt
    refine ⟨h.decodes, h.least, ?_, ?_, ?_, fun hpos hdvd => ?_, hdivides, hnone⟩
    · show 1 ≤ coresWithoutTopology data
      rw [hcores]
      exact hcounted
    · show coresWithoutTopology data ≤ data.numLogicalCpus
      exact hcores.le
    · show coresWithoutTopology data ∣ data.numLogicalCpus
      rw [hcores]
    · exact absurd ⟨h.numCores ▸ hpos, h.numCores ▸ hdvd⟩ hsmt

/-- When topology identification fails for a logical CPU, each entry ends with a number of cores
that divides its number of logical CPUs, the decoded one when that divides it, and nothing is known
of the caches. -/
theorem cpuIdentifyAll_degraded {host : Host} {a : CpuRawDataArray} {system : SystemId}
    (haffinity : a.withAffinity = true) (hok : cpuIdentifyAll host a = .ok (.ok, system))
    (hlost : ¬a.KeepsTopology) :
    (∀ entry ∈ system.cpuTypes, ∃ first decoded, DegradedEntry host a.raw entry first decoded) ∧
      system.totalInstances = fun _ => -1 := by
  obtain ⟨s, hloop, rfl⟩ := cpuIdentifyAll_eq_ok.mp hok
  have hsup : s.isTopologySupported = false :=
    Bool.eq_false_iff.mpr (mt (identLoop_supported_iff haffinity hloop).mp hlost)
  refine ⟨fun entry hmem => ?_, ?_⟩
  · obtain ⟨j, hj⟩ := List.mem_iff_getElem?.mp hmem
    obtain ⟨info, data, -, hdata, rfl⟩ := IdentState.finish_cpuTypes.mp hj
    have hmem := List.mem_of_getElem? hdata
    obtain ⟨first, decoded, hopen⟩ := identLoop_hasOpeners haffinity hloop data hmem
    refine ⟨first, decoded, ?_⟩
    rw [haffinity, hsup]
    exact hopen.finish (identLoop_noInstances hloop data hmem) a.numRaw info
  · funext level
    show (if s.isTopologySupported then ((s.cachesAll level).instances : Int) else -1) = -1
    rw [hsup]
    rfl

/-- Two cores of a package, the second of which has no affinity register. -/
def cortexA53LostArray : CpuRawDataArray where
  withAffinity := true
  raw := [cortexA53 0x80000000, cortexA53 0]
  numRaw_lt := by decide

theorem cpuIdentifyAll_degraded_cortexA53 :
    ∃ system, cpuIdentifyAll ⟨fun _ _ => .zero, 2⟩ cortexA53LostArray = .ok (.ok, system) ∧
      (∀ entry ∈ system.cpuTypes, ∃ first decoded,
        DegradedEntry ⟨fun _ _ => .zero, 2⟩ cortexA53LostArray.raw entry first decoded) ∧
      system.totalInstances = fun _ => -1 := by
  have hrun : yields (cpuIdentifyAll ⟨fun _ _ => .zero, 2⟩ cortexA53LostArray)
      (fun r => decide (r.1 = .ok)) = true := by decide +kernel
  have hlost : ¬cortexA53LostArray.KeepsTopology := by
    intro h
    obtain ⟨topology, hid⟩ := h 1 _ rfl
    cases hid
  obtain ⟨system, h⟩ := exists_of_yields_fst hrun
  exact ⟨system, h, cpuIdentifyAll_degraded rfl h hlost⟩

end LibCpuid
