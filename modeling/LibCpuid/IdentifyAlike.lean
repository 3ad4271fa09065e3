import LibCpuid.CLang.Simulation
import LibCpuid.HostIndependence
import LibCpuid.SystemSteps

/-! Records that identification takes for the same: `cpu_identify_all` gives the same system for two
arrays of them, also on two hosts.  Between the hosts the records may differ in
`total_logical_cpus`, which the last loop overwrites. -/

namespace LibCpuid

open CLang

/-! ### Records that are alike -/

/-- The results of identification that are equal but for `total_logical_cpus`. -/
def SameButTotal (x y : CpuError × CpuId × InternalIdInfo) : Prop :=
  x.1 = y.1 ∧ x.2.1.withTotal 0 = y.2.1.withTotal 0 ∧ x.2.2 = y.2.2

/-- Two records, each on its own host, that identification does not tell apart. -/
structure Alike (host host' : Host) (raw raw' : CpuRawData) : Prop where
  purpose : cpuIdentPurpose raw = cpuIdentPurpose raw'
  topology : ∀ logicalCpu, cpuIdentId logicalCpu raw = cpuIdentId logicalCpu raw'
  record : Simulates SameButTotal (cpuIdentInternal host raw) (cpuIdentInternal host' raw')

/-- A record that is equal to another but for its total is the other with that total. -/
theorem eq_withTotal {data data' : CpuId} (h : data.withTotal 0 = data'.withTotal 0) :
    data' = data.withTotal data'.totalLogicalCpus := by
  obtain ⟨⟩ := data
  obtain ⟨⟩ := data'
  simp only [CpuId.withTotal, CpuId.mk.injEq, true_and] at h ⊢
  simp [h]

/-! ### Entries that differ in their totals -/

/-- Two lists of entries that differ in their totals alone. -/
def SameTypes (types types' : List CpuId) : Prop :=
  List.Forall₂ (fun data data' : CpuId => data' = data.withTotal data'.totalLogicalCpus)
    types types'

/-- States of the loop that differ in the totals of their entries alone. -/
def SameState (s s' : IdentState) : Prop :=
  ∃ types, SameTypes s.cpuTypes types ∧ s' = { s with cpuTypes := types }

section Types

variable {types types' : List CpuId}

theorem SameTypes.getElem? (h : SameTypes types types') {i : Nat} {data : CpuId}
    (hdata : types[i]? = some data) : ∃ total, types'[i]? = some (data.withTotal total) := by
  induction h generalizing i with
  | nil => simp at hdata
  | cons hsame _ ih =>
    cases i with
    | zero =>
      obtain rfl : _ = data := by simpa using hdata
      exact ⟨_, by simpa using hsame⟩
    | succ i => exact ih hdata

theorem SameTypes.load (h : SameTypes types types') (i : Nat) :
    Simulates (fun data data' : CpuId => data' = data.withTotal data'.totalLogicalCpus)
      (loadList types i) (loadList types' i) := by
  intro data hdata
  obtain ⟨total, hdata'⟩ := h.getElem? (loadList_eq_ok.mp hdata)
  exact ⟨_, loadList_eq_ok.mpr hdata', rfl⟩

theorem SameTypes.set (h : SameTypes types types') (i : Nat) {data data' : CpuId}
    (hdata : data' = data.withTotal data'.totalLogicalCpus) :
    SameTypes (types.set i data) (types'.set i data') := by
  induction h generalizing i with
  | nil => exact .nil
  | cons hsame htail ih =>
    cases i with
    | zero => exact .cons hdata htail
    | succ i => exact .cons hsame (ih i)

theorem SameTypes.growTo (h : SameTypes types types') (n : Nat) :
    SameTypes (growTo cpuIdConstructor n types) (growTo cpuIdConstructor n types') := by
  have hlen : types.length = types'.length := List.Forall₂.length_eq h
  unfold LibCpuid.growTo
  dsimp only
  rw [hlen]
  split
  · exact h
  · apply List.rel_append h
    induction n % 2 ^ 8 - types'.length with
    | zero => exact .nil
    | succ k ih => exact .cons rfl ih

end Types

/-! ### One iteration -/

section Steps

variable {host host' : Host} {raw raw' : CpuRawData} {s s' : IdentState}

theorem Simulates.liftChecked {σ τ : Type} {R : σ → τ → Prop} {x : Checked σ} {y : Checked τ}
    (h : Simulates R x y) : Simulates R (liftChecked x) (liftChecked y) := by
  intro s hs
  obtain ⟨t, ht, hR⟩ := h s (liftChecked_eq_ok.mp hs)
  exact ⟨t, liftChecked_eq_ok.mpr ht, hR⟩

theorem readTopology_alike (h : Alike host host' raw raw') (hs : SameState s s')
    (withAffinity : Bool) (logicalCpu : Nat) :
    Simulates (fun r r' : IdentState × InternalTopology => SameState r.1 r'.1 ∧ r.2 = r'.2)
      (readTopology withAffinity logicalCpu raw s)
      (readTopology withAffinity logicalCpu raw' s') := by
  obtain ⟨types, htypes, rfl⟩ := hs
  unfold readTopology
  refine Simulates.ite Iff.rfl ?_ (Simulates.ok ⟨⟨types, htypes, rfl⟩, rfl⟩)
  refine (Simulates.of_eq (h.topology logicalCpu)).bind ?_
  rintro ⟨supported, topology⟩ _ rfl
  exact Simulates.ok ⟨⟨types, htypes, rfl⟩, rfl⟩

theorem findIndexFrom_alike (purpose : CpuPurpose) (all : List CpuId) {types types' : List CpuId}
    (h : SameTypes types types') (i : Nat) :
    findIndexFrom { s with cpuTypes := all } purpose types' i = findIndexFrom s purpose types i := by
  induction h generalizing i with
  | nil => rfl
  | @cons data data' _ _ hsame _ ih =>
    have hpurpose : data'.purpose = data.purpose := by rw [hsame]; rfl
    simp only [findIndexFrom, hpurpose, ih]

theorem openEntry_alike (h : Alike host host' raw raw') (hs : SameState s s')
    (withAffinity : Bool) (purpose : CpuPurpose) :
    Simulates (fun r r' : IdentState × Nat => SameState r.1 r'.1 ∧ r.2 = r'.2)
      (openEntry host withAffinity raw purpose s)
      (openEntry host' withAffinity raw' purpose s') := by
  obtain ⟨types, htypes, rfl⟩ := hs
  have hlen : s.cpuTypes.length = types.length := List.Forall₂.length_eq htypes
  have hgrown := htypes.growTo (s.cpuTypes.length + 1)
  unfold openEntry
  simp only [← hlen]
  refine (Simulates.liftChecked (hgrown.load _)).bind fun _ _ _ => ?_
  refine (Simulates.of_eq rfl).bind ?_
  rintro info _ rfl
  refine (Simulates.liftChecked h.record).bind ?_
  rintro ⟨r, data, idInfo⟩ ⟨r', data', idInfo'⟩ ⟨hr, hdata, hidInfo⟩
  obtain rfl : r = r' := hr
  obtain rfl : idInfo = idInfo' := hidInfo
  refine Simulates.ite Iff.rfl (Simulates.error _ _) ?_
  have hdata' := eq_withTotal hdata
  refine Simulates.ok ⟨⟨_, hgrown.set s.cpuTypes.length ?_, rfl⟩, rfl⟩
  rw [hdata']
  cases withAffinity <;> rfl

theorem findEntry_alike (h : Alike host host' raw raw') (hs : SameState s s')
    (withAffinity : Bool) (purpose : CpuPurpose) :
    Simulates (fun r r' : IdentState × Nat => SameState r.1 r'.1 ∧ r.2 = r'.2)
      (findEntry host withAffinity raw purpose s)
      (findEntry host' withAffinity raw' purpose s') := by
  have hopen := openEntry_alike h hs withAffinity purpose
  obtain ⟨types, htypes, rfl⟩ := hs
  unfold findEntry
  refine (Simulates.of_eq ?_).bind ?_
  · unfold cpuidFindIndexSystemId
    rw [findIndexFrom_alike purpose types htypes 0]
  · rintro (_ | i) _ rfl
    · exact hopen
    · exact Simulates.ok ⟨⟨types, htypes, rfl⟩, rfl⟩

theorem incrementCounters_alike (hs : SameState s s') (withAffinity : Bool) (logicalCpu : Nat)
    (topology : InternalTopology) (i : Nat) :
    Simulates SameState (incrementCounters withAffinity logicalCpu topology i s)
      (incrementCounters withAffinity logicalCpu topology i s') := by
  obtain ⟨types, htypes, rfl⟩ := hs
  unfold incrementCounters
  refine Simulates.ite Iff.rfl ?_ (Simulates.ok ⟨types, htypes, rfl⟩)
  refine (htypes.load i).bind ?_
  intro data data' hdata
  have hset : SameTypes (s.cpuTypes.set i (countCpu (Fin.ofNat _ logicalCpu) data))
      (types.set i (countCpu (Fin.ofNat _ logicalCpu) data')) :=
    htypes.set i (by rw [hdata]; rfl)
  refine Simulates.ite Iff.rfl ?_ (Simulates.ok ⟨_, hset, rfl⟩)
  unfold countTopology
  refine (Simulates.of_eq rfl).bind ?_
  rintro info _ rfl
  refine (Simulates.of_eq rfl).bind ?_
  rintro coreInstances _ rfl
  refine (Simulates.of_eq rfl).bind ?_
  rintro cacheInstances _ rfl
  refine (Simulates.of_eq rfl).bind ?_
  rintro cachesAll _ rfl
  exact Simulates.ok ⟨_, hset, rfl⟩

theorem identStep_alike (h : Alike host host' raw raw') (hs : SameState s s')
    (withAffinity : Bool) (logicalCpu : Nat) :
    Simulates SameState (identStep host withAffinity logicalCpu raw s)
      (identStep host' withAffinity logicalCpu raw' s') := by
  unfold identStep
  refine (Simulates.liftChecked (Simulates.of_eq h.purpose)).bind ?_
  rintro purpose _ rfl
  refine (Simulates.liftChecked (readTopology_alike h hs withAffinity logicalCpu)).bind ?_
  rintro ⟨s1, topology⟩ ⟨s1', topology'⟩ ⟨hs1, htopology⟩
  obtain rfl : topology = topology' := htopology
  refine (findEntry_alike h hs1 withAffinity purpose).bind ?_
  rintro ⟨s2, i⟩ ⟨s2', i'⟩ ⟨hs2, hi⟩
  obtain rfl : i = i' := hi
  exact Simulates.liftChecked (incrementCounters_alike hs2 withAffinity logicalCpu topology i)

end Steps

/-! ### The system -/

/-- The last loop writes the totals, so it makes the entries the same. -/
theorem finish_alike {s s' : IdentState} (hs : SameState s s') (withAffinity : Bool)
    (numRaw : Nat) : s'.finish withAffinity numRaw = s.finish withAffinity numRaw := by
  obtain ⟨types, htypes, rfl⟩ := hs
  have hfinish (info : InternalTypeInfo) (data : CpuId) (total : Int) :
      finishType withAffinity s.isTopologySupported numRaw info (data.withTotal total) =
        finishType withAffinity s.isTopologySupported numRaw info data := by
    unfold finishType
    cases withAffinity <;> cases s.isTopologySupported <;> rfl
  have hentries : List.zipWith (finishType withAffinity s.isTopologySupported numRaw) s.typeInfo
        types =
      List.zipWith (finishType withAffinity s.isTopologySupported numRaw) s.typeInfo
        s.cpuTypes := by
    generalize s.typeInfo = infos
    generalize s.cpuTypes = entries at htypes
    induction htypes generalizing infos with
    | nil => rfl
    | cons hsame _ ih =>
      cases infos with
      | nil => rfl
      | cons info infos =>
        rw [List.zipWith_cons_cons, List.zipWith_cons_cons, ih, hsame, hfinish]
  simp only [IdentState.finish, hentries]

/-- The system of an array is the system of every array of records that are alike. -/
theorem cpuIdentifyAll_alike {host host' : Host} {a a' : CpuRawDataArray} {system : SystemId}
    (haffinity : a.withAffinity = a'.withAffinity)
    (h : List.Forall₂ (Alike host host') a.raw a'.raw)
    (hident : cpuIdentifyAll host a = .ok (.ok, system)) :
    cpuIdentifyAll host' a' = .ok (.ok, system) := by
  have hloop : Simulates SameState (identLoop host a) (identLoop host' a') := by
    have hstart : SameState .start .start := ⟨[], .nil, rfl⟩
    unfold identLoop
    rw [haffinity]
    exact Simulates.loop (S := Alike host host')
      (fun k _ _ _ _ halike hs => identStep_alike halike hs _ k) h hstart
  obtain ⟨s, hs, rfl⟩ := cpuIdentifyAll_eq_ok.mp hident
  obtain ⟨s', hs', hsame⟩ := hloop s hs
  have hnum : a'.numRaw = a.numRaw := (List.Forall₂.length_eq h).symm
  rw [cpuIdentifyAll_of_loop hs', ← haffinity, hnum, finish_alike hsame]

end LibCpuid
