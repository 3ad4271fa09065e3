import LibCpuid.System

/-! What one iteration of `cpu_identify_all` does: the entry that it finds or opens, and the
counters that it moves. -/

namespace LibCpuid

open CLang

/-! ### Computations inside the loop -/

section Lift

variable {α β : Type}

@[simp] theorem liftChecked_ok (a : α) : liftChecked (.ok a) = .ok a := rfl

@[simp] theorem liftChecked_error (f : Fault) :
    liftChecked (.error f : Checked α) = .error (.fault f) := rfl

theorem liftChecked_eq_ok {x : Checked α} {a : α} : liftChecked x = .ok a ↔ x = .ok a := by
  cases x <;> simp [liftChecked]

theorem liftChecked_eq_error {x : Checked α} {e : Exit} :
    liftChecked x = .error e ↔ ∃ f, x = .error f ∧ e = .fault f := by
  cases x <;> simp [liftChecked, eq_comm]

end Lift

/-! ### The entries -/

/-- The two arrays grow together, and the counter of their entries is a `uint8_t`. -/
structure IdentState.Aligned (s : IdentState) : Prop where
  typeInfo : s.typeInfo.length = s.cpuTypes.length
  le : s.cpuTypes.length ≤ 255

/-- The entry at index `j` is one that `cpuid_find_index_system_id` looks for. -/
def IdentState.Matches (s : IdentState) (purpose : CpuPurpose) (j : Nat) : Prop :=
  ∃ data info, s.cpuTypes[j]? = some data ∧ s.typeInfo[j]? = some info ∧
    data.purpose = purpose ∧ (s.isTopologySupported = true → info.packageId = s.curPackageId)

theorem IdentState.Matches.lt {s : IdentState} {purpose : CpuPurpose} {j : Nat}
    (h : s.Matches purpose j) : j < s.cpuTypes.length := by
  obtain ⟨data, _, hdata, -⟩ := h
  exact (List.getElem?_eq_some_iff.mp hdata).1

theorem findIndexFrom_spec {s : IdentState} (hs : s.Aligned) (purpose : CpuPurpose)
    (rest : List CpuId) (i : Nat) (hrest : s.cpuTypes.drop i = rest) :
    (∃ j, findIndexFrom s purpose rest i = .ok (some j) ∧ s.Matches purpose j) ∨
      (findIndexFrom s purpose rest i = .ok none ∧ ∀ j, i ≤ j → ¬s.Matches purpose j) := by
  induction rest generalizing i with
  | nil =>
    refine .inr ⟨rfl, fun j hj hm => ?_⟩
    have := List.drop_eq_nil_iff.mp hrest
    have := hm.lt
    omega
  | cons data rest ih =>
    have hdata : s.cpuTypes[i]? = some data := by
      have := congrArg (·[0]?) hrest
      simpa [List.getElem?_drop] using this
    have hi : i < s.cpuTypes.length := (List.getElem?_eq_some_iff.mp hdata).1
    have hi' : i < s.typeInfo.length := hs.typeInfo ▸ hi
    have hnext := ih (i + 1) (by rw [← List.drop_drop, hrest, List.drop_one, List.tail_cons])
    -- when the entry at `i` does not match, the search goes on
    have hskip (hno : ¬s.Matches purpose i)
        (heq : findIndexFrom s purpose (data :: rest) i =
          findIndexFrom s purpose rest (i + 1)) :
        (∃ j, findIndexFrom s purpose (data :: rest) i = .ok (some j) ∧ s.Matches purpose j) ∨
          (findIndexFrom s purpose (data :: rest) i = .ok none ∧
            ∀ j, i ≤ j → ¬s.Matches purpose j) := by
      rw [heq]
      refine hnext.imp id fun ⟨h, hall⟩ => ⟨h, fun j hj => ?_⟩
      rcases Nat.eq_or_lt_of_le hj with rfl | hlt
      · exact hno
      · exact hall j hlt
    by_cases hp : data.purpose = purpose
    · cases hsup : s.isTopologySupported with
      | false =>
        refine .inl ⟨i, by simp [findIndexFrom, hp, hsup], data, s.typeInfo[i], hdata,
          List.getElem?_eq_getElem hi', hp, by simp [hsup]⟩
      | true =>
        by_cases hpkg : s.typeInfo[i].packageId = s.curPackageId
        · refine .inl ⟨i, ?_, data, s.typeInfo[i], hdata, List.getElem?_eq_getElem hi', hp,
            fun _ => hpkg⟩
          simp [findIndexFrom, hp, hsup, loadList_of_lt hi', hpkg]
        · refine hskip ?_ ?_
          · rintro ⟨_, info, -, hinfo, -, hm⟩
            rw [List.getElem?_eq_getElem hi'] at hinfo
            exact hpkg (Option.some.inj hinfo ▸ hm hsup)
          · rw [findIndexFrom, if_pos hp, if_pos hsup, loadList_of_lt hi', ok_bind, if_neg hpkg]
    · refine hskip ?_ (by rw [findIndexFrom, if_neg hp])
      rintro ⟨data', _, hdata', -, hm, -⟩
      rw [hdata] at hdata'
      exact hp (Option.some.inj hdata' ▸ hm)

/-- `cpuid_find_index_system_id` finds an entry that matches, or there is none. -/
theorem cpuidFindIndexSystemId_spec {s : IdentState} (hs : s.Aligned) (purpose : CpuPurpose) :
    (∃ j, cpuidFindIndexSystemId s purpose = .ok (some j) ∧ s.Matches purpose j) ∨
      (cpuidFindIndexSystemId s purpose = .ok none ∧ ∀ j, ¬s.Matches purpose j) :=
  (findIndexFrom_spec hs purpose s.cpuTypes 0 rfl).imp id
    fun ⟨h, hall⟩ => ⟨h, fun j => hall j (Nat.zero_le j)⟩

theorem growTo_succ {α : Type} (c : α) {items : List α} (h : items.length < 255) :
    growTo c (items.length + 1) items = items ++ [c] := by
  have hmod : (items.length + 1) % 2 ^ 8 = items.length + 1 := Nat.mod_eq_of_lt (by omega)
  rw [growTo, hmod, if_neg (by omega), show items.length + 1 - items.length = 1 by omega]
  rfl

/-- At 255 entries the new size wraps to zero and the array stays as it is. -/
theorem growTo_wrap {α : Type} (c : α) {items : List α} (h : items.length = 255) :
    growTo c (items.length + 1) items = items := by
  rw [growTo, h]
  rfl

/-- The state with a new entry at the end. -/
def IdentState.opened (s : IdentState) (withAffinity : Bool) (purpose : CpuPurpose)
    (data : CpuId) (idInfo : InternalIdInfo) : IdentState :=
  { s with
    cpuTypes := s.cpuTypes ++ [if withAffinity then { data with numLogicalCpus := 0 } else data]
    typeInfo := s.typeInfo ++ [{ typeInfoConstructor with
      purpose
      packageId := if s.isTopologySupported then s.curPackageId else 0
      idInfo }] }

/-- A new entry, when there is room for one. -/
theorem openEntry_of_lt {s : IdentState} (hs : s.Aligned) (hlt : s.cpuTypes.length < 255)
    (host : Host) (withAffinity : Bool) (raw : CpuRawData) (purpose : CpuPurpose) :
    openEntry host withAffinity raw purpose s =
      match cpuIdentInternal host raw with
      | .error f => .error (.fault f)
      | .ok (r, data, idInfo) =>
        if r = .ok then
          .ok (s.opened withAffinity purpose data idInfo, s.cpuTypes.length)
        else .error (.error r { s.system with cpuTypes := s.cpuTypes ++ [data] }) := by
  have htypes := growTo_succ cpuIdConstructor hlt
  have hinfos := growTo_succ typeInfoConstructor (show s.typeInfo.length < 255 by
    rw [hs.typeInfo]; exact hlt)
  have hset : ∀ data, (s.cpuTypes ++ [cpuIdConstructor]).set s.cpuTypes.length data =
      s.cpuTypes ++ [data] := by simp
  have hset' : ∀ info, (s.typeInfo ++ [typeInfoConstructor]).set s.cpuTypes.length info =
      s.typeInfo ++ [info] := by simp [← hs.typeInfo]
  have hload : loadList (s.cpuTypes ++ [cpuIdConstructor]) s.cpuTypes.length =
      .ok cpuIdConstructor := by simp [loadList]
  have hload' : loadList (s.typeInfo ++ [typeInfoConstructor]) s.cpuTypes.length =
      .ok typeInfoConstructor := by simp [loadList, ← hs.typeInfo]
  simp only [openEntry, htypes, hinfos, hload, hload', liftChecked_ok, ok_bind]
  cases cpuIdentInternal host raw with
  | error f => rfl
  | ok result =>
    obtain ⟨r, data, idInfo⟩ := result
    simp only [liftChecked_ok, ok_bind]
    by_cases hr : r = .ok
    · simp only [hr, ne_eq, not_true_eq_false, if_false, if_true, hset, hset']
      rfl
    · simp only [hr, ne_eq, not_false_eq_true, if_false, if_true, hset]
      rfl

/-- A new entry past the 255th: the arrays did not grow. -/
theorem openEntry_of_full {s : IdentState} (hfull : s.cpuTypes.length = 255)
    (host : Host) (withAffinity : Bool) (raw : CpuRawData) (purpose : CpuPurpose) :
    openEntry host withAffinity raw purpose s = .error (.fault .outOfBounds) := by
  have hload : loadList (growTo cpuIdConstructor (s.cpuTypes.length + 1) s.cpuTypes)
      s.cpuTypes.length = .error .outOfBounds := by
    rw [growTo_wrap _ hfull, loadList_of_le le_rfl]
  simp only [openEntry, hload, liftChecked_error, error_bind]

/-- How the entry of a logical CPU is found: an old one that matches, or a new one. -/
theorem findEntry_cases {host : Host} {withAffinity : Bool} {raw : CpuRawData}
    {purpose : CpuPurpose} {s s' : IdentState} {i : Nat} (hs : s.Aligned)
    (h : findEntry host withAffinity raw purpose s = .ok (s', i)) :
    (s' = s ∧ s.Matches purpose i) ∨
      ((∀ j, ¬s.Matches purpose j) ∧ s.cpuTypes.length < 255 ∧ i = s.cpuTypes.length ∧
        ∃ data idInfo, cpuIdentInternal host raw = .ok (.ok, data, idInfo) ∧
          s' = s.opened withAffinity purpose data idInfo) := by
  rw [findEntry] at h
  rcases cpuidFindIndexSystemId_spec hs purpose with ⟨j, hj, hm⟩ | ⟨hnone, hall⟩
  · rw [hj, liftChecked_ok, ok_bind] at h
    obtain ⟨rfl, rfl⟩ := Prod.mk.inj (Except.ok.inj h)
    exact .inl ⟨rfl, hm⟩
  · rw [hnone, liftChecked_ok, ok_bind] at h
    rcases Nat.lt_or_ge s.cpuTypes.length 255 with hlt | hge
    · simp only [openEntry_of_lt hs hlt] at h
      split at h
      · cases h
      · next r data idInfo hid =>
        split at h
        · next hr =>
          obtain ⟨rfl, rfl⟩ := Prod.mk.inj (Except.ok.inj h)
          exact .inr ⟨hall, hlt, rfl, data, idInfo, hr ▸ hid, rfl⟩
        · cases h
    · simp only [openEntry_of_full (Nat.le_antisymm hs.le hge)] at h
      cases h

/-! ### The other parts of an iteration -/

/-- Reading the topology leaves the entries and the tables alone, and topology support never comes
back. -/
structure ReadsTopology (withAffinity : Bool) (logicalCpu : Nat) (raw : CpuRawData)
    (s s' : IdentState) (topology : InternalTopology) : Prop where
  cpuTypes : s'.cpuTypes = s.cpuTypes
  typeInfo : s'.typeInfo = s.typeInfo
  cachesAll : s'.cachesAll = s.cachesAll
  mono : s'.isTopologySupported = true → s.isTopologySupported = true
  supported : withAffinity = true → s'.isTopologySupported = true →
    cpuIdentId logicalCpu raw = .ok (true, topology) ∧ s'.curPackageId = topology.packageId

theorem readTopology_reads {withAffinity : Bool} {logicalCpu : Nat} {raw : CpuRawData}
    {s s' : IdentState} {topology : InternalTopology}
    (h : readTopology withAffinity logicalCpu raw s = .ok (s', topology)) :
    ReadsTopology withAffinity logicalCpu raw s s' topology := by
  unfold readTopology at h
  split at h
  · next hboth =>
    rw [Bool.and_eq_true] at hboth
    simp only [bind_eq_ok, Prod.exists, Except.ok.injEq, Prod.mk.injEq] at h
    obtain ⟨supported, t, hid, rfl, rfl⟩ := h
    refine ⟨rfl, rfl, rfl, fun _ => hboth.2, ?_⟩
    rintro - (rfl : supported = true)
    exact ⟨hid, rfl⟩
  · next hnot =>
    obtain ⟨rfl, rfl⟩ := Prod.mk.inj (Except.ok.inj h)
    refine ⟨rfl, rfl, rfl, id, fun hwa hsup => ?_⟩
    simp [hwa, hsup] at hnot

theorem ReadsTopology.aligned {withAffinity : Bool} {logicalCpu : Nat} {raw : CpuRawData}
    {s s' : IdentState} {topology : InternalTopology}
    (h : ReadsTopology withAffinity logicalCpu raw s s' topology) (hs : s.Aligned) :
    s'.Aligned :=
  ⟨by rw [h.typeInfo, h.cpuTypes, hs.typeInfo], by rw [h.cpuTypes]; exact hs.le⟩

/-- What counting a logical CPU of the entry at index `i` does to the tables. -/
structure CountsTopology (topology : InternalTopology) (i : Nat) (s s' : IdentState)
    (info info' : InternalTypeInfo) : Prop where
  old : s.typeInfo[i]? = some info
  typeInfo : s'.typeInfo = s.typeInfo.set i info'
  purpose : info'.purpose = info.purpose
  packageId : info'.packageId = info.packageId
  idInfo : info'.idInfo = info.idInfo
  cores : updateCoreInstances info.coreInstances topology = .ok info'.coreInstances
  caches : updateCacheInstances info.cacheInstances topology info.idInfo =
    .ok info'.cacheInstances
  cachesAll : updateCacheInstances s.cachesAll topology info.idInfo = .ok s'.cachesAll

/-- What counting a logical CPU does. -/
theorem incrementCounters_cases {logicalCpu i : Nat} {topology : InternalTopology}
    {s s' : IdentState} (h : incrementCounters true logicalCpu topology i s = .ok s') :
    ∃ data, s.cpuTypes[i]? = some data ∧
      s'.cpuTypes = s.cpuTypes.set i (countCpu (Fin.ofNat _ logicalCpu) data) ∧
      s'.isTopologySupported = s.isTopologySupported ∧ s'.curPackageId = s.curPackageId ∧
      ((s.isTopologySupported = false ∧ s'.typeInfo = s.typeInfo ∧ s'.cachesAll = s.cachesAll) ∨
        (s.isTopologySupported = true ∧
          ∃ info info', CountsTopology topology i s s' info info')) := by
  rw [incrementCounters, if_pos rfl] at h
  obtain ⟨data, hdata, h⟩ := bind_eq_ok.mp h
  refine ⟨data, loadList_eq_ok.mp hdata, ?_⟩
  dsimp only at h
  split at h
  · next hsup =>
    rw [countTopology] at h
    obtain ⟨info, hinfo, h⟩ := bind_eq_ok.mp h
    obtain ⟨cores, hcores, h⟩ := bind_eq_ok.mp h
    obtain ⟨caches, hcaches, h⟩ := bind_eq_ok.mp h
    obtain ⟨all, hall, h⟩ := bind_eq_ok.mp h
    obtain rfl := Except.ok.inj h
    exact ⟨rfl, rfl, rfl, .inr ⟨hsup, info,
      { info with coreInstances := cores, cacheInstances := caches },
      loadList_eq_ok.mp hinfo, rfl, rfl, rfl, rfl, hcores, hcaches, hall⟩⟩
  · next hsup =>
    obtain rfl := Except.ok.inj h
    exact ⟨rfl, rfl, rfl, .inl ⟨by simpa using hsup, rfl, rfl⟩⟩

/-- The parts of an iteration that ends well. -/
theorem identStep_cases {host : Host} {withAffinity : Bool} {logicalCpu : Nat} {raw : CpuRawData}
    {s s' : IdentState} (h : identStep host withAffinity logicalCpu raw s = .ok s') :
    ∃ purpose s1 topology s2 i, cpuIdentPurpose raw = .ok purpose ∧
      readTopology withAffinity logicalCpu raw s = .ok (s1, topology) ∧
      findEntry host withAffinity raw purpose s1 = .ok (s2, i) ∧
      incrementCounters withAffinity logicalCpu topology i s2 = .ok s' := by
  unfold identStep at h
  obtain ⟨purpose, hpurpose, h⟩ := bind_eq_ok.mp h
  obtain ⟨⟨s1, topology⟩, hread, h⟩ := bind_eq_ok.mp h
  obtain ⟨⟨s2, i⟩, hfind, h⟩ := bind_eq_ok.mp h
  exact ⟨purpose, s1, topology, s2, i, liftChecked_eq_ok.mp hpurpose, liftChecked_eq_ok.mp hread,
    hfind, liftChecked_eq_ok.mp h⟩

/-- The loop ends early with an error only when identification gave one. -/
theorem identStep_error {host : Host} {withAffinity : Bool} {logicalCpu : Nat} {raw : CpuRawData}
    {s : IdentState} {r : CpuError} {system : SystemId} (hs : s.Aligned)
    (h : identStep host withAffinity logicalCpu raw s = .error (.error r system)) :
    r ≠ .ok ∧ ∃ data idInfo, cpuIdentInternal host raw = .ok (r, data, idInfo) := by
  have hlift {α : Type} {x : Checked α} : liftChecked x ≠ .error (.error r system) := by
    cases x <;> simp
  unfold identStep at h
  rcases bind_eq_error.mp h with h | ⟨purpose, -, h⟩
  · exact (hlift h).elim
  rcases bind_eq_error.mp h with h | ⟨⟨s1, topology⟩, hread, h⟩
  · exact (hlift h).elim
  have hs1 := (readTopology_reads (liftChecked_eq_ok.mp hread)).aligned hs
  dsimp only at h
  rcases bind_eq_error.mp h with h | ⟨⟨s2, i⟩, -, h⟩
  · rw [findEntry] at h
    rcases cpuidFindIndexSystemId_spec hs1 purpose with ⟨j, hj, -⟩ | ⟨hnone, -⟩
    · rw [hj, liftChecked_ok, ok_bind] at h
      cases h
    · simp only [hnone, liftChecked_ok, ok_bind] at h
      rcases Nat.lt_or_ge s1.cpuTypes.length 255 with hlt | hge
      · rw [openEntry_of_lt hs1 hlt] at h
        split at h
        · cases h
        · next r' data idInfo hid =>
          split at h
          · cases h
          · next hne =>
            simp only [Except.error.injEq, Exit.error.injEq] at h
            obtain ⟨rfl, -⟩ := h
            exact ⟨hne, data, idInfo, hid⟩
      · rw [openEntry_of_full (Nat.le_antisymm hs1.le hge)] at h
        cases h
  · exact (hlift h).elim

theorem IdentState.Aligned.opened {s : IdentState} (hs : s.Aligned)
    (hlt : s.cpuTypes.length < 255) (withAffinity : Bool) (purpose : CpuPurpose) (data : CpuId)
    (idInfo : InternalIdInfo) : (s.opened withAffinity purpose data idInfo).Aligned := by
  constructor
  · simp [IdentState.opened, hs.typeInfo]
  · simp only [IdentState.opened, List.length_append, List.length_singleton]
    omega

theorem findEntry_aligned {host : Host} {withAffinity : Bool} {raw : CpuRawData}
    {purpose : CpuPurpose} {s s' : IdentState} {i : Nat} (hs : s.Aligned)
    (h : findEntry host withAffinity raw purpose s = .ok (s', i)) : s'.Aligned := by
  rcases findEntry_cases hs h with ⟨rfl, -⟩ | ⟨-, hlt, -, data, idInfo, -, rfl⟩
  · exact hs
  · exact hs.opened hlt _ _ _ _

theorem incrementCounters_aligned {withAffinity : Bool} {logicalCpu i : Nat}
    {topology : InternalTopology} {s s' : IdentState} (hs : s.Aligned)
    (h : incrementCounters withAffinity logicalCpu topology i s = .ok s') : s'.Aligned := by
  cases withAffinity with
  | false =>
    rw [incrementCounters, if_neg (by decide)] at h
    exact Except.ok.inj h ▸ hs
  | true =>
    obtain ⟨data, -, htypes, -, -, hinfos⟩ := incrementCounters_cases h
    have hlen : s'.typeInfo.length = s.typeInfo.length := by
      rcases hinfos with ⟨-, hinfos, -⟩ | ⟨-, info, info', hcount⟩
      · rw [hinfos]
      · rw [hcount.typeInfo, List.length_set]
    constructor
    · rw [hlen, htypes, List.length_set, hs.typeInfo]
    · rw [htypes, List.length_set]
      exact hs.le

/-- An iteration keeps the arrays aligned. -/
theorem identStep_aligned {host : Host} {withAffinity : Bool} {logicalCpu : Nat}
    {raw : CpuRawData} {s s' : IdentState} (hs : s.Aligned)
    (h : identStep host withAffinity logicalCpu raw s = .ok s') : s'.Aligned := by
  obtain ⟨purpose, s1, topology, s2, i, -, hread, hfind, hcount⟩ := identStep_cases h
  exact incrementCounters_aligned
    (findEntry_aligned ((readTopology_reads hread).aligned hs) hfind) hcount

theorem IdentState.aligned_start : IdentState.start.Aligned := ⟨rfl, Nat.zero_le _⟩

/-- Every state that the loop reaches has aligned arrays. -/
theorem loop_aligned {host : Host} {withAffinity : Bool} {raws : List CpuRawData}
    {s : IdentState} (h : loop (identStep host withAffinity) raws 0 .start = .ok s) :
    s.Aligned :=
  loop_induct (fun _ s => s.Aligned) IdentState.aligned_start
    (fun _ _ _ _ hs hstep => identStep_aligned hs hstep) h

/-- The last loop finds the tables of every entry. -/
theorem finishTypes_eq (withAffinity : Bool) (numRaw : Nat) (s : IdentState)
    (rest : List CpuId) (i : Nat) (hlen : i + rest.length ≤ s.typeInfo.length) :
    finishTypes withAffinity numRaw s rest i =
      .ok (List.zipWith (finishType withAffinity s.isTopologySupported numRaw)
        (s.typeInfo.drop i) rest) := by
  induction rest generalizing i with
  | nil => simp [finishTypes]
  | cons data rest ih =>
    have hi : i < s.typeInfo.length := by
      simp only [List.length_cons] at hlen
      omega
    rw [finishTypes, loadList_of_lt hi, ok_bind, ih (i + 1) (by
      simp only [List.length_cons] at hlen
      omega), ok_bind, List.drop_eq_getElem_cons hi, List.zipWith_cons_cons]

/-- The system that a loop with the last state `s` leaves. -/
def IdentState.finish (s : IdentState) (withAffinity : Bool) (numRaw : Nat) : SystemId :=
  { cpuTypes := List.zipWith (finishType withAffinity s.isTopologySupported numRaw) s.typeInfo
      s.cpuTypes
    totalInstances := fun level =>
      if s.isTopologySupported then (s.cachesAll level).instances else -1 }

/-- When the loop ends well, so does `cpu_identify_all`. -/
theorem cpuIdentifyAll_of_loop {host : Host} {a : CpuRawDataArray} {s : IdentState}
    (h : identLoop host a = .ok s) :
    cpuIdentifyAll host a = .ok (.ok, s.finish a.withAffinity a.numRaw) := by
  have hs : s.Aligned := loop_aligned h
  have hfin := finishTypes_eq a.withAffinity a.numRaw s s.cpuTypes 0
    (by rw [hs.typeInfo]; omega)
  simp only [cpuIdentifyAll, h, hfin, ok_bind, List.drop_zero]
  rfl

/-- `cpu_identify_all` returns `ERR_OK` exactly when the loop ends well. -/
theorem cpuIdentifyAll_eq_ok {host : Host} {a : CpuRawDataArray} {system : SystemId} :
    cpuIdentifyAll host a = .ok (.ok, system) ↔
      ∃ s, identLoop host a = .ok s ∧ system = s.finish a.withAffinity a.numRaw := by
  constructor
  · intro h
    cases hloop : identLoop host a with
    | error e =>
      cases e with
      | fault f =>
        rw [cpuIdentifyAll, hloop] at h
        cases h
      | error r system' =>
        obtain ⟨k, raw, s, -, hs, hstep⟩ := loop_eq_error_iff.mp hloop
        simp only [cpuIdentifyAll, hloop, Except.ok.injEq, Prod.mk.injEq] at h
        exact ((identStep_error (loop_aligned hs) hstep).1 h.1).elim
    | ok s =>
      rw [cpuIdentifyAll_of_loop hloop] at h
      exact ⟨s, rfl, (Prod.mk.inj (Except.ok.inj h)).2.symm⟩
  · rintro ⟨s, hloop, rfl⟩
    exact cpuIdentifyAll_of_loop hloop

/-- The entries of the system are those of the last state, with their last counters. -/
theorem IdentState.finish_cpuTypes {s : IdentState} {withAffinity : Bool}
    {numRaw j : Nat} {data' : CpuId} :
    (s.finish withAffinity numRaw).cpuTypes[j]? = some data' ↔
      ∃ info data, s.typeInfo[j]? = some info ∧ s.cpuTypes[j]? = some data ∧
        data' = finishType withAffinity s.isTopologySupported numRaw info data := by
  simp only [IdentState.finish, List.getElem?_zipWith]
  constructor
  · intro h
    split at h
    · next info data hinfo hdata => exact ⟨info, data, hinfo, hdata, (Option.some.inj h).symm⟩
    · cases h
  · rintro ⟨info, data, hinfo, hdata, rfl⟩
    rw [hinfo, hdata]

end LibCpuid
