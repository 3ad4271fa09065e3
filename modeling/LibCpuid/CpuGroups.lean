import LibCpuid.CoreTypes
import LibCpuid.SystemBounds

/-! Runs on which every logical CPU has a topology and is identified.  `groups` says which entries
such a run should open: one for each type of core, with the cache masks of the first logical CPU of
the type.  The entries of the loop are these. -/

namespace LibCpuid

open CLang

/-- What identification finds about a logical CPU. -/
structure IdentifiedCpu where
  purpose : CpuPurpose
  topology : InternalTopology
  cacheMask : Fin numCacheTypes → BitVec 32

/-- A type of core: its purpose and its package. -/
abbrev CoreType := CpuPurpose × BitVec 32

/-- The type of core of a logical CPU. -/
def IdentifiedCpu.type (c : IdentifiedCpu) : CoreType := (c.purpose, c.topology.packageId)

/-- `cpu_ident_id` returns true on a logical CPU, `cpu_ident_internal` succeeds, and they find
`c`. -/
def Identifies (host : Host) (logicalCpu : Nat) (raw : CpuRawData) (c : IdentifiedCpu) : Prop :=
  cpuIdentId logicalCpu raw = .ok (true, c.topology) ∧
    ∃ data idInfo, cpuIdentInternal host raw = .ok (.ok, data, idInfo) ∧
      data.purpose = c.purpose ∧ idInfo.cacheMask = c.cacheMask

/-- `cpu_ident_id` returns true on a logical CPU, which has the purpose of `c`; if the loop
identifies it, it finds `c`. -/
def Sees (host : Host) (logicalCpu : Nat) (raw : CpuRawData) (c : IdentifiedCpu) : Prop :=
  cpuIdentId logicalCpu raw = .ok (true, c.topology) ∧ cpuIdentPurpose raw = .ok c.purpose ∧
    ∀ data idInfo, cpuIdentInternal host raw = .ok (.ok, data, idInfo) →
      data.purpose = c.purpose ∧ idInfo.cacheMask = c.cacheMask

/-- Identification evaluated on concrete registers. -/
theorem Identifies.of_eval {host : Host} {logicalCpu : Nat} {raw : CpuRawData} {c : IdentifiedCpu}
    (hid : cpuIdentId logicalCpu raw = .ok (true, c.topology))
    (hint : yields (cpuIdentInternal host raw) (fun r => decide (r.1 = .ok ∧
      r.2.1.purpose = c.purpose ∧ r.2.2.cacheMask = c.cacheMask)) = true) :
    Identifies host logicalCpu raw c := by
  obtain ⟨⟨r, data, idInfo⟩, h, hfound⟩ := exists_of_yields hint
  obtain ⟨rfl, hpurpose, hmask⟩ := of_decide_eq_true hfound
  exact ⟨hid, data, idInfo, h, hpurpose, hmask⟩

/-- An array with affinity, all of whose logical CPUs have a topology and are identified. -/
structure CpuRawDataArray.Identified (a : CpuRawDataArray) (host : Host)
    (cpus : List IdentifiedCpu) : Prop where
  affinity : a.withAffinity = true
  length : cpus.length = a.raw.length
  each : ∀ (i : Nat) (raw : CpuRawData) (c : IdentifiedCpu), a.raw[i]? = some raw →
    cpus[i]? = some c → Identifies host i raw c

/-- Every array with affinity on which `cpu_ident_id` returns true and `cpu_ident_internal` succeeds
for each logical CPU is identified. -/
theorem CpuRawDataArray.exists_identified {a : CpuRawDataArray} {host : Host}
    (haffinity : a.withAffinity = true)
    (h : ∀ (i : Nat) (raw : CpuRawData), a.raw[i]? = some raw →
      (∃ topology, cpuIdentId i raw = .ok (true, topology)) ∧
        ∃ data idInfo, cpuIdentInternal host raw = .ok (.ok, data, idInfo)) :
    ∃ cpus, a.Identified host cpus := by
  have hcpu (i : Fin a.raw.length) : ∃ c, Identifies host i a.raw[i] c := by
    obtain ⟨⟨topology, hid⟩, data, idInfo, hint⟩ := h i a.raw[i] (List.getElem?_eq_getElem i.isLt)
    exact ⟨⟨data.purpose, topology, idInfo.cacheMask⟩, hid, data, idInfo, hint, rfl, rfl⟩
  choose f hf using hcpu
  refine ⟨List.ofFn f, haffinity, List.length_ofFn, fun i raw c hraw hc => ?_⟩
  obtain ⟨hi, rfl⟩ := List.getElem?_eq_some_iff.mp hraw
  rw [List.getElem?_ofFn, dif_pos hi] at hc
  exact Option.some.inj hc ▸ hf ⟨i, hi⟩

/-- An array all of whose logical CPUs have a topology. -/
structure CpuRawDataArray.Seen (a : CpuRawDataArray) (host : Host) (cpus : List IdentifiedCpu) :
    Prop where
  length : cpus.length = a.raw.length
  each : ∀ (i : Nat) (raw : CpuRawData) (c : IdentifiedCpu), a.raw[i]? = some raw →
    cpus[i]? = some c → Sees host i raw c

/-- The entries that the logical CPUs `cpus` open: the types in the order in which they come, each
with the cache masks of its first logical CPU. -/
def groups (cpus : List IdentifiedCpu) : List (CoreType × (Fin numCacheTypes → BitVec 32)) :=
  cpus.foldl (fun gs c => if c.type ∈ gs.map Prod.fst then gs else gs ++ [(c.type, c.cacheMask)]) []

/-- The cache masks that `c` is counted with: those of the first logical CPU of its type. -/
def entryMask (cpus : List IdentifiedCpu) (c : IdentifiedCpu) : Fin numCacheTypes → BitVec 32 :=
  match cpus.find? (fun c' => c'.type = c.type) with
  | some c' => c'.cacheMask
  | none => fun _ => 0

/-- The run stays inside its arrays: there is room for the entries, and each id has a slot. -/
structure InTables (cpus : List IdentifiedCpu) : Prop where
  types : (cpus.map IdentifiedCpu.type).toFinset.card ≤ 255
  ids : ∀ c ∈ cpus, IdsInTables c.topology (entryMask cpus c)

/-! ### Groups -/

theorem groups_append (cpus : List IdentifiedCpu) (c : IdentifiedCpu) :
    groups (cpus ++ [c]) =
      if c.type ∈ (groups cpus).map Prod.fst then groups cpus
      else groups cpus ++ [(c.type, c.cacheMask)] := by
  rw [groups, List.foldl_append]
  rfl

theorem mem_groups_types {cpus : List IdentifiedCpu} {τ : CoreType} :
    τ ∈ (groups cpus).map Prod.fst ↔ τ ∈ cpus.map IdentifiedCpu.type := by
  induction cpus using List.reverseRecOn with
  | nil => simp [groups]
  | append_singleton cpus c ih =>
    rw [groups_append, List.map_append, List.mem_append, ← ih]
    split
    · next h =>
      simp only [List.map_cons, List.map_nil, List.mem_singleton]
      exact ⟨.inl, fun h' => h'.elim id fun he => he ▸ h⟩
    · simp

theorem groups_nodup (cpus : List IdentifiedCpu) : ((groups cpus).map Prod.fst).Nodup := by
  induction cpus using List.reverseRecOn with
  | nil => simp [groups]
  | append_singleton cpus c ih =>
    rw [groups_append]
    split
    · exact ih
    · next h =>
      rw [List.map_append, List.nodup_append]
      refine ⟨ih, by simp, ?_⟩
      simp only [List.map_cons, List.map_nil, List.mem_singleton]
      rintro τ hτ _ rfl rfl
      exact h hτ

theorem groups_length (cpus : List IdentifiedCpu) :
    (groups cpus).length = (cpus.map IdentifiedCpu.type).toFinset.card := by
  have hset : ((groups cpus).map Prod.fst).toFinset = (cpus.map IdentifiedCpu.type).toFinset := by
    ext τ
    rw [List.mem_toFinset, List.mem_toFinset, mem_groups_types]
  rw [← hset, List.toFinset_card_of_nodup (groups_nodup cpus), List.length_map]

/-- Later logical CPUs leave the groups alone. -/
theorem groups_mono {cpus cpus' : List IdentifiedCpu} (h : cpus <+: cpus') :
    groups cpus <+: groups cpus' := by
  obtain ⟨rest, rfl⟩ := h
  induction rest using List.reverseRecOn with
  | nil => simp
  | append_singleton rest c ih =>
    rw [← List.append_assoc, groups_append]
    split
    · exact ih
    · exact ih.trans (List.prefix_append _ _)

/-- A group has the masks that its logical CPUs are counted with. -/
theorem entryMask_eq {cpus : List IdentifiedCpu} {c : IdentifiedCpu}
    {masks : Fin numCacheTypes → BitVec 32} (h : (c.type, masks) ∈ groups cpus) :
    entryMask cpus c = masks := by
  induction cpus using List.reverseRecOn with
  | nil => simp [groups] at h
  | append_singleton cpus c' ih =>
    rw [groups_append] at h
    have hold (h : (c.type, masks) ∈ groups cpus) : entryMask (cpus ++ [c']) c = masks := by
      obtain ⟨d, hd, hdc⟩ := List.mem_map.mp
        (mem_groups_types.mp (List.mem_map.mpr ⟨_, h, rfl⟩))
      rw [← ih h, entryMask, entryMask, List.find?_append]
      cases hfind : cpus.find? (fun c' => c'.type = c.type) with
      | some d' => rfl
      | none => exact absurd (by simpa using hdc) (List.find?_eq_none.mp hfind d hd)
    split at h
    · exact hold h
    · next hnew =>
      rcases List.mem_append.mp h with h | h
      · exact hold h
      · obtain ⟨htype, rfl⟩ := Prod.mk.inj (List.mem_singleton.mp h)
        have hnone : cpus.find? (fun d => d.type = c.type) = none := by
          rw [List.find?_eq_none]
          intro d hd he
          exact hnew (htype ▸ mem_groups_types.mpr
            (List.mem_map.mpr ⟨d, hd, of_decide_eq_true he⟩))
        rw [entryMask, List.find?_append, hnone]
        simp [htype]

theorem entryMask_mono {cpus cpus' : List IdentifiedCpu} (h : cpus <+: cpus')
    {c : IdentifiedCpu} {masks : Fin numCacheTypes → BitVec 32}
    (hm : (c.type, masks) ∈ groups cpus) : entryMask cpus' c = masks :=
  entryMask_eq ((groups_mono h).subset hm)

/-! ### The entries of the loop -/

/-- The type of core of an entry. -/
def InternalTypeInfo.type (info : InternalTypeInfo) : CoreType := (info.purpose, info.packageId)

/-- The type and the cache masks of an entry. -/
def InternalTypeInfo.group (info : InternalTypeInfo) :
    CoreType × (Fin numCacheTypes → BitVec 32) := (info.type, info.idInfo.cacheMask)

/-- The entries of a state are the groups of the logical CPUs so far, and each visit is one of the
entry of its type. -/
structure Groups (cpus : List IdentifiedCpu) (hist : List Visit) (s : IdentState) : Prop where
  supported : s.isTopologySupported = true
  purposes : s.cpuTypes.map CpuId.purpose = s.typeInfo.map InternalTypeInfo.purpose
  entries : s.typeInfo.map InternalTypeInfo.group = groups cpus
  length : hist.length = cpus.length
  visit : ∀ (i : Nat) (v : Visit) (c : IdentifiedCpu), hist[i]? = some v → cpus[i]? = some c →
    v.topology = c.topology ∧ ((groups cpus).map Prod.fst)[v.entry]? = some c.type

theorem groups_start : Groups [] [] .start where
  supported := rfl
  purposes := rfl
  entries := rfl
  length := rfl
  visit i v c hv := by simp at hv

/-- Logical CPUs with a topology are looked up under the purpose that is stored. -/
theorem cpuIdentPurpose_of_topology {host : Host} {logicalCpu : Nat} {raw : CpuRawData}
    {topology : InternalTopology} (hid : cpuIdentId logicalCpu raw = .ok (true, topology))
    {data : CpuId} {idInfo : InternalIdInfo}
    (hint : cpuIdentInternal host raw = .ok (.ok, data, idInfo)) :
    cpuIdentPurpose raw = .ok data.purpose := by
  rw [← (cpuIdentInternal_facts hint).2, cpuIdentPurpose_eq_storedPurpose_iff]
  rintro ⟨harch, hvendor, -⟩
  have hno : isApicIdSupported raw = false := by simp [isApicIdSupported, hvendor]
  simp [cpuIdentId, harch, cpuIdentIdX86, hno] at hid

theorem Identifies.purpose {host : Host} {logicalCpu : Nat} {raw : CpuRawData} {c : IdentifiedCpu}
    (h : Identifies host logicalCpu raw c) : cpuIdentPurpose raw = .ok c.purpose := by
  obtain ⟨hid, data, idInfo, hint, hpurpose, -⟩ := h
  rw [← hpurpose]
  exact cpuIdentPurpose_of_topology hid hint

theorem Identifies.sees {host : Host} {logicalCpu : Nat} {raw : CpuRawData} {c : IdentifiedCpu}
    (h : Identifies host logicalCpu raw c) : Sees host logicalCpu raw c := by
  refine ⟨h.1, h.purpose, fun data idInfo hint => ?_⟩
  obtain ⟨-, data', idInfo', hint', hfound⟩ := h
  rw [hint'] at hint
  obtain ⟨rfl, rfl⟩ := Prod.mk.inj (Prod.mk.inj (Except.ok.inj hint)).2
  exact hfound

theorem CpuRawDataArray.Identified.seen {host : Host} {a : CpuRawDataArray}
    {cpus : List IdentifiedCpu} (h : a.Identified host cpus) : a.Seen host cpus :=
  ⟨h.length, fun i raw c hraw hc => (h.each i raw c hraw hc).sees⟩

section Steps

variable {host : Host} {raw : CpuRawData} {c : IdentifiedCpu} {cpus : List IdentifiedCpu}
  {hist : List Visit} {s s' : IdentState}

/-- The state after the topology of a logical CPU was read. -/
def IdentState.inPackage (s : IdentState) (c : IdentifiedCpu) : IdentState :=
  { s with curPackageId := c.topology.packageId }

theorem readTopology_seen (hsup : s.isTopologySupported = true) {logicalCpu : Nat}
    (h : Sees host logicalCpu raw c) :
    readTopology true logicalCpu raw s = .ok (s.inPackage c, c.topology) := by
  simp [readTopology, hsup, h.1, IdentState.inPackage]

/-- An entry matches when it is the one of the type of the logical CPU. -/
theorem Groups.matches_iff (h : Groups cpus hist s) {j : Nat} :
    (s.inPackage c).Matches c.purpose j ↔ ((groups cpus).map Prod.fst)[j]? = some c.type := by
  have hpurposes := congrArg (·[j]?) h.purposes
  simp only [List.getElem?_map] at hpurposes
  rw [← h.entries]
  simp only [IdentState.Matches, IdentState.inPackage, h.supported, true_imp_iff, List.getElem?_map,
    IdentifiedCpu.type]
  constructor
  · rintro ⟨data, info, hdata, hinfo, hp, hk⟩
    rw [hdata, hinfo] at hpurposes
    have hp' : info.purpose = c.purpose := by
      rw [← hp]
      exact (Option.some.inj hpurposes).symm
    simp [hinfo, InternalTypeInfo.group, InternalTypeInfo.type, hp', hk]
  · intro hj
    cases hinfo : s.typeInfo[j]? with
    | none => simp [hinfo] at hj
    | some info =>
      simp only [hinfo, InternalTypeInfo.group, InternalTypeInfo.type, Option.map_some,
        Option.some.injEq, Prod.mk.injEq] at hj
      cases hdata : s.cpuTypes[j]? with
      | none => simp [hdata, hinfo] at hpurposes
      | some data =>
        rw [hdata, hinfo] at hpurposes
        exact ⟨data, info, rfl, rfl, (Option.some.inj hpurposes).trans hj.1, hj.2⟩

/-- Counting leaves the types and the masks of the entries alone. -/
theorem incrementCounters_frame {logicalCpu i : Nat} {topology : InternalTopology}
    (h : incrementCounters true logicalCpu topology i s = .ok s') :
    s'.cpuTypes.map CpuId.purpose = s.cpuTypes.map CpuId.purpose ∧
      s'.typeInfo.map InternalTypeInfo.purpose = s.typeInfo.map InternalTypeInfo.purpose ∧
      s'.typeInfo.map InternalTypeInfo.group = s.typeInfo.map InternalTypeInfo.group := by
  obtain ⟨data, hdata, htypes, -, -, hinfos⟩ := incrementCounters_cases h
  have hset {α β : Type} {f : α → β} {l : List α} {x y : α} (hx : l[i]? = some x)
      (hf : f y = f x) : (l.set i y).map f = l.map f := by
    obtain ⟨hi, rfl⟩ := List.getElem?_eq_some_iff.mp hx
    rw [← List.set_getElem_self (by simpa using hi : i < (l.map f).length), List.map_set, hf,
      List.getElem_map]
  refine ⟨by rw [htypes]; exact hset hdata rfl, ?_⟩
  rcases hinfos with ⟨-, heq, -⟩ | ⟨-, info, info', hc⟩
  · rw [heq]
    exact ⟨rfl, rfl⟩
  · rw [hc.typeInfo]
    refine ⟨hset hc.old hc.purpose, hset hc.old ?_⟩
    simp [InternalTypeInfo.group, InternalTypeInfo.type, hc.purpose, hc.packageId, hc.idInfo]

/-- An iteration keeps the entries the groups. -/
theorem Groups.of_visit (hs : s.Aligned) (h : Groups cpus hist s)
    (hid : Sees host hist.length raw c) {v : Visit}
    (hv : MakesVisit host hist.length raw v s s') : Groups (cpus ++ [c]) (hist ++ [v]) s' := by
  obtain ⟨purpose, s1, s2, hpurpose, hread, hfind, hcount⟩ := hv
  obtain rfl := Except.ok.inj (hid.2.1.symm.trans hpurpose)
  obtain ⟨hs1, htop⟩ := Prod.mk.inj
    (Except.ok.inj ((readTopology_seen h.supported hid).symm.trans hread))
  subst hs1
  obtain ⟨hfp, hfi, hfg⟩ := incrementCounters_frame hcount
  obtain ⟨-, -, -, hsup, -⟩ := incrementCounters_cases hcount
  have hs1 : (s.inPackage c).Aligned := ⟨hs.typeInfo, hs.le⟩
  -- the entry that the visit is one of
  obtain ⟨hsup2, hpurposes, hentries, hentry⟩ : s2.isTopologySupported = true ∧
      s2.cpuTypes.map CpuId.purpose = s2.typeInfo.map InternalTypeInfo.purpose ∧
      s2.typeInfo.map InternalTypeInfo.group = groups (cpus ++ [c]) ∧
      ((groups (cpus ++ [c])).map Prod.fst)[v.entry]? = some c.type := by
    rcases findEntry_cases hs1 hfind with ⟨rfl, hm⟩ | ⟨hnone, -, hlen, data, idInfo, hint, rfl⟩
    · have hm := h.matches_iff.mp hm
      rw [groups_append, if_pos (List.mem_of_getElem? hm)]
      exact ⟨h.supported, h.purposes, h.entries, hm⟩
    · have hnew : c.type ∉ (groups cpus).map Prod.fst := fun hmem => by
        obtain ⟨j, hj⟩ := List.mem_iff_getElem?.mp hmem
        exact hnone j (h.matches_iff.mpr hj)
      obtain ⟨hdata, hmask⟩ := hid.2.2 data idInfo hint
      have hlen' : v.entry = ((groups cpus).map Prod.fst).length := by
        rw [hlen, ← h.entries, List.length_map, List.length_map, hs.typeInfo]
        rfl
      rw [groups_append, if_neg hnew]
      refine ⟨h.supported, ?_, ?_, ?_⟩
      · simp only [IdentState.opened, IdentState.inPackage, List.map_append, h.purposes, if_true,
          List.map_cons, List.map_nil, hdata]
      · simp only [IdentState.opened, IdentState.inPackage, List.map_append, h.entries,
          h.supported, if_true, List.map_cons, List.map_nil, InternalTypeInfo.group,
          InternalTypeInfo.type, hmask, IdentifiedCpu.type]
      · rw [List.map_append, hlen', List.getElem?_append_right le_rfl]
        simp
  refine ⟨hsup.trans hsup2, ?_, ?_, by simp [h.length], ?_⟩
  · rw [hfp, hfi, hpurposes]
  · rw [hfg, hentries]
  · intro i w d hw hd
    rcases Nat.lt_trichotomy i hist.length with hi | rfl | hi
    · rw [List.getElem?_append_left hi] at hw
      rw [List.getElem?_append_left (h.length ▸ hi)] at hd
      obtain ⟨ht, he⟩ := h.visit i w d hw hd
      obtain ⟨rest, hrest⟩ := groups_mono (List.prefix_append cpus [c])
      refine ⟨ht, ?_⟩
      rw [← hrest, List.map_append, List.getElem?_append_left
        (List.getElem?_eq_some_iff.mp he).1]
      exact he
    · obtain rfl : v = w := by simpa using hw
      obtain rfl : c = d := by simpa [h.length] using hd
      exact ⟨htop.symm, hentry⟩
    · rw [List.getElem?_eq_none (by simpa using Nat.succ_le_of_lt hi)] at hw
      cases hw

end Steps

section Runs

variable {host : Host} {a : CpuRawDataArray} {cpus : List IdentifiedCpu} {hist : List Visit}
  {s : IdentState}

/-- Every state that the loop reaches comes from visits of the groups. -/
theorem loop_groups (h : a.Seen host cpus) {k : Nat}
    (hloop : loop (identStep host true) (a.raw.take k) 0 .start = .ok s) :
    ∃ hist, Tracks hist s ∧ Tabulates (a.raw.take k) hist s ∧ Groups (cpus.take k) hist s := by
  have hinv := loop_induct
    (fun done s => done <+: a.raw → ∃ hist, Tracks hist s ∧ Tabulates done hist s ∧
      Groups (cpus.take done.length) hist s)
    (fun _ => ⟨[], tracks_start, tabulates_start, by simpa using groups_start⟩)
    (fun done raw s s' ih hstep hpre => by
      obtain ⟨hist, ht, htab, hg⟩ := ih ((List.prefix_append done [raw]).trans hpre)
      have hlt : done.length < a.raw.length := by
        have := hpre.length_le
        simp only [List.length_append, List.length_singleton] at this
        omega
      have hraw : a.raw[done.length]? = some raw := by
        obtain ⟨rest, hrest⟩ := hpre
        simp [← hrest]
      have hlt' : done.length < cpus.length := h.length ▸ hlt
      obtain ⟨c, hc⟩ : ∃ c, cpus[done.length]? = some c := ⟨_, List.getElem?_eq_getElem hlt'⟩
      have hid := h.each _ _ _ hraw hc
      rw [← htab.length] at hstep hid
      have hsup' : s'.isTopologySupported = true := by
        rw [identStep_supported ht.aligned hid.1 hstep, hg.supported]
        rfl
      have hlen : hist.length + 1 < 2 ^ 16 := by
        have := a.numRaw_lt
        have := htab.length
        omega
      obtain ⟨v, hv, ht', htab'⟩ := htab.of_step ht hlen hstep hsup'
      refine ⟨hist ++ [v], ht', htab', ?_⟩
      rw [List.length_append, List.length_singleton, List.take_add_one, hc]
      exact hg.of_visit ht.aligned hid hv) hloop
  obtain ⟨hist, ht, htab, hg⟩ := hinv <| List.take_prefix k a.raw
  refine ⟨hist, ht, htab, ?_⟩
  rwa [List.length_take, ← h.length, ← List.take_eq_take_min] at hg

/-- The visit of a logical CPU: its topology, the entry of its type and the masks of that entry. -/
structure Visit.Of (cpus : List IdentifiedCpu) (v : Visit) (c : IdentifiedCpu) : Prop where
  topology : v.topology = c.topology
  entry : ((groups cpus).map Prod.fst)[v.entry]? = some c.type
  cacheMask : v.cacheMask = entryMask cpus c

/-- Each logical CPU has its visit. -/
theorem Groups.visit_of {raws : List CpuRawData} (hg : Groups cpus hist s)
    (ht : Tabulates raws hist s) {i : Nat} {v : Visit} {c : IdentifiedCpu}
    (hv : hist[i]? = some v) (hc : cpus[i]? = some c) : Visit.Of cpus v c := by
  obtain ⟨htop, hentry⟩ := hg.visit i v c hv hc
  refine ⟨htop, hentry, ?_⟩
  rw [← hg.entries, List.map_map, List.getElem?_map] at hentry
  cases hinfo : s.typeInfo[v.entry]? with
  | none => simp [hinfo] at hentry
  | some info =>
    rw [ht.cacheMask v (List.mem_of_getElem? hv) info hinfo]
    refine (entryMask_eq ?_).symm
    rw [hinfo] at hentry
    rw [← hg.entries, ← Option.some.inj hentry]
    exact List.mem_map.mpr ⟨info, List.mem_of_getElem? hinfo, rfl⟩

theorem Groups.exists_visit {raws : List CpuRawData} (hg : Groups cpus hist s)
    (ht : Tabulates raws hist s) {c : IdentifiedCpu} (hc : c ∈ cpus) :
    ∃ v ∈ hist, Visit.Of cpus v c := by
  obtain ⟨i, hi⟩ := List.mem_iff_getElem?.mp hc
  have hlt : i < hist.length := hg.length ▸ (List.getElem?_eq_some_iff.mp hi).1
  exact ⟨hist[i], List.getElem_mem hlt, hg.visit_of ht (List.getElem?_eq_getElem hlt) hi⟩

theorem Groups.exists_cpu {raws : List CpuRawData} (hg : Groups cpus hist s)
    (ht : Tabulates raws hist s) {v : Visit} (hv : v ∈ hist) :
    ∃ c ∈ cpus, Visit.Of cpus v c := by
  obtain ⟨i, hi⟩ := List.mem_iff_getElem?.mp hv
  have hlt : i < cpus.length := hg.length ▸ (List.getElem?_eq_some_iff.mp hi).1
  exact ⟨cpus[i], List.getElem_mem hlt, hg.visit_of ht hi (List.getElem?_eq_getElem hlt)⟩

/-! ### When a run succeeds -/

/-- What a run that ended asks of the tables. -/
theorem Groups.inTables {raws : List CpuRawData} (hg : Groups cpus hist s)
    (ht : Tracks hist s) (htab : Tabulates raws hist s) : InTables cpus := by
  refine ⟨?_, fun c hc => ?_⟩
  · rw [← groups_length, ← hg.entries, List.length_map, ht.aligned.typeInfo]
    exact ht.aligned.le
  · obtain ⟨v, hv, htop, -, hmask⟩ := hg.exists_visit htab hc
    have hlt : v.entry < s.typeInfo.length := by
      rw [ht.aligned.typeInfo]
      exact ht.entry_lt v hv
    constructor
    · rw [← htop]
      refine htableIndex_lt_iff.mp ((htab.cores v.entry _ (List.getElem?_eq_getElem hlt)).inRange
        _ (List.mem_map.mpr ⟨v, ?_, rfl⟩))
      exact List.mem_filter.mpr ⟨hv, by simp⟩
    · intro level hm
      rw [← htop]
      refine htableIndex_lt_iff.mp ((htab.cachesAll level).inRange _
        (List.mem_filterMap.mpr ⟨v, hv, ?_⟩))
      rw [Visit.cacheId, hmask, if_neg hm]

/-- On an identified logical CPU the only fault of an iteration is an access out of bounds. -/
theorem identStep_identified_error {raw : CpuRawData} {c : IdentifiedCpu} {logicalCpu : Nat}
    {e : Exit} (hs : s.Aligned) (hsup : s.isTopologySupported = true)
    (hid : Identifies host logicalCpu raw c) (h : identStep host true logicalCpu raw s = .error e) :
    e = .fault .outOfBounds := by
  have hs1 : (s.inPackage c).Aligned := ⟨hs.typeInfo, hs.le⟩
  obtain ⟨-, data, idInfo, hint, -, -⟩ := id hid
  simp only [identStep, hid.purpose, readTopology_seen hsup hid.sees, liftChecked_ok,
    ok_bind] at h
  rcases bind_eq_error.mp h with h | ⟨⟨s2, i⟩, hfind, h⟩
  · rw [findEntry] at h
    rcases cpuidFindIndexSystemId_spec hs1 c.purpose with ⟨j, hj, -⟩ | ⟨hnone, -⟩
    · simp [hj] at h
    · rw [hnone, liftChecked_ok, ok_bind] at h
      rcases Nat.lt_or_ge (s.inPackage c).cpuTypes.length 255 with hlt | hge
      · simp only [openEntry_of_lt hs1 hlt, hint, if_true] at h
        cases h
      · simp only [openEntry_of_full (Nat.le_antisymm hs1.le hge)] at h
        exact (Except.error.inj h).symm
  · obtain ⟨f, hf, rfl⟩ := liftChecked_eq_error.mp h
    obtain ⟨-, d, info, hd, hinfo, -⟩ := findEntry_countsWith hs1 hfind
    simp only [incrementCounters, if_true, loadList_eq_ok.mpr hd, ok_bind] at hf
    split at hf
    · refine congrArg _ (@countTopology_error _ _ _ info _ ?_ hf)
      exact hinfo
    · cases hf

/-- The masks that an iteration counts with are those of the group. -/
theorem Groups.countsWith {raw : CpuRawData} {c : IdentifiedCpu} {logicalCpu : Nat}
    {masks : Fin numCacheTypes → BitVec 32} (hs : s.Aligned) (hg : Groups cpus hist s)
    (hid : Identifies host logicalCpu raw c)
    (hm : CountsWith host raw c.purpose (s.inPackage c) masks) :
    (c.type, masks) ∈ groups (cpus ++ [c]) := by
  have hs1 : (s.inPackage c).Aligned := ⟨hs.typeInfo, hs.le⟩
  rcases cpuidFindIndexSystemId_spec hs1 c.purpose with ⟨j, hj, hmatch⟩ | ⟨hnone, hall⟩
  · have htype := hg.matches_iff.mp hmatch
    simp only [CountsWith, hj] at hm
    obtain ⟨info, hinfo, rfl⟩ := hm
    refine (groups_mono (List.prefix_append cpus [c])).subset ?_
    rw [← hg.entries, List.map_map, List.getElem?_map, show s.typeInfo[j]? = some info from hinfo]
      at htype
    rw [← hg.entries, ← Option.some.inj htype]
    exact List.mem_map.mpr ⟨info, List.mem_of_getElem? hinfo, rfl⟩
  · obtain ⟨-, data, idInfo, hint, -, hmask⟩ := hid
    simp only [CountsWith, hnone, hint, Except.ok.injEq, Prod.mk.injEq, true_and] at hm
    obtain ⟨_, _, ⟨-, rfl⟩, rfl⟩ := hm
    have hnew : c.type ∉ (groups cpus).map Prod.fst := fun hmem => by
      obtain ⟨j, hj⟩ := List.mem_iff_getElem?.mp hmem
      exact hall j (hg.matches_iff.mpr hj)
    rw [groups_append, if_neg hnew, hmask]
    exact List.mem_append_right _ (List.mem_singleton.mpr rfl)

/-- When the tables have room, no iteration leaves them. -/
theorem InTables.stepInBounds {k : Nat} {raw : CpuRawData} (hin : InTables cpus)
    (h : a.Identified host cpus) (hraw : a.raw[k]? = some raw)
    (hloop : loop (identStep host true) (a.raw.take k) 0 .start = .ok s) :
    StepInBounds host true k raw s := by
  obtain ⟨hist, ht, htab, hg⟩ := loop_groups h.seen hloop
  have hk : k < cpus.length := h.length ▸ (List.getElem?_eq_some_iff.mp hraw).1
  obtain ⟨c, hc⟩ : ∃ c, cpus[k]? = some c := ⟨_, List.getElem?_eq_getElem hk⟩
  have hid := h.each k raw c hraw hc
  have hs1 : (s.inPackage c).Aligned := ⟨ht.aligned.typeInfo, ht.aligned.le⟩
  have hpre : cpus.take k ++ [c] <+: cpus := by
    have := List.take_prefix (k + 1) cpus
    rwa [List.take_add_one, hc] at this
  have hread := readTopology_seen hg.supported hid.sees
  obtain ⟨-, data, idInfo, hint, -, -⟩ := id hid
  refine ⟨?_, ?_, ?_, ?_⟩
  · rw [← cpuIdentPurpose_avoids, hid.purpose]
    exact avoids_ok _ _
  · intro _ _
    rw [← @cpuIdentId_avoids k, hid.1]
    exact avoids_ok _ _
  · intro purpose s1 topology hp hr hnone
    obtain rfl := Except.ok.inj (hid.purpose.symm.trans hp)
    obtain ⟨rfl, -⟩ := Prod.mk.inj (Except.ok.inj (hread.symm.trans hr))
    constructor
    · -- the entries are the types of the logical CPUs before, and this one has a new type
      have hnew : c.type ∉ (groups (cpus.take k)).map Prod.fst := fun hmem => by
        obtain ⟨j, hj⟩ := List.mem_iff_getElem?.mp hmem
        rcases cpuidFindIndexSystemId_spec hs1 c.purpose with ⟨j', hj', -⟩ | ⟨-, hall⟩
        · rw [hnone] at hj'
          cases hj'
        · exact hall j (hg.matches_iff.mpr hj)
      have hlen := (groups_mono hpre).length_le
      have hle := hin.types
      rw [groups_append, if_neg hnew, List.length_append, List.length_singleton, ← hg.entries,
        List.length_map, ht.aligned.typeInfo, groups_length] at hlen
      omega
    · rw [← @cpuIdentInternal_avoids host, hint]
      exact avoids_ok _ _
  · intro purpose s1 topology masks hp hr hm _ _
    obtain rfl := Except.ok.inj (hid.purpose.symm.trans hp)
    obtain ⟨rfl, rfl⟩ := Prod.mk.inj (Except.ok.inj (hread.symm.trans hr))
    rw [← entryMask_mono hpre (hg.countsWith ht.aligned hid hm)]
    exact hin.ids c (List.mem_of_getElem? hc)

/-- A run on identified logical CPUs succeeds exactly when the tables have room for it. -/
theorem identLoop_ok_iff (h : a.Identified host cpus) :
    (∃ s, identLoop host a = .ok s) ↔ InTables cpus := by
  constructor
  · rintro ⟨s, hloop⟩
    rw [identLoop, h.affinity, ← List.take_length (l := a.raw)] at hloop
    obtain ⟨hist, ht, htab, hg⟩ := loop_groups h.seen hloop
    rw [← h.length, List.take_length] at hg
    exact hg.inTables ht htab
  · intro hin
    cases hloop : identLoop host a with
    | ok s => exact ⟨s, rfl⟩
    | error e =>
      rw [identLoop, h.affinity] at hloop
      obtain ⟨k, raw, s, hraw, hs, hstep⟩ := loop_eq_error_iff.mp hloop
      have hin' := hin.stepInBounds h hraw hs
      obtain ⟨hist, ht, htab, hg⟩ := loop_groups h.seen hs
      have hk : k < cpus.length := h.length ▸ (List.getElem?_eq_some_iff.mp hraw).1
      have hid := h.each k raw _ hraw (List.getElem?_eq_getElem hk)
      have he := identStep_identified_error ht.aligned hg.supported hid hstep
      rw [he] at hstep
      exact absurd hstep ((identStep_avoids ht.aligned).mpr hin')

/-- The history of a run that ended. -/
theorem identLoop_seen (haffinity : a.withAffinity = true) (h : a.Seen host cpus)
    (hloop : identLoop host a = .ok s) :
    ∃ hist, Tracks hist s ∧ Tabulates a.raw hist s ∧ Groups cpus hist s := by
  rw [identLoop, haffinity, ← List.take_length (l := a.raw)] at hloop
  obtain ⟨hist, ht, htab, hg⟩ := loop_groups h hloop
  rw [List.take_length] at htab
  rw [← h.length, List.take_length] at hg
  exact ⟨hist, ht, htab, hg⟩

theorem identLoop_groups (h : a.Identified host cpus) (hloop : identLoop host a = .ok s) :
    ∃ hist, Tracks hist s ∧ Tabulates a.raw hist s ∧ Groups cpus hist s :=
  identLoop_seen h.affinity h.seen hloop

end Runs

end LibCpuid
