import LibCpuid.AffinityRestore
import LibCpuid.Arm.DriverMrs
import LibCpuid.Dump.Reserialize

/-! A dump that is taken on one machine and identified on another: `cpuid_get_all_raw_data`, the
text that `cpuid_serialize_all_raw_data` writes, and `cpu_identify_all` on what
`cpuid_deserialize_all_raw_data` loads from it. -/

namespace LibCpuid

open CLang

/-! ### What is captured -/

/-- Every CPUID answer of the record is zero. -/
def CpuRawData.NoX86 (raw : CpuRawData) : Prop := ∀ a i, raw.x86 a i = .zero

theorem readX86_eq (m : Machine) (data : CpuRawData) : readX86 m data =
    { data with
      basicCpuid := fun i => m.execCpuid (.ofNat 32 i) 0
      extCpuid := fun i => m.execCpuid (0x80000000 + .ofNat 32 i) 0
      intelFn4 := fun i => m.execCpuid 4 (.ofNat 32 i)
      intelFn11 := fun i => m.execCpuid 11 (.ofNat 32 i)
      intelFn12h := fun i => m.execCpuid 0x12 (.ofNat 32 i)
      intelFn14h := fun i => m.execCpuid 0x14 (.ofNat 32 i)
      amdFn8000001dh := fun i => m.execCpuid 0x8000001d (.ofNat 32 i)
      amdFn80000026h := fun i => m.execCpuid 0x80000026 (.ofNat 32 i) } := by
  simp only [readX86, x86Arrays, List.foldl_cons, List.foldl_nil, CpuRawData.setX86,
    X86Array.request]
  rfl

theorem noArm_readX86 (m : Machine) : (readX86 m .zero).NoArm := by
  rw [readX86_eq]
  refine ⟨fun reg => ?_, fun a i => ?_, fun a i => ?_⟩
  · cases reg <;> rfl
  · cases a <;> rfl
  · cases a <;> rfl

theorem noX86_zero : CpuRawData.zero.NoX86 := fun a i => by cases a <;> rfl

theorem noX86_readMrs (m : Machine) : (readMrs m .zero).NoX86 := by
  rw [readMrs_eq]
  exact fun a i => by cases a <;> rfl

theorem noX86_readDriver (platform : Platform) (driver : CpuidDriver) :
    (readDriver platform driver .zero).NoX86 := fun a i => by
  rw [readDriver_x86]
  exact noX86_zero a i

section Capture

variable {Affinity : Type} {host : ThreadHost Affinity}

/-- A record that the thread reads on some CPU. -/
def Captured (host : ThreadHost Affinity) (raw : CpuRawData) : Prop :=
  ∃ logicalCpu affinity,
    readRegisters host.platform (host.machine logicalCpu affinity) .zero = some raw

theorem Captured.noArm {raw : CpuRawData} (h : Captured host raw) (hx86 : host.platform = .x86) :
    raw.NoArm := by
  obtain ⟨logicalCpu, affinity, h⟩ := h
  rw [hx86, readRegisters] at h
  split at h
  · obtain rfl := Option.some.inj h
    exact noArm_readX86 _
  · cases h

theorem Captured.noX86 {raw : CpuRawData} (h : Captured host raw) (hx86 : host.platform ≠ .x86) :
    raw.NoX86 := by
  obtain ⟨logicalCpu, affinity, h⟩ := h
  unfold readRegisters at h
  split at h
  · next heq => exact absurd heq hx86
  · split at h
    · obtain rfl := Option.some.inj h
      exact noX86_readDriver _ _
    · split at h
      · obtain rfl := Option.some.inj h
        exact noX86_readMrs _
      · cases h
  · obtain ⟨driver, -, rfl⟩ := Option.map_eq_some_iff.mp h
    exact noX86_readDriver _ _
  · obtain rfl := Option.some.inj h
    exact noX86_zero

theorem captured_of_core {logicalCpu : BitVec 16} {s s' : ThreadState Affinity} {raw : CpuRawData}
    (h : cpuidGetRawDataCore host .zero logicalCpu s = .ok (.ok, raw, s')) : Captured host raw := by
  obtain ⟨⟨affinitySaved, s1⟩, -, h⟩ := bind_eq_ok.mp h
  cases affinitySaved with
  | none => simp at h
  | some affinitySaved =>
    dsimp only at h
    split at h
    · simp at h
    · next raw' hread =>
      obtain rfl : raw' = raw := by simp_all
      exact ⟨logicalCpu, s1.affinity, hread⟩

/-- The number of the first CPU is never refused. -/
theorem ne_invCnb_of_core {s s' : ThreadState Affinity} {raw : CpuRawData} {r : CpuError}
    (h : cpuidGetRawDataCore host .zero 0 s = .ok (r, raw, s')) : r ≠ .invCnb := by
  obtain ⟨⟨affinitySaved, s1⟩, hbind, h⟩ := bind_eq_ok.mp h
  cases affinitySaved with
  | none =>
    exfalso
    unfold bindThread at hbind
    rw [if_neg (by decide)] at hbind
    obtain ⟨⟨isSet, affinity⟩, -, hbind⟩ := bind_eq_ok.mp hbind
    dsimp only at hbind
    split at hbind
    · simp at hbind
    · rw [if_neg (by decide)] at hbind
      simp at hbind
  | some affinitySaved =>
    dsimp only at h
    split at h <;> simp_all <;> (obtain ⟨rfl, -⟩ := h; decide)

/-- The element behind the last is the new record, when there is memory for it. -/
theorem raw_setRaw_growRawDataArray {logicalCpu : BitVec 16} {data : CpuRawDataArray}
    (hlen : data.raw.length = logicalCpu.toNat)
    (hlt : logicalCpu.toNat < (growRawDataArray host logicalCpu data).raw.length)
    (raw : CpuRawData) :
    ((growRawDataArray host logicalCpu data).setRaw logicalCpu.toNat raw).raw =
      data.raw ++ [raw] ∧ (logicalCpu + 1).toNat = logicalCpu.toNat + 1 := by
  have hne : logicalCpu ≠ anyLogicalCpu := by
    rintro rfl
    have hroom := (growRawDataArray host anyLogicalCpu data).numRaw_lt
    have hany : anyLogicalCpu.toNat = 65535 := rfl
    omega
  have hgrown : (growRawDataArray host logicalCpu data).raw = data.raw ++ [.zero] := by
    unfold growRawDataArray cpuidGrowRawDataArray at hlt ⊢
    have hsucc := toNat_succ hne
    split at hlt
    case isTrue hrealloc =>
      rw [if_pos hrealloc, dif_neg (by rw [hsucc, CpuRawDataArray.numRaw]; omega)]
      dsimp only
      rw [hsucc, CpuRawDataArray.numRaw, hlen, Nat.add_sub_cancel_left]
      rfl
    case isFalse => omega
  refine ⟨?_, toNat_succ hne⟩
  simp only [CpuRawDataArray.setRaw, hgrown, ← hlen]
  rw [List.set_append_right _ _ (le_refl _), Nat.sub_self, List.set_cons_zero]

/-- The loop only adds records that it captured. -/
theorem getAllLoop_captured {logicalCpu : BitVec 16} {data data' : CpuRawDataArray}
    {s s' : ThreadState Affinity} {r : CpuError} (hlen : data.raw.length = logicalCpu.toNat)
    (hdata : ∀ raw ∈ data.raw, Captured host raw)
    (h : getAllLoop host logicalCpu data s = .ok (r, data', s')) :
    (∀ raw ∈ data'.raw, Captured host raw) ∧ data.raw.length ≤ data'.raw.length ∧
      data'.withAffinity = data.withAffinity ∧ r ≠ .ok := by
  fun_induction getAllLoop host logicalCpu data s with
  | case1 logicalCpu data s f hcore => cases h
  | case2 logicalCpu data s r1 rawTmp s1 hcore hr =>
    obtain ⟨rfl, rfl, rfl⟩ : r1 = r ∧ data = data' ∧ s1 = s' := by simpa using h
    exact ⟨hdata, le_refl _, rfl, hr⟩
  | case3 logicalCpu data s r1 rawTmp s1 hcore hr grown hlt ih =>
    obtain rfl : r1 = .ok := not_not.mp hr
    obtain ⟨hraw, hsucc⟩ := raw_setRaw_growRawDataArray hlen hlt rawTmp
    have hlen' : (grown.setRaw logicalCpu.toNat rawTmp).raw.length = (logicalCpu + 1).toNat := by
      rw [hraw, hsucc, List.length_append, hlen, List.length_singleton]
    obtain ⟨hall, hle, haffinity, hr'⟩ := ih hlen' (by
      rw [hraw]
      intro raw hmem
      rcases List.mem_append.mp hmem with hmem | hmem
      · exact hdata raw hmem
      · rw [List.mem_singleton.mp hmem]
        exact captured_of_core hcore) h
    refine ⟨hall, ?_, haffinity.trans (growRawDataArray_withAffinity host _ data), hr'⟩
    rw [hlen', hsucc] at hle
    omega
  | case4 => cases h

/-- `cpuid_get_all_raw_data` captures the record of each CPU, and that of the first one at least. -/
theorem cpuidGetAllRawData_captured {a : CpuRawDataArray} {s s' : ThreadState Affinity}
    (h : cpuidGetAllRawData host s = .ok (.ok, a, s')) :
    (∀ raw ∈ a.raw, Captured host raw) ∧ a.raw ≠ [] ∧
      a.withAffinity = host.hasSetCpuAffinity := by
  obtain ⟨⟨r, data, s1⟩, hloop, h⟩ := bind_eq_ok.mp h
  obtain ⟨hr, rfl, rfl⟩ : (if r = .invCnb then .ok else r) = CpuError.ok ∧ data = a ∧ s1 = s' := by
    simpa using h
  obtain ⟨hall, -, haffinity, hne⟩ := getAllLoop_captured rfl
    (fun raw hmem => absurd hmem List.not_mem_nil) hloop
  obtain rfl : r = .invCnb := by
    by_contra hinv
    rw [if_neg hinv] at hr
    exact hne hr
  refine ⟨hall, ?_, haffinity.trans (Bool.and_true _)⟩
  -- the first CPU is not refused, so it has a record
  rw [getAllLoop] at hloop
  split at hloop
  · cases hloop
  · next r1 rawTmp s2 hcore =>
    split at hloop
    · obtain ⟨rfl, -⟩ : r1 = .invCnb ∧ _ := by simpa using hloop
      exact absurd rfl (ne_invCnb_of_core hcore)
    · next hr1 =>
      obtain rfl : r1 = .ok := not_not.mp hr1
      dsimp only at hloop
      split at hloop
      · next hlt =>
        obtain ⟨hraw, hsucc⟩ := raw_setRaw_growRawDataArray rfl hlt rawTmp
        have hone := congrArg List.length hraw
        have hcaptured : ∀ raw ∈ (cpuRawDataArrayConstructor host true).raw ++ [rawTmp],
            Captured host raw := by
          intro raw hmem
          obtain rfl : raw = rawTmp := List.mem_singleton.mp hmem
          exact captured_of_core hcore
        rw [← hraw] at hcaptured
        obtain ⟨-, hle, -⟩ := getAllLoop_captured (hone.trans hsucc.symm) hcaptured hloop
        rintro hnil
        rw [hone, hnil] at hle
        exact absurd hle (by simp)
      · cases hloop

end Capture

/-! ### Identification on another host -/

/-- The result without `total_logical_cpus`. -/
def forgetTotalInternal (r : CpuError × CpuId × InternalIdInfo) :
    CpuError × CpuId × InternalIdInfo := (r.1, r.2.1.withTotal 0, r.2.2)

/-- What a vendor's decoder gives, when it passes on the number of CPUs that it was given. -/
theorem map_forgetTotalInternal {x x' : Checked (CpuId × InternalIdInfo)} {total : Int}
    (h : x' = x.map (withTotalBoth total)) :
    (x' >>= fun s => .ok (CpuError.ok, s)).map forgetTotalInternal =
      (x >>= fun s => .ok (CpuError.ok, s)).map forgetTotalInternal := by
  rw [h]
  cases x <;> rfl

section Hosts

variable {raw : CpuRawData}

theorem cpuIdentInternal_forgetTotal (hasks : ¬AsksHost raw) (host host' : Host) :
    (cpuIdentInternal host raw).map forgetTotalInternal =
      (cpuIdentInternal host' raw).map forgetTotalInternal := by
  cases harch : cpuidArchitectureIdentify raw with
  | unknown => simp only [cpuIdentInternal, harch]
  | arm => simp only [cpuIdentInternal, harch]
  | x86 =>
    by_cases hvendor : cpuidVendorIdentify (raw.basicCpuid 0) = .unknown
    · simp only [cpuIdentInternal, harch, cpuidBasicIdentify_unknown hvendor]
    · obtain ⟨-, -, hdata⟩ := cpuidBasicIdentify_facts .zero raw
        { cpuIdConstructor with architecture := .x86 }
      have hintel := fun {s} hs hv => @withSgx_eq_of_not_asksHost raw s
        { score := 0, cacheMask := fun _ => 0 } harch hv hs hasks host host'
      simp only [cpuIdentInternal, harch, cpuidBasicIdentify_withTotal hvendor host,
        cpuidBasicIdentify_withTotal hvendor host']
      generalize (cpuidBasicIdentify .zero raw { cpuIdConstructor with architecture := .x86 }).2 =
        data at hdata hintel ⊢
      simp only [show ∀ total, (data.withTotal total).vendor = data.vendor from fun _ => rfl]
      cases hv : data.vendor with
      | intel =>
        dsimp only
        rw [cpuidIdentifyIntel_eq, cpuidIdentifyIntel_eq, identifyIntelBeforeSgx_withTotal,
          identifyIntelBeforeSgx_withTotal]
        cases hbefore : identifyIntelBeforeSgx raw data { score := 0, cacheMask := fun _ => 0 } with
        | error f => simp only [Except.map, error_bind]
        | ok s =>
          simp only [Except.map, withTotalBoth, withSgx_withTotal, ok_bind,
            hintel hbefore (hdata.symm.trans hv)]
          generalize withSgx host' raw s.1 = sgx
          rfl
      | amd | hygon =>
        dsimp only
        rw [map_forgetTotalInternal (cpuidIdentifyAmd_withTotal host.totalCpus raw data _),
          map_forgetTotalInternal (cpuidIdentifyAmd_withTotal host'.totalCpus raw data _)]
      | centaur =>
        dsimp only
        rw [map_forgetTotalInternal (cpuidIdentifyCentaur_withTotal host.totalCpus raw data _),
          map_forgetTotalInternal (cpuidIdentifyCentaur_withTotal host'.totalCpus raw data _)]
      | _ => rfl

/-- A record for which identification does not run CPUID is the same on every host. -/
theorem alike_of_not_asksHost (hasks : ¬AsksHost raw) (host host' : Host) :
    Alike host host' raw raw where
  purpose := rfl
  topology _ := rfl
  record := by
    intro result hresult
    have hmap := cpuIdentInternal_forgetTotal hasks host host'
    rw [hresult] at hmap
    cases hresult' : cpuIdentInternal host' raw with
    | error f =>
      rw [hresult'] at hmap
      cases hmap
    | ok result' =>
      rw [hresult'] at hmap
      have hsame := Except.ok.inj hmap
      simp only [forgetTotalInternal, Prod.mk.injEq] at hsame
      exact ⟨result', rfl, hsame⟩

end Hosts

/-- `cpu_identify_all` gives the same system on every host, unless it runs CPUID. -/
theorem cpuIdentifyAll_host {a : CpuRawDataArray} {host : Host} {system : SystemId}
    (hasks : ∀ raw ∈ a.raw, ¬AsksHost raw) (h : cpuIdentifyAll host a = .ok (.ok, system))
    (host' : Host) : cpuIdentifyAll host' a = .ok (.ok, system) := by
  refine cpuIdentifyAll_alike rfl ?_ h
  rw [List.forall₂_same]
  exact fun raw hmem => alike_of_not_asksHost (hasks raw hmem) host host'

/-! ### The dump -/

theorem fillArm_of_noX86 {raw : CpuRawData} (h : raw.NoX86) : fillArm raw .zero = raw := by
  rw [fillArm_eq]
  refine CpuRawData.eq_of_registers (fun a => ?_) (fun r => by cases r <;> rfl)
    (fun a => by cases a <;> rfl) (fun a => by cases a <;> rfl)
  funext i
  rw [h a i]
  cases a <;> rfl

theorem fills_dumpRaw_noX86 {raw : CpuRawData} (h : raw.NoX86) :
    Fills (dumpRaw raw .arm) .zero raw := by
  have harm := fills_flatMap (fills_dumpArm raw) armRegisters
  have h32 := fills_flatMap (fills_dumpAArch32 raw) aarch32Arrays
  have h64 := fills_flatMap (fills_dumpAArch64 raw) aarch64Arrays
  have hfills := ((harm .zero).append (h32 _)).append (h64 _)
  rwa [← List.map_eq_flatMap, ← fillArm, fillArm_of_noX86 h] at hfills

/-- The records of one platform come back when the first one is that of a processor. -/
theorem reload_captured {config : BuildConfig} (hvalid : config.IsValid) {a : CpuRawDataArray}
    {first : CpuRawData} {rest : List CpuRawData} (hraw : a.raw = first :: rest)
    (haffinity : a.withAffinity = true) (hknown : cpuidArchitectureIdentify first ≠ .unknown)
    (h : (∀ raw ∈ a.raw, raw.NoArm) ∨ ∀ raw ∈ a.raw, raw.NoX86) :
    ∃ file, cpuidSerializeAllRawData config a = .ok file ∧
      cpuidDeserializeAllRawData file = .ok (.ok, a) := by
  obtain ⟨withAffinity, raw, numRaw_lt⟩ := a
  obtain rfl : raw = first :: rest := hraw
  obtain rfl : withAffinity = true := haffinity
  have hfills : ∀ raw ∈ first :: rest,
      Fills (dumpRaw raw (cpuidArchitectureIdentify first)) .zero (id raw) := by
    rcases h with h | h
    · have harch : cpuidArchitectureIdentify first = .x86 :=
        (h first (List.mem_cons_self ..)).architecture.resolve_right hknown
      rw [harch]
      exact fun raw hmem => fills_dumpRaw_x86 (h raw hmem)
    · have hzero : first.basicCpuid 0 = .zero :=
        h first (List.mem_cons_self ..) .basicCpuid (0 : Fin maxCpuidLevel)
      have harch : cpuidArchitectureIdentify first = .arm := by
        unfold cpuidArchitectureIdentify at hknown ⊢
        rw [if_neg (not_not.mpr hzero)] at hknown ⊢
        split at hknown
        · next hmidr => rw [if_pos hmidr]
        · exact absurd rfl hknown
      rw [harch]
      exact fun raw hmem => fills_dumpRaw_noX86 (h raw hmem)
  obtain ⟨file, hfile, hload⟩ := deserializeAll_serializeAll_map hvalid true numRaw_lt id hfills
  exact ⟨file, hfile, by simpa only [List.map_id] using hload⟩

/-- What is captured on a machine whose first CPU is identified comes back from its dump. -/
theorem capture_reloads {Affinity : Type} {host : ThreadHost Affinity} {s s' : ThreadState Affinity}
    {a : CpuRawDataArray} {config : BuildConfig} (hvalid : config.IsValid)
    (haffinity : host.hasSetCpuAffinity = true)
    (hcapture : cpuidGetAllRawData host s = .ok (.ok, a, s')) {live : Host} {system : SystemId}
    (hident : cpuIdentifyAll live a = .ok (.ok, system)) :
    ∃ file, cpuidSerializeAllRawData config a = .ok file ∧
      cpuidDeserializeAllRawData file = .ok (.ok, a) := by
  obtain ⟨hcaptured, hne, haff⟩ := cpuidGetAllRawData_captured hcapture
  obtain ⟨first, rest, hraw⟩ := List.exists_cons_of_ne_nil hne
  have hknown : cpuidArchitectureIdentify first ≠ .unknown := by
    intro hunknown
    obtain ⟨withAffinity, raw, numRaw_lt⟩ := a
    obtain rfl : raw = first :: rest := hraw
    rw [cpuIdentifyAll_of_unknown hunknown] at hident
    cases hident
  have hplatform : (∀ raw ∈ a.raw, raw.NoArm) ∨ ∀ raw ∈ a.raw, raw.NoX86 := by
    by_cases hx86 : host.platform = .x86
    · exact .inl fun raw hmem => (hcaptured raw hmem).noArm hx86
    · exact .inr fun raw hmem => (hcaptured raw hmem).noX86 hx86
  exact reload_captured hvalid hraw (haff.trans haffinity) hknown hplatform

/-- The dump of a machine on which identification succeeds loads as the records that were captured,
and identifies on every other machine as it did on the first. -/
theorem replay {Affinity : Type} {host : ThreadHost Affinity} {s s' : ThreadState Affinity}
    {a : CpuRawDataArray} {config : BuildConfig} (hvalid : config.IsValid)
    (haffinity : host.hasSetCpuAffinity = true)
    (hcapture : cpuidGetAllRawData host s = .ok (.ok, a, s')) {live : Host} {system : SystemId}
    (hident : cpuIdentifyAll live a = .ok (.ok, system)) (hasks : ∀ raw ∈ a.raw, ¬AsksHost raw) :
    ∃ file, cpuidSerializeAllRawData config a = .ok file ∧
      cpuidDeserializeAllRawData file = .ok (.ok, a) ∧
      ∀ other : Host, cpuIdentifyAll other a = .ok (.ok, system) := by
  obtain ⟨file, hfile, hload⟩ := capture_reloads hvalid haffinity hcapture hident
  exact ⟨file, hfile, hload, cpuIdentifyAll_host hasks hident⟩

/-- A Pentium with a local APIC. -/
def pentiumMachine (apicId : Nat) : Machine where
  cpuidPresent := true
  execCpuid leaf _ :=
    if leaf = 0 then pentium.basicCpuid 0
    else if leaf = 1 then
      { pentium.basicCpuid 1 with ebx := .ofNat 32 (apicId <<< 24), edx := 0x3bf }
    else .zero
  driver := none
  execMrs _ := 0
  execMrsArray _ _ := 0

/-- A thread on a board with two Pentiums, which runs on the one that it is bound to. -/
def pentiumThread : ThreadHost Nat where
  platform := .x86
  hasSetCpuAffinity := true
  setCpuAffinity c affinity := .ok (if c.toNat < 2 then (true, c.toNat) else (false, affinity))
  saveOk _ := true
  restoreOk _ := true
  reallocOk _ := true
  machine _ affinity := pentiumMachine affinity

/-- What is captured on one of them. -/
def pentiumRecord (apicId : Nat) : CpuRawData := readX86 (pentiumMachine apicId) .zero

/-- The array that is captured there. -/
def capturedPentium : CpuRawDataArray where
  withAffinity := true
  raw := [pentiumRecord 0, pentiumRecord 1]
  numRaw_lt := by decide

theorem cpuidGetAllRawData_pentium :
    ∃ s, cpuidGetAllRawData pentiumThread ⟨0, 0⟩ = .ok (.ok, capturedPentium, s) := by
  have hread : ∀ i < 2, ∀ affinity, ∃ affinity',
      pentiumThread.setCpuAffinity (.ofNat 16 i) affinity = .ok (true, affinity') ∧
        readRegisters pentiumThread.platform (pentiumThread.machine (.ofNat 16 i) affinity')
          .zero = some (pentiumRecord i) := by
    intro i hi affinity
    have hbound : pentiumThread.setCpuAffinity (.ofNat 16 i) affinity = .ok (true, i) := by
      rcases (by omega : i = 0 ∨ i = 1) with rfl | rfl <;> rfl
    exact ⟨i, hbound, rfl⟩
  obtain ⟨⟨withAffinity, raw, numRaw_lt⟩, s, hall, hraw, haffinity⟩ :=
    cpuidGetAllRawData_ends (by decide) (by decide) (fun _ => rfl) hread (fun _ => rfl) ⟨0, 0⟩
  obtain rfl : raw = capturedPentium.raw := hraw
  obtain rfl : withAffinity = true := haffinity
  exact ⟨s, hall⟩

theorem cpuIdentifyAll_pentium :
    ∃ system, cpuIdentifyAll .zero capturedPentium = .ok (.ok, system) :=
  exists_of_yields_fst (by decide +kernel)

theorem not_asksHost_pentium : ∀ raw ∈ capturedPentium.raw, ¬AsksHost raw := by
  intro raw hmem hasks
  simp only [capturedPentium, List.mem_cons, List.not_mem_nil, or_false] at hmem
  rcases hmem with rfl | rfl <;> exact absurd hasks.reported (by decide)

theorem replay_pentium :
    ∃ system file, cpuidSerializeAllRawData version071 capturedPentium = .ok file ∧
      cpuidDeserializeAllRawData file = .ok (.ok, capturedPentium) ∧
      ∀ other : Host, cpuIdentifyAll other capturedPentium = .ok (.ok, system) := by
  obtain ⟨s, hcapture⟩ := cpuidGetAllRawData_pentium
  obtain ⟨system, hident⟩ := cpuIdentifyAll_pentium
  exact ⟨system, replay isValid_version071 rfl hcapture hident not_asksHost_pentium⟩

end LibCpuid
