import LibCpuid.Dump.Bounds
import LibCpuid.Dump.SingleDump
import LibCpuid.IdentifyFlags
import LibCpuid.Partition

/-! What writing a loaded dump and loading it again does to its identification.  The lines that the
writer puts between the records make the reader set `with_affinity`, whatever the array had. -/

namespace LibCpuid

open CLang

/-! ### The flag of a loaded array -/

/-- An array is without affinity only until a line announces a logical CPU, and then has at most
the record of a single dump. -/
structure DumpState.FlagFits (s : DumpState) : Prop where
  header : s.isHeader = true → s.rawArray.numRaw = 0 ∧ s.isAida64Dump = false
  single : s.rawArray.withAffinity = false → s.rawArray.numRaw ≤ 1

section Flag

variable {s s' : DumpState} {line : List Char}

theorem storeLine_flags {register : RegisterLine} (h : s.storeLine register = .ok s') :
    s'.isHeader = s.isHeader ∧ s'.isAida64Dump = s.isAida64Dump ∧
      s'.rawArray.withAffinity = s.rawArray.withAffinity := by
  unfold DumpState.storeLine at h
  split at h
  · cases h
  · obtain ⟨raw, -, h⟩ := bind_eq_ok.mp h
    obtain ⟨raw', -, h⟩ := bind_eq_ok.mp h
    obtain rfl := Except.ok.inj h
    exact ⟨rfl, rfl, rfl⟩

theorem storeLine_flagFits {register : RegisterLine} (hs : s.FlagFits)
    (h : s.storeLine register = .ok s') : s'.FlagFits := by
  obtain ⟨hheader, haida, haff⟩ := storeLine_flags h
  obtain ⟨-, hnum⟩ := storeLine_frame h
  exact ⟨by rw [hheader, hnum, haida]; exact hs.header, by rw [haff, hnum]; exact hs.single⟩

theorem storeLines_flagFits {registers : List RegisterLine} (hs : s.FlagFits)
    (h : registers.foldlM DumpState.storeLine s = .ok s') : s'.FlagFits := by
  induction registers generalizing s with
  | nil =>
    obtain rfl := Except.ok.inj h
    exact hs
  | cons register registers ih =>
    rw [List.foldlM_cons] at h
    obtain ⟨s1, h1, h⟩ := bind_eq_ok.mp h
    exact ih (storeLine_flagFits hs h1) h

/-- What is left of the state when the array has grown. -/
theorem selectCpu_flags {logicalCpu : BitVec 16} {withAffinity : Bool}
    (h : s.selectCpu logicalCpu withAffinity = .ok s') :
    s'.isHeader = s.isHeader ∧ s'.rawArray.withAffinity = withAffinity ∧
      s'.rawArray.numRaw = (cpuidGrowRawDataArray s.rawArray (logicalCpu + 1)).numRaw := by
  obtain ⟨s1, h1, h⟩ := bind_eq_ok.mp h
  obtain rfl := Except.ok.inj h
  unfold DumpState.pointTo at h1
  split at h1
  · obtain rfl := Except.ok.inj h1
    exact ⟨rfl, rfl, rfl⟩
  · cases h1

theorem selectCpu_flagFits {logicalCpu : BitVec 16} (hheader : s.isHeader = false)
    (h : s.selectCpu logicalCpu true = .ok s') : s'.FlagFits := by
  obtain ⟨hheader', haff, -⟩ := selectCpu_flags h
  refine ⟨fun h => ?_, fun h => ?_⟩
  · rw [hheader', hheader] at h
    cases h
  · rw [haff] at h
    cases h

theorem parseBody_flagFits (hs : s.FlagFits) (h : parseBody true line s = .ok s') :
    s'.FlagFits := by
  unfold parseBody at h
  split at h
  · unfold parseLibcpuidLine at h
    split at h
    · exact selectCpu_flagFits rfl h
    · split at h
      · exact storeLine_flagFits hs h
      · exact Except.ok.inj h ▸ hs
  · split at h
    · next haida =>
      unfold parseAida64Line at h
      split at h
      · refine selectCpu_flagFits (Bool.eq_false_iff.mpr fun hheader => ?_) h
        rw [(hs.header hheader).2] at haida
        cases haida
      · exact storeLines_flagFits hs h
    · exact Except.ok.inj h ▸ hs

/-- The record of a single dump is the first one. -/
theorem selectCpu_single_flagFits (hnum : s.rawArray.numRaw = 0) (hheader : s.isHeader = false)
    (h : s.selectCpu 0 false = .ok s') : s'.FlagFits := by
  obtain ⟨hheader', -, hnum'⟩ := selectCpu_flags h
  refine ⟨fun h => ?_, fun _ => ?_⟩
  · rw [hheader', hheader] at h
    cases h
  · have hempty : s.rawArray.raw = [] := List.eq_nil_of_length_eq_zero hnum
    rw [hnum', CpuRawDataArray.numRaw, cpuidGrowRawDataArray]
    split
    · exact hnum.le.trans (Nat.zero_le 1)
    · simp [hempty, CpuRawDataArray.numRaw]

theorem parseHeader_flagFits (hs : s.FlagFits) {isDone : Bool}
    (h : parseHeader true line s = .ok (s', isDone)) : s'.FlagFits := by
  by_cases hheader : s.isHeader = true
  · have hnum := (hs.header hheader).1
    by_cases hversion : ∃ version,
        sscanf (text (chars "version=") ++ [Directive.s]) line = [.str version]
    · obtain ⟨version, hversion⟩ := hversion
      unfold parseHeader at h
      rw [hversion, hheader] at h
      by_cases hlen : version.length < 8
      · simp only [Bool.not_true, Bool.false_eq_true, if_false, hlen, if_true] at h
        cases h
        exact ⟨fun _ => ⟨hnum, rfl⟩, hs.single⟩
      · simp [hlen] at h
    · rw [parseHeader_of_noVersion hheader (not_exists.mp hversion)] at h
      split at h
      · obtain ⟨s1, h1, h⟩ := bind_eq_ok.mp h
        cases h
        rw [if_pos rfl] at h1
        exact selectCpu_single_flagFits (s := behindHeader true s) hnum rfl h1
      · split at h <;> cases h
        · exact ⟨fun h => (by cases h), hs.single⟩
        · exact hs
  · rw [parseHeader, Bool.eq_false_iff.mpr hheader] at h
    cases h
    exact hs

theorem parseLines_flagFits {lines : List (List Char)} (hs : s.FlagFits)
    (h : parseLines true lines s = .ok s') : s'.FlagFits := by
  induction lines generalizing s with
  | nil => exact Except.ok.inj h ▸ hs
  | cons line lines ih =>
    rw [parseLines] at h
    split at h
    · exact ih hs h
    · split at h
      · exact Except.ok.inj h ▸ hs
      · obtain ⟨s1, h1, h⟩ := bind_eq_ok.mp h
        obtain ⟨⟨s2, isDone⟩, h2, h1⟩ := bind_eq_ok.mp h1
        have hs2 := parseHeader_flagFits hs h2
        dsimp only at h1
        split at h1
        · exact ih (Except.ok.inj h1 ▸ hs2) h
        · exact ih (parseBody_flagFits hs2 h1) h

/-- A loaded array has a record, and only one when it is without affinity. -/
theorem deserializeAll_flag {file : List Char} {a : CpuRawDataArray}
    (h : cpuidDeserializeAllRawData file = .ok (.ok, a)) :
    a.raw ≠ [] ∧ (a.withAffinity = false → a.raw.length ≤ 1) := by
  obtain ⟨s, hs, h⟩ := bind_eq_ok.mp h
  have hstart : (DumpState.start true).FlagFits := ⟨fun _ => ⟨rfl, rfl⟩, fun _ => Nat.zero_le 1⟩
  obtain ⟨hcode, rfl⟩ := Prod.mk.inj (Except.ok.inj h)
  refine ⟨fun hempty => ?_, (parseLines_flagFits hstart hs).single⟩
  rw [if_pos (by rw [CpuRawDataArray.numRaw, hempty]; rfl)] at hcode
  cases hcode

end Flag

/-! ### The array that is loaded again -/

theorem CpuRawData.NoArm.architecture {raw : CpuRawData} (h : raw.NoArm) :
    cpuidArchitectureIdentify raw = .x86 ∨ cpuidArchitectureIdentify raw = .unknown := by
  have hmidr : raw.armMidr = 0 := h.arm .midr
  unfold cpuidArchitectureIdentify
  split
  · exact .inl rfl
  · rw [if_neg (not_not.mpr hmidr)]
    exact .inr rfl

/-- The records come back, or zeros when the writer takes the first one for no processor. -/
theorem reload {config : BuildConfig} (hvalid : config.IsValid) {a : CpuRawDataArray}
    {first : CpuRawData} {rest : List CpuRawData} (hraw : a.raw = first :: rest)
    (h : ∀ raw ∈ a.raw, raw.NoArm) :
    ∃ file b, cpuidSerializeAllRawData config a = .ok file ∧
      cpuidDeserializeAllRawData file = .ok (.ok, b) ∧ b.withAffinity = true ∧
      b.raw = if cpuidArchitectureIdentify first = .x86 then a.raw else a.raw.map fun _ => .zero := by
  obtain ⟨withAffinity, raw, numRaw_lt⟩ := a
  obtain rfl : raw = first :: rest := hraw
  rcases (h first (List.mem_cons_self ..)).architecture with harch | harch
  · obtain ⟨file, hfile, hload⟩ := deserializeAll_serializeAll_map hvalid withAffinity numRaw_lt
      id fun raw hmem => by rw [harch]; exact fills_dumpRaw_x86 (h raw hmem)
    exact ⟨file, _, hfile, hload, rfl, (List.map_id _).trans (if_pos harch).symm⟩
  · obtain ⟨file, hfile, hload⟩ := deserializeAll_serializeAll_map hvalid withAffinity numRaw_lt
      (fun _ => .zero) fun raw _ => by rw [harch]; exact Fills.nil .zero
    exact ⟨file, _, hfile, hload, rfl, (if_neg (by rw [harch]; decide)).symm⟩

/-! ### The first record -/

section First

variable {host : Host} {raw : CpuRawData} {withAffinity : Bool} {rest : List CpuRawData}
  {numRaw_lt : (raw :: rest).length < 2 ^ 16}

/-- The first iteration opens the first entry. -/
theorem identStep_first (host : Host) {purpose : CpuPurpose} {s : IdentState}
    {topology : InternalTopology} (hpurpose : cpuIdentPurpose raw = .ok purpose)
    (hread : readTopology withAffinity 0 raw .start = .ok (s, topology)) :
    identStep host withAffinity 0 raw .start =
      match cpuIdentInternal host raw with
      | .error f => .error (.fault f)
      | .ok (r, data, idInfo) =>
        if r = .ok then
          liftChecked (incrementCounters withAffinity 0 topology 0
            (s.opened withAffinity purpose data idInfo))
        else .error (.error r { cpuTypes := [data], totalInstances := fun _ => -1 }) := by
  have hreads := readTopology_reads hread
  have htypes : s.cpuTypes = [] := hreads.cpuTypes
  have hfind : cpuidFindIndexSystemId s purpose = .ok none := by
    rw [cpuidFindIndexSystemId, htypes, findIndexFrom]
  have hopen := openEntry_of_lt (hreads.aligned IdentState.aligned_start)
    (by rw [htypes]; decide) host withAffinity raw purpose
  rw [htypes] at hopen
  simp only [identStep, hpurpose, hread, findEntry, hfind, hopen, liftChecked_ok, ok_bind]
  cases cpuIdentInternal host raw with
  | error f => rfl
  | ok identified =>
    obtain ⟨r, data, idInfo⟩ := identified
    by_cases hr : r = .ok
    · simp only [hr, if_true, ok_bind]
      rfl
    · simp only [hr, if_false, error_bind]
      rfl

theorem readTopology_first (withAffinity : Bool) {result : Bool × InternalTopology}
    (hid : cpuIdentId 0 raw = .ok result) :
    ∃ s topology, readTopology withAffinity 0 raw .start = .ok (s, topology) := by
  unfold readTopology
  split
  · rw [hid]
    exact ⟨_, _, rfl⟩
  · exact ⟨_, _, rfl⟩

/-- A first record that identification refuses ends the loop, with and without affinity. -/
theorem cpuIdentifyAll_of_error {purpose : CpuPurpose} {result : Bool × InternalTopology}
    {r : CpuError} {data : CpuId} {idInfo : InternalIdInfo}
    (hpurpose : cpuIdentPurpose raw = .ok purpose) (hid : cpuIdentId 0 raw = .ok result)
    (hinternal : cpuIdentInternal host raw = .ok (r, data, idInfo)) (hr : r ≠ .ok) :
    cpuIdentifyAll host ⟨withAffinity, raw :: rest, numRaw_lt⟩ =
      .ok (r, { cpuTypes := [data], totalInstances := fun _ => -1 }) := by
  obtain ⟨s, topology, hread⟩ := readTopology_first withAffinity hid
  have hstep := identStep_first host hpurpose hread
  rw [hinternal] at hstep
  dsimp only at hstep
  rw [if_neg hr] at hstep
  simp only [cpuIdentifyAll, identLoop, loop, hstep, error_bind]

/-- `cpu_identify_all` returns only when the first record is identified without a fault. -/
theorem cpuIdentInternal_of_returns {result : CpuError × SystemId}
    (h : cpuIdentifyAll host ⟨withAffinity, raw :: rest, numRaw_lt⟩ = .ok result) :
    ∃ identified, cpuIdentInternal host raw = .ok identified := by
  have hstep {f : Fault} : identStep host withAffinity 0 raw .start ≠ .error (.fault f) := by
    intro hstep
    simp only [cpuIdentifyAll, identLoop, loop, hstep, error_bind] at h
    cases h
  cases hpurpose : cpuIdentPurpose raw with
  | error f =>
    refine absurd ?_ (hstep (f := f))
    simp only [identStep, hpurpose, liftChecked_error, error_bind]
  | ok purpose =>
    cases hread : readTopology withAffinity 0 raw .start with
    | error f =>
      refine absurd ?_ (hstep (f := f))
      simp only [identStep, hpurpose, hread, liftChecked_ok, liftChecked_error, ok_bind, error_bind]
    | ok read =>
      have hfirst := identStep_first host hpurpose hread
      cases hinternal : cpuIdentInternal host raw with
      | ok identified => exact ⟨identified, rfl⟩
      | error f =>
        rw [hinternal] at hfirst
        exact absurd hfirst hstep

end First

/-! ### An array with one record -/

section Single

variable {host : Host} {raw : CpuRawData}

/-- Without affinity the entry has the empty mask that identification starts with. -/
theorem cpuIdentifyAll_single {purpose : CpuPurpose} {data : CpuId} {idInfo : InternalIdInfo}
    (hpurpose : cpuIdentPurpose raw = .ok purpose)
    (hinternal : cpuIdentInternal host raw = .ok (.ok, data, idInfo)) :
    ∃ system, cpuIdentifyAll host (.single raw) = .ok (.ok, system) ∧
      ∀ entry ∈ system.cpuTypes, entry.affinityMask = initAffinityMask := by
  have hread : readTopology false 0 raw .start = .ok (.start, topologyConstructor 0) := rfl
  have hstep := identStep_first host hpurpose hread
  rw [hinternal] at hstep
  have hloop : identLoop host (.single raw) =
      .ok (IdentState.start.opened false purpose data idInfo) := by
    show loop (identStep host false) [raw] 0 .start = _
    rw [loop, hstep]
    rfl
  refine ⟨_, cpuIdentifyAll_of_loop hloop, fun entry hentry => ?_⟩
  obtain rfl := List.mem_singleton.mp hentry
  rw [finishType_affinityMask]
  exact (cpuIdentInternal_facts hinternal).1

/-- With affinity the entry has the logical CPU in its mask. -/
theorem cpuIdentifyAll_affinity {a : CpuRawDataArray} {system : SystemId}
    (haff : a.withAffinity = true) (hne : a.raw ≠ [])
    (h : cpuIdentifyAll host a = .ok (.ok, system)) :
    ∃ entry ∈ system.cpuTypes, entry.affinityMask ≠ initAffinityMask := by
  obtain ⟨s, hloop, rfl⟩ := cpuIdentifyAll_eq_ok.mp h
  rw [identLoop, haff] at hloop
  obtain ⟨hist, hlen, htracks⟩ := loop_tracks a.numRaw_lt hloop
  have hpos : 0 < hist.length := hlen ▸ List.length_pos_of_ne_nil hne
  rw [haff, CpuRawDataArray.numRaw, ← hlen]
  obtain ⟨j, hj, -⟩ := htracks.partitions.one 0 hpos
  refine ⟨_, List.get_mem _ j, fun hmask => ?_⟩
  rw [hmask, getAffinityMaskBit_init] at hj
  cases hj

end Single

/-! ### Identification before and after -/

/-- Writing the array and loading the text gives an array on which `cpu_identify_all` returns what
it returned. -/
def ReloadsTheSame (config : BuildConfig) (host : Host) (a : CpuRawDataArray) : Prop :=
  ∃ file b, cpuidSerializeAllRawData config a = .ok file ∧
    cpuidDeserializeAllRawData file = .ok (.ok, b) ∧
      ∀ result, cpuIdentifyAll host a = .ok result → cpuIdentifyAll host b = .ok result

/-- The record of an x86 processor that identification knows and whose decoder gives a record. -/
structure Identifiable (raw : CpuRawData) : Prop where
  architecture : cpuidArchitectureIdentify raw = .x86
  vendor : cpuidVendorIdentify (raw.basicCpuid 0) ≠ .unknown
  returns : DecoderReturns raw

section Reload

variable {config : BuildConfig} {host : Host} {raw : CpuRawData}

theorem cpuIdentInternal_of_unknown (h : cpuidArchitectureIdentify raw = .unknown) :
    cpuIdentInternal host raw =
      .ok (.cpuUnkn, cpuIdConstructor, { score := 0, cacheMask := fun _ => 0 }) := by
  simp only [cpuIdentInternal, h]
  rfl

theorem cpuIdentPurpose_of_unknown (h : cpuidArchitectureIdentify raw = .unknown) :
    cpuIdentPurpose raw = .ok .general := by
  simp only [cpuIdentPurpose, h]

theorem cpuIdentId_of_unknown (h : cpuidArchitectureIdentify raw = .unknown) :
    cpuIdentId 0 raw = .ok (false, topologyConstructor 0) := by
  simp only [cpuIdentId, h]

/-- A first record of no known processor gives an error that the other records have no part in. -/
theorem cpuIdentifyAll_of_unknown {withAffinity : Bool} {rest : List CpuRawData}
    {numRaw_lt : (raw :: rest).length < 2 ^ 16}
    (h : cpuidArchitectureIdentify raw = .unknown) :
    cpuIdentifyAll host ⟨withAffinity, raw :: rest, numRaw_lt⟩ =
      .ok (.cpuUnkn, { cpuTypes := [cpuIdConstructor], totalInstances := fun _ => -1 }) :=
  cpuIdentifyAll_of_error (cpuIdentPurpose_of_unknown h) (cpuIdentId_of_unknown h)
    (cpuIdentInternal_of_unknown h) (by decide)

/-- A first record of an unknown vendor gives an error, with and without affinity. -/
theorem cpuIdentifyAll_of_unknownVendor (host : Host)
    (harch : cpuidArchitectureIdentify raw = .x86)
    (hvendor : cpuidVendorIdentify (raw.basicCpuid 0) = .unknown) :
    ∃ result, ∀ withAffinity rest numRaw_lt,
      cpuIdentifyAll host ⟨withAffinity, raw :: rest, numRaw_lt⟩ = .ok result := by
  have hpurpose : cpuIdentPurpose raw = .ok .general := by
    simp only [cpuIdentPurpose, harch, hvendor]
  have hsupported : isApicIdSupported raw = false := by
    simp [isApicIdSupported, hvendor]
  have hid : cpuIdentId 0 raw = .ok (false, topologyConstructor 0) := by
    simp only [cpuIdentId, harch, cpuIdentIdX86, hsupported, Bool.false_eq_true, if_false]
  have hbasic : (cpuidBasicIdentify host raw { cpuIdConstructor with architecture := .x86 }).1 =
      .cpuUnkn := by
    simp only [cpuidBasicIdentify, hvendor, if_true]
  obtain ⟨data, hinternal⟩ : ∃ data, cpuIdentInternal host raw =
      .ok (.cpuUnkn, data, { score := 0, cacheMask := fun _ => 0 }) := by
    simp only [cpuIdentInternal, harch]
    generalize cpuidBasicIdentify host raw { cpuIdConstructor with architecture := .x86 } = result
      at hbasic
    obtain ⟨r, data⟩ := result
    obtain rfl : r = .cpuUnkn := hbasic
    exact ⟨data, rfl⟩
  exact ⟨_, fun _ _ _ => cpuIdentifyAll_of_error hpurpose hid hinternal (by decide)⟩

/-- An x86 record of a known vendor is refused by no `return`, only by a fault. -/
theorem cpuIdentify_code {data : CpuId} {r : CpuError} (harch : cpuidArchitectureIdentify raw = .x86)
    (hvendor : cpuidVendorIdentify (raw.basicCpuid 0) ≠ .unknown)
    (h : cpuIdentify host raw = .ok (r, data)) : r = .ok := by
  have hmap {x : Checked (CpuId × InternalIdInfo)}
      (h : (x.map fun s => (CpuError.ok, s.1)) = .ok (r, data)) : r = .ok := by
    cases x with
    | error f => cases h
    | ok s => exact (Prod.mk.inj (Except.ok.inj h)).1.symm
  rw [cpuIdentify_of_vendor harch hvendor] at h
  cases hv : cpuidVendorIdentify (raw.basicCpuid 0) <;> rw [hv] at h
  case intel | amd | hygon | centaur => exact hmap h
  all_goals exact (Prod.mk.inj (Except.ok.inj h)).1.symm

theorem identifiable_iff (harch : cpuidArchitectureIdentify raw = .x86)
    (hvendor : cpuidVendorIdentify (raw.basicCpuid 0) ≠ .unknown) :
    (∃ identified, cpuIdentInternal host raw = .ok identified) ↔ Identifiable raw := by
  have hreturns := cpuIdentify_returns_iff host harch hvendor
  constructor
  · rintro ⟨⟨r, data, idInfo⟩, hid⟩
    have hidentify : cpuIdentify host raw = .ok (r, data) := by rw [cpuIdentify, hid]; rfl
    obtain rfl := cpuIdentify_code harch hvendor hidentify
    exact ⟨harch, hvendor, hreturns.mp ⟨data, hidentify⟩⟩
  · intro h
    obtain ⟨data, hdata⟩ := hreturns.mpr h.returns
    obtain ⟨identified, hid, -⟩ := bind_eq_ok.mp hdata
    exact ⟨identified, hid⟩

theorem Identifiable.purpose (h : Identifiable raw) :
    ∃ purpose, cpuIdentPurpose raw = .ok purpose := by
  cases hpurpose : cpuIdentPurpose raw with
  | ok purpose => exact ⟨purpose, rfl⟩
  | error f =>
    have havoids : Avoids .outOfBounds (cpuIdentPurpose raw) :=
      cpuIdentPurpose_avoids.mpr fun _ hamd => by
        have hreturns := h.returns
        rwa [DecoderReturns, hamd] at hreturns
    rw [hpurpose, cpuIdentPurpose_error hpurpose] at havoids
    exact absurd rfl havoids

/-- An identified record tells the two arrays apart. -/
theorem identifyAll_single_ne (host : Host) (h : Identifiable raw) {b : CpuRawDataArray}
    (haff : b.withAffinity = true) (hne : b.raw ≠ []) :
    ∃ result, cpuIdentifyAll host (.single raw) = .ok result ∧
      cpuIdentifyAll host b ≠ .ok result := by
  obtain ⟨purpose, hpurpose⟩ := h.purpose
  obtain ⟨⟨r, data, idInfo⟩, hid⟩ := (identifiable_iff h.architecture h.vendor).mpr h
  have hidentify : cpuIdentify host raw = .ok (r, data) := by rw [cpuIdentify, hid]; rfl
  obtain rfl := cpuIdentify_code h.architecture h.vendor hidentify
  obtain ⟨system, hsystem, hempty⟩ := cpuIdentifyAll_single hpurpose hid
  refine ⟨_, hsystem, fun hsame => ?_⟩
  obtain ⟨entry, hentry, hmask⟩ := cpuIdentifyAll_affinity haff hne hsame
  exact hmask (hempty entry hentry)

theorem reloadsTheSame_of_load {a b : CpuRawDataArray} {file : List Char}
    (hfile : cpuidSerializeAllRawData config a = .ok file)
    (hb : cpuidDeserializeAllRawData file = .ok (.ok, b)) :
    ReloadsTheSame config host a ↔
      ∀ result, cpuIdentifyAll host a = .ok result → cpuIdentifyAll host b = .ok result := by
  constructor
  · rintro ⟨file', b', hfile', hb', hsame⟩
    obtain rfl := Except.ok.inj (hfile.symm.trans hfile')
    obtain rfl := (Prod.mk.inj (Except.ok.inj (hb.symm.trans hb'))).2
    exact hsame
  · exact fun hsame => ⟨file, b, hfile, hb, hsame⟩

/-- A single x86 record, and the array with affinity that it is loaded back as. -/
theorem reloads_single_iff (harch : cpuidArchitectureIdentify raw = .x86)
    (numRaw_lt : [raw].length < 2 ^ 16) :
    (∀ result, cpuIdentifyAll host (.single raw) = .ok result →
      cpuIdentifyAll host ⟨true, [raw], numRaw_lt⟩ = .ok result) ↔ ¬Identifiable raw := by
  by_cases hvendor : cpuidVendorIdentify (raw.basicCpuid 0) = .unknown
  · obtain ⟨result, hresult⟩ := cpuIdentifyAll_of_unknownVendor host harch hvendor
    refine iff_of_true (fun _ h => ?_) fun hid => hid.vendor hvendor
    rw [CpuRawDataArray.single, hresult] at h
    rw [hresult, h]
  · by_cases hid : Identifiable raw
    · obtain ⟨result, hresult, hnot⟩ := identifyAll_single_ne host hid
        (b := ⟨true, [raw], numRaw_lt⟩) rfl (by simp)
      exact iff_of_false (fun h => hnot (h result hresult)) fun h => h hid
    · exact iff_of_true (fun result h => absurd ((identifiable_iff harch hvendor).mp
        (cpuIdentInternal_of_returns h)) hid) hid

/-- A loaded x86 dump keeps its identification when it had affinity, or none to keep. -/
theorem reloadsTheSame_iff (hvalid : config.IsValid) {file : List Char} {a : CpuRawDataArray}
    (hload : cpuidDeserializeAllRawData file = .ok (.ok, a)) (hx86 : ∀ raw ∈ a.raw, raw.NoArm) :
    ReloadsTheSame config host a ↔
      a.withAffinity = true ∨ ∀ raw ∈ a.raw, ¬Identifiable raw := by
  obtain ⟨hne, hsingle⟩ := deserializeAll_flag hload
  obtain ⟨first, rest, hraw⟩ := List.exists_cons_of_ne_nil hne
  obtain ⟨text, b, htext, hb, hbaff, hbraw⟩ := reload hvalid hraw hx86
  rw [reloadsTheSame_of_load htext hb]
  obtain ⟨withAffinity, raws, numRaw_lt⟩ := a
  obtain ⟨withAffinityB, rawsB, numRawB_lt⟩ := b
  obtain rfl : raws = first :: rest := hraw
  obtain rfl : withAffinityB = true := hbaff
  have hrest (haff : withAffinity = false) : rest = [] := by
    have hlen : (first :: rest).length ≤ 1 := hsingle haff
    rw [List.length_cons] at hlen
    exact List.eq_nil_of_length_eq_zero (by omega)
  rcases (hx86 first (List.mem_cons_self ..)).architecture with harch | harch
  · obtain rfl : rawsB = first :: rest := hbraw.trans (if_pos harch)
    cases withAffinity with
    | true => exact iff_of_true (fun _ h => h) (.inl rfl)
    | false =>
      obtain rfl := hrest rfl
      refine (reloads_single_iff harch numRaw_lt).trans ?_
      simp
  · obtain rfl : rawsB = .zero :: rest.map fun _ => .zero :=
      hbraw.trans (if_neg (by rw [harch]; decide))
    refine iff_of_true (fun result h => ?_) ?_
    · rw [cpuIdentifyAll_of_unknown harch] at h
      rw [cpuIdentifyAll_of_unknown (by decide), h]
    · cases withAffinity with
      | true => exact .inl rfl
      | false =>
        obtain rfl := hrest rfl
        refine .inr fun raw hmem hid => ?_
        rw [List.mem_singleton.mp hmem] at hid
        exact absurd (harch.symm.trans hid.architecture) (by decide)

end Reload

theorem identifiable_pentium : Identifiable pentium where
  architecture := isX86_pentium.architecture
  vendor := by decide +kernel
  returns := by
    have hvendor : cpuidVendorIdentify (pentium.basicCpuid 0) = .intel := by decide +kernel
    rw [DecoderReturns, hvendor]
    exact ⟨fun h => absurd h (by decide), fun h => absurd h (by decide)⟩

theorem noArm_single_pentium : ∀ raw ∈ (CpuRawDataArray.single pentium).raw, raw.NoArm :=
  fun raw hmem => by
    rw [List.mem_singleton.mp hmem]
    exact isX86_pentium.noArm

theorem reloadsTheSame_iff_pentium :
    ∃ file, cpuidDeserializeAllRawData file = .ok (.ok, .single pentium) ∧
      (ReloadsTheSame version071 ⟨fun _ _ => .zero, 1⟩ (.single pentium) ↔
        (CpuRawDataArray.single pentium).withAffinity = true ∨
          ∀ raw ∈ (CpuRawDataArray.single pentium).raw, ¬Identifiable raw) := by
  obtain ⟨file, -, hload⟩ := deserializeAll_x86 isValid_version071 isX86_pentium
  exact ⟨file, hload, reloadsTheSame_iff isValid_version071 hload noArm_single_pentium⟩

theorem reload_changes_pentium :
    ∃ file, cpuidDeserializeAllRawData file = .ok (.ok, .single pentium) ∧
      ¬ReloadsTheSame version071 ⟨fun _ _ => .zero, 1⟩ (.single pentium) := by
  obtain ⟨file, -, hload⟩ := deserializeAll_x86 isValid_version071 isX86_pentium
  obtain ⟨text, b, htext, hb, hbaff, hbraw⟩ :=
    reload isValid_version071 (a := .single pentium) rfl noArm_single_pentium
  obtain ⟨result, hresult, hnot⟩ := identifyAll_single_ne ⟨fun _ _ => .zero, 1⟩
    identifiable_pentium hbaff (by
      rw [hbraw, if_pos isX86_pentium.architecture]
      exact List.cons_ne_nil _ _)
  rw [reloadsTheSame_of_load htext hb]
  exact ⟨file, hload, fun hsame => hnot (hsame result hresult)⟩

end LibCpuid
