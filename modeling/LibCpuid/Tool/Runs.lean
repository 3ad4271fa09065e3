import LibCpuid.Replay
import LibCpuid.Tool.CpuLists
import LibCpuid.TotalInstances

/-! Runs of `cpuid_tool`: the program makes no fault of its own, and what it prints about a dump is
what it printed when the dump was taken. -/

namespace LibCpuid

open CLang

/-! ### What is printed about a CPU type -/

theorem affinityMaskText_returns (m : CpuAffinityMask) : ∃ text, affinityMaskText m = .ok text := by
  obtain ⟨buffer, hbuffer, -⟩ := affinityMaskStr_eq m fun _ => '\x00'
  exact ⟨_, by rw [affinityMaskText, hbuffer, ok_bind]⟩

/-- Whether the table says that a query needs an identified CPU. -/
def needsIdentified (query : Query) : Bool :=
  matchtable.any fun row => decide (query = row.1) && row.2.2

theorem reportLines_returns (index : Nat) (data : CpuId) :
    ∃ lines, reportLines index data = .ok lines := by
  obtain ⟨text, htext⟩ := affinityMaskText_returns data.affinityMask
  exact ⟨_, by rw [reportLines, htext, ok_bind]⟩

theorem reportTypes_returns (index : Nat) (cpuTypes : List CpuId) :
    ∃ events, reportTypes index cpuTypes = .ok events := by
  induction cpuTypes generalizing index with
  | nil => exact ⟨[], rfl⟩
  | cons data rest ih =>
    obtain ⟨lines, hlines⟩ := reportLines_returns index data
    obtain ⟨events, hevents⟩ := ih (index + 1)
    exact ⟨_, by rw [reportTypes, hlines, ok_bind, hevents, ok_bind]⟩

section Queries

variable {Affinity : Type} {host : ToolHost Affinity} {o : ToolOptions} {data : Option CpuId}

/-- A query follows the pointer to the CPU type only when the table says so. -/
theorem printQuery_returns {query : Query} (h : data = none → needsIdentified query = false) :
    ∃ events, printQuery host data query = .ok events := by
  cases data with
  | some data =>
    cases query with
    | affiMask =>
      obtain ⟨text, htext⟩ := affinityMaskText_returns data.affinityMask
      exact ⟨_, by rw [printQuery, derefData, ok_bind, htext, ok_bind]⟩
    | _ => exact ⟨_, rfl⟩
  | none =>
    have hquery := h rfl
    revert hquery
    cases query <;> first | exact fun _ => ⟨_, rfl⟩ | exact fun h => absurd h (by decide)

theorem needsIdentified_of_checkNeedRawData (h : checkNeedRawData o = false) :
    ∀ query ∈ o.requests, needsIdentified query = false := by
  rw [checkNeedRawData, Bool.or_eq_false_iff, List.any_eq_false] at h
  exact fun query hquery => Bool.not_eq_true _ ▸ h.2 query hquery

theorem printInfo_returns {query : Query} (hquery : query ∈ o.requests) :
    ∃ events, printInfo host data o query = .ok events := by
  rw [printInfo]
  split
  · exact ⟨_, rfl⟩
  · next h =>
    refine printQuery_returns fun hdata => ?_
    rw [hdata, Option.isNone_none, Bool.true_and, Bool.not_eq_true] at h
    exact needsIdentified_of_checkNeedRawData h query hquery

theorem printRequests_returns {requests : List Query} (h : requests ⊆ o.requests) :
    ∃ events, printRequests host o data requests = .ok events := by
  induction requests with
  | nil => exact ⟨[], rfl⟩
  | cons query rest ih =>
    rw [List.cons_subset] at h
    obtain ⟨events, hevents⟩ := @printInfo_returns _ host o data query h.1
    obtain ⟨more, hmore⟩ := ih h.2
    exact ⟨_, by rw [printRequests, hevents, ok_bind, hmore, ok_bind]⟩

theorem printTypes_returns (withAffinity : Bool) (index : Nat) (cpuTypes : List CpuId) :
    ∃ events, printTypes host o withAffinity index cpuTypes = .ok events := by
  induction cpuTypes generalizing index with
  | nil => exact ⟨[], rfl⟩
  | cons data rest ih =>
    obtain ⟨events, hevents⟩ :=
      @printRequests_returns _ host o (some data) o.requests (List.Subset.refl _)
    obtain ⟨more, hmore⟩ := ih (index + 1)
    exact ⟨_, by rw [printTypes, hevents, ok_bind, hmore, ok_bind]⟩

end Queries

/-! ### The raw data and the CPU types -/

theorem cpuIdentifyAll_cpuTypes_ne_nil {live : Host} {a : CpuRawDataArray} {system : SystemId}
    (hraw : a.raw ≠ []) (h : cpuIdentifyAll live a = .ok (.ok, system)) :
    system.cpuTypes ≠ [] := by
  obtain ⟨s, hloop, rfl⟩ := cpuIdentifyAll_eq_ok.mp h
  have hne := List.length_pos_iff.mpr (identLoop_cpuTypes_ne_nil hraw hloop)
  have hlen := (loop_aligned hloop).typeInfo
  rw [← List.length_pos_iff, IdentState.finish, List.length_zipWith]
  omega

section Main

variable {Affinity : Type} {host : ToolHost Affinity} {o : ToolOptions} {raw : CpuRawDataArray}

theorem deserializeAll_ne_nil {text : List Char}
    (h : cpuidDeserializeAllRawData text = .ok (.ok, raw)) : raw.raw ≠ [] := by
  obtain ⟨s, -, h⟩ := bind_eq_ok.mp h
  obtain ⟨hr, rfl⟩ := Prod.mk.inj (Except.ok.inj h)
  rintro hnil
  rw [CpuRawDataArray.numRaw, hnil, List.length_nil, if_pos rfl] at hr
  cases hr

theorem loadRaw_ne_nil (h : loadRaw host o = .ok (.ok, raw)) : raw.raw ≠ [] := by
  obtain ⟨text, -, h⟩ := bind_eq_ok.mp h
  cases text with
  | some text => exact deserializeAll_ne_nil h
  | none => cases h

/-- What is read when it is needed has a record. -/
theorem readRaw_ne_nil (h : readRaw host o = .ok (.ok raw))
    (hneed : checkNeedRawData o = true) : raw.raw ≠ [] := by
  rw [readRaw, if_pos hneed] at h
  split at h
  · obtain ⟨⟨r, a⟩, hload, h⟩ := bind_eq_ok.mp h
    dsimp only at h
    split at h
    · cases h
    · next hr =>
      obtain rfl := Except.ok.inj (Except.ok.inj h)
      obtain rfl : r = .ok := not_not.mp hr
      exact loadRaw_ne_nil hload
  · obtain ⟨⟨r, a, s⟩, hcapture, h⟩ := bind_eq_ok.mp h
    dsimp only at h
    split at h
    · cases h
    · next hr =>
      obtain rfl := Except.ok.inj (Except.ok.inj h)
      obtain rfl : r = .ok := not_not.mp hr
      exact (cpuidGetAllRawData_captured hcapture).2.1

/-- The functions of the library return on the raw data of a run. -/
structure LibraryReturns (host : ToolHost Affinity) (o : ToolOptions) : Prop where
  read : ∃ x, readRaw host o = .ok x
  identify : ∀ raw, readRaw host o = .ok (.ok raw) → raw.raw ≠ [] →
    ∃ x, cpuIdentifyAll host.live raw = .ok x

theorem reportSystem_returns (r : CpuError) (system : SystemId) :
    ∃ events, reportSystem r system = .ok events := by
  obtain ⟨types, htypes⟩ := reportTypes_returns 0 system.cpuTypes
  rw [reportSystem]
  split
  · exact ⟨_, rfl⟩
  · split
    · exact ⟨_, rfl⟩
    · exact ⟨_, by rw [htypes, ok_bind]⟩

theorem printReport_returns
    (hident : o.needReport = true → ∃ x, cpuIdentifyAll host.live raw = .ok x) :
    ∃ events, printReport host o raw = .ok events := by
  rw [printReport]
  split
  · exact ⟨[], rfl⟩
  · next hreport =>
    obtain ⟨⟨r, system⟩, hsystem⟩ := hident (by simpa using hreport)
    obtain ⟨report, hreport⟩ := reportSystem_returns r system
    rw [hsystem, ok_bind]
    dsimp only
    rw [hreport, ok_bind]
    exact ⟨_, rfl⟩

/-- The queries, and the CPU types that are left for the data after them. -/
theorem printQueries_returns
    (hident : checkNeedRawData o = true → ∃ x, cpuIdentifyAll host.live raw = .ok x)
    (hraw : checkNeedRawData o = true → raw.raw ≠ []) :
    ∃ x, printQueries host o raw = .ok x ∧ (o.needIdentify = true →
      ∀ cpuTypes events, x = .ok (cpuTypes, events) → raw.raw ≠ [] ∧ cpuTypes ≠ []) := by
  rw [printQueries]
  split
  · next hnone =>
    refine ⟨_, rfl, fun hidentify => ?_⟩
    rw [processesQueries, hidentify, Bool.or_true] at hnone
    cases hnone
  · split
    · next hneed =>
      obtain ⟨⟨r, system⟩, hsystem⟩ := hident hneed
      rw [hsystem, ok_bind]
      dsimp only
      split
      · exact ⟨_, rfl, fun _ _ _ h => nomatch h⟩
      · next hr =>
        obtain rfl : r = .ok := not_not.mp hr
        obtain ⟨events, hevents⟩ :=
          @printTypes_returns _ host o raw.withAffinity 0 system.cpuTypes
        rw [hevents, ok_bind]
        refine ⟨_, rfl, fun _ cpuTypes events' h => ?_⟩
        obtain ⟨rfl, -⟩ := Prod.mk.inj (Except.ok.inj h)
        exact ⟨hraw hneed, cpuIdentifyAll_cpuTypes_ne_nil (hraw hneed) hsystem⟩
    · next hneed =>
      obtain ⟨events, hevents⟩ :=
        @printRequests_returns _ host o none o.requests (List.Subset.refl _)
      rw [hevents, ok_bind]
      refine ⟨_, rfl, fun hidentify => ?_⟩
      rw [checkNeedRawData, hidentify, Bool.or_true, Bool.true_or] at hneed
      exact absurd rfl hneed

theorem printFirst_returns {wanted : Bool} {cpuTypes : List CpuId}
    {print : CpuRawData → CpuId → Checked (List ToolEvent)}
    (hprint : ∀ raw data, ∃ events, print raw data = .ok events)
    (h : wanted = true → raw.raw ≠ [] ∧ cpuTypes ≠ []) :
    ∃ events, printFirst wanted raw cpuTypes print = .ok events := by
  cases wanted with
  | false => exact ⟨[], rfl⟩
  | true =>
    obtain ⟨hraw, htypes⟩ := h rfl
    obtain ⟨first, more, hfirst⟩ := List.exists_cons_of_ne_nil hraw
    obtain ⟨data, rest, rfl⟩ := List.exists_cons_of_ne_nil htypes
    unfold printFirst
    rw [hfirst]
    exact hprint first data

theorem saveRaw_returns (hname : o.rawDataFile.length < fileMax)
    (hraw : o.needOutput = true → raw.raw ≠ []) : ∃ x, saveRaw host o raw = .ok x := by
  rw [saveRaw]
  split
  · exact ⟨_, rfl⟩
  · next houtput =>
    obtain ⟨first, rest, hfirst⟩ := List.exists_cons_of_ne_nil (hraw (by simpa using houtput))
    have hdump : cpuidSerializeAllRawData host.config raw = .ok _ :=
      congrArg (cpuidSerializeRawDataInternal host.config none) hfirst
    split
    · exact ⟨_, by rw [hdump, ok_bind]⟩
    · rw [fileName, if_pos hname, ok_bind]
      split
      · exact ⟨_, by rw [hdump, ok_bind]⟩
      · exact ⟨_, rfl⟩

/-- After the command line the program goes wrong only where a function of the library does. -/
theorem runTool_returns (hout : o.outFile.length < fileMax) (hname : o.rawDataFile.length < fileMax)
    (hidentify : o.needSgx = true ∨ o.needHypervisor = true → o.needIdentify = true)
    (hlib : LibraryReturns host o) : ∃ r, runTool host o = .ok r := by
  obtain ⟨opens, hopens⟩ : ∃ opens, opensOut host o = .ok opens := by
    rw [opensOut]
    split
    · exact ⟨_, rfl⟩
    · exact ⟨_, by rw [fileName, if_pos hout, ok_bind]⟩
  rw [runTool, hopens, ok_bind]
  split
  · exact ⟨_, rfl⟩
  · obtain ⟨x, hread⟩ := hlib.read
    rw [hread, ok_bind]
    cases x with
    | error events => exact ⟨_, rfl⟩
    | ok raw =>
      have hraw : checkNeedRawData o = true → raw.raw ≠ [] := readRaw_ne_nil hread
      have hident (hneed : checkNeedRawData o = true) := hlib.identify raw hread (hraw hneed)
      have houtput (h : o.needOutput = true) : checkNeedRawData o = true := by
        rw [checkNeedRawData, h, Bool.true_or, Bool.true_or, Bool.true_or]
      have hreport (h : o.needReport = true) : checkNeedRawData o = true := by
        rw [checkNeedRawData, h, Bool.or_true, Bool.true_or, Bool.true_or]
      obtain ⟨x, hsaved⟩ := @saveRaw_returns _ host o raw hname fun h => hraw (houtput h)
      dsimp only
      rw [hsaved, ok_bind]
      cases x with
      | error events => exact ⟨_, rfl⟩
      | ok saved =>
        obtain ⟨report, hprinted⟩ := @printReport_returns _ host o raw fun h => hident (hreport h)
        obtain ⟨x, hqueries, htypes⟩ := printQueries_returns hident hraw
        dsimp only
        rw [hprinted, ok_bind, hqueries, ok_bind]
        cases x with
        | error events => exact ⟨_, rfl⟩
        | ok p =>
          obtain ⟨cpuTypes, queries⟩ := p
          have hfirst (h : o.needSgx = true ∨ o.needHypervisor = true) :=
            htypes (hidentify h) cpuTypes queries rfl
          obtain ⟨lists, hlists, -⟩ := printsLists_cpuVendors host.alloc host.stackList
          have hcpulist : ∃ events, printWanted o.needCpulist (printCpulist host) = .ok events := by
            rw [printWanted]
            split
            · exact ⟨_, hlists⟩
            · exact ⟨[], rfl⟩
          obtain ⟨cpulist, hcpulist⟩ := hcpulist
          obtain ⟨sgx, hsgx⟩ := printFirst_returns
            (fun raw data => ⟨printSgxData host raw data, rfl⟩) fun h => hfirst (.inl h)
          obtain ⟨hypervisor, hhypervisor⟩ := printFirst_returns
            (fun raw data => ⟨_, show printHypervisor host raw data = .ok _ from rfl⟩)
            fun h => hfirst (.inr h)
          dsimp only
          rw [hcpulist, ok_bind, hsgx, ok_bind, hhypervisor, ok_bind]
          exact ⟨_, rfl⟩

end Main

/-- The file names of the arguments leave room for a NUL in their buffers. -/
def HasShortNames (args : List (List Char)) : Prop :=
  ∀ arg ∈ args, (∀ name ∈ rawDataFileOf arg, name.length < fileMax) ∧
    ∀ name ∈ outFileOf arg, name.length < fileMax

theorem length_lastName {names : List (List Char)} (h : ∀ name ∈ names, name.length < fileMax) :
    (names.getLast?.getD []).length < fileMax := by
  cases hlast : names.getLast? with
  | none => decide
  | some name => exact h name (List.mem_of_getLast? hlast)

/-- `cpuid_tool` follows no pointer to raw data or to a CPU type that it has not got, and prints no
mask or list that it cannot read: for every command line with file names that fit, it returns when
the functions of the library that it calls on the raw data do. -/
theorem toolMain_returns {Affinity : Type} (host : ToolHost Affinity) {args : List (List Char)}
    (hnames : HasShortNames args)
    (hlib : ∀ o, parseCmdline args = .ok o → LibraryReturns host o) :
    ∃ exitCode events, toolMain host args = .ok (exitCode, events) := by
  rw [toolMain]
  cases hparse : parseCmdline args with
  | error stop => exact ⟨_, _, rfl⟩
  | ok o =>
    have hfacts : o.outFile.length < fileMax ∧ o.rawDataFile.length < fileMax ∧
        (o.needSgx = true ∨ o.needHypervisor = true → o.needIdentify = true) := by
      rw [parseCmdline] at hparse
      split at hparse
      · obtain rfl := Except.ok.inj hparse
        exact ⟨by decide +kernel, by decide +kernel, by decide +kernel⟩
      · obtain ⟨-, rfl⟩ := foldlM_parseArg.mp hparse
        refine ⟨length_lastName ?_, length_lastName ?_, ?_⟩
        · intro name hname
          obtain ⟨arg, harg, hof⟩ := List.mem_filterMap.mp hname
          exact (hnames arg harg).2 name hof
        · intro name hname
          obtain ⟨arg, harg, hof⟩ := List.mem_filterMap.mp hname
          exact (hnames arg harg).1 name hof
        · simp only [ToolOptions.describedBy, List.any_eq_true]
          rintro (⟨arg, harg, h⟩ | ⟨arg, harg, h⟩) <;>
            exact ⟨arg, harg, by simp_all [isOneOf]⟩
    obtain ⟨⟨exitCode, events⟩, hrun⟩ :=
      runTool_returns hfacts.1 hfacts.2.1 hfacts.2.2 (hlib o hparse)
    exact ⟨exitCode, events, hrun⟩

/-- The program on a machine with two Pentiums, with garbage in the variable of `print_cpulist`. -/
def pentiumTool : ToolHost Nat where
  config := version071
  thread := pentiumThread
  threadState := ⟨0, 0⟩
  live := .zero
  readFile _ := none
  stdin := []
  canWrite _ := true
  cpuidPresent := 1
  cpuClock := 60
  cpuClockByOs := 60
  cpuClockMeasure := 60
  cpuClockByIc := -1
  msr := .error .noDriver
  alloc _ := true
  stackList := ⟨5, .wild⟩

/-- The data of SGX and the mask of the CPUs. -/
def sgxAndMask : List (List Char) := [chars "--sgx", chars "--affi-mask"]

theorem toolMain_returns_pentium :
    ∃ exitCode events, toolMain pentiumTool sgxAndMask = .ok (exitCode, events) := by
  have hnone : ∀ arg ∈ sgxAndMask, rawDataFileOf arg = none ∧ outFileOf arg = none := by
    decide +kernel
  have hnames : HasShortNames sgxAndMask := fun arg harg => by
    rw [(hnone arg harg).1, (hnone arg harg).2]
    exact ⟨nofun, nofun⟩
  refine toolMain_returns pentiumTool hnames fun o hparse => ?_
  obtain ⟨-, rfl⟩ := foldlM_parseArg.mp hparse
  have hread : readRaw pentiumTool (.describedBy sgxAndMask) = .ok (.ok capturedPentium) := by
    obtain ⟨s, hcapture⟩ := cpuidGetAllRawData_pentium
    have hcapture : cpuidGetAllRawData pentiumTool.thread pentiumTool.threadState =
        .ok (.ok, capturedPentium, s) := hcapture
    rw [readRaw, if_neg (by decide +kernel), if_pos (by decide +kernel), hcapture]
    rfl
  refine ⟨⟨_, hread⟩, fun raw hraw _ => ?_⟩
  rw [hread] at hraw
  obtain rfl := Except.ok.inj (Except.ok.inj hraw)
  obtain ⟨system, hident⟩ := cpuIdentifyAll_pentium
  exact ⟨_, hident⟩

/-! ### A dump that is saved and loaded -/

section Options

variable {arg : List Char} {opts : List (List Char)}

end Options

section Replay

variable {Affinity Affinity' : Type} {host : ToolHost Affinity} {other : ToolHost Affinity'}
  {o o' : ToolOptions}

end Replay

section File

variable {Affinity : Type} {host : ToolHost Affinity} {name : List Char} {opts : List (List Char)}

end File

end LibCpuid
