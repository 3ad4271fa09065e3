import LibCpuid.Dump.Serialize
import LibCpuid.MsrMultiplier

/-! `msr_serialize_raw_data`: the dump of the registers that `cpu_msrinfo` reads, and that it shows
all that `cpu_msrinfo` takes from them.  As in the other dumps, a line is written without the newline
that ends it. -/

namespace LibCpuid

open CLang

/-- The bytes of a register, the highest first. -/
def msrBytes (reg : BitVec 64) : List Nat :=
  [56, 48, 40, 32, 24, 16, 8, 0].map fun j => reg.toNat / 2 ^ j % 256

/-- `%02x `. -/
def byteText (byte : Nat) : List Char := printHex 2 byte ++ [' ']

/-- `msr[%#08x]=`, for an address that is not 0, and the bytes. -/
def msrLine (msrIndex : BitVec 32) (reg : BitVec 64) : List Char :=
  chars "msr[0x" ++ (printHex 6 msrIndex.toNat ++ (chars "]=" ++ (msrBytes reg).flatMap byteText))

/-- The loop of `msr_serialize_raw_data`.  A register that cannot be read leaves the variable as it
was. -/
def msrLines (handle : Option MsrDriver) : List (BitVec 32) → BitVec 64 → List (List Char)
  | [], _ => []
  | msrIndex :: rest, reg =>
    let reg := (cpuRdmsr handle msrIndex reg).2
    msrLine msrIndex reg :: msrLines handle rest reg

/-- The registers of the vendor in a dump. -/
def dumpedMsr : CpuVendor → Option (List (BitVec 32))
  | .hygon | .amd => some amdMsr
  | .intel => some intelMsr
  | _ => none

/-- `msr_serialize_raw_data`, with the record of `get_cached_cpuid` and the last error, the static
clock, and the clock that is measured when that is 0: the return value, the lines, and the clock. -/
def msrSerializeRawData (handle : Option MsrDriver) (opens : Bool) (cached : CpuError × CpuId)
    (cpuClock measured : Int) (uninit : BitVec 64) : CpuError × List (List Char) × Int :=
  if handle.isNone then (.handle, [], cpuClock)
  else if !opens then (.open, [], cpuClock)
  else
    let id := cached.2
    if id.vendor = .unknown then (cached.1, [], cpuClock)
    else
      let cpuClock := if cpuClock = 0 then measured else cpuClock
      let header := [chars "vendor_str=" ++ id.vendorStr, chars "brand_str=" ++ id.brandStr,
        chars "cpu_clock_measure=" ++ (printInt cpuClock ++ chars "MHz")]
      match dumpedMsr id.vendor with
      | some table => (.ok, header ++ msrLines handle table uninit, cpuClock)
      | none => (.cpuUnkn, header, cpuClock)

/-! ### What the lines show -/

theorem byteText_injective {bs cs : List Nat} (hlength : bs.length = cs.length)
    (hbs : ∀ b ∈ bs, b < 256) (hcs : ∀ c ∈ cs, c < 256)
    (h : bs.flatMap byteText = cs.flatMap byteText) : bs = cs := by
  induction bs generalizing cs with
  | nil => exact (List.eq_nil_of_length_eq_zero hlength.symm).symm
  | cons b bs ih =>
    cases cs with
    | nil => exact absurd hlength (Nat.succ_ne_zero _)
    | cons c cs =>
      have htext {b : Nat} (hb : b < 256) : (byteText b).length = 3 := by
        rw [byteText, List.length_append, length_printHex (by decide) hb]
        rfl
      have hb := htext (hbs b (List.mem_cons_self ..))
      have hc := htext (hcs c (List.mem_cons_self ..))
      rw [List.flatMap_cons, List.flatMap_cons] at h
      obtain ⟨hhead, htail⟩ := List.append_inj h (hb.trans hc.symm)
      have hbyte : b = c := by
        have hhex := (List.append_inj' hhead rfl).1
        rw [← digitsValue_printHex 2 b, hhex, digitsValue_printHex]
      rw [hbyte, ih (Nat.succ.inj hlength) (fun b hb => hbs b (List.mem_cons_of_mem _ hb))
        (fun c hc => hcs c (List.mem_cons_of_mem _ hc)) htail]

theorem msrBytes_injective {reg reg' : BitVec 64} (h : msrBytes reg = msrBytes reg') :
    reg = reg' := by
  have hstep {x y j : Nat} (hhigh : x / 2 ^ (j + 8) = y / 2 ^ (j + 8))
      (hbyte : x / 2 ^ j % 256 = y / 2 ^ j % 256) : x / 2 ^ j = y / 2 ^ j := by
    rw [Nat.pow_add, ← Nat.div_div_eq_div_mul, ← Nat.div_div_eq_div_mul] at hhigh
    omega
  have h64 : reg.toNat / 2 ^ 64 = reg'.toNat / 2 ^ 64 := by
    rw [Nat.div_eq_of_lt reg.isLt, Nat.div_eq_of_lt reg'.isLt]
  simp only [msrBytes, List.map_cons, List.map_nil, List.cons.injEq, and_true] at h
  obtain ⟨h56, h48, h40, h32, h24, h16, h8, h0⟩ := h
  have hzero := hstep (hstep (hstep (hstep (hstep (hstep (hstep (hstep h64 h56) h48) h40) h32) h24)
    h16) h8) h0
  rw [Nat.pow_zero, Nat.div_one, Nat.div_one] at hzero
  exact BitVec.eq_of_toNat_eq hzero

theorem msrBytes_lt {reg : BitVec 64} : ∀ b ∈ msrBytes reg, b < 256 := by
  intro b hb
  obtain ⟨j, -, rfl⟩ := List.mem_map.mp hb
  exact Nat.mod_lt _ (by decide)

theorem msrLine_injective {msrIndex : BitVec 32} {reg reg' : BitVec 64}
    (h : msrLine msrIndex reg = msrLine msrIndex reg') : reg = reg' := by
  have htext := List.append_cancel_left (List.append_cancel_left (List.append_cancel_left h))
  exact msrBytes_injective (byteText_injective rfl msrBytes_lt msrBytes_lt htext)

/-- The lines of two CPUs are equal only when every register that both can read has one value. -/
theorem msrLines_injective {driver driver' : MsrDriver} {table : List (BitVec 32)}
    {reg reg' : BitVec 64} (hreadable : ∀ a ∈ table, (driver a).isSome = (driver' a).isSome)
    (h : msrLines (some driver) table reg = msrLines (some driver') table reg') :
    ∀ a ∈ table, driver a = driver' a := by
  induction table generalizing reg reg' with
  | nil => exact fun a ha => absurd ha List.not_mem_nil
  | cons msrIndex table ih =>
    rw [msrLines, msrLines, List.cons.injEq] at h
    obtain ⟨hline, hlines⟩ := h
    have hreg := msrLine_injective hline
    have hhead := hreadable msrIndex (List.mem_cons_self ..)
    intro a ha
    rcases List.mem_cons.mp ha with rfl | ha
    · cases hread : driver a with
      | none =>
        rw [hread, Option.isSome_none, eq_comm, Option.isSome_eq_false_iff,
          Option.isNone_iff_eq_none] at hhead
        rw [hhead]
      | some value =>
        rw [hread, Option.isSome_some, eq_comm, Option.isSome_iff_exists] at hhead
        obtain ⟨value', hread'⟩ := hhead
        rw [cpuRdmsr, cpuRdmsr, hread, hread'] at hreg
        rw [hread', show value = value' from hreg]
    · exact ih (fun a ha => hreadable a (List.mem_cons_of_mem _ ha)) hlines a ha

/-! ### What `cpu_msrinfo` reads -/

/-- Both CPUs give the same for every register of the table. -/
def AgreeOn (table : List (BitVec 32)) (driver driver' : MsrDriver) : Prop :=
  ∀ a ∈ table, driver a = driver' a

/-- The same call on a CPU with other registers. -/
def MsrCall.on (call : MsrCall) (driver : MsrDriver) : MsrCall := { call with driver }

section Reads

variable {call : MsrCall} {driver : MsrDriver} {table : List (BitVec 32)}

theorem cpuRdmsr_congr {driver driver' : MsrDriver} (h : AgreeOn table driver driver')
    {msrIndex : BitVec 32} (hmem : msrIndex ∈ table) (result : BitVec 64) :
    cpuRdmsr (some driver) msrIndex result = cpuRdmsr (some driver') msrIndex result := by
  simp only [cpuRdmsr, h msrIndex hmem]

theorem msrLines_congr {driver driver' : MsrDriver} (h : AgreeOn table driver driver')
    (reg : BitVec 64) : msrLines (some driver) table reg = msrLines (some driver') table reg := by
  induction table generalizing reg with
  | nil => rfl
  | cons msrIndex table ih =>
    have htail : AgreeOn table driver driver' := fun a ha => h a (List.mem_cons_of_mem _ ha)
    simp only [msrLines, cpuRdmsr_congr h (List.mem_cons_self ..), ih htail]

theorem cpuRdmsrRange_congr {driver driver' : MsrDriver} (h : AgreeOn table driver driver')
    {msrIndex : BitVec 32} (hmem : msrIndex ∈ table) (highbit lowbit : BitVec 8)
    (result : BitVec 64) :
    cpuRdmsrRange (some driver) msrIndex highbit lowbit result =
      cpuRdmsrRange (some driver') msrIndex highbit lowbit result := by
  simp only [cpuRdmsrRange, cpuRdmsr_congr h hmem]

theorem MsrCall.range_on (h : AgreeOn table call.driver driver) {msrIndex : BitVec 32}
    (hmem : msrIndex ∈ table) (highbit lowbit : BitVec 8) :
    (call.on driver).range msrIndex highbit lowbit = call.range msrIndex highbit lowbit :=
  (cpuRdmsrRange_congr h hmem ..).symm

/-- The address of every P-state is in the table. -/
theorem mem_amdMsr {pstate : BitVec 32} (h : ¬(pstate < msrPstate0 ∨ msrPstate7 < pstate)) :
    pstate ∈ amdMsr := by
  simp only [amdMsr, List.mem_cons, List.not_mem_nil, or_false, msrPstate0, msrPstate7] at h ⊢
  bv_omega

theorem lastPstateLoop_on {driver driver' : MsrDriver} (h : AgreeOn amdMsr driver driver')
    {n : Nat} (hn : n ≤ 8) (reg : BitVec 64) :
    lastPstateLoop (some driver) n reg = lastPstateLoop (some driver') n reg := by
  induction n generalizing reg with
  | zero => rfl
  | succ n ih =>
    have hmem : ∀ n < 8, msrPstate0 + .ofNat 32 n ∈ amdMsr := by decide
    rw [lastPstateLoop, lastPstateLoop, cpuRdmsrRange_congr h (hmem n hn), ih (Nat.le_of_succ_le hn)]

/-- The multiplier of a P-state comes from registers of the table, or from none. -/
theorem getAmdMultipliers_on (h : AgreeOn amdMsr call.driver driver) (id : CpuId) (cpuClock : Int)
    (pstate : BitVec 32) :
    getAmdMultipliers id (call.on driver) cpuClock pstate =
      getAmdMultipliers id call cpuClock pstate := by
  by_cases hpstate : pstate < msrPstate0 ∨ msrPstate7 < pstate
  · simp only [getAmdMultipliers, if_pos hpstate]
  · simp only [getAmdMultipliers, MsrCall.range_on h (mem_amdMsr hpstate)]

theorem amdMultiplier_on (h : AgreeOn amdMsr call.driver driver) (id : CpuId) (cpuClock : Int)
    (err : CpuError) (pstate : BitVec 32) :
    amdMultiplier (call.on driver) id cpuClock err pstate =
      amdMultiplier call id cpuClock err pstate := by
  rw [amdMultiplier, amdMultiplier, getAmdMultipliers_on h]

theorem getAmdLastPstateAddr_on (h : AgreeOn amdMsr call.driver driver) (s : MsrStatics) :
    getAmdLastPstateAddr (some (call.on driver).driver) s =
      getAmdLastPstateAddr (some call.driver) s := by
  have hloop : lastPstateLoop (some (call.on driver).driver) 8 0 =
      lastPstateLoop (some call.driver) 8 0 := (lastPstateLoop_on h (Nat.le_refl 8) 0).symm
  rw [getAmdLastPstateAddr, getAmdLastPstateAddr, hloop]

theorem CpuError.code_nonpos (err : CpuError) : err.code ≤ 0 := by
  cases err <;> decide

/-- The voltage of a P-state.  Without an error its register is in the table. -/
theorem getInfoVoltage_on_amd {id : CpuId} {err cpuClock : Int} {addr : BitVec 32} {s : MsrStatics}
    (h : AgreeOn amdMsr call.driver driver) (hready : Ready err id cpuClock addr s)
    (hamd : isAmdOrHygon id = true) :
    getInfoVoltage (call.on driver) s = getInfoVoltage call s := by
  obtain ⟨s', hcore, hready'⟩ := msrIntelCoreSupported_ready hready
  rw [listsCore_amd _ hamd] at hcore
  have hreg := MsrCall.range_on h (show msrPstateS ∈ amdMsr by decide) 2 0
  simp only [getInfoVoltage, hcore, Bool.false_eq_true, if_false, hready'.ident, if_pos hamd, hreg]
  cases hread : call.driver msrPstateS with
  | none =>
    -- the register of the P-state can be any one, but there is an error
    have hvalue : call.range msrPstateS 2 0 = (.invMsr, call.uninit) :=
      cpuRdmsrRange_none hread (by decide) (by decide) _
    have hno (read : CpuError × BitVec 64) (msrIndex : BitVec 32) :
        ¬(CpuError.invMsr.code + read.1.code = 0 ∧ msrIndex ≤ msrPstate7) := by
      rintro ⟨hzero, -⟩
      have hneg : CpuError.invMsr.code = -13 := rfl
      have hle := read.1.code_nonpos
      omega
    simp only [hvalue, if_neg (hno _ _)]
  | some value =>
    have hvalue : call.range msrPstateS 2 0 = (.ok, .ofNat 64 (extractsBits value 2 0)) :=
      MsrCall.range_some hread (by decide) (by decide)
    have hlt : extractsBits value 2 0 < 8 := extractsBits_lt _ _ _
    have haddr : (BitVec.ofNat 64 (extractsBits value 2 0)).setWidth 32 =
        .ofNat 32 (extractsBits value 2 0) := BitVec.setWidth_ofNat_of_le (by decide) _
    have hmem := mem_amdMsr (pstateAddr_valid _ hlt)
    rw [pstateAddr] at hmem
    simp only [hvalue, haddr, MsrCall.range_on h hmem]

/-- On a processor of AMD or Hygon every request but those for MPERF and APERF is answered from the
registers of a dump. -/
theorem msrSwitch_on_amd {id : CpuId} {err cpuClock : Int} {addr : BitVec 32} {s : MsrStatics}
    {which : CpuMsrinfoRequest} (h : AgreeOn amdMsr call.driver driver)
    (hready : Ready err id cpuClock addr s) (hamd : isAmdOrHygon id = true)
    (hmperf : which ≠ .mperf) (haperf : which ≠ .aperf) :
    msrSwitch (call.on driver) which s = msrSwitch call which s := by
  obtain ⟨s', hplatform, hready'⟩ := msrPlatformInfoSupported_ready hready
  have hne := vendor_ne_intel hamd
  rw [listsCore_amd _ hamd] at hplatform
  have hbus : getInfoBusClock (call.on driver) s = getInfoBusClock call s := by
    simp only [getInfoBusClock, hplatform, Bool.false_eq_true, if_false,
      MsrCall.range_on h (show msrPstateL ∈ amdMsr by decide), getAmdLastPstateAddr_on h,
      amdMultiplier_on h]
  cases which with
  | mperf => exact absurd rfl hmperf
  | aperf => exact absurd rfl haperf
  | minMultiplier =>
    simp only [msrSwitch, getInfoMinMultiplier, hplatform, Bool.false_eq_true, if_false,
      getAmdLastPstateAddr_on h, amdMultiplier_on h]
  | curMultiplier =>
    simp only [msrSwitch, getInfoCurMultiplier, hready.ident, if_neg hne,
      MsrCall.range_on h (show msrPstateS ∈ amdMsr by decide), amdMultiplier_on h]
  | maxMultiplier =>
    simp only [msrSwitch, getInfoMaxMultiplier, hready.ident, if_neg hne, amdMultiplier_on h]
  | temperature =>
    obtain ⟨s', hcore, -⟩ := msrIntelCoreSupported_ready hready
    rw [listsCore_amd _ hamd] at hcore
    simp only [msrSwitch, getInfoTemperature, hcore, Bool.false_eq_true, if_false]
  | throttling => rfl
  | voltage => simp only [msrSwitch, getInfoVoltage_on_amd h hready hamd]
  | bclk => simp only [msrSwitch, hbus]
  | busClock => simp only [msrSwitch, hbus]

/-- On a processor of Intel too. -/
theorem msrSwitch_on_intel {id : CpuId} {err cpuClock : Int} {addr : BitVec 32} {s : MsrStatics}
    {which : CpuMsrinfoRequest} (h : AgreeOn intelMsr call.driver driver)
    (hready : Ready err id cpuClock addr s) (hintel : id.vendor = .intel)
    (hmperf : which ≠ .mperf) (haperf : which ≠ .aperf) :
    msrSwitch (call.on driver) which s = msrSwitch call which s := by
  obtain ⟨s₁, hplatform, hready₁⟩ := msrPlatformInfoSupported_ready hready
  obtain ⟨s₂, hcore, hready₂⟩ := msrIntelCoreSupported_ready hready
  have hamd : ¬isAmdOrHygon id = true := fun h => vendor_ne_intel h hintel
  have hread {msrIndex : BitVec 32} (hmem : msrIndex ∈ intelMsr) :
      cpuRdmsr (some (call.on driver).driver) msrIndex (call.on driver).uninit =
        cpuRdmsr (some call.driver) msrIndex call.uninit := (cpuRdmsr_congr h hmem _).symm
  have hplatformInfo := MsrCall.range_on h (show msrPlatformInfo ∈ intelMsr by decide)
  have hperfStatus := MsrCall.range_on h (show ia32PerfStatus ∈ intelMsr by decide)
  have hbus : getInfoBusClock (call.on driver) s = getInfoBusClock call s := by
    simp only [getInfoBusClock, hplatform, hready₁.ident, if_neg hamd, hplatformInfo]
  cases which with
  | mperf => exact absurd rfl hmperf
  | aperf => exact absurd rfl haperf
  | minMultiplier =>
    simp only [msrSwitch, getInfoMinMultiplier, hplatform, hready₁.ident, if_neg hamd,
      hplatformInfo]
  | curMultiplier =>
    simp only [msrSwitch, getInfoCurMultiplier, hready.ident, if_pos hintel, hperfStatus,
      hread (show msrEblCrPoweron ∈ intelMsr by decide)]
  | maxMultiplier =>
    simp only [msrSwitch, getInfoMaxMultiplier, hready.ident, if_pos hintel,
      MsrCall.range_on h (show msrTurboRatioLimit ∈ intelMsr by decide),
      hread (show ia32PerfStatus ∈ intelMsr by decide)]
  | temperature =>
    simp only [msrSwitch, getInfoTemperature,
      MsrCall.range_on h (show ia32ThermStatus ∈ intelMsr by decide),
      MsrCall.range_on h (show msrTemperatureTarget ∈ intelMsr by decide)]
  | throttling => rfl
  | voltage =>
    simp only [msrSwitch, getInfoVoltage, hcore, hready₂.ident, if_neg hamd,
      MsrCall.range_on h (show msrPerfStatus ∈ intelMsr by decide)]
  | bclk => simp only [msrSwitch, hbus]
  | busClock => simp only [msrSwitch, hbus]

/-- Only the requests for MPERF and APERF read a register a second time. -/
theorem msrSwitch_once {other : MsrCall} {which : CpuMsrinfoRequest}
    (huninit : other.uninit = call.uninit) (hmperf : which ≠ .mperf) (haperf : which ≠ .aperf)
    (s : MsrStatics) : msrSwitch other which s = msrSwitch (call.on other.driver) which s := by
  obtain ⟨rawData, host, cpuClock, driver, later, clockBefore, clockAfter, uninit⟩ := other
  obtain rfl : uninit = call.uninit := huninit
  cases which with
  | mperf => exact absurd rfl hmperf
  | aperf => exact absurd rfl haperf
  | _ => rfl

end Reads

theorem dumpedMsr_of_amd {id : CpuId} (hamd : isAmdOrHygon id = true) :
    dumpedMsr id.vendor = some amdMsr := by
  rw [isAmdOrHygon, Bool.or_eq_true, decide_eq_true_iff, decide_eq_true_iff] at hamd
  rcases hamd with hamd | hhygon
  · rw [hamd]
    rfl
  · rw [hhygon]
    rfl

/-- Two CPUs whose dumps are equal, and that can read the same registers of it, are the same for
`cpu_msrinfo`.  MPERF and APERF are left out: the second reading of them is in no dump. -/
theorem cpuMsrinfo_msrDump {call other : MsrCall} {which : CpuMsrinfoRequest} {id : CpuId}
    {err cpuClock : Int} {addr : BitVec 32} {s : MsrStatics}
    (hready : Ready err id cpuClock addr s)
    (hvendor : id.vendor = .intel ∨ isAmdOrHygon id = true) (hmperf : which ≠ .mperf)
    (haperf : which ≠ .aperf) (huninit : other.uninit = call.uninit)
    (hreadable : ∀ table ∈ dumpedMsr id.vendor, ∀ a ∈ table,
      (call.driver a).isSome = (other.driver a).isSome)
    {cached : CpuError × CpuId} (hcached : cached.2.vendor = id.vendor)
    {clock measured clock' measured' : Int} {uninit uninit' : BitVec 64}
    (hdump : (msrSerializeRawData (some call.driver) true cached clock measured uninit).2.1 =
      (msrSerializeRawData (some other.driver) true cached clock' measured' uninit').2.1) :
    cpuMsrinfo other which s = cpuMsrinfo call which s := by
  have hagree {table : List (BitVec 32)} (htable : dumpedMsr id.vendor = some table) :
      AgreeOn table call.driver other.driver := by
    have hknown : id.vendor ≠ .unknown := by
      intro h
      rw [h] at htable
      cases htable
    simp only [msrSerializeRawData, Option.isNone_some, Bool.false_eq_true, if_false, Bool.not_true,
      hcached, if_neg hknown, htable, List.cons_append, List.nil_append, List.cons.injEq,
      true_and] at hdump
    exact msrLines_injective (hreadable table htable) hdump.2
  have hinit (c : MsrCall) : cpuMsrinfo c which s =
      if s.err ≠ 0 then .ok (cpuInvalidValue, s) else msrSwitch c which s := by
    rw [cpuMsrinfo, msrInit, if_pos hready.init, ok_bind]
  rw [hinit, hinit]
  split
  · rfl
  · rw [msrSwitch_once huninit hmperf haperf]
    rcases hvendor with hintel | hamd
    · exact msrSwitch_on_intel (hagree (by rw [hintel]; rfl)) hready hintel hmperf haperf
    · exact msrSwitch_on_amd (hagree (dumpedMsr_of_amd hamd)) hready hamd hmperf haperf

/-- Another CPU, which also has MPERF, at another time. -/
def twoPstatesMperf : MsrCall :=
  { twoPstatesCall 1 with
    driver := fun a => if a = ia32Mperf then some 1 else twoPstates 1 a
    later := fun a => if a = ia32Mperf then some 2 else twoPstates 0 a }

/-- Both are at the multiplier 25.6. -/
theorem cpuMsrinfo_msrDump_twoPstates : ∃ s s',
    msrInit (twoPstatesCall 1) .start = .ok s ∧
      cpuMsrinfo (twoPstatesCall 1) .curMultiplier s = .ok (2560, s') ∧
        cpuMsrinfo twoPstatesMperf .curMultiplier s = .ok (2560, s') := by
  obtain ⟨id, internal, hident, hvendor, -⟩ := identifies_zenRaw
  obtain ⟨s, hinit, hready⟩ := @msrInit_start (twoPstatesCall 1) _ _ _ hident 0
  have hamd : isAmdOrHygon id = true := by rw [isAmdOrHygon, hvendor]; rfl
  have hagree : AgreeOn amdMsr (twoPstatesCall 1).driver twoPstatesMperf.driver := by
    have hmperf : ia32Mperf ∉ amdMsr := by decide
    exact fun a ha => (if_neg fun h : a = ia32Mperf => hmperf (h ▸ ha)).symm
  have hreadable : ∀ table ∈ dumpedMsr id.vendor, ∀ a ∈ table,
      ((twoPstatesCall 1).driver a).isSome = (twoPstatesMperf.driver a).isSome := by
    intro table htable a ha
    rw [dumpedMsr_of_amd hamd] at htable
    obtain rfl : amdMsr = table := Option.some.inj htable
    rw [hagree a ha]
  have hdump :
      (msrSerializeRawData (some (twoPstatesCall 1).driver) true (.ok, id) 3600 0 0).2.1 =
        (msrSerializeRawData (some twoPstatesMperf.driver) true (.ok, id) 3600 0 0).2.1 := by
    simp only [msrSerializeRawData, Option.isNone_some, dumpedMsr_of_amd hamd,
      msrLines_congr hagree]
  have hsame : cpuMsrinfo twoPstatesMperf .curMultiplier s =
      cpuMsrinfo (twoPstatesCall 1) .curMultiplier s :=
    cpuMsrinfo_msrDump hready (.inr hamd) (by decide) (by decide) rfl hreadable
      (show (CpuError.ok, id).2.vendor = id.vendor from rfl) hdump
  have hrun : yields (msrInit (twoPstatesCall 1) .start >>= fun s =>
      cpuMsrinfo (twoPstatesCall 1) .curMultiplier s) (fun r => decide (r.1 = 2560)) = true := by
    decide +kernel
  obtain ⟨s', h⟩ := exists_of_yields_fst hrun
  rw [hinit, ok_bind] at h
  exact ⟨s, s', hinit, h, hsame.trans h⟩

end LibCpuid
