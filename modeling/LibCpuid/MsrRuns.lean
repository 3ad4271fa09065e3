import LibCpuid.CLang.Static
import LibCpuid.Msr

/-! Runs of `cpu_msrinfo`: what the static variables hold after some calls, and that each call of a
run gives what it would give in a process of its own. -/

namespace LibCpuid

open CLang

/-! ### The last P-state -/

/-- The register of the P-state with the number `k`. -/
def pstateAddr (k : Nat) : BitVec 32 := msrPstate0 + .ofNat 32 k

/-- `PstateEn`: the register of a P-state can be read, and its highest bit is set. -/
def IsEnabled (driver : MsrDriver) (k : Nat) : Prop :=
  ∃ value, driver (pstateAddr k) = some value ∧ extractsBits value 63 63 ≠ 0

theorem range_pstateEn_ne_zero (driver : MsrDriver) (k : Nat) :
    (cpuRdmsrRange (some driver) (pstateAddr k) 63 63 0).2 ≠ 0 ↔ IsEnabled driver k := by
  cases hread : driver (pstateAddr k) with
  | none =>
    rw [cpuRdmsrRange_none hread (by decide) (by decide)]
    simp [IsEnabled, hread]
  | some value =>
    rw [cpuRdmsrRange_some hread (by decide) (by decide)]
    have hlt : extractsBits value 63 63 < 2 := extractsBits_lt value 63 63
    simp only [IsEnabled, hread, Option.some.injEq, exists_eq_left']
    rw [not_iff_not, ← BitVec.toNat_inj, BitVec.toNat_ofNat]
    exact ⟨fun h => (Nat.mod_eq_of_lt (hlt.trans (by decide))).symm.trans h,
      fun h => (congrArg (· % 2 ^ 64) h : _)⟩

/-- The highest enabled P-state, or the first one when none is enabled. -/
structure IsLastPstate (driver : MsrDriver) (k : Nat) : Prop where
  lt : k < 8
  above : ∀ j, k < j → j < 8 → ¬IsEnabled driver j
  enabled : k = 0 ∨ IsEnabled driver k

/-- The loop looks at the P-states below `n`, from the highest on. -/
theorem lastPstateLoop_spec (driver : MsrDriver) (n : Nat) :
    ∃ k, lastPstateLoop (some driver) n 0 = pstateAddr k ∧ (k = 0 ∨ k < n) ∧
      (∀ j, k < j → j < n → ¬IsEnabled driver j) ∧ (k = 0 ∨ IsEnabled driver k) := by
  induction n with
  | zero => exact ⟨0, rfl, .inl rfl, fun j _ hj => absurd hj (Nat.not_lt_zero j), .inl rfl⟩
  | succ n ih =>
    rw [lastPstateLoop, if_pos rfl]
    by_cases hreg : (cpuRdmsrRange (some driver) (pstateAddr n) 63 63 0).2 = 0
    · obtain ⟨k, hloop, hk, habove, henabled⟩ := ih
      have hn : ¬IsEnabled driver n := fun h => (range_pstateEn_ne_zero driver n).mpr h hreg
      refine ⟨k, ?_, hk.imp_right (Nat.lt_succ_of_lt ·), fun j hkj hj => ?_, henabled⟩
      · rw [← hloop]
        exact congrArg (lastPstateLoop (some driver) n) hreg
      · rcases Nat.lt_succ_iff_lt_or_eq.mp hj with hj | rfl
        · exact habove j hkj hj
        · exact hn
    · have henabled := (range_pstateEn_ne_zero driver n).mp hreg
      refine ⟨n, ?_, .inr (Nat.lt_succ_self n), fun j hnj hj => by omega, .inr henabled⟩
      cases n with
      | zero => rfl
      | succ m =>
        rw [lastPstateLoop]
        exact if_neg hreg

theorem lastPstate_spec (driver : MsrDriver) :
    ∃ k, lastPstateLoop (some driver) 8 0 = pstateAddr k ∧ IsLastPstate driver k := by
  obtain ⟨k, hloop, hk, habove, henabled⟩ := lastPstateLoop_spec driver 8
  exact ⟨k, hloop, by omega, habove, henabled⟩

theorem IsLastPstate.unique {driver driver' : MsrDriver} {k k' : Nat} (h : IsLastPstate driver k)
    (h' : IsLastPstate driver' k') (hsame : ∀ j < 8, IsEnabled driver j ↔ IsEnabled driver' j) :
    k = k' := by
  have hle {d d' : MsrDriver} {i i' : Nat} (hi : IsLastPstate d i) (hi' : IsLastPstate d' i')
      (hsame : ∀ j < 8, IsEnabled d j ↔ IsEnabled d' j) : ¬i < i' := by
    intro hlt
    have henabled := hi'.enabled.resolve_left (by omega)
    exact hi.above i' hlt hi'.lt ((hsame i' hi'.lt).mpr henabled)
  have hkk := hle h h' hsame
  have hkk' := hle h' h fun j hj => (hsame j hj).symm
  omega

theorem IsLastPstate.loop_eq {driver : MsrDriver} {k : Nat} (h : IsLastPstate driver k) :
    lastPstateLoop (some driver) 8 0 = pstateAddr k := by
  obtain ⟨k', hloop, h'⟩ := lastPstate_spec driver
  rw [hloop, h'.unique h fun j _ => Iff.rfl]

/-! ### The static variables -/

/-- The variables after the first call: what that call found, and in each flag and address either
nothing yet or the right value. -/
structure Ready (err : Int) (id : CpuId) (cpuClock : Int) (addr : BitVec 32) (s : MsrStatics) :
    Prop where
  init : s.init = true
  error : s.err = err
  ident : s.id = id
  clock : s.cpuClock = cpuClock
  platformInfo : ∀ b ∈ s.platformInfoSupported, b = listsCore msrPlatformInfoCores id
  intelCore : ∀ b ∈ s.intelCoreSupported, b = listsCore msrPerfStatusCores id
  lastAddr : s.lastAddr = 0 ∨ s.lastAddr = addr

/-- A function that gives the same from all these variables, and keeps them so. -/
abbrev KeepsReady {α : Type} (err : Int) (id : CpuId) (cpuClock : Int) (addr : BitVec 32)
    (f : MsrStatics → Checked (α × MsrStatics)) : Prop :=
  Transparent (Ready err id cpuClock addr) (Ready err id cpuClock addr) f

section Ready

variable {err : Int} {id : CpuId} {cpuClock : Int} {addr : BitVec 32} {call : MsrCall}

theorem msrPlatformInfoSupported_ready {s : MsrStatics} (hs : Ready err id cpuClock addr s) :
    ∃ s', msrPlatformInfoSupported s = (listsCore msrPlatformInfoCores id, s') ∧
      Ready err id cpuClock addr s' := by
  obtain ⟨hinit, herr, rfl, hclock, hplatform, hcore, haddr⟩ := hs
  simp only [msrPlatformInfoSupported]
  cases hflag : s.platformInfoSupported with
  | some b =>
    have hb := hplatform b hflag
    exact ⟨s, by rw [hb], hinit, herr, rfl, hclock, hplatform, hcore, haddr⟩
  | none =>
    refine ⟨_, rfl, hinit, herr, rfl, hclock, ?_, hcore, haddr⟩
    rintro b ⟨⟩
    rfl

theorem msrIntelCoreSupported_ready {s : MsrStatics} (hs : Ready err id cpuClock addr s) :
    ∃ s', msrIntelCoreSupported s = (listsCore msrPerfStatusCores id, s') ∧
      Ready err id cpuClock addr s' := by
  obtain ⟨hinit, herr, rfl, hclock, hplatform, hcore, haddr⟩ := hs
  simp only [msrIntelCoreSupported]
  cases hflag : s.intelCoreSupported with
  | some b =>
    have hb := hcore b hflag
    exact ⟨s, by rw [hb], hinit, herr, rfl, hclock, hplatform, hcore, haddr⟩
  | none =>
    refine ⟨_, rfl, hinit, herr, rfl, hclock, hplatform, ?_, haddr⟩
    rintro b ⟨⟩
    rfl

theorem getAmdLastPstateAddr_ready {s : MsrStatics} (hs : Ready err id cpuClock addr s)
    (haddr : lastPstateLoop (some call.driver) 8 0 = addr) :
    ∃ s', getAmdLastPstateAddr (some call.driver) s = (addr, s') ∧
      Ready err id cpuClock addr s' := by
  obtain ⟨hinit, herr, hid, hclock, hplatform, hcore, hlast⟩ := hs
  subst haddr
  simp only [getAmdLastPstateAddr]
  split
  · next hne =>
    have heq := hlast.resolve_left hne
    exact ⟨s, by rw [heq], hinit, herr, hid, hclock, hplatform, hcore, hlast⟩
  · exact ⟨_, rfl, hinit, herr, hid, hclock, hplatform, hcore, .inr rfl⟩

theorem keeps_platformInfo :
    KeepsReady err id cpuClock addr fun s => .ok (msrPlatformInfoSupported s) :=
  .of_returns _ fun s hs => by
    obtain ⟨s', heq, hs'⟩ := msrPlatformInfoSupported_ready hs
    exact ⟨s', by rw [heq], hs'⟩

theorem keeps_intelCore :
    KeepsReady err id cpuClock addr fun s => .ok (msrIntelCoreSupported s) :=
  .of_returns _ fun s hs => by
    obtain ⟨s', heq, hs'⟩ := msrIntelCoreSupported_ready hs
    exact ⟨s', by rw [heq], hs'⟩

theorem keeps_lastPstateAddr (haddr : lastPstateLoop (some call.driver) 8 0 = addr) :
    KeepsReady err id cpuClock addr fun s => .ok (getAmdLastPstateAddr (some call.driver) s) :=
  .of_returns _ fun s hs => by
    obtain ⟨s', heq, hs'⟩ := getAmdLastPstateAddr_ready hs haddr
    exact ⟨s', by rw [heq], hs'⟩

theorem keeps_const {α : Type} (a : α) :
    KeepsReady err id cpuClock addr fun s => .ok (a, s) :=
  .ok a fun _ hs => hs

/-- What depends on the identification and the clock alone. -/
theorem keeps_reads {α : Type} (x : CpuId → Int → Checked α) :
    KeepsReady err id cpuClock addr fun s => x s.id s.cpuClock >>= fun a => .ok (a, s) :=
  (Transparent.of_checked (x id cpuClock) fun _ hs => hs).congr fun s hs => by
    rw [hs.ident, hs.clock]

/-- A test of the processor. -/
theorem keeps_ite {α : Type} (c : CpuId → Prop) [DecidablePred c]
    {f g : MsrStatics → Checked (α × MsrStatics)} (hf : KeepsReady err id cpuClock addr f)
    (hg : KeepsReady err id cpuClock addr g) :
    KeepsReady err id cpuClock addr fun s => if c s.id then f s else g s :=
  .ite (C := c id) (fun s hs => by rw [hs.ident]) hf hg

theorem keeps_ite_platformInfo {α : Type} {f g : MsrStatics → Checked (α × MsrStatics)}
    (hf : KeepsReady err id cpuClock addr f) (hg : KeepsReady err id cpuClock addr g) :
    KeepsReady err id cpuClock addr fun s => if (msrPlatformInfoSupported s).1 then
      f (msrPlatformInfoSupported s).2 else g (msrPlatformInfoSupported s).2 :=
  keeps_platformInfo.bind (g := fun supported s => if supported then f s else g s)
    fun _ => .ite (fun _ _ => Iff.rfl) hf hg

theorem keeps_ite_intelCore {α : Type} {f g : MsrStatics → Checked (α × MsrStatics)}
    (hf : KeepsReady err id cpuClock addr f) (hg : KeepsReady err id cpuClock addr g) :
    KeepsReady err id cpuClock addr fun s => if (msrIntelCoreSupported s).1 then
      f (msrIntelCoreSupported s).2 else g (msrIntelCoreSupported s).2 :=
  keeps_intelCore.bind (g := fun supported s => if supported then f s else g s)
    fun _ => .ite (fun _ _ => Iff.rfl) hf hg

/-- What comes after a value, as a fault there does. -/
theorem keeps_then {α β : Type} {f : MsrStatics → Checked (α × MsrStatics)}
    (hf : KeepsReady err id cpuClock addr f) (x : α → Checked β) :
    KeepsReady err id cpuClock addr fun s => f s >>= fun r => x r.1 >>= fun b => .ok (b, r.2) :=
  hf.bind fun a => .of_checked (x a) fun _ hs => hs

/-! ### The functions that read a value -/

theorem keeps_minMultiplier (haddr : lastPstateLoop (some call.driver) 8 0 = addr) :
    KeepsReady err id cpuClock addr (getInfoMinMultiplier call) := by
  have hamd := (@keeps_lastPstateAddr err id cpuClock _ call haddr).bind
    fun pstate => keeps_reads fun id cpuClock => amdMultiplier call id cpuClock .ok pstate
  exact (keeps_ite_platformInfo (keeps_const (fieldDouble (call.range msrPlatformInfo 47 40)))
    (keeps_ite (isAmdOrHygon · = true) hamd (keeps_const none))).congr fun s _ => rfl

theorem keeps_curMultiplier : KeepsReady err id cpuClock addr (getInfoCurMultiplier call) := by
  let poweron := cpuRdmsr (some call.driver) msrEblCrPoweron call.uninit
  let pstate := call.range msrPstateS 2 0
  exact (keeps_ite (·.vendor = .intel)
    (keeps_ite_intelCore (keeps_const (fieldDouble (call.range ia32PerfStatus 15 8)))
      (keeps_const (fieldDouble (poweron.1, (poweron.2 >>> 22) &&& 0x1f))))
    (keeps_ite (isAmdOrHygon · = true)
      (keeps_reads fun id cpuClock =>
        amdMultiplier call id cpuClock pstate.1 (msrPstate0 + pstate.2.setWidth 32))
      (keeps_const none))).congr fun s _ => rfl

theorem keeps_maxMultiplier : KeepsReady err id cpuClock addr (getInfoMaxMultiplier call) := by
  let status := cpuRdmsr (some call.driver) ia32PerfStatus call.uninit
  exact (keeps_ite (·.vendor = .intel)
    (keeps_ite_intelCore (keeps_const (fieldDouble (call.range msrTurboRatioLimit 7 0)))
      (keeps_const (fieldDouble (status.1, (status.2 >>> 40) &&& 0x1f))))
    (keeps_ite (isAmdOrHygon · = true)
      (keeps_reads fun id cpuClock => amdMultiplier call id cpuClock .ok msrPstate0)
      (keeps_const none))).congr fun s _ => rfl

theorem keeps_temperature :
    KeepsReady err id cpuClock addr fun s => .ok (getInfoTemperature call s) := by
  let readout := call.range ia32ThermStatus 22 16
  let valid := call.range ia32ThermStatus 31 31
  let target := call.range msrTemperatureTarget 23 16
  refine (keeps_ite_intelCore (keeps_const
    (if readout.1.code + valid.1.code + target.1.code = 0 ∧ valid.2 ≠ 0 then
      ((target.2 - readout.2).setWidth 32).toInt else cpuInvalidValue))
    (keeps_const cpuInvalidValue)).congr fun s _ => ?_
  simp only [getInfoTemperature]
  split
  · split <;> rfl
  · rfl

theorem keeps_voltage : KeepsReady err id cpuClock addr fun s => .ok (getInfoVoltage call s) := by
  let pstate := call.range msrPstateS 2 0
  let addr := msrPstate0 + pstate.2.setWidth 32
  let vid (id : CpuId) :=
    if id.x86.extFamily < 0x17 then call.range addr 15 9 else call.range addr 21 14
  refine (keeps_ite_intelCore
    (keeps_const ((fieldDouble (call.range msrPerfStatus 47 32)).map (·.div (.ofInt 8192))))
    (keeps_ite (isAmdOrHygon · = true)
      (keeps_reads fun id _ => .ok
        (if pstate.1.code + (vid id).1.code = 0 ∧ addr ≤ msrPstate7 then
          some ((Double.ofDecimal (155 / 100)).sub
            ((Double.ofDecimal (vidStep id)).mul (doubleOfUInt64 (vid id).2)))
        else none))
      (keeps_const none))).congr fun s _ => ?_
  simp only [getInfoVoltage]
  split
  · rfl
  · split
    · exact congrArg Except.ok (apply_ite (·, (msrIntelCoreSupported s).2) _ _ _).symm
    · rfl

theorem keeps_busClock (haddr : lastPstateLoop (some call.driver) 8 0 = addr) :
    KeepsReady err id cpuClock addr (getInfoBusClock call) := by
  let pstate := call.range msrPstateL 6 4
  have hamd := (@keeps_lastPstateAddr err id cpuClock _ call haddr).bind
    fun addr => keeps_reads fun id cpuClock => do
      let mult ← amdMultiplier call id cpuClock pstate.1 (addr - pstate.2.setWidth 32)
      .ok (mult.map (Double.ofInt cpuClock).div)
  have hintel := @keeps_reads err id cpuClock addr _
    fun _ cpuClock => .ok
      ((fieldDouble (call.range msrPlatformInfo 15 8)).map (Double.ofInt cpuClock).div)
  refine (keeps_ite_platformInfo hintel
    (keeps_ite (isAmdOrHygon · = true) hamd (keeps_const none))).congr fun s _ => ?_
  simp only [getInfoBusClock, ok_bind, bind_assoc]
  rfl

theorem keeps_msrSwitch (haddr : lastPstateLoop (some call.driver) 8 0 = addr)
    (which : CpuMsrinfoRequest) : KeepsReady err id cpuClock addr (msrSwitch call which) := by
  cases which with
  | mperf => exact keeps_const _
  | aperf => exact keeps_const _
  | minMultiplier => exact keeps_then (keeps_minMultiplier haddr) hundredths
  | curMultiplier => exact keeps_then keeps_curMultiplier hundredths
  | maxMultiplier => exact keeps_then keeps_maxMultiplier hundredths
  | temperature => exact keeps_temperature
  | throttling => exact keeps_const _
  | voltage => exact keeps_then keeps_voltage hundredths
  | bclk => exact keeps_then (keeps_busClock haddr) hundredths
  | busClock => exact keeps_then (keeps_busClock haddr) hundredths

end Ready

/-! ### Runs -/

/-- A call in a process whose first call was another one. -/
def MsrCall.identifiedBy (call first : MsrCall) : MsrCall :=
  { call with rawData := first.rawData, host := first.host, cpuClock := first.cpuClock }

/-- The variables of a process after this first call, and perhaps others. -/
def Identified (first : MsrCall) (s : MsrStatics) : Prop :=
  ∃ r id internal,
    cpuIdentInternal first.host first.rawData.2 = .ok (r, id, internal) ∧
    Ready (first.rawData.1.code + r.code) id first.cpuClock (lastPstateLoop (some first.driver) 8 0)
      s

section Runs

variable {first call : MsrCall}

theorem lastPstateLoop_congr
    (h : ∀ k < 8, IsEnabled call.driver k ↔ IsEnabled first.driver k) :
    lastPstateLoop (some call.driver) 8 0 = lastPstateLoop (some first.driver) 8 0 := by
  obtain ⟨k, hk, hlast⟩ := lastPstate_spec call.driver
  obtain ⟨k', hk', hlast'⟩ := lastPstate_spec first.driver
  rw [hk, hk', hlast.unique hlast' h]

/-- Only the first call is there to identify the processor. -/
theorem cpuMsrinfo_identifiedBy {s : MsrStatics} (hs : s.init = true) (which : CpuMsrinfoRequest) :
    cpuMsrinfo (call.identifiedBy first) which s = cpuMsrinfo call which s := by
  simp only [cpuMsrinfo, msrInit, hs, if_true, ok_bind]
  cases which <;> rfl

/-- What the first call finds. -/
theorem msrInit_start {r : CpuError} {id : CpuId} {internal : InternalIdInfo}
    (hident : cpuIdentInternal call.host call.rawData.2 = .ok (r, id, internal))
    (addr : BitVec 32) :
    ∃ s, msrInit call .start = .ok s ∧
      Ready (call.rawData.1.code + r.code) id call.cpuClock addr s := by
  have hinit : msrInit call .start = .ok { MsrStatics.start with
      err := call.rawData.1.code + r.code, id, cpuClock := call.cpuClock, init := true } := by
    rw [msrInit, hident]
    rfl
  exact ⟨_, hinit, rfl, rfl, rfl, rfl, nofun, nofun, .inl rfl⟩

theorem transparent_msrInit {r : CpuError} {id : CpuId} {internal : InternalIdInfo}
    (hident : cpuIdentInternal first.host first.rawData.2 = .ok (r, id, internal))
    (addr : BitVec 32) :
    Transparent
      (fun s => s = .start ∨ Ready (first.rawData.1.code + r.code) id first.cpuClock addr s)
      (Ready (first.rawData.1.code + r.code) id first.cpuClock addr)
      fun s => msrInit (call.identifiedBy first) s >>= fun s => .ok ((), s) := by
  refine ⟨.ok (), fun s hs => ?_⟩
  rcases hs with rfl | hs
  · obtain ⟨s, hinit, hready⟩ := @msrInit_start (call.identifiedBy first) r id internal hident addr
    simp only [hinit, ok_bind]
    refine ⟨rfl, ?_⟩
    rintro s ⟨⟩
    exact hready
  · have hinit : msrInit (call.identifiedBy first) s = .ok s := by rw [msrInit, if_pos hs.init]
    simp only [hinit, ok_bind]
    refine ⟨rfl, ?_⟩
    rintro s ⟨⟩
    exact hs

theorem transparent_cpuMsrinfo
    (h : ∀ k < 8, IsEnabled call.driver k ↔ IsEnabled first.driver k) (which : CpuMsrinfoRequest) :
    Transparent (fun s => s = .start ∨ Identified first s) (Identified first)
      (cpuMsrinfo (call.identifiedBy first) which) := by
  have haddr := lastPstateLoop_congr h
  cases hident : cpuIdentInternal first.host first.rawData.2 with
  | error e =>
    -- the first call does not return
    refine ⟨.error e, fun s hs => ?_⟩
    rcases hs with rfl | ⟨r, id, internal, hok, -⟩
    · have hcall : cpuMsrinfo (call.identifiedBy first) which .start = .error e := by
        have hident' : cpuIdentInternal (call.identifiedBy first).host
            (call.identifiedBy first).rawData.2 = .error e := hident
        rw [cpuMsrinfo, msrInit, hident']
        rfl
      rw [hcall]
      exact ⟨rfl, fun r hr => by cases hr⟩
    · rw [hident] at hok
      cases hok
  | ok x =>
    obtain ⟨r, id, internal⟩ := x
    have hswitch := (@transparent_msrInit first call _ _ _ hident _).bind fun _ =>
      Transparent.ite (C := first.rawData.1.code + r.code ≠ 0) (c := fun s => s.err ≠ 0)
        (fun s hs => by rw [hs.error]) (keeps_const cpuInvalidValue)
        (@keeps_msrSwitch _ _ _ _ (call.identifiedBy first) haddr which)
    obtain ⟨x, hx⟩ := hswitch
    refine ⟨x, fun s hs => ?_⟩
    have hs' : s = .start ∨ Ready (first.rawData.1.code + r.code) id first.cpuClock
        (lastPstateLoop (some first.driver) 8 0) s := by
      refine hs.imp_right ?_
      rintro ⟨r', id', internal', hok, hready⟩
      rw [hident] at hok
      obtain ⟨⟩ := hok
      exact hready
    have hcall : cpuMsrinfo (call.identifiedBy first) which s =
        (msrInit (call.identifiedBy first) s >>= fun s => (.ok ((), s) : Checked _)) >>= fun p =>
          if p.2.err ≠ 0 then .ok (cpuInvalidValue, p.2)
          else msrSwitch (call.identifiedBy first) which p.2 := by
      rw [cpuMsrinfo, bind_assoc]
      rfl
    obtain ⟨hfst, hready⟩ := hx s hs'
    rw [hcall]
    exact ⟨hfst, fun p hp => ⟨r, id, internal, hident, hready p hp⟩⟩

end Runs

/-- In a run of calls whose CPUs have the same enabled P-states, each call gives what it gives as
the first call of a process which finds the processor and the clock of the first call of the run. -/
theorem cpuMsrinfo_run (first : MsrCall) (which : CpuMsrinfoRequest)
    (calls : List (MsrCall × CpuMsrinfoRequest))
    (hsame : ∀ c ∈ calls, ∀ k < 8, IsEnabled c.1.driver k ↔ IsEnabled first.driver k) :
    (runCalls (fun c => cpuMsrinfo c.1 c.2) ((first, which) :: calls) .start).map Prod.fst =
      ((first, which) :: calls).mapM fun c =>
        (cpuMsrinfo (c.1.identifiedBy first) c.2 .start).map Prod.fst := by
  have htransparent : ∀ c ∈ (first, which) :: calls,
      Transparent (fun s => s = .start ∨ Identified first s) (Identified first)
        (cpuMsrinfo (c.1.identifiedBy first) c.2) := by
    intro c hc
    rcases List.mem_cons.mp hc with rfl | hc
    · exact transparent_cpuMsrinfo (fun k _ => Iff.rfl) which
    · exact transparent_cpuMsrinfo (hsame c hc) c.2
  rw [← runCalls_eq_mapM (P := fun s => s = .start ∨ Identified first s) (.inl rfl)
    (fun c hc => (htransparent c hc).mono fun _ => .inr) (.inl rfl)]
  congr 1
  have hfirst : cpuMsrinfo (first.identifiedBy first) which .start =
    cpuMsrinfo first which .start := rfl
  refine runCalls_cons_congr hfirst.symm fun a s hs => ?_
  have hidentified : Identified first s :=
    (htransparent _ (List.mem_cons_self ..)).preserves (.inl rfl) (hfirst.trans hs)
  -- the later calls do not identify anything
  have heq (c : MsrCall × CpuMsrinfoRequest) (s : MsrStatics) (hs : Identified first s) :
      cpuMsrinfo c.1 c.2 s = cpuMsrinfo (c.1.identifiedBy first) c.2 s := by
    obtain ⟨r, id, internal, -, hready⟩ := hs
    exact (cpuMsrinfo_identifiedBy hready.init c.2).symm
  refine runCalls_congr (fun c hc s a s' hs h => ?_) (fun c _ => heq c) hidentified
  rw [heq c s hs] at h
  exact (htransparent c (List.mem_cons_of_mem _ hc)).preserves (.inr hs) h

/-- The raw record of a processor of family 17h. -/
def zenRaw : CpuRawData :=
  { CpuRawData.zero with
    basicCpuid := fun i =>
      if i = 0 then { eax := 0xd, ebx := 0x68747541, ecx := 0x444d4163, edx := 0x69746e65 }
      else if i = 1 then { eax := 0x00800f11, ebx := 0, ecx := 0, edx := 0x20 }
      else .zero
    extCpuid := fun i =>
      if i = 0 then { eax := 0x8000001e, ebx := 0x68747541, ecx := 0x444d4163, edx := 0x69746e65 }
      else .zero }

/-- Its registers, with two enabled P-states of multipliers 36 and 25.6.  It is in one of them. -/
def twoPstates (current : BitVec 64) : MsrDriver := fun msrIndex =>
  if msrIndex = msrPstateS then some current
  else if msrIndex = msrPstate0 then some 0x8000000049120890
  else if msrIndex = 0xc0010065 then some 0x8000000045160a80
  else none

/-- A call on that processor. -/
def twoPstatesCall (current : BitVec 64) : MsrCall where
  rawData := (.ok, zenRaw)
  host := { execCpuid := fun _ _ => ⟨0, 0, 0, 0⟩, totalCpus := 1 }
  cpuClock := 3600
  driver := twoPstates current
  later := twoPstates current
  clockBefore := 0
  clockAfter := 1
  uninit := 0

/-- A run of three calls, before and after the processor changes its P-state. -/
def twoPstatesRun : List (MsrCall × CpuMsrinfoRequest) :=
  [(twoPstatesCall 0, .minMultiplier), (twoPstatesCall 1, .curMultiplier),
    (twoPstatesCall 0, .curMultiplier)]

/-- The answers are the multiplier of the last P-state, once more as the current one, and that of the
first P-state. -/
theorem cpuMsrinfo_run_twoPstates :
    (runCalls (fun c => cpuMsrinfo c.1 c.2) twoPstatesRun .start).map Prod.fst =
      .ok [2560, 2560, 3600] ∧
    (runCalls (fun c => cpuMsrinfo c.1 c.2) twoPstatesRun .start).map Prod.fst =
      twoPstatesRun.mapM fun c =>
        (cpuMsrinfo (c.1.identifiedBy (twoPstatesCall 0)) c.2 .start).map Prod.fst := by
  constructor
  · have hrun : yields (runCalls (fun c => cpuMsrinfo c.1 c.2) twoPstatesRun .start)
        (fun r => decide (r.1 = [2560, 2560, 3600])) = true := by decide +kernel
    obtain ⟨s, h⟩ := exists_of_yields_fst hrun
    rw [h]
    rfl
  · apply cpuMsrinfo_run (twoPstatesCall 0) .minMultiplier
      [(twoPstatesCall 1, .curMultiplier), (twoPstatesCall 0, .curMultiplier)]
    intro c hc k hk
    have hne : ∀ k < 8, pstateAddr k ≠ msrPstateS := by decide
    have hread (current : BitVec 64) : (twoPstatesCall current).driver (pstateAddr k) =
        (twoPstatesCall 0).driver (pstateAddr k) :=
      (if_neg (hne k hk)).trans (if_neg (hne k hk)).symm
    rw [IsEnabled, IsEnabled]
    simp only [List.mem_cons, List.not_mem_nil, or_false] at hc
    rcases hc with rfl | rfl <;> rw [hread]

end LibCpuid
