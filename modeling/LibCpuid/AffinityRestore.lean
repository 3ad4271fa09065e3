import LibCpuid.GetRawData

/-! Which affinity the thread has after `cpuid_get_raw_data_core` and `cpuid_get_all_raw_data`, on a
system whose affinity calls succeed or fail without effect. -/

namespace LibCpuid

open CLang

section Restore

variable {Affinity : Type} (host : ThreadHost Affinity) (setOk : BitVec 16 → Bool)
  (pin : BitVec 16 → Affinity)

/-- `set_cpu_affinity` binds the thread to a logical CPU or fails without effect. -/
def ThreadHost.Sets : Prop :=
  ∀ logicalCpu affinity, host.setCpuAffinity logicalCpu affinity =
    .ok (if setOk logicalCpu then (true, pin logicalCpu) else (false, affinity))

/-- The affinity under which the registers of a logical CPU are read. -/
def boundTo (logicalCpu : BitVec 16) (affinity : Affinity) : Affinity :=
  if logicalCpu ≠ anyLogicalCpu ∧ setOk logicalCpu then pin logicalCpu else affinity

/-- The arguments that `cpuid_get_raw_data_core` refuses. -/
def Refused (logicalCpu : BitVec 16) : Prop :=
  logicalCpu ≠ anyLogicalCpu ∧ setOk logicalCpu = false ∧ logicalCpu ≠ 0

instance (logicalCpu : BitVec 16) : Decidable (Refused setOk logicalCpu) :=
  inferInstanceAs (Decidable (_ ∧ _ ∧ _))

variable {host setOk pin}

/-- The affinity that is saved is the one just set. -/
theorem bindThread_spec (h : host.Sets setOk pin) (logicalCpu : BitVec 16)
    (s : ThreadState Affinity) :
    ∃ affinitySaved s', bindThread host logicalCpu s =
        .ok (if Refused setOk logicalCpu then none else some affinitySaved, s') ∧
      s'.affinity = boundTo setOk pin logicalCpu s.affinity ∧
      (affinitySaved = true → s'.savedAffinity = s'.affinity) := by
  unfold bindThread Refused boundTo
  by_cases hany : logicalCpu = anyLogicalCpu
  · exact ⟨false, s, by simp [hany], by simp [hany], fun hsaved => by cases hsaved⟩
  · rw [if_neg hany, h logicalCpu s.affinity, ok_bind]
    by_cases hset : setOk logicalCpu = true
    · refine ⟨host.saveOk logicalCpu, (saveCpuAffinity host logicalCpu
        { s with affinity := pin logicalCpu }).2, ?_⟩
      unfold saveCpuAffinity
      cases host.saveOk logicalCpu <;> simp [hany, hset]
    · refine ⟨false, s, ?_, by simp [hset], fun hsaved => by cases hsaved⟩
      by_cases hzero : logicalCpu = 0#16
      · subst hzero
        simp [hset]
      · have hpos : 0#16 < logicalCpu := (BitVec.pos_iff_ne_zero _).mpr hzero
        simp [hany, hset, hzero, hpos]

theorem restoreCpuAffinity_of_eq {logicalCpu : BitVec 16} {s : ThreadState Affinity}
    (h : s.savedAffinity = s.affinity) : restoreCpuAffinity host logicalCpu s = s := by
  obtain ⟨affinity, savedAffinity⟩ := s
  obtain rfl : savedAffinity = affinity := h
  unfold restoreCpuAffinity
  split <;> rfl

theorem cpuidGetRawDataCore_spec (h : host.Sets setOk pin) (data : CpuRawData)
    (logicalCpu : BitVec 16) (s : ThreadState Affinity) :
    ∃ s', s'.affinity = boundTo setOk pin logicalCpu s.affinity ∧
      cpuidGetRawDataCore host data logicalCpu s = .ok
        (if Refused setOk logicalCpu then (.invCnb, data, s')
        else
          match readRegisters host.platform
              (host.machine logicalCpu (boundTo setOk pin logicalCpu s.affinity)) data with
          | none => (.noCpuid, data, s')
          | some data => (.ok, data, s')) := by
  obtain ⟨affinitySaved, s', hbind, haff, hsaved⟩ := bindThread_spec h logicalCpu s
  refine ⟨s', haff, ?_⟩
  rw [cpuidGetRawDataCore, hbind, ok_bind, ← haff]
  by_cases hrefused : Refused setOk logicalCpu
  · simp only [hrefused, if_true]
  · simp only [hrefused, if_false]
    cases readRegisters host.platform (host.machine logicalCpu s'.affinity) data with
    | none => rfl
    | some data =>
      cases affinitySaved with
      | true => simp only [if_true, restoreCpuAffinity_of_eq (hsaved rfl)]
      | false => rfl

theorem cpuidGetRawDataCore_ok (h : host.Sets setOk pin) {data data' : CpuRawData}
    {logicalCpu : BitVec 16} {s s' : ThreadState Affinity} {r : CpuError}
    (hcore : cpuidGetRawDataCore host data logicalCpu s = .ok (r, data', s')) :
    s'.affinity = boundTo setOk pin logicalCpu s.affinity ∧
      (r = .ok ↔ ¬Refused setOk logicalCpu ∧
        (readRegisters host.platform
          (host.machine logicalCpu (boundTo setOk pin logicalCpu s.affinity)) data).isSome) := by
  obtain ⟨s1, haff, hspec⟩ := cpuidGetRawDataCore_spec h data logicalCpu s
  rw [hspec, Except.ok.injEq] at hcore
  by_cases hrefused : Refused setOk logicalCpu
  · rw [if_pos hrefused, Prod.mk.injEq, Prod.mk.injEq] at hcore
    obtain ⟨rfl, -, rfl⟩ := hcore
    exact ⟨haff, by simp [hrefused]⟩
  · rw [if_neg hrefused] at hcore
    split at hcore
    all_goals
      rw [Prod.mk.injEq, Prod.mk.injEq] at hcore
      obtain ⟨rfl, -, rfl⟩ := hcore
      exact ⟨haff, by simp [*]⟩

/-! ### The loop over all logical CPUs -/

theorem toNat_succ {logicalCpu : BitVec 16} (h : logicalCpu ≠ anyLogicalCpu) :
    (logicalCpu + 1).toNat = logicalCpu.toNat + 1 := by
  have hlt : logicalCpu.toNat < 65535 := by
    refine lt_of_le_of_ne (by omega) fun heq => h (BitVec.eq_of_toNat_eq heq)
  rw [BitVec.toNat_add]
  exact Nat.mod_eq_of_lt (show logicalCpu.toNat + 1 < 2 ^ 16 by omega)

theorem ne_any_of_lt {logicalCpu c : BitVec 16} (h : logicalCpu < c) :
    logicalCpu ≠ anyLogicalCpu := by
  rintro rfl
  have hlt := c.isLt
  rw [BitVec.lt_def, show anyLogicalCpu.toNat = 65535 from rfl] at h
  omega

theorem eq_or_lt {logicalCpu c : BitVec 16} (h : logicalCpu ≤ c) :
    c = logicalCpu ∨ logicalCpu < c := by
  rw [BitVec.le_def] at h
  rw [BitVec.lt_def]
  exact (Nat.eq_or_lt_of_le h).imp_left fun heq => BitVec.eq_of_toNat_eq heq.symm

theorem lt_succ_iff {logicalCpu c : BitVec 16} (h : logicalCpu ≠ anyLogicalCpu) :
    c < logicalCpu + 1 ↔ c ≤ logicalCpu := by
  rw [BitVec.lt_def, toNat_succ h, BitVec.le_def]
  omega

theorem succ_le_iff {logicalCpu c : BitVec 16} (h : logicalCpu ≠ anyLogicalCpu) :
    logicalCpu + 1 ≤ c ↔ logicalCpu < c := by
  rw [BitVec.le_def, toNat_succ h, BitVec.lt_def]
  omega

variable (host setOk pin)

/-- The loop goes on behind a logical CPU: it is not refused, and its registers can be read. -/
def GoesOn (initial : Affinity) (logicalCpu : BitVec 16) : Prop :=
  ¬Refused setOk logicalCpu ∧
    (readRegisters host.platform
      (host.machine logicalCpu (boundTo setOk pin logicalCpu initial)) .zero).isSome

/-- The loop gets to a logical CPU and binds the thread to it. -/
def Pinned (initial : Affinity) (logicalCpu : BitVec 16) : Prop :=
  logicalCpu ≠ anyLogicalCpu ∧ setOk logicalCpu = true ∧
    ∀ c < logicalCpu, GoesOn host setOk pin initial c

/-- The last logical CPU that the loop binds the thread to. -/
def LastPinned (initial : Affinity) (logicalCpu : BitVec 16) : Prop :=
  Pinned host setOk pin initial logicalCpu ∧ ¬Pinned host setOk pin initial (logicalCpu + 1)

variable {host setOk pin}

theorem cpuidGetRawDataCore_goesOn (h : host.Sets setOk pin) {initial : Affinity}
    {logicalCpu : BitVec 16} {data : CpuRawData} {s s' : ThreadState Affinity} {r : CpuError}
    (hne : logicalCpu ≠ anyLogicalCpu) (hfirst : logicalCpu = 0 → s.affinity = initial)
    (hcore : cpuidGetRawDataCore host .zero logicalCpu s = .ok (r, data, s')) :
    r = .ok ↔ GoesOn host setOk pin initial logicalCpu := by
  rw [(cpuidGetRawDataCore_ok h hcore).2, GoesOn, and_congr_right_iff]
  intro hrefused
  have hsame : boundTo setOk pin logicalCpu s.affinity =
      boundTo setOk pin logicalCpu initial := by
    by_cases hset : setOk logicalCpu = true
    · simp [boundTo, hne, hset]
    · have hzero : logicalCpu = 0 := by
        by_contra hzero
        exact hrefused ⟨hne, Bool.eq_false_of_not_eq_true hset, hzero⟩
      rw [hfirst hzero]
  rw [hsame]

theorem not_pinned_of_gt {initial : Affinity} {logicalCpu c : BitVec 16}
    (h : ¬GoesOn host setOk pin initial logicalCpu) (hc : logicalCpu < c) :
    ¬Pinned host setOk pin initial c :=
  fun hpinned => h (hpinned.2.2 logicalCpu hc)

/-- From a logical CPU on, the thread is left where the loop binds it last, or as it was. -/
theorem getAllLoop_affinity (h : host.Sets setOk pin) {initial : Affinity}
    {logicalCpu : BitVec 16} {data data' : CpuRawDataArray} {s s' : ThreadState Affinity}
    {r : CpuError} (hreached : ∀ c < logicalCpu, GoesOn host setOk pin initial c)
    (hfirst : logicalCpu = 0 → s.affinity = initial)
    (hret : getAllLoop host logicalCpu data s = .ok (r, data', s')) :
    (∃ last ≥ logicalCpu, LastPinned host setOk pin initial last ∧ s'.affinity = pin last) ∨
      ((∀ c ≥ logicalCpu, ¬Pinned host setOk pin initial c) ∧ s'.affinity = s.affinity) := by
  fun_induction getAllLoop host logicalCpu data s with
  | case1 logicalCpu data s f hcore => cases hret
  | case2 logicalCpu data s r1 rawTmp s1 hcore hr =>
    obtain ⟨rfl, -, rfl⟩ : r1 = r ∧ data = data' ∧ s1 = s' := by simpa using hret
    obtain ⟨haff, -⟩ := cpuidGetRawDataCore_ok h hcore
    have hstop (hne : logicalCpu ≠ anyLogicalCpu) {c : BitVec 16} (hc : logicalCpu < c) :
        ¬Pinned host setOk pin initial c :=
      not_pinned_of_gt ((cpuidGetRawDataCore_goesOn h hne hfirst hcore).not.mp hr) hc
    by_cases hbinds : logicalCpu ≠ anyLogicalCpu ∧ setOk logicalCpu = true
    · refine .inl ⟨logicalCpu, BitVec.le_refl _, ⟨⟨hbinds.1, hbinds.2, hreached⟩, ?_⟩, ?_⟩
      · exact hstop hbinds.1 ((lt_succ_iff hbinds.1).mpr (BitVec.le_refl _))
      · rw [haff, boundTo, if_pos hbinds]
    · refine .inr ⟨fun c hc hpinned => ?_, by rw [haff, boundTo, if_neg hbinds]⟩
      rcases eq_or_lt hc with rfl | hlt
      · exact hbinds ⟨hpinned.1, hpinned.2.1⟩
      · exact hstop (ne_any_of_lt hlt) hlt hpinned
  | case3 logicalCpu data s r1 rawTmp s1 hcore hr grown hlt ih =>
    have hne : logicalCpu ≠ anyLogicalCpu := by
      rintro rfl
      have hroom := grown.numRaw_lt
      rw [show anyLogicalCpu.toNat = 65535 from rfl] at hlt
      omega
    obtain rfl : r1 = .ok := not_not.mp hr
    obtain ⟨haff, -⟩ := cpuidGetRawDataCore_ok h hcore
    have hgoes := (cpuidGetRawDataCore_goesOn h hne hfirst hcore).mp rfl
    have hreached' : ∀ c < logicalCpu + 1, GoesOn host setOk pin initial c := by
      intro c hc
      rcases eq_or_lt ((lt_succ_iff hne).mp hc) with rfl | hc
      · exact hgoes
      · exact hreached c hc
    have hzero : logicalCpu + 1 = 0 → s1.affinity = initial := by
      intro hzero
      have := congrArg BitVec.toNat hzero
      rw [toNat_succ hne] at this
      cases this
    rcases ih hreached' hzero hret with ⟨last, hle, hlast, hpin⟩ | ⟨hnone, hsame⟩
    · exact .inl ⟨last, BitVec.le_of_lt ((succ_le_iff hne).mp hle), hlast, hpin⟩
    · by_cases hset : setOk logicalCpu = true
      · refine .inl ⟨logicalCpu, BitVec.le_refl _, ⟨⟨hne, hset, hreached⟩, ?_⟩, ?_⟩
        · exact hnone _ (BitVec.le_refl _)
        · rw [hsame, haff, boundTo, if_pos ⟨hne, hset⟩]
      · refine .inr ⟨fun c hc hpinned => ?_, ?_⟩
        · rcases eq_or_lt hc with rfl | hc
          · exact hset hpinned.2.1
          · exact hnone c ((succ_le_iff hne).mpr hc) hpinned
        · rw [hsame, haff, boundTo, if_neg fun hbinds => hset hbinds.2]
  | case4 => cases hret

theorem LastPinned.le {initial : Affinity} {x y : BitVec 16}
    (hx : LastPinned host setOk pin initial x) (hy : Pinned host setOk pin initial y) : y ≤ x := by
  by_contra hlt
  have hxy : x < y := by
    rw [BitVec.le_def] at hlt
    exact BitVec.lt_def.mpr (Nat.lt_of_not_le hlt)
  have hne := ne_any_of_lt hxy
  have hle : x + 1 ≤ y := (succ_le_iff hne).mpr hxy
  -- the loop is at `x + 1` on its way to `y`
  refine hx.2 ⟨?_, ?_, fun c hc => hy.2.2 c ?_⟩
  · rcases eq_or_lt hle with rfl | hlt
    · exact hy.1
    · exact ne_any_of_lt hlt
  · rcases eq_or_lt hle with rfl | hlt
    · exact hy.2.1
    · by_contra hset
      refine (hy.2.2 _ hlt).1 ⟨ne_any_of_lt hlt, Bool.eq_false_of_not_eq_true hset, fun h0 => ?_⟩
      have := congrArg BitVec.toNat h0
      rw [toNat_succ hne] at this
      cases this
  · have hcx := (lt_succ_iff hne).mp hc
    rw [BitVec.le_def] at hcx
    exact BitVec.lt_def.mpr (Nat.lt_of_le_of_lt hcx (BitVec.lt_def.mp hxy))

theorem LastPinned.unique {initial : Affinity} {x y : BitVec 16}
    (hx : LastPinned host setOk pin initial x) (hy : LastPinned host setOk pin initial y) :
    x = y := by
  have hyx := BitVec.le_def.mp (hx.le hy.1)
  have hxy := BitVec.le_def.mp (hy.le hx.1)
  exact BitVec.eq_of_toNat_eq (Nat.le_antisymm hxy hyx)

/-- The affinity is the one before the call when the thread is not bound, or is bound last to where
it was: what is restored is saved too late. -/
theorem affinityRestored_iff (h : host.Sets setOk pin) (s : ThreadState Affinity) :
    (∀ data logicalCpu,
      (∃ r data' s', cpuidGetRawDataCore host data logicalCpu s = .ok (r, data', s') ∧
          s'.affinity = s.affinity) ↔
        (logicalCpu ≠ anyLogicalCpu → setOk logicalCpu = true → pin logicalCpu = s.affinity)) ∧
    ∀ r data s', cpuidGetAllRawData host s = .ok (r, data, s') →
      (s'.affinity = s.affinity ↔
        ∀ last, LastPinned host setOk pin s.affinity last → pin last = s.affinity) := by
  constructor
  · intro data logicalCpu
    obtain ⟨s1, haff, hspec⟩ := cpuidGetRawDataCore_spec h data logicalCpu s
    have hbound : s1.affinity = s.affinity ↔
        (logicalCpu ≠ anyLogicalCpu → setOk logicalCpu = true → pin logicalCpu = s.affinity) := by
      rw [haff, boundTo, ← and_imp]
      split
      case isTrue hbinds => exact ⟨fun heq _ => heq, fun himp => himp hbinds⟩
      case isFalse hnot => exact iff_of_true rfl fun hbinds => absurd hbinds hnot
    rw [← hbound, hspec]
    constructor
    · rintro ⟨r, data', s', hcore, hsame⟩
      split at hcore
      · cases hcore
        exact hsame
      · split at hcore <;>
        · cases hcore
          exact hsame
    · intro hsame
      split
      · exact ⟨_, _, _, rfl, hsame⟩
      · split <;> exact ⟨_, _, _, rfl, hsame⟩
  · intro r data s' hret
    obtain ⟨⟨r1, data1, s1⟩, hloop, hend⟩ := bind_eq_ok.mp hret
    obtain rfl : s1 = s' := (Prod.mk.inj (Prod.mk.inj (Except.ok.inj hend)).2).2
    have hreached : ∀ c < (0 : BitVec 16), GoesOn host setOk pin s.affinity c :=
      fun c hc => absurd hc (BitVec.not_lt_zero)
    rcases getAllLoop_affinity h hreached (fun _ => rfl) hloop with
      ⟨last, -, hlast, haff⟩ | ⟨hnone, haff⟩
    · rw [haff]
      exact ⟨fun heq last' hlast' => hlast.unique hlast' ▸ heq, fun hall => hall last hlast⟩
    · refine iff_of_true haff fun last hlast => absurd hlast.1 (hnone last ?_)
      exact BitVec.le_def.mpr (Nat.zero_le _)

end Restore

/-- A system with two logical CPUs, on which every call for them succeeds.  An affinity is a mask of
logical CPUs. -/
def twoCpuHost : ThreadHost Nat where
  platform := .x86
  hasSetCpuAffinity := true
  setCpuAffinity logicalCpu affinity :=
    .ok (if logicalCpu.toNat < 2 then (true, 2 ^ logicalCpu.toNat) else (false, affinity))
  saveOk _ := true
  restoreOk _ := true
  reallocOk _ := true
  machine _ _ :=
    { cpuidPresent := true
      execCpuid := fun _ _ => .zero
      driver := none
      execMrs := fun _ => 0
      execMrsArray := fun _ _ => 0 }

theorem sets_twoCpuHost :
    twoCpuHost.Sets (fun logicalCpu => logicalCpu.toNat < 2) fun logicalCpu =>
      2 ^ logicalCpu.toNat := by
  intro logicalCpu affinity
  simp only [twoCpuHost, decide_eq_true_eq]

/-- A thread that runs on the logical CPU alone already stays there. -/
theorem affinityRestored_twoCpuHost :
    ∃ r data s', cpuidGetRawDataCore twoCpuHost .zero 1 ⟨2, 2⟩ = .ok (r, data, s') ∧
      s'.affinity = 2 :=
  ((affinityRestored_iff sets_twoCpuHost ⟨2, 2⟩).1 .zero 1).mpr fun _ _ => rfl

/-- A thread that may run on both is left on one of them, though every call succeeds. -/
theorem affinity_lost_twoCpuHost :
    (∃ data s', cpuidGetRawDataCore twoCpuHost .zero 0 ⟨3, 3⟩ = .ok (.ok, data, s') ∧
      s'.affinity = 1) ∧
    ∃ data s', cpuidGetAllRawData twoCpuHost ⟨3, 3⟩ = .ok (.ok, data, s') ∧ data.numRaw = 2 ∧
      s'.affinity = 2 := by
  have hfirst (s : ThreadState Nat) : cpuidGetRawDataCore twoCpuHost .zero 0 s =
      .ok (.ok, readX86 (twoCpuHost.machine 0 0) .zero, ⟨1, 1⟩) := rfl
  have hsecond : cpuidGetRawDataCore twoCpuHost .zero (0 + 1) ⟨1, 1⟩ =
      .ok (.ok, readX86 (twoCpuHost.machine 0 0) .zero, ⟨2, 2⟩) := rfl
  have hthird : cpuidGetRawDataCore twoCpuHost .zero (0 + 1 + 1) ⟨2, 2⟩ =
      .ok (.invCnb, .zero, ⟨2, 2⟩) := rfl
  refine ⟨⟨_, _, hfirst _, rfl⟩, ?_⟩
  rw [cpuidGetAllRawData, getAllLoop, hfirst]
  simp only [ne_eq, not_true_eq_false, if_false]
  rw [dif_pos (by decide), getAllLoop, hsecond]
  simp only [ne_eq, not_true_eq_false, if_false]
  rw [dif_pos (by decide), getAllLoop, hthird]
  exact ⟨_, _, rfl, rfl, rfl⟩

end LibCpuid
