import LibCpuid.AffinityRestore

/-! The variants of `set_cpu_affinity`, and for which numbers of logical CPUs they let the loop of
`cpuid_get_all_raw_data` end at the right one. -/

namespace LibCpuid

open CLang

/-! ### The variants -/

/-- The size of a `DWORD_PTR`. -/
inductive PointerSize
  | bits32 | bits64

def PointerSize.bits : PointerSize → Nat
  | .bits32 => 32
  | .bits64 => 64

/-- The systems for which `set_cpu_affinity` is more than a stub.  Windows before 0x0601 has one mask
for the thread, later ones have processor groups. -/
inductive AffinityVariant
  | apple | windowsGroups | windowsMask (size : PointerSize) | linux | sun | freeBsd | dragonFly
  | netBsd

/-- The calls that `set_cpu_affinity` makes.  `bindCpu` is the call for the set that holds one
logical CPU, or for its number; `bindGroup` and `bindMask` take masks. -/
structure AffinityCalls (Affinity : Type) where
  totalCpus : Int
  groups : List Nat
  userMayBind : Bool
  cpusetCreate : Bool
  bindCpu : Nat → Affinity → Bool × Affinity
  bindGroup : Nat → BitVec 64 → Affinity → Bool × Affinity
  bindMask : Nat → Affinity → Bool × Affinity

/-- `1ULL << n`. -/
def shiftOne (n : Nat) : Checked (BitVec 64) :=
  if n < 64 then .ok (1#64 <<< n) else .error .shiftTooFar

/-- The loop over the processor groups, with the number of the group and `total_processors`. -/
def findGroup (logicalCpu : Nat) : List Nat → Nat → Nat → Option (Nat × Nat)
  | [], _, _ => none
  | processors :: rest, group, totalProcessors =>
    if totalProcessors + processors > logicalCpu then some (group, logicalCpu - totalProcessors)
    else findGroup logicalCpu rest (group + 1) (totalProcessors + processors)

section Variants

variable {Affinity : Type} (calls : AffinityCalls Affinity) (logicalCpu : BitVec 16)
  (affinity : Affinity)

def setCpuAffinityApple : Checked (Bool × Affinity) :=
  if (logicalCpu.toNat : Int) ≥ calls.totalCpus then .ok (false, affinity)
  else .ok (calls.bindCpu logicalCpu.toNat affinity)

def setCpuAffinityWindowsGroups : Checked (Bool × Affinity) :=
  match findGroup logicalCpu.toNat calls.groups 0 0 with
  | none => .ok (false, affinity)
  | some (group, number) => do
    let mask ← shiftOne number
    .ok (calls.bindGroup group mask affinity)

/-- The value -1 that the check returns is true as a `bool`. -/
def setCpuAffinityWindowsMask (size : PointerSize) : Checked (Bool × Affinity) :=
  if logicalCpu.toNat > size.bits then .ok (true, affinity)
  else do
    let mask ← shiftOne logicalCpu.toNat
    .ok (calls.bindMask (mask.toNat % 2 ^ size.bits) affinity)

/-- The variant of Linux, FreeBSD and DragonFly BSD. -/
def setCpuAffinitySet : Checked (Bool × Affinity) :=
  .ok (calls.bindCpu logicalCpu.toNat affinity)

/-- The bound is the number of bits of a `processorid_t`; here too -1 is true. -/
def setCpuAffinitySun : Checked (Bool × Affinity) :=
  if logicalCpu.toNat > 32 then .ok (true, affinity)
  else .ok (calls.bindCpu logicalCpu.toNat affinity)

def setCpuAffinityNetBsd : Checked (Bool × Affinity) :=
  if (logicalCpu.toNat : Int) ≥ calls.totalCpus then .ok (false, affinity)
  else if calls.userMayBind = false then .ok (false, affinity)
  else if calls.cpusetCreate = false then .ok (false, affinity)
  else .ok (calls.bindCpu logicalCpu.toNat affinity)

/-- `set_cpu_affinity`. -/
def setCpuAffinity : AffinityVariant → Checked (Bool × Affinity)
  | .apple => setCpuAffinityApple calls logicalCpu affinity
  | .windowsGroups => setCpuAffinityWindowsGroups calls logicalCpu affinity
  | .windowsMask size => setCpuAffinityWindowsMask calls logicalCpu affinity size
  | .linux | .freeBsd | .dragonFly => setCpuAffinitySet calls logicalCpu affinity
  | .sun => setCpuAffinitySun calls logicalCpu affinity
  | .netBsd => setCpuAffinityNetBsd calls logicalCpu affinity

end Variants

/-- The logical CPUs 0 to `n - 1` and no others can be bound to; no group has more than 64.  Where the
set of logical CPUs has a fixed size, `bindCpu` says that it has room for each of them too. -/
structure AffinityCalls.Schedules {Affinity : Type} (calls : AffinityCalls Affinity) (n : Nat)
    (pin : Nat → Affinity) : Prop where
  totalCpus : calls.totalCpus = n
  groups : calls.groups.sum = n
  group_le : ∀ processors ∈ calls.groups, processors ≤ 64
  userMayBind : calls.userMayBind = true
  cpusetCreate : calls.cpusetCreate = true
  bindCpu : ∀ i affinity,
    calls.bindCpu i affinity = if i < n then (true, pin i) else (false, affinity)
  bindGroup : ∀ group number affinity, number < calls.groups.getD group 0 →
    calls.bindGroup group (1#64 <<< number) affinity =
      (true, pin ((calls.groups.take group).sum + number))
  bindMask : ∀ i affinity,
    calls.bindMask (2 ^ i) affinity = if i < n then (true, pin i) else (false, affinity)
  bindMask_zero : ∀ affinity, calls.bindMask 0 affinity = (false, affinity)

/-- The numbers of logical CPUs that a variant can do with. -/
def AffinityVariant.Supports : AffinityVariant → Nat → Prop
  | .sun, n => n ≤ 32
  | .windowsMask .bits32, n => n ≤ 32
  | .windowsMask .bits64, n => n < 64
  | _, _ => True

/-! ### What a variant does for one logical CPU -/

section Calls

variable {Affinity : Type} {calls : AffinityCalls Affinity} {n : Nat} {pin : Nat → Affinity}

theorem shiftOne_of_lt {n : Nat} (h : n < 64) : shiftOne n = .ok (1#64 <<< n) := if_pos h

theorem toNat_shiftOne {n : Nat} (h : n < 64) : (1#64 <<< n).toNat = 2 ^ n := by
  rw [BitVec.toNat_shiftLeft, Nat.shiftLeft_eq]
  exact (Nat.mod_eq_of_lt (by
    simpa using Nat.pow_lt_pow_right (by decide : 1 < 2) h)).trans (Nat.one_mul _)

theorem findGroup_of_le {logicalCpu : Nat} {groups : List Nat} {group total : Nat}
    (h : total + groups.sum ≤ logicalCpu) : findGroup logicalCpu groups group total = none := by
  induction groups generalizing group total with
  | nil => rfl
  | cons processors rest ih =>
    rw [List.sum_cons] at h
    rw [findGroup, if_neg (by omega), ih (by omega)]

theorem findGroup_of_lt {logicalCpu : Nat} {groups : List Nat} {group total : Nat}
    (hle : total ≤ logicalCpu) (hlt : logicalCpu < total + groups.sum) :
    ∃ k number, findGroup logicalCpu groups group total = some (group + k, number) ∧
      number < groups.getD k 0 ∧ total + (groups.take k).sum + number = logicalCpu := by
  induction groups generalizing group total with
  | nil =>
    rw [List.sum_nil] at hlt
    omega
  | cons processors rest ih =>
    rw [findGroup]
    split
    case isTrue hhere =>
      refine ⟨0, logicalCpu - total, rfl, ?_, ?_⟩
      · rw [List.getD_cons_zero]
        omega
      · rw [List.take_zero, List.sum_nil]
        omega
    case isFalse hnot =>
      rw [List.sum_cons] at hlt
      obtain ⟨k, number, hfind, hnumber, hsum⟩ :=
        @ih (group + 1) (total + processors) (by omega) (by omega)
      refine ⟨k + 1, number, ?_, ?_, ?_⟩
      · rw [hfind, Nat.add_assoc, Nat.add_comm 1]
      · rwa [List.getD_cons_succ]
      · rw [List.take_succ_cons, List.sum_cons]
        omega

theorem setCpuAffinityWindowsGroups_eq (h : calls.Schedules n pin) (logicalCpu : BitVec 16)
    (affinity : Affinity) :
    setCpuAffinityWindowsGroups calls logicalCpu affinity =
      .ok (if logicalCpu.toNat < n then (true, pin logicalCpu.toNat) else (false, affinity)) := by
  unfold setCpuAffinityWindowsGroups
  by_cases hlt : logicalCpu.toNat < n
  · obtain ⟨k, number, hfind, hnumber, hsum⟩ := @findGroup_of_lt logicalCpu.toNat calls.groups 0 0
      (Nat.zero_le _) (by rwa [Nat.zero_add, h.groups])
    rw [Nat.zero_add] at hfind hsum
    have h64 : number < 64 := by
      refine hnumber.trans_le ?_
      rw [List.getD_eq_getElem?_getD]
      cases hget : calls.groups[k]? with
      | none => exact Nat.zero_le _
      | some processors => exact h.group_le _ (List.mem_of_getElem? hget)
    rw [hfind, if_pos hlt]
    simp only [shiftOne_of_lt h64, ok_bind, h.bindGroup k number affinity hnumber, hsum]
  · rw [findGroup_of_le (by rw [Nat.zero_add, h.groups]; exact Nat.le_of_not_lt hlt),
      if_neg hlt]

theorem setCpuAffinityWindowsMask_eq (h : calls.Schedules n pin) {size : PointerSize}
    {logicalCpu : BitVec 16} (hlt : logicalCpu.toNat < size.bits) (affinity : Affinity) :
    setCpuAffinityWindowsMask calls logicalCpu affinity size =
      .ok (if logicalCpu.toNat < n then (true, pin logicalCpu.toNat) else (false, affinity)) := by
  have h64 : logicalCpu.toNat < 64 := hlt.trans_le (by cases size <;> decide)
  unfold setCpuAffinityWindowsMask
  rw [if_neg (by omega), shiftOne_of_lt h64, ok_bind, toNat_shiftOne h64,
    Nat.mod_eq_of_lt (Nat.pow_lt_pow_right (by decide) hlt), h.bindMask]

/-- The bit behind the mask of 32 bits is cut off, and no CPU is left in the mask. -/
theorem setCpuAffinityWindowsMask_bits32 (h : calls.Schedules n pin) {logicalCpu : BitVec 16}
    (heq : logicalCpu.toNat = 32) (affinity : Affinity) :
    setCpuAffinityWindowsMask calls logicalCpu affinity .bits32 = .ok (false, affinity) := by
  unfold setCpuAffinityWindowsMask
  rw [heq, if_neg (by decide), shiftOne_of_lt (by decide), ok_bind, ← h.bindMask_zero affinity]
  rfl

theorem setCpuAffinityWindowsMask_bits64 {logicalCpu : BitVec 16}
    (heq : logicalCpu.toNat = 64) (affinity : Affinity) :
    setCpuAffinityWindowsMask calls logicalCpu affinity .bits64 = .error .shiftTooFar := by
  unfold setCpuAffinityWindowsMask
  rw [heq]
  rfl

/-- Where the loop of a supported host calls it, `set_cpu_affinity` tells the logical CPUs from the
first one that does not exist. -/
theorem setCpuAffinity_of_supports (h : calls.Schedules n pin) {variant : AffinityVariant}
    (hsupports : variant.Supports n) {logicalCpu : BitVec 16} (hle : logicalCpu.toNat ≤ n)
    (affinity : Affinity) :
    setCpuAffinity calls logicalCpu affinity variant =
      .ok (if logicalCpu.toNat < n then (true, pin logicalCpu.toNat) else (false, affinity)) := by
  cases variant with
  | apple =>
    simp only [setCpuAffinity, setCpuAffinityApple, h.totalCpus, h.bindCpu]
    by_cases hlt : logicalCpu.toNat < n <;> simp [hlt]
  | windowsGroups => exact setCpuAffinityWindowsGroups_eq h logicalCpu affinity
  | windowsMask size =>
    by_cases hbits : logicalCpu.toNat < size.bits
    · exact setCpuAffinityWindowsMask_eq h hbits affinity
    · -- only a mask of 32 bits is large enough for every logical CPU and too small for `n`
      cases size with
      | bits32 =>
        have hn : n ≤ 32 := hsupports
        have hnot : ¬logicalCpu.toNat < 32 := hbits
        have heq : logicalCpu.toNat = 32 := by omega
        rw [if_neg (by omega)]
        exact setCpuAffinityWindowsMask_bits32 h heq affinity
      | bits64 =>
        have hn : n < 64 := hsupports
        exact absurd (show logicalCpu.toNat < 64 by omega) hbits
  | linux | freeBsd | dragonFly => exact congrArg _ (h.bindCpu ..)
  | sun =>
    have hn : n ≤ 32 := hsupports
    simp only [setCpuAffinity, setCpuAffinitySun, h.bindCpu]
    rw [if_neg (by omega)]
  | netBsd =>
    simp only [setCpuAffinity, setCpuAffinityNetBsd, h.totalCpus, h.bindCpu, h.userMayBind,
      h.cpusetCreate]
    by_cases hlt : logicalCpu.toNat < n <;> simp [hlt]

theorem setCpuAffinitySun_true (h : calls.Schedules n pin) (hn : 32 < n) (logicalCpu : BitVec 16)
    (affinity : Affinity) :
    ∃ affinity', setCpuAffinitySun calls logicalCpu affinity = .ok (true, affinity') := by
  unfold setCpuAffinitySun
  split
  · exact ⟨_, rfl⟩
  · rw [h.bindCpu, if_pos (by omega)]
    exact ⟨_, rfl⟩

end Calls

/-! ### The loop -/

section Loop

variable {Affinity : Type} {host : ThreadHost Affinity}

theorem toNat_ofNat_of_lt {k : Nat} (hk : k < 65536) : (BitVec.ofNat 16 k).toNat = k := by
  rw [BitVec.toNat_ofNat]
  exact Nat.mod_eq_of_lt hk

theorem ofNat_ne_any {k : Nat} (hk : k < 65535) : BitVec.ofNat 16 k ≠ anyLogicalCpu := by
  intro h
  have := congrArg BitVec.toNat h
  rw [toNat_ofNat_of_lt (by omega), show anyLogicalCpu.toNat = 65535 from rfl] at this
  omega

/-- The registers can be read on every logical CPU. -/
def ThreadHost.CpuidPresent (host : ThreadHost Affinity) : Prop :=
  ∀ logicalCpu affinity,
    (readRegisters host.platform (host.machine logicalCpu affinity) .zero).isSome

theorem cpuidGetRawDataCore_of_set {logicalCpu : BitVec 16} {s : ThreadState Affinity}
    {affinity : Affinity} {raw : CpuRawData} (hne : logicalCpu ≠ anyLogicalCpu)
    (hset : host.setCpuAffinity logicalCpu s.affinity = .ok (true, affinity))
    (hread : readRegisters host.platform (host.machine logicalCpu affinity) .zero = some raw) :
    ∃ s', cpuidGetRawDataCore host .zero logicalCpu s = .ok (.ok, raw, s') := by
  unfold cpuidGetRawDataCore bindThread saveCpuAffinity
  rw [if_neg hne, hset]
  cases host.saveOk logicalCpu <;> simp [hread]

theorem growRawDataArray_succ (hrealloc : ∀ c, host.reallocOk c = true) {logicalCpu : BitVec 16}
    (hne : logicalCpu ≠ anyLogicalCpu) {data : CpuRawDataArray}
    (hlen : data.raw.length = logicalCpu.toNat) :
    (growRawDataArray host logicalCpu data).raw = data.raw ++ [.zero] := by
  unfold growRawDataArray cpuidGrowRawDataArray
  have hsucc := toNat_succ hne
  rw [if_pos (hrealloc _), dif_neg (by rw [hsucc, CpuRawDataArray.numRaw]; omega)]
  dsimp only
  rw [hsucc, CpuRawDataArray.numRaw, hlen, Nat.add_sub_cancel_left]
  rfl

theorem getAllLoop_step (hpresent : host.CpuidPresent) (hrealloc : ∀ c, host.reallocOk c = true)
    {logicalCpu : BitVec 16} (hne : logicalCpu ≠ anyLogicalCpu) {data : CpuRawDataArray}
    (hlen : data.raw.length = logicalCpu.toNat) {s : ThreadState Affinity} {affinity : Affinity}
    (hset : host.setCpuAffinity logicalCpu s.affinity = .ok (true, affinity)) :
    ∃ raw data' s',
      readRegisters host.platform (host.machine logicalCpu affinity) .zero = some raw ∧
      data'.raw = data.raw ++ [raw] ∧
      getAllLoop host logicalCpu data s = getAllLoop host (logicalCpu + 1) data' s' := by
  obtain ⟨raw, hread⟩ := Option.isSome_iff_exists.mp (hpresent logicalCpu affinity)
  obtain ⟨s', hcore⟩ := cpuidGetRawDataCore_of_set hne hset hread
  have hgrown := growRawDataArray_succ hrealloc hne hlen
  refine ⟨raw, (growRawDataArray host logicalCpu data).setRaw logicalCpu.toNat raw, s', hread,
    ?_, ?_⟩
  · simp [CpuRawDataArray.setRaw, hgrown, ← hlen]
  · rw [getAllLoop, hcore]
    simp only [ne_eq, not_true_eq_false, if_false]
    rw [dif_pos (by rw [hgrown, List.length_append, List.length_singleton]; omega)]

/-- As long as the thread can be bound, the loop reads one logical CPU after the other. -/
theorem getAllLoop_reads (hpresent : host.CpuidPresent) (hrealloc : ∀ c, host.reallocOk c = true)
    (s : ThreadState Affinity) {k : Nat} (hk : k ≤ 65535)
    (hset : ∀ c : BitVec 16, c.toNat < k → ∀ affinity, ∃ affinity',
      host.setCpuAffinity c affinity = .ok (true, affinity')) :
    ∃ data s', data.raw.length = k ∧
      (∀ i < k, ∀ pinned, (∀ affinity, host.setCpuAffinity (.ofNat 16 i) affinity =
          .ok (true, pinned)) →
        data.raw[i]? =
          readRegisters host.platform (host.machine (.ofNat 16 i) pinned) .zero) ∧
      getAllLoop host 0 (cpuRawDataArrayConstructor host true) s =
        getAllLoop host (.ofNat 16 k) data s' := by
  induction k with
  | zero => exact ⟨_, s, rfl, fun i hi => absurd hi (Nat.not_lt_zero i), rfl⟩
  | succ k ih =>
    obtain ⟨data, s', hlen, hraw, hloop⟩ := ih (by omega) fun c hc => hset c (by omega)
    have hk16 := toNat_ofNat_of_lt (show k < 65536 by omega)
    have hne := ofNat_ne_any (show k < 65535 by omega)
    obtain ⟨affinity, haffinity⟩ := hset (.ofNat 16 k) (by omega) s'.affinity
    obtain ⟨raw, data2, s2, hread, hraw2, hstep⟩ :=
      getAllLoop_step hpresent hrealloc hne (hlen.trans hk16.symm) haffinity
    refine ⟨data2, s2, ?_, fun i hi pinned hpinned => ?_, ?_⟩
    · rw [hraw2, List.length_append, hlen, List.length_singleton]
    · rw [hraw2]
      rcases Nat.lt_succ_iff_lt_or_eq.mp hi with hlt | rfl
      · rw [List.getElem?_append_left (by omega), hraw i hlt pinned hpinned]
      · obtain rfl : pinned = affinity :=
          (Prod.mk.inj (Except.ok.inj ((hpinned _).symm.trans haffinity))).2
        rw [List.getElem?_append_right hlen.le, hlen, Nat.sub_self, hread]
        rfl
    · rw [hloop, hstep, BitVec.ofNat_add]
      rfl

/-- The loop ends at the first logical CPU that the thread cannot be bound to. -/
theorem getAllLoop_refused {logicalCpu : BitVec 16} (hne : logicalCpu ≠ anyLogicalCpu)
    (hpos : 0 < logicalCpu.toNat) {data : CpuRawDataArray} {s : ThreadState Affinity}
    {affinity : Affinity}
    (hset : host.setCpuAffinity logicalCpu s.affinity = .ok (false, affinity)) :
    ∃ s', getAllLoop host logicalCpu data s = .ok (.invCnb, data, s') := by
  have hgt : 0#16 < logicalCpu := BitVec.lt_def.mpr hpos
  rw [getAllLoop]
  unfold cpuidGetRawDataCore bindThread
  rw [if_neg hne, hset]
  simp [hgt]

theorem getAllLoop_error {logicalCpu : BitVec 16} (hne : logicalCpu ≠ anyLogicalCpu)
    {data : CpuRawDataArray} {s : ThreadState Affinity} {f : Fault}
    (hset : host.setCpuAffinity logicalCpu s.affinity = .error f) :
    getAllLoop host logicalCpu data s = .error f := by
  rw [getAllLoop]
  unfold cpuidGetRawDataCore bindThread
  rw [if_neg hne, hset]
  simp

/-- When the counter reaches the argument that stands for no logical CPU, the array is full. -/
theorem getAllLoop_any (hpresent : host.CpuidPresent) {data : CpuRawDataArray}
    {s : ThreadState Affinity} (hlen : data.raw.length = 65535) :
    getAllLoop host anyLogicalCpu data s = .error .outOfBounds := by
  obtain ⟨raw, hread⟩ := Option.isSome_iff_exists.mp (hpresent anyLogicalCpu s.affinity)
  have hcore : cpuidGetRawDataCore host .zero anyLogicalCpu s = .ok (.ok, raw, s) := by
    unfold cpuidGetRawDataCore bindThread
    simp [hread]
  have hgrown : growRawDataArray host anyLogicalCpu data = data := by
    unfold growRawDataArray cpuidGrowRawDataArray
    split
    · exact dif_pos (.inl (by decide))
    · rfl
  rw [getAllLoop, hcore]
  simp only [ne_eq, not_true_eq_false, if_false, hgrown]
  rw [dif_neg (by rw [hlen]; decide)]

end Loop

/-! ### The number of logical CPUs -/

section Variant

variable {Affinity : Type}

/-- A system with the given variant of `set_cpu_affinity`, and enough memory. -/
def ThreadHost.on (host : ThreadHost Affinity) (variant : AffinityVariant)
    (calls : AffinityCalls Affinity) : ThreadHost Affinity :=
  { host with
    hasSetCpuAffinity := true
    setCpuAffinity := fun logicalCpu affinity =>
      LibCpuid.setCpuAffinity calls logicalCpu affinity variant
    reallocOk := fun _ => true }

/-- `cpuid_get_all_raw_data` ends, with the data of the logical CPUs 0 to `n - 1`. -/
def ReadsEachOnce (host : ThreadHost Affinity) (n : Nat) (pin : Nat → Affinity) : Prop :=
  ∀ s, ∃ data s', cpuidGetAllRawData host s = .ok (.ok, data, s') ∧ data.numRaw = n ∧
    ∀ i < n, data.raw[i]? =
      readRegisters host.platform (host.machine (.ofNat 16 i) (pin i)) .zero

variable {host : ThreadHost Affinity} {variant : AffinityVariant}
  {calls : AffinityCalls Affinity} {n : Nat} {pin : Nat → Affinity}

theorem readsEachOnce_of_supports (hn : 1 ≤ n) (hlt : n < 65535) (hcalls : calls.Schedules n pin)
    (hpresent : host.CpuidPresent) (hsupports : variant.Supports n) :
    ReadsEachOnce (host.on variant calls) n pin := by
  have hset {c : BitVec 16} (hc : c.toNat ≤ n) (affinity : Affinity) :
      (host.on variant calls).setCpuAffinity c affinity =
        .ok (if c.toNat < n then (true, pin c.toNat) else (false, affinity)) :=
    setCpuAffinity_of_supports hcalls hsupports hc affinity
  intro s
  obtain ⟨data, s1, hlen, hraw, hloop⟩ := @getAllLoop_reads _ (host.on variant calls)
    hpresent (fun _ => rfl) s n hlt.le fun c hc affinity => ⟨_, by rw [hset hc.le, if_pos hc]⟩
  have hn16 := toNat_ofNat_of_lt (show n < 65536 by omega)
  obtain ⟨s', hend⟩ := @getAllLoop_refused _ (host.on variant calls) (.ofNat 16 n)
    (ofNat_ne_any hlt) (by omega) data s1 _
    (by rw [hset hn16.le, hn16, if_neg (Nat.lt_irrefl n)])
  refine ⟨data, s', ?_, hlen, fun i hi => hraw i hi (pin i) fun affinity => ?_⟩
  · rw [cpuidGetAllRawData, hloop, hend]
    rfl
  · have hi16 := toNat_ofNat_of_lt (show i < 65536 by omega)
    rw [hset (by omega), hi16, if_pos hi]

/-- Every argument from 33 on counts as bound. -/
theorem cpuidGetAllRawData_sun (hn : 32 < n) (hcalls : calls.Schedules n pin)
    (hpresent : host.CpuidPresent) (s : ThreadState Affinity) :
    cpuidGetAllRawData (host.on .sun calls) s = .error .outOfBounds := by
  obtain ⟨data, s', hlen, -, hloop⟩ := @getAllLoop_reads _ (host.on .sun calls) hpresent
    (fun _ => rfl) s 65535 le_rfl fun c _ affinity => setCpuAffinitySun_true hcalls hn c affinity
  have hend := @getAllLoop_any _ (host.on .sun calls) hpresent data s' hlen
  rw [cpuidGetAllRawData, hloop, show BitVec.ofNat 16 65535 = anyLogicalCpu from rfl, hend,
    error_bind]

theorem setCpuAffinity_windowsMask_true {size : PointerSize} (hn : size.bits ≤ n)
    (hcalls : calls.Schedules n pin) {c : BitVec 16} (hc : c.toNat < size.bits)
    (affinity : Affinity) :
    ∃ affinity', (host.on (.windowsMask size) calls).setCpuAffinity c affinity =
      .ok (true, affinity') := by
  refine ⟨pin c.toNat, (setCpuAffinityWindowsMask_eq hcalls hc affinity).trans ?_⟩
  rw [if_pos (hc.trans_le hn)]

/-- The loop ends with the logical CPUs that a mask of 32 bits has room for. -/
theorem cpuidGetAllRawData_windowsMask32 (hn : 32 ≤ n) (hcalls : calls.Schedules n pin)
    (hpresent : host.CpuidPresent) (s : ThreadState Affinity) :
    ∃ data s', cpuidGetAllRawData (host.on (.windowsMask .bits32) calls) s = .ok (.ok, data, s') ∧
      data.numRaw = 32 := by
  obtain ⟨data, s1, hlen, -, hloop⟩ := @getAllLoop_reads _ (host.on (.windowsMask .bits32) calls)
    hpresent (fun _ => rfl) s 32 (by decide) fun c hc affinity =>
      setCpuAffinity_windowsMask_true hn hcalls hc affinity
  have hset : (host.on (.windowsMask .bits32) calls).setCpuAffinity (.ofNat 16 32) s1.affinity =
      .ok (false, s1.affinity) :=
    @setCpuAffinityWindowsMask_bits32 _ calls n pin hcalls (.ofNat 16 32) rfl s1.affinity
  obtain ⟨s', hend⟩ := @getAllLoop_refused _ _ (.ofNat 16 32) (by decide) (by decide) data s1 _ hset
  refine ⟨data, s', ?_, hlen⟩
  rw [cpuidGetAllRawData, hloop, hend]
  rfl

theorem cpuidGetAllRawData_windowsMask64 (hn : 64 ≤ n) (hcalls : calls.Schedules n pin)
    (hpresent : host.CpuidPresent) (s : ThreadState Affinity) :
    cpuidGetAllRawData (host.on (.windowsMask .bits64) calls) s = .error .shiftTooFar := by
  obtain ⟨data, s', -, -, hloop⟩ := @getAllLoop_reads _ (host.on (.windowsMask .bits64) calls)
    hpresent (fun _ => rfl) s 64 (by decide) fun c hc affinity =>
      setCpuAffinity_windowsMask_true hn hcalls hc affinity
  have hset : (host.on (.windowsMask .bits64) calls).setCpuAffinity (.ofNat 16 64) s'.affinity =
      .error .shiftTooFar :=
    @setCpuAffinityWindowsMask_bits64 _ calls (.ofNat 16 64) rfl s'.affinity
  rw [cpuidGetAllRawData, hloop,
    @getAllLoop_error _ _ (.ofNat 16 64) (by decide) data s' _ hset, error_bind]

/-- The loop ends with the data of every logical CPU, if and only if the bound at which
`set_cpu_affinity` returns -1, or shifts too far, is not passed on the way. -/
theorem readsEachOnce_iff (hn : 1 ≤ n) (hlt : n < 65535) (hcalls : calls.Schedules n pin)
    (hpresent : host.CpuidPresent) :
    ReadsEachOnce (host.on variant calls) n pin ↔ variant.Supports n := by
  constructor
  · intro h
    by_contra hnot
    obtain ⟨data, s', hret, hnum, -⟩ := h ⟨pin 0, pin 0⟩
    cases variant with
    | sun =>
      rw [cpuidGetAllRawData_sun (Nat.lt_of_not_le hnot) hcalls hpresent] at hret
      cases hret
    | windowsMask size =>
      cases size with
      | bits32 =>
        have hlt : 32 < n := Nat.lt_of_not_le hnot
        obtain ⟨data', s'', hret', hnum'⟩ :=
          cpuidGetAllRawData_windowsMask32 hlt.le hcalls hpresent ⟨pin 0, pin 0⟩
        obtain rfl := (Prod.mk.inj (Prod.mk.inj (Except.ok.inj (hret.symm.trans hret'))).2).1
        omega
      | bits64 =>
        rw [cpuidGetAllRawData_windowsMask64 (Nat.le_of_not_lt hnot) hcalls hpresent] at hret
        cases hret
    | apple | windowsGroups | linux | freeBsd | dragonFly | netBsd => exact hnot trivial
  · exact readsEachOnce_of_supports hn hlt hcalls hpresent

end Variant

/-- The calls of a system with `n` logical CPUs in one group. -/
def callsFor (n : Nat) : AffinityCalls Nat where
  totalCpus := n
  groups := [n]
  userMayBind := true
  cpusetCreate := true
  bindCpu i affinity := if i < n then (true, i) else (false, affinity)
  bindGroup group mask affinity :=
    if group = 0 ∧ mask.toNat.log2 < n then (true, mask.toNat.log2) else (false, affinity)
  bindMask mask affinity :=
    if mask ≠ 0 ∧ mask.log2 < n then (true, mask.log2) else (false, affinity)

theorem schedules_callsFor {n : Nat} (hn : n ≤ 64) : (callsFor n).Schedules n id where
  totalCpus := rfl
  groups := List.sum_singleton
  group_le := by simpa [callsFor] using hn
  userMayBind := rfl
  cpusetCreate := rfl
  bindCpu _ _ := rfl
  bindGroup group number affinity h := by
    cases group with
    | zero =>
      have hlt : number < n := h
      unfold callsFor
      dsimp only
      rw [toNat_shiftOne (by omega), Nat.log2_two_pow, if_pos ⟨rfl, hlt⟩]
      simp
    | succ group => exact absurd h (Nat.not_lt_zero _)
  bindMask i affinity := by simp [callsFor, Nat.log2_two_pow]
  bindMask_zero _ := rfl

theorem readsEachOnce_linux :
    ReadsEachOnce (twoCpuHost.on .linux (callsFor 2)) 2 id ↔ AffinityVariant.linux.Supports 2 :=
  readsEachOnce_iff (by decide) (by decide) (schedules_callsFor (by decide)) fun _ _ => rfl

/-- With 33 logical CPUs on Solaris the argument 33 counts as bound, and so does every other. -/
theorem readsEachOnce_fails_sun :
    (callsFor 33).Schedules 33 id ∧ twoCpuHost.CpuidPresent ∧
      (∀ s, cpuidGetAllRawData (twoCpuHost.on .sun (callsFor 33)) s = .error .outOfBounds) ∧
      ¬ReadsEachOnce (twoCpuHost.on .sun (callsFor 33)) 33 id := by
  have hcalls : (callsFor 33).Schedules 33 id := schedules_callsFor (by decide)
  have hpresent : twoCpuHost.CpuidPresent := fun _ _ => rfl
  have herror (s : ThreadState Nat) := cpuidGetAllRawData_sun (by decide) hcalls hpresent s
  refine ⟨hcalls, hpresent, herror, fun h => ?_⟩
  obtain ⟨data, s', hret, -⟩ := h ⟨0, 0⟩
  rw [herror] at hret
  cases hret

end LibCpuid
