import LibCpuid.IdentifyBounds

/-! The ids that `cpu_ident_id_x86` cuts an APIC id into: the bits from the last shift on, the bits
between the SMT shift and the last one, and the bits below the SMT shift. -/

namespace LibCpuid

open CLang

/-! ### Masks -/

theorem highMask_eq (n : Nat) : highMask n = BitVec.allOnes 32 <<< n := by
  show -(1#32 <<< n) = _
  rw [← BitVec.shiftLeft_neg]
  rfl

theorem getElem_highMask (n i : Nat) (h : i < 32) : (highMask n)[i] = decide (n ≤ i) := by
  rw [← BitVec.getLsbD_eq_getElem, highMask_eq, BitVec.getLsbD_shiftLeft, BitVec.getLsbD_allOnes]
  by_cases hn : n ≤ i
  · simp [h, hn, show i - n < 32 by omega]
  · simp [hn]

/-- A word cut at the bits `s` and `c`. -/
structure CutAt (s c : Nat) (word high middle low : BitVec 32) : Prop where
  high : high = word &&& highMask c
  middle : middle = word &&& (~~~highMask c ^^^ ~~~highMask s)
  low : low = word &&& ~~~highMask s

namespace CutAt

variable {s c : Nat} {word high middle low : BitVec 32}

theorem high_middle (h : CutAt s c word high middle low) (hle : s ≤ c) : high &&& middle = 0 := by
  rw [h.high, h.middle]
  ext i hi
  simp only [BitVec.getElem_and, BitVec.getElem_xor, BitVec.getElem_not, getElem_highMask]
  by_cases hc : c ≤ i
  · simp [hc, hle.trans hc]
  · simp [hc]

theorem high_low (h : CutAt s c word high middle low) (hle : s ≤ c) : high &&& low = 0 := by
  rw [h.high, h.low]
  ext i hi
  simp only [BitVec.getElem_and, BitVec.getElem_not, getElem_highMask]
  by_cases hc : c ≤ i
  · simp [hle.trans hc]
  · simp [hc]

theorem middle_low (h : CutAt s c word high middle low) (hle : s ≤ c) : middle &&& low = 0 := by
  rw [h.middle, h.low]
  ext i hi
  simp only [BitVec.getElem_and, BitVec.getElem_xor, BitVec.getElem_not, getElem_highMask]
  by_cases hs : s ≤ i
  · simp [hs]
  · simp [hs, show ¬c ≤ i by omega]

/-- The parts make up the word. -/
theorem join (h : CutAt s c word high middle low) (hle : s ≤ c) :
    high ||| middle ||| low = word := by
  rw [h.high, h.middle, h.low]
  ext i hi
  simp only [BitVec.getElem_or, BitVec.getElem_and, BitVec.getElem_xor, BitVec.getElem_not,
    getElem_highMask]
  by_cases hc : c ≤ i
  · simp [hc, hle.trans hc]
  · by_cases hs : s ≤ i <;> simp [hc, hs]

end CutAt

/-! ### Levels -/

/-- A sub-leaf that is not empty. -/
def LiveLevel (regs : Regs) : Prop := regs.eax ≠ 0 ∧ regs.ebx ≠ 0

instance : DecidablePred LiveLevel := fun _ => inferInstanceAs (Decidable (_ ∧ _))

/-- The sub-leaves before the first empty one. -/
def liveLevels (leaves : List Regs) : List Regs := leaves.takeWhile fun r => LiveLevel r

/-- The type of the level that a sub-leaf describes: 1 for SMT, 2 for a core. -/
def levelType (regs : Regs) : Nat := extractsBits regs.ecx 15 8

/-- The number of bits that the level takes off an APIC id. -/
def levelShift (regs : Regs) : Nat := extractsBits regs.eax 4 0

theorem liveLevels_cons (regs : Regs) (leaves : List Regs) :
    liveLevels (regs :: leaves) = if LiveLevel regs then regs :: liveLevels leaves else [] := by
  by_cases h : LiveLevel regs <;> simp [liveLevels, h]

theorem maskCoreShift_eq {leaves : List Regs} (hends : ∃ r ∈ leaves, ¬LiveLevel r) (shift : Nat) :
    maskCoreShift leaves shift =
      .ok (((liveLevels leaves).getLast?.map levelShift).getD shift) := by
  induction leaves generalizing shift with
  | nil => simp at hends
  | cons regs leaves ih =>
    change (if LiveLevel regs then maskCoreShift leaves (levelShift regs) else .ok shift) = _
    by_cases hlive : LiveLevel regs
    · obtain ⟨r, hr, hnot⟩ := hends
      have hr : r ∈ leaves := (List.mem_cons.mp hr).resolve_left fun he => hnot (he ▸ hlive)
      rw [if_pos hlive, ih ⟨r, hr, hnot⟩, liveLevels_cons, if_pos hlive, List.getLast?_cons]
      cases (liveLevels leaves).getLast? <;> rfl
    · rw [if_neg hlive, liveLevels_cons, if_neg hlive]
      rfl

theorem levelLoop_eq {leaves : List Regs} (hends : ∃ r ∈ leaves, ¬LiveLevel r) (shift : Nat)
    (st : LevelState) :
    levelLoop shift leaves st =
      .ok ((liveLevels leaves).foldl (fun st regs => levelStep shift regs st) st) := by
  induction leaves generalizing st with
  | nil => simp at hends
  | cons regs leaves ih =>
    change (if LiveLevel regs then levelLoop shift leaves (levelStep shift regs st) else .ok st) = _
    by_cases hlive : LiveLevel regs
    · obtain ⟨r, hr, hnot⟩ := hends
      have hr : r ∈ leaves := (List.mem_cons.mp hr).resolve_left fun he => hnot (he ▸ hlive)
      rw [if_pos hlive, ih ⟨r, hr, hnot⟩, liveLevels_cons, if_pos hlive]
      rfl
    · rw [if_neg hlive, liveLevels_cons, if_neg hlive]
      rfl

theorem levelStep_levelType (shift : Nat) (regs : Regs) (st : LevelState) :
    (levelStep shift regs st).levelType = levelType regs := by
  unfold levelStep
  dsimp only
  split <;> simp_all [levelType]

/-- What is known once an SMT level of shift `s` has been seen. -/
structure SmtSeen (apicId : BitVec 32) (s : Nat) (st : LevelState) : Prop where
  sameId : st.topology.apicId = apicId
  smtMask : st.smtMask = ~~~highMask s
  smtId : st.topology.smtId = apicId &&& ~~~highMask s

/-- What is known once a core level has been seen after it. -/
structure CoreSeen (apicId : BitVec 32) (s c : Nat) (st : LevelState) : Prop extends
    SmtSeen apicId s st where
  coreId : st.topology.coreId = apicId &&& (~~~highMask c ^^^ ~~~highMask s)

section Steps

variable {apicId : BitVec 32} {s c : Nat} {regs : Regs} {st : LevelState}

theorem SmtSeen.start (hid : regs.edx = apicId) (htype : levelType regs = 1)
    (hshift : levelShift regs = s) (c : Nat) (st : LevelState) :
    SmtSeen apicId s (levelStep c regs st) := by
  subst hid hshift
  unfold levelStep
  rw [show extractsBits regs.ecx 15 8 = 1 from htype]
  exact ⟨rfl, rfl, rfl⟩

/-- A sub-leaf keeps what is known of the SMT level. -/
theorem SmtSeen.step (h : SmtSeen apicId s st) (hid : regs.edx = apicId)
    (hsmt : levelType regs = 1 → levelShift regs = s) : SmtSeen apicId s (levelStep c regs st) := by
  by_cases htype : levelType regs = 1
  · exact SmtSeen.start hid htype (hsmt htype) c st
  · unfold levelStep
    dsimp only
    split
    case h_1 h1 => exact absurd h1 htype
    case h_2 => exact ⟨hid, h.smtMask, h.smtId⟩
    case h_3 => exact ⟨hid, h.smtMask, h.smtId⟩

theorem CoreSeen.start (h : SmtSeen apicId s st) (hid : regs.edx = apicId)
    (htype : levelType regs = 2) : CoreSeen apicId s c (levelStep c regs st) := by
  refine ⟨h.step hid fun h1 => by omega, ?_⟩
  unfold levelStep
  rw [show extractsBits regs.ecx 15 8 = 2 from htype]
  show regs.edx &&& (~~~highMask c ^^^ st.smtMask) = _
  rw [hid, h.smtMask]

/-- A sub-leaf keeps what is known of the core level. -/
theorem CoreSeen.step (h : CoreSeen apicId s c st) (hid : regs.edx = apicId)
    (hsmt : levelType regs = 1 → levelShift regs = s) :
    CoreSeen apicId s c (levelStep c regs st) := by
  by_cases htype : levelType regs = 2
  · exact CoreSeen.start h.toSmtSeen hid htype
  · refine ⟨h.toSmtSeen.step hid hsmt, ?_⟩
    unfold levelStep
    dsimp only
    split
    case h_1 => exact h.coreId
    case h_2 h2 => exact absurd h2 htype
    case h_3 => exact h.coreId

end Steps

/-! ### Decomposition -/

/-- A leaf 11 of an Intel or AMD processor whose sub-leaves all have an APIC id, with an SMT level
of shift `s` before a core level and `c` as the last shift. -/
structure EnumeratesLevels (raw : CpuRawData) (apicId : BitVec 32) (s c : Nat) : Prop where
  vendor : cpuidVendorIdentify (raw.basicCpuid 0) = .intel ∨
    cpuidVendorIdentify (raw.basicCpuid 0) = .amd
  leaf11 : 11 ≤ (raw.basicCpuid 0).eax.toNat
  enumerated : extractsBits (raw.basicCpuid 11).ebx 15 0 ≠ 0
  ends : Fn11Ends raw
  sameId : ∀ regs ∈ liveLevels (List.ofFn raw.intelFn11), regs.edx = apicId
  smtBeforeCore : ∃ before smt between core after,
    liveLevels (List.ofFn raw.intelFn11) = before ++ smt :: (between ++ core :: after) ∧
      levelType smt = 1 ∧ levelShift smt = s ∧ levelType core = 2
  lastShift : (liveLevels (List.ofFn raw.intelFn11)).getLast?.map levelShift = some c
  ordered : s ≤ c

/-- Such a leaf whose last level has a valid type and in which no SMT level of another shift comes
after the SMT level. -/
structure CutsApicId (raw : CpuRawData) (apicId : BitVec 32) (s c : Nat) : Prop extends
    EnumeratesLevels raw apicId s c where
  oneShift : ∃ before smt between core after,
    liveLevels (List.ofFn raw.intelFn11) = before ++ smt :: (between ++ core :: after) ∧
      levelType smt = 1 ∧ levelShift smt = s ∧ levelType core = 2 ∧
      ∀ regs ∈ between ++ after, levelType regs = 1 → levelShift regs = s
  lastType : ∀ regs, (liveLevels (List.ofFn raw.intelFn11)).getLast? = some regs →
    levelType regs ≠ 0

theorem foldl_levelStep_levelType {leaves : List Regs} {regs : Regs}
    (h : leaves.getLast? = some regs) (c : Nat) (st : LevelState) :
    (leaves.foldl (fun st regs => levelStep c regs st) st).levelType = levelType regs := by
  obtain ⟨init, rfl⟩ := List.getLast?_eq_some_iff.mp h
  rw [List.foldl_append]
  exact levelStep_levelType c regs _

/-- What the second loop knows when it ends. -/
theorem CutsApicId.coreSeen {raw : CpuRawData} {apicId : BitVec 32} {s c : Nat}
    (h : CutsApicId raw apicId s c) (st : LevelState) :
    CoreSeen apicId s c
      ((liveLevels (List.ofFn raw.intelFn11)).foldl (fun st regs => levelStep c regs st) st) := by
  obtain ⟨before, smt, between, core, after, heq, hsmt, hshift, hcore, hlater⟩ := h.oneShift
  have hid := h.sameId
  rw [heq] at hid ⊢
  simp only [List.mem_append, List.mem_cons] at hid hlater
  rw [List.foldl_append, List.foldl_cons, List.foldl_append, List.foldl_cons]
  have hstart := SmtSeen.start (hid smt (by simp)) hsmt hshift c
    (before.foldl (fun st regs => levelStep c regs st) st)
  have hbetween := List.foldlRecOn between (fun st regs => levelStep c regs st) hstart
    fun st hst regs hregs => hst.step (hid regs (by simp [hregs])) (hlater regs (.inl hregs))
  exact List.foldlRecOn after (fun st regs => levelStep c regs st)
    (CoreSeen.start hbetween (hid core (by simp)) hcore)
    fun st hst regs hregs => hst.step (hid regs (by simp [hregs])) (hlater regs (.inr hregs))

/-- `cpu_ident_id_x86` succeeds and cuts the APIC id. -/
theorem CutsApicId.cpuIdentIdX86 {raw : CpuRawData} {apicId : BitVec 32} {s c : Nat}
    (h : CutsApicId raw apicId s c) (topology : InternalTopology) :
    ∃ t, cpuIdentIdX86 raw topology = .ok (true, t) ∧
      CutAt s c apicId t.packageId t.coreId t.smtId := by
  have hsupported : isApicIdSupported raw = true := by
    simp [isApicIdSupported, h.vendor, h.leaf11, h.enumerated]
  have hends : ∃ r ∈ List.ofFn raw.intelFn11, ¬LiveLevel r := by
    obtain ⟨i, hi⟩ := h.ends
    exact ⟨_, List.mem_ofFn.mpr ⟨i, rfl⟩, fun hlive => hi.elim hlive.1 hlive.2⟩
  obtain ⟨regs, hlast, hshift⟩ := Option.map_eq_some_iff.mp h.lastShift
  let st := (liveLevels (List.ofFn raw.intelFn11)).foldl (fun st regs => levelStep c regs st)
    { levelType := 0, smtMask := 0, topology }
  have hcore : CoreSeen apicId s c st := h.coreSeen _
  refine ⟨{ st.topology with packageId := st.topology.apicId &&& highMask c }, ?_, ?_⟩
  · rw [LibCpuid.cpuIdentIdX86, if_pos hsupported, maskCoreShift_eq hends, h.lastShift]
    show (levelLoop c _ _ >>= _) = _
    rw [levelLoop_eq hends]
    show Except.ok (decide (st.levelType > 0), _) = _
    rw [show st.levelType = levelType regs from foldl_levelStep_levelType hlast c _,
      decide_eq_true (Nat.pos_of_ne_zero (h.lastType regs hlast))]
    rfl
  · exact ⟨by rw [hcore.sameId], hcore.coreId, hcore.smtId⟩

/-- The ids are disjoint fields that make up the APIC id, and so tell two processors apart. -/
theorem apicId_decomposes (s c : Nat) :
    (∀ raw apicId topology, CutsApicId raw apicId s c →
      ∃ t, cpuIdentIdX86 raw topology = .ok (true, t) ∧
        t.packageId &&& t.coreId = 0 ∧ t.packageId &&& t.smtId = 0 ∧ t.coreId &&& t.smtId = 0 ∧
        t.packageId ||| t.coreId ||| t.smtId = apicId) ∧
    ∀ raw raw' apicId apicId' topology topology' t t',
      CutsApicId raw apicId s c → CutsApicId raw' apicId' s c → apicId ≠ apicId' →
      cpuIdentIdX86 raw topology = .ok (true, t) → cpuIdentIdX86 raw' topology' = .ok (true, t') →
        (t.packageId, t.coreId, t.smtId) ≠ (t'.packageId, t'.coreId, t'.smtId) := by
  constructor
  · intro raw apicId topology h
    obtain ⟨t, ht, hcut⟩ := h.cpuIdentIdX86 topology
    exact ⟨t, ht, hcut.high_middle h.ordered, hcut.high_low h.ordered, hcut.middle_low h.ordered,
      hcut.join h.ordered⟩
  · intro raw raw' apicId apicId' topology topology' t t' h h' hne ht ht' heq
    obtain ⟨u, hu, hcut⟩ := h.cpuIdentIdX86 topology
    obtain ⟨u', hu', hcut'⟩ := h'.cpuIdentIdX86 topology'
    obtain rfl : t = u := by simpa [ht] using hu
    obtain rfl : t' = u' := by simpa [ht'] using hu'
    obtain ⟨hpackage, hcore, hsmt⟩ : t.packageId = t'.packageId ∧ t.coreId = t'.coreId ∧
        t.smtId = t'.smtId := by simpa using heq
    apply hne
    calc
      apicId = t.packageId ||| t.coreId ||| t.smtId := (hcut.join h.ordered).symm
      _ = t'.packageId ||| t'.coreId ||| t'.smtId := by rw [hpackage, hcore, hsmt]
      _ = apicId' := hcut'.join h'.ordered

/-- An Intel processor with some sub-leaves of leaf 11. -/
def intelLevels (levels : List Regs) : CpuRawData :=
  { CpuRawData.zero with
    basicCpuid := fun i =>
      if i = 0 then { eax := 11, ebx := 0x756e6547, ecx := 0x6c65746e, edx := 0x49656e69 }
      else if i = 11 then levels.getD 0 .zero
      else .zero
    intelFn11 := fun i => levels.getD i .zero }

/-- The sub-leaves of a processor of up to 8 cores of two threads each, and one more sub-leaf. -/
def twoThreadLevels (apicId : BitVec 32) (more : List Regs) : CpuRawData :=
  intelLevels (⟨1, 2, 0x100, apicId⟩ :: ⟨4, 16, 0x201, apicId⟩ :: more)

theorem apicId_decomposes_twoThreadLevels :
    (∃ t, cpuIdentIdX86 (twoThreadLevels 0x13 []) (topologyConstructor 0) = .ok (true, t) ∧
      t.packageId &&& t.coreId = 0 ∧ t.packageId &&& t.smtId = 0 ∧ t.coreId &&& t.smtId = 0 ∧
      t.packageId ||| t.coreId ||| t.smtId = 0x13) ∧
    ∀ t t', cpuIdentIdX86 (twoThreadLevels 0x13 []) (topologyConstructor 0) = .ok (true, t) →
      cpuIdentIdX86 (twoThreadLevels 0x23 []) (topologyConstructor 1) = .ok (true, t') →
        (t.packageId, t.coreId, t.smtId) ≠ (t'.packageId, t'.coreId, t'.smtId) := by
  have hcuts : ∀ apicId ∈ [(0x13 : BitVec 32), 0x23],
      CutsApicId (twoThreadLevels apicId []) apicId 1 4 := by
    intro apicId hid
    simp only [List.mem_cons, List.not_mem_nil, or_false] at hid
    rcases hid with rfl | rfl <;> exact
      { vendor := .inl (by decide +kernel)
        leaf11 := by decide
        enumerated := by decide
        ends := ⟨2, .inl rfl⟩
        sameId := by decide
        smtBeforeCore := ⟨[], _, [], _, [], rfl, by decide⟩
        lastShift := by decide
        ordered := by decide
        oneShift := ⟨[], _, [], _, [], rfl, by decide⟩
        lastType := by decide }
  exact ⟨(apicId_decomposes 1 4).1 _ _ _ (hcuts _ (by decide)),
    fun t t' ht ht' => (apicId_decomposes 1 4).2 _ _ _ _ _ _ t t' (hcuts _ (by decide))
      (hcuts _ (by decide)) (by decide) ht ht'⟩

/-- A last sub-leaf of no valid type makes the identification fail; a second SMT level of another
shift makes the core id and the SMT id overlap. -/
theorem not_apicId_decomposes :
    (EnumeratesLevels (twoThreadLevels 3 [⟨4, 16, 2, 3⟩]) 3 1 4 ∧
      ∃ t, cpuIdentIdX86 (twoThreadLevels 3 [⟨4, 16, 2, 3⟩]) (topologyConstructor 0) =
        .ok (false, t)) ∧
    EnumeratesLevels (twoThreadLevels 3 [⟨2, 4, 0x102, 3⟩]) 3 1 2 ∧
      ∃ t, cpuIdentIdX86 (twoThreadLevels 3 [⟨2, 4, 0x102, 3⟩]) (topologyConstructor 0) =
        .ok (true, t) ∧ t.coreId &&& t.smtId ≠ 0 := by
  refine ⟨⟨⟨.inl (by decide +kernel), by decide, by decide, ⟨3, .inl rfl⟩, by decide,
      ⟨[], _, [], _, _, rfl, by decide⟩, by decide, by decide⟩, ?_⟩,
    ⟨.inl (by decide +kernel), by decide, by decide, ⟨3, .inl rfl⟩, by decide,
      ⟨[], _, [], _, _, rfl, by decide⟩, by decide, by decide⟩, ?_⟩
  · rw [cpuIdentIdX86, if_pos (by decide +kernel)]
    exact ⟨_, rfl⟩
  · rw [cpuIdentIdX86, if_pos (by decide +kernel)]
    exact ⟨_, rfl, by decide⟩

end LibCpuid
