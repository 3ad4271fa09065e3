import LibCpuid.CpuList

/-! For which vendors what `cpuid_get_cpu_list` leaves in the list does not depend on what was there
before, and is empty after a failure. -/

namespace LibCpuid

open CLang

/-- A list with exactly as many names as it says, and with none after a failure. -/
def CpuList.IsValid (list : CpuList) : Prop :=
  list = .empty ∨ ∃ names room, names ≠ [] ∧ list = .of names room

theorem freeNames_of {names : List (List Char)} {rest : List (Option (List Char))} {n : Nat}
    (hn : n ≤ names.length) : freeNames (names.map some ++ rest) n = .ok () := by
  induction n with
  | zero => rfl
  | succ n ih =>
    have hlt : n < names.length := hn
    have hload : loadList (names.map some ++ rest) n = .ok (some names[n]) := by
      rw [loadList_eq_ok, List.getElem?_append_left (by simpa using hlt)]
      simp [hlt]
    rw [freeNames, ih hlt.le, ok_bind, hload]
    rfl

/-- A valid list can be freed. -/
theorem CpuList.IsValid.free {list : CpuList} (h : list.IsValid) :
    cpuidFreeCpuList list = .ok .empty := by
  rcases h with rfl | ⟨names, room, hne, rfl⟩
  · rfl
  · have hpos := List.length_pos_iff.mpr hne
    unfold cpuidFreeCpuList CpuList.of
    rw [if_neg (by dsimp only; omega)]
    simp only [Int.toNat_natCast, freeNames_of le_rfl, ok_bind]

/-- The list is a pure output: whatever it held before, the call leaves the same valid list in it,
an empty one after a failure. -/
def PureOutput (alloc : Nat → Bool) (vendor : CpuVendor) : Prop :=
  ∃ out errno, (∀ initial, ∃ calls,
      cpuidGetCpuList alloc vendor ⟨initial, 0, none⟩ = .ok ⟨out, calls, errno⟩) ∧
    out.IsValid ∧ (errno ≠ none → out = .empty) ∧ cpuidFreeCpuList out = .ok .empty

/-- The vendors whose list `cpuid_get_list_arm` builds alone. -/
def armListVendors : List CpuVendor :=
  [.arm, .broadcom, .cavium, .dec, .fujitsu, .hisilicon, .infineon, .freescale, .nvidia, .apm,
    .qualcomm, .samsung, .marvell, .apple, .faraday, .microsoft, .phytium, .ampere]

/-- Two lists have to fail together: when there is memory for the names of the first table the block
has to grow for those of the second; when there is not, there must not be any for the names of the
second either. -/
def FailTogether (alloc : Nat → Bool) (first second : List (List Char)) : Prop :=
  match firstFailure alloc ((listedNames [] first).length + 1) 0 with
  | none => alloc ((listedNames [] first).length + 1) = true
  | some k => firstFailure alloc ((listedNames [] second).length + 1) (k + 1) ≠ none

/-- The allocations for the two lists of Intel. -/
def IntelAllocations (alloc : Nat → Bool) : Prop :=
  FailTogether alloc (entryNames cpudbIntel) (partNames .intel)

theorem listedNames_ne_nil {rest : List (List Char)} {used : List (List Char)} {name : List Char}
    (hmem : name ∈ rest) (hknown : strstr name "Unknown".toList = false) :
    listedNames used rest ≠ [] :=
  List.ne_nil_of_mem (mem_listedNames.mpr (.inr ⟨hmem, hknown⟩))

theorem CpuList.of_ne_empty (names : List (List Char)) (room : Nat) :
    CpuList.of names room ≠ .empty :=
  fun h => by cases congrArg CpuList.names h

theorem pureOutput_of_names {alloc : Nat → Bool} {vendor : CpuVendor} {names : List (List Char)}
    {room : Nat} (hne : names ≠ [])
    (h : ∀ initial, ∃ calls,
      cpuidGetCpuList alloc vendor ⟨initial, 0, none⟩ = .ok ⟨.of names room, calls, none⟩) :
    PureOutput alloc vendor :=
  have hvalid : (CpuList.of names room).IsValid := .inr ⟨names, room, hne, rfl⟩
  ⟨_, none, h, hvalid, fun herrno => absurd rfl herrno, hvalid.free⟩

theorem pureOutput_of_failure {alloc : Nat → Bool} {vendor : CpuVendor} {error : CpuError}
    (h : ∀ initial, ∃ calls,
      cpuidGetCpuList alloc vendor ⟨initial, 0, none⟩ = .ok ⟨.empty, calls, some error⟩) :
    PureOutput alloc vendor :=
  ⟨_, some error, h, .inl rfl, fun _ => rfl, rfl⟩

/-! ### The builders that start afresh -/

theorem pureOutput_generic {alloc : Nat → Bool} {vendor : CpuVendor}
    {matchtable : List MatchEntry} (hknown : listedNames [] (entryNames matchtable) ≠ [])
    (h : ∀ s, cpuidGetCpuList alloc vendor s = genericGetCpuList alloc matchtable s) :
    PureOutput alloc vendor := by
  obtain ⟨room, hgeneric⟩ := genericGetCpuList_eq alloc matchtable 0
  cases hfail : firstFailure alloc ((listedNames [] (entryNames matchtable)).length + 1) 0 with
  | none =>
    refine @pureOutput_of_names _ _ _ room hknown fun initial => ?_
    rw [h, hgeneric, hfail]
    exact ⟨_, rfl⟩
  | some k =>
    refine @pureOutput_of_failure _ _ .noMem fun initial => ?_
    rw [h, hgeneric, hfail]
    exact ⟨_, rfl⟩

theorem pureOutput_fromString {alloc : Nat → Bool} {vendor : CpuVendor} {csv : String}
    (h : ∀ s, cpuidGetCpuList alloc vendor s = .ok (makeListFromString alloc csv s)) :
    PureOutput alloc vendor := by
  have hnames : csv.toList.splitOn ',' ≠ [] := List.splitOn_ne_nil _ _
  have hof : (⟨(csv.toList.splitOn ',').length, .block ((csv.toList.splitOn ',').map some)⟩ :
      CpuList) = .of (csv.toList.splitOn ',') 0 := by
    rw [CpuList.of, List.replicate_zero, List.append_nil]
  have hfailed (calls : Nat) (hout : ∀ initial,
      makeListFromString alloc csv ⟨initial, 0, none⟩ = .outOfMemory calls) :
      PureOutput alloc vendor :=
    @pureOutput_of_failure _ _ .noMem fun initial => ⟨calls, by rw [h, hout]; rfl⟩
  by_cases halloc : alloc 0 = true
  · cases hcopy : copyNames alloc (csv.toList.splitOn ',') 1 with
    | mk copied calls =>
      cases copied with
      | true =>
        refine @pureOutput_of_names _ _ _ 0 hnames fun initial => ⟨calls, ?_⟩
        rw [h, makeListFromString, if_pos halloc, hcopy, ← hof]
      | false => exact hfailed calls fun initial => by rw [makeListFromString, if_pos halloc, hcopy]
  · exact hfailed 1 fun initial => by rw [makeListFromString, if_neg halloc]

/-! ### The builders that append -/

theorem cpuidGetCpuList_arm {vendor : CpuVendor} (hvendor : vendor ∈ armListVendors)
    (alloc : Nat → Bool) (s : ListState) :
    cpuidGetCpuList alloc vendor s = cpuidGetListArm alloc vendor s := by
  revert hvendor
  cases vendor <;> first | exact fun _ => rfl | exact fun h => absurd h (by decide)

/-- A vendor without parts leaves the list alone; otherwise the block is resized first. -/
theorem not_pureOutput_arm {alloc : Nat → Bool} {vendor : CpuVendor}
    (hvendor : vendor ∈ armListVendors) : ¬PureOutput alloc vendor := by
  rintro ⟨out, errno, h, -⟩
  simp only [cpuidGetCpuList_arm hvendor] at h
  cases hparts : (getCpuImplementerFromVendor vendor).parts with
  | nil =>
    have hsame (list : CpuList) (hsmall : list.numEntries < 2 ^ 31) :
        cpuidGetListArm alloc vendor ⟨list, 0, none⟩ = .ok ⟨list, 0, none⟩ := by
      unfold cpuidGetListArm
      simp only [hparts, List.length_nil, if_true]
      rw [if_neg (by omega)]
    obtain ⟨calls, h0⟩ := h .empty
    obtain ⟨calls', h1⟩ := h ⟨1, .null⟩
    rw [hsame _ (by decide), Except.ok.injEq] at h0 h1
    have hout := (congrArg ListState.list h0).trans (congrArg ListState.list h1).symm
    cases congrArg CpuList.numEntries hout
  | cons part rest =>
    obtain ⟨calls, hwild⟩ := h ⟨0, .wild⟩
    unfold cpuidGetListArm at hwild
    simp only [hparts, reallocNames, error_bind] at hwild
    split at hwild
    · cases hwild
    · rw [if_neg (by simp)] at hwild
      cases hwild

/-- An error and a list with names are not what a failure should leave. -/
theorem not_pureOutput_of_names {alloc : Nat → Bool} {vendor : CpuVendor}
    {names : List (List Char)} {room calls : Nat} {error : CpuError}
    (h : ∀ initial, cpuidGetCpuList alloc vendor ⟨initial, 0, none⟩ =
      .ok ⟨.of names room, calls, some error⟩) : ¬PureOutput alloc vendor := by
  rintro ⟨out, errno, hout, -, herrno, -⟩
  obtain ⟨calls', hcall⟩ := hout .empty
  rw [h, Except.ok.injEq, ListState.mk.injEq] at hcall
  obtain ⟨rfl, -, rfl⟩ := hcall
  exact CpuList.of_ne_empty names room (herrno (by simp))

section Appended

variable {alloc : Nat → Bool} {vendor : CpuVendor} {matchtable : List MatchEntry}

/-- A list for a table, continued by `cpuid_get_list_arm`. -/
theorem pureOutput_appended_iff
    (happend : ∀ s, cpuidGetCpuList alloc vendor s =
      (genericGetCpuList alloc matchtable s >>= cpuidGetListArm alloc vendor))
    (hparts : partNames vendor ≠ [])
    (hnames : ∀ used, listedNames used (partNames vendor) ≠ [])
    (hfits : (listedNames [] (entryNames matchtable)).length + (partNames vendor).length < 2 ^ 31) :
    PureOutput alloc vendor ↔
      FailTogether alloc (entryNames matchtable) (partNames vendor) := by
  obtain ⟨room, hgeneric⟩ := genericGetCpuList_eq alloc matchtable 0
  have hcall (initial : CpuList) := happend ⟨initial, 0, none⟩
  unfold FailTogether
  generalize listedNames [] (entryNames matchtable) = first at *
  cases hfail : firstFailure alloc (first.length + 1) 0 with
  | none =>
    obtain ⟨room', harm⟩ := cpuidGetListArm_eq alloc hparts (.block first room) hfits
      (0 + 1 + first.length) none
    simp only [hgeneric, hfail, ok_bind, harm] at hcall
    rw [show 0 + 1 + first.length = first.length + 1 by omega] at hcall
    show _ ↔ alloc (first.length + 1) = true
    by_cases halloc : alloc (first.length + 1) = true
    · refine iff_of_true ?_ halloc
      simp only [if_pos halloc] at hcall
      cases hsecond : firstFailure alloc
          ((listedNames first (partNames vendor)).length - first.length) (first.length + 1 + 1) with
      | none =>
        simp only [hsecond] at hcall
        exact pureOutput_of_names (hnames first) fun initial => ⟨_, hcall initial⟩
      | some k =>
        simp only [hsecond] at hcall
        exact pureOutput_of_failure fun initial => ⟨_, hcall initial⟩
    · simp only [if_neg halloc] at hcall
      exact iff_of_false (not_pureOutput_of_names hcall) halloc
  | some k =>
    obtain ⟨room', harm⟩ := cpuidGetListArm_eq alloc hparts .empty
      (show 0 + (partNames vendor).length < 2 ^ 31 by omega) (k + 1) (some .noMem)
    simp only [hgeneric, hfail, ok_bind, ListState.outOfMemory, harm] at hcall
    show _ ↔ firstFailure alloc ((listedNames [] (partNames vendor)).length + 1) (k + 1) ≠ none
    rw [firstFailure]
    by_cases halloc : alloc (k + 1) = true
    · simp only [if_pos halloc, List.length_nil, Nat.sub_zero] at hcall ⊢
      cases hsecond : firstFailure alloc (listedNames [] (partNames vendor)).length
          (k + 1 + 1) with
      | none =>
        simp only [hsecond] at hcall
        exact iff_of_false (not_pureOutput_of_names hcall) fun h => h rfl
      | some k' =>
        simp only [hsecond] at hcall
        exact iff_of_true (pureOutput_of_failure fun initial => ⟨_, hcall initial⟩) (by simp)
    · simp only [if_neg halloc] at hcall ⊢
      exact iff_of_true (pureOutput_of_failure fun initial => ⟨_, hcall initial⟩) (by simp)

end Appended

theorem pureOutput_intel_iff {alloc : Nat → Bool} :
    PureOutput alloc .intel ↔ IntelAllocations alloc := by
  have hmem : "i80200".toList ∈ partNames .intel := by decide +kernel
  have hsome (used : List (List Char)) : listedNames used (partNames .intel) ≠ [] :=
    listedNames_ne_nil hmem (by decide +kernel)
  have hlen : (partNames .intel).length < 100 := by decide +kernel
  have hentries : (entryNames cpudbIntel).length < 1000 := by decide +kernel
  have hfits {listed first second : Nat} (hle : listed ≤ first) (hfirst : first < 1000)
      (hsecond : second < 100) : listed + second < 2 ^ 31 := by omega
  have hle := listedNames_length_le [] (entryNames cpudbIntel)
  rw [List.length_nil, Nat.zero_add] at hle
  exact pureOutput_appended_iff (fun _ => rfl) (List.ne_nil_of_mem hmem) hsome
    (hfits hle hentries hlen)

/-- The vendors whose list does not depend on what is there before. -/
theorem pureOutput_iff {alloc : Nat → Bool} {vendor : CpuVendor} :
    PureOutput alloc vendor ↔
      vendor ∉ armListVendors ∧ (vendor = .intel → IntelAllocations alloc) := by
  have hintel {P : Prop} : P ↔ (CpuVendor.intel = .intel → P) :=
    ⟨fun h _ => h, fun h => h rfl⟩
  have hother {P Q : Prop} (h : P) (hne : vendor ≠ .intel) : P ↔ (vendor = .intel → Q) :=
    iff_of_true h fun heq => absurd heq hne
  by_cases harm : vendor ∈ armListVendors
  · exact iff_of_false (not_pureOutput_arm harm) fun h => h.1 harm
  · rw [and_iff_right harm]
    cases vendor with
    | intel => exact pureOutput_intel_iff.trans hintel
    | amd | hygon =>
      refine hother (pureOutput_generic ?_ fun _ => rfl) (by decide)
      exact listedNames_ne_nil (show "AMD 486DX2".toList ∈ entryNames cpudbAmd by decide +kernel)
        (by decide +kernel)
    | centaur =>
      refine hother (pureOutput_generic ?_ fun _ => rfl) (by decide)
      exact listedNames_ne_nil
        (show "VIA C3 (Ezra)".toList ∈ entryNames cpudbCentaur by decide +kernel)
        (by decide +kernel)
    | cyrix | nexgen | transmeta | umc | rise | sis | nsc =>
      exact hother (pureOutput_fromString fun _ => rfl) (by decide)
    | unknown => exact hother (pureOutput_of_failure fun _ => ⟨0, rfl⟩) (by decide)
    | _ => exact absurd (by decide) harm

/-- Infineon has no parts, so what was in the list stays there. -/
theorem not_pureOutput_infineon :
    cpuidGetCpuList (fun _ => true) .infineon ⟨⟨5, .wild⟩, 0, none⟩ =
        .ok ⟨⟨5, .wild⟩, 0, none⟩ ∧
      cpuidFreeCpuList ⟨5, .wild⟩ = .error .invalidPointer ∧
      ¬PureOutput (fun _ => true) .infineon := by
  refine ⟨rfl, rfl, not_pureOutput_arm (by decide)⟩

end LibCpuid
