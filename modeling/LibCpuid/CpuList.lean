import LibCpuid.Identify
import LibCpuid.Dump.Deserialize

/-! The lists of processor names: `cpuid_get_cpu_list` and the functions that build a list from a
table or from a string. -/

namespace LibCpuid

open CLang

/-- What the field `names` of a list may point to: nothing, an address that is not a block of the
heap, or a block of slots.  A slot without a string is uninitialized. -/
inductive NamesPtr
  | null
  | wild
  | block (slots : List (Option (List Char)))

/-- `cpu_list_t`. -/
structure CpuList where
  numEntries : Int
  names : NamesPtr

/-- A list with no entries, as after a failure. -/
def CpuList.empty : CpuList := ⟨0, .null⟩

/-- The list under construction, the number of allocations tried so far, and the error that was set
last. -/
structure ListState where
  list : CpuList
  calls : Nat
  errno : Option CpuError

/-- What a failed allocation leaves, where the function resets the list. -/
def ListState.outOfMemory (calls : Nat) : ListState := ⟨.empty, calls, some .noMem⟩

/-! ### Appending names -/

/-- The inner loop over the names so far: the slots below `n`, from the last to the first. -/
def isListed (slots : List (Option (List Char))) (name : List Char) : Nat → Checked Bool
  | 0 => .ok false
  | j + 1 => do
    match ← loadList slots j with
    | none => .error .invalidPointer
    | some listed => if listed = name then .ok true else isListed slots name j

/-- `names[n] = ...`. -/
def storeSlot (slots : List (Option (List Char))) (n : Int) (slot : Option (List Char)) :
    Checked (List (Option (List Char))) :=
  if n < 0 then .error .outOfBounds else storeList slots n.toNat slot

/-- The loop over the names of a table that `generic_get_cpu_list` and `cpuid_get_list_arm` share.
There is a slot for each new name; `alloc` tells which allocations succeed.  When one fails, the
names and the block are freed, and only the number of calls is left. -/
def appendNames (alloc : Nat → Bool) :
    List (List Char) → List (Option (List Char)) → Int → Nat →
      Checked (Option (List (Option (List Char)) × Int) × Nat)
  | [], slots, n, calls => .ok (some (slots, n), calls)
  | name :: rest, slots, n, calls =>
    if strstr name "Unknown".toList then appendNames alloc rest slots n calls
    else do
      if ← isListed slots name n.toNat then appendNames alloc rest slots n calls
      else
        let slots ← storeSlot slots n (if alloc calls then some name else none)
        if alloc calls then appendNames alloc rest slots (n + 1) (calls + 1)
        else .ok (none, calls + 1)

/-- The list after the loop. -/
def appended (errno : Option CpuError) :
    Option (List (Option (List Char)) × Int) × Nat → ListState
  | (some (slots, n), calls) => ⟨⟨n, .block slots⟩, calls, errno⟩
  | (none, calls) => .outOfMemory calls

/-- `generic_get_cpu_list`. -/
def genericGetCpuList (alloc : Nat → Bool) (matchtable : List MatchEntry) (s : ListState) :
    Checked ListState :=
  if alloc s.calls then do
    let r ← appendNames alloc (matchtable.map fun entry => entry.name.toList)
      (List.replicate matchtable.length none) 0 (s.calls + 1)
    .ok (appended s.errno r)
  else .ok (.outOfMemory (s.calls + 1))

/-! ### ARM processors -/

/-- `get_cpu_implementer_from_vendor`. -/
def getCpuImplementerFromVendor (vendor : CpuVendor) : ArmHwImpl :=
  match hwImplementer.find? (fun impl => impl.vendor = vendor) with
  | some impl => impl
  | none => ⟨0, .unknown, unknownPart, unknStr⟩

/-- The block that a successful `realloc` gives. -/
def reallocNames : NamesPtr → Nat → Checked (List (Option (List Char)))
  | .null, count => .ok (List.replicate count none)
  | .wild, _ => .error .invalidPointer
  | .block slots, count =>
    .ok (slots.take count ++ List.replicate (count - slots.length) none)

/-- `cpuid_get_list_arm`, which appends to the list that it is given.  There is never memory for a
negative number of slots, which is a huge one as a `size_t`. -/
def cpuidGetListArm (alloc : Nat → Bool) (vendor : CpuVendor) (s : ListState) :
    Checked ListState :=
  let parts := (getCpuImplementerFromVendor vendor).parts
  let subCount := parts.length
  let totalCount := s.list.numEntries + subCount
  if totalCount ≥ 2 ^ 31 then .error .overflow
  else if subCount = 0 then .ok s
  else do
    let slots ← reallocNames s.list.names totalCount.toNat
    if alloc s.calls && decide (totalCount ≥ 0) then
      let r ← appendNames alloc (parts.map fun part => part.name.toList) slots s.list.numEntries
        (s.calls + 1)
      .ok (appended s.errno r)
    else .ok { s with calls := s.calls + 1, errno := some .noMem }

/-! ### Other processors -/

/-- The loop of `make_list_from_string` that copies the names: whether there is memory for each of
them, and the number of calls. -/
def copyNames (alloc : Nat → Bool) : List (List Char) → Nat → Bool × Nat
  | [], calls => (true, calls)
  | _ :: rest, calls =>
    if alloc calls then copyNames alloc rest (calls + 1) else (false, calls + 1)

/-- `make_list_from_string`. -/
def makeListFromString (alloc : Nat → Bool) (csv : String) (s : ListState) : ListState :=
  let names := csv.toList.splitOn ','
  if alloc s.calls then
    match copyNames alloc names (s.calls + 1) with
    | (true, calls) => ⟨⟨names.length, .block (names.map some)⟩, calls, s.errno⟩
    | (false, calls) => .outOfMemory calls
  else .outOfMemory (s.calls + 1)

/-- `cpuid_get_list_intel`. -/
def cpuidGetListIntel (alloc : Nat → Bool) (s : ListState) : Checked ListState :=
  genericGetCpuList alloc cpudbIntel s

/-- `cpuid_get_list_amd`. -/
def cpuidGetListAmd (alloc : Nat → Bool) (s : ListState) : Checked ListState :=
  genericGetCpuList alloc cpudbAmd s

/-- `cpuid_get_list_centaur`. -/
def cpuidGetListCentaur (alloc : Nat → Bool) (s : ListState) : Checked ListState :=
  genericGetCpuList alloc cpudbCentaur s

/-- `cpuid_get_cpu_list`. -/
def cpuidGetCpuList (alloc : Nat → Bool) (vendor : CpuVendor) (s : ListState) :
    Checked ListState :=
  match vendor with
  | .intel => do cpuidGetListArm alloc vendor (← cpuidGetListIntel alloc s)
  | .amd | .hygon => cpuidGetListAmd alloc s
  | .cyrix =>
    .ok (makeListFromString alloc "Cx486,Cx5x86,6x86,6x86MX,M II,MediaGX,MediaGXi,MediaGXm" s)
  | .nexgen => .ok (makeListFromString alloc "Nx586" s)
  | .transmeta => .ok (makeListFromString alloc "Crusoe,Efficeon" s)
  | .umc => .ok (makeListFromString alloc "UMC x86 CPU" s)
  | .centaur => cpuidGetListCentaur alloc s
  | .rise => .ok (makeListFromString alloc "Rise mP6" s)
  | .sis => .ok (makeListFromString alloc "SiS mP6" s)
  | .nsc => .ok (makeListFromString alloc "Geode GXm,Geode GXLV,Geode GX1,Geode GX2" s)
  | .arm | .broadcom | .cavium | .dec | .fujitsu | .hisilicon | .infineon | .freescale | .nvidia
  | .apm | .qualcomm | .samsung | .marvell | .apple | .faraday | .microsoft | .phytium
  | .ampere => cpuidGetListArm alloc vendor s
  | .unknown => .ok ⟨.empty, s.calls, some .invRange⟩

/-- The loop of `cpuid_free_cpu_list`. -/
def freeNames (slots : List (Option (List Char))) : Nat → Checked Unit
  | 0 => .ok ()
  | i + 1 => do
    freeNames slots i
    match ← loadList slots i with
    | none => .error .invalidPointer
    | some _ => .ok ()

/-- `cpuid_free_cpu_list`. -/
def cpuidFreeCpuList (list : CpuList) : Checked CpuList :=
  if list.numEntries ≤ 0 then .ok list
  else
    match list.names with
    | .null => .error .nullPointer
    | .wild => .error .invalidPointer
    | .block slots => do
      freeNames slots list.numEntries.toNat
      .ok .empty

/-! ### What the loop appends -/

/-- The names so far, followed by those of a table that are neither unknown nor listed. -/
def listedNames : List (List Char) → List (List Char) → List (List Char)
  | used, [] => used
  | used, name :: rest =>
    if strstr name "Unknown".toList ∨ name ∈ used then listedNames used rest
    else listedNames (used ++ [name]) rest

/-- The first of `count` allocations from number `calls` on that fails. -/
def firstFailure (alloc : Nat → Bool) : Nat → Nat → Option Nat
  | 0, _ => none
  | count + 1, calls => if alloc calls then firstFailure alloc count (calls + 1) else some calls

theorem isListed_eq {used : List (List Char)} {rest : List (Option (List Char))}
    {name : List Char} {n : Nat} (hn : n ≤ used.length) :
    isListed (used.map some ++ rest) name n = .ok (decide (name ∈ used.take n)) := by
  induction n with
  | zero => simp [isListed]
  | succ n ih =>
    have hlt : n < used.length := hn
    have hload : loadList (used.map some ++ rest) n = .ok (some used[n]) := by
      rw [loadList_eq_ok, List.getElem?_append_left (by simpa using hlt)]
      simp [hlt]
    rw [isListed, hload, ok_bind]
    dsimp only
    rw [List.take_succ_eq_append_getElem hlt]
    by_cases heq : used[n] = name
    · simp [heq]
    · rw [if_neg heq, ih hlt.le]
      refine congrArg Except.ok (decide_eq_decide.mpr ?_)
      rw [List.mem_append, List.mem_singleton]
      exact ⟨.inl, fun h => h.resolve_right (Ne.symm heq)⟩

theorem listedNames_skip {used rest : List (List Char)} {name : List Char}
    (h : strstr name "Unknown".toList = true ∨ name ∈ used) :
    listedNames used (name :: rest) = listedNames used rest := if_pos h

theorem listedNames_add {used rest : List (List Char)} {name : List Char}
    (hknown : ¬strstr name "Unknown".toList = true) (hnew : name ∉ used) :
    listedNames used (name :: rest) = listedNames (used ++ [name]) rest :=
  if_neg fun h => h.elim hknown hnew

theorem length_le_listedNames (used rest : List (List Char)) :
    used.length ≤ (listedNames used rest).length := by
  induction rest generalizing used with
  | nil => exact le_rfl
  | cons name rest ih =>
    rw [listedNames]
    split
    · exact ih used
    · exact (by simp : used.length ≤ (used ++ [name]).length).trans (ih _)

/-- A block whose first slots hold names, with room for those of the table. -/
theorem appendNames_eq (alloc : Nat → Bool) {used rest : List (List Char)} {room : Nat}
    (hroom : rest.length ≤ room) (calls : Nat) :
    ∃ room', appendNames alloc rest (used.map some ++ List.replicate room none) used.length calls =
      .ok (match firstFailure alloc ((listedNames used rest).length - used.length) calls with
        | none =>
          (some ((listedNames used rest).map some ++ List.replicate room' none,
            (listedNames used rest).length),
            calls + ((listedNames used rest).length - used.length))
        | some k => (none, k + 1)) := by
  induction rest generalizing used room calls with
  | nil => exact ⟨room, by simp [appendNames, listedNames, firstFailure]⟩
  | cons name rest ih =>
    rw [List.length_cons] at hroom
    rw [appendNames]
    by_cases hunknown : strstr name "Unknown".toList = true
    · rw [if_pos hunknown, listedNames_skip (.inl hunknown)]
      exact ih (by omega) calls
    · rw [if_neg hunknown, Int.toNat_natCast, isListed_eq le_rfl, List.take_length, ok_bind]
      by_cases hlisted : name ∈ used
      · rw [if_pos (by simpa using hlisted), listedNames_skip (.inr hlisted)]
        exact ih (by omega) calls
      · rw [if_neg (by simpa using hlisted), listedNames_add hunknown hlisted]
        obtain ⟨room, rfl⟩ : ∃ r, room = r + 1 := ⟨room - 1, by omega⟩
        have hstore (slot : Option (List Char)) :
            storeSlot (used.map some ++ List.replicate (room + 1) none) used.length slot =
              .ok (used.map some ++ slot :: List.replicate room none) := by
          rw [storeSlot, if_neg (by omega), Int.toNat_natCast, storeList_of_lt (by simp),
            List.set_append_right _ _ (by simp)]
          simp [List.replicate_succ]
        have hmore := length_le_listedNames (used ++ [name]) rest
        obtain ⟨room', h⟩ := @ih (used ++ [name]) room (by omega) (calls + 1)
        generalize listedNames (used ++ [name]) rest = final at hmore h ⊢
        rw [List.length_append, List.length_singleton] at hmore h
        obtain ⟨d, hd⟩ := Nat.exists_eq_add_of_le hmore
        rw [show final.length - (used.length + 1) = d by omega] at h
        rw [hstore, ok_bind, show final.length - used.length = d + 1 by omega, firstFailure]
        by_cases halloc : alloc calls = true
        · refine ⟨room', ?_⟩
          rw [show calls + (d + 1) = calls + 1 + d by omega]
          simpa [halloc] using h
        · refine ⟨0, ?_⟩
          simp only [if_neg halloc]

theorem listedNames_length_le (used rest : List (List Char)) :
    (listedNames used rest).length ≤ used.length + rest.length := by
  induction rest generalizing used with
  | nil => exact le_rfl
  | cons name rest ih =>
    rw [List.length_cons, listedNames]
    split
    · exact (ih used).trans (by omega)
    · refine (ih _).trans ?_
      rw [List.length_append, List.length_singleton]
      omega

theorem mem_listedNames {used rest : List (List Char)} {name : List Char} :
    name ∈ listedNames used rest ↔
      name ∈ used ∨ (name ∈ rest ∧ strstr name "Unknown".toList = false) := by
  induction rest generalizing used with
  | nil => simp [listedNames]
  | cons first rest ih =>
    rw [listedNames]
    split
    case isTrue hskip =>
      rw [ih, List.mem_cons]
      refine or_congr_right' fun hnot => and_congr_left fun hknown => ?_
      refine ⟨.inr, fun h => h.resolve_left ?_⟩
      rintro rfl
      exact hskip.elim (fun hunknown => by rw [hknown] at hunknown; cases hunknown) hnot
    case isFalse hadd =>
      have hknown : strstr first "Unknown".toList = false := by simpa using fun h => hadd (.inl h)
      rw [ih, List.mem_append, List.mem_singleton, List.mem_cons, or_assoc]
      refine or_congr_right ⟨?_, ?_⟩
      · rintro (rfl | ⟨h, hn⟩)
        · exact ⟨.inl rfl, hknown⟩
        · exact ⟨.inr h, hn⟩
      · rintro ⟨rfl | h, hn⟩
        · exact .inl rfl
        · exact .inr ⟨h, hn⟩

/-! ### The builders -/

/-- A list in a block with room for more names. -/
def CpuList.of (names : List (List Char)) (room : Nat) : CpuList :=
  ⟨names.length, .block (names.map some ++ List.replicate room none)⟩

/-- The names of a table of x86 processors. -/
def entryNames (matchtable : List MatchEntry) : List (List Char) :=
  matchtable.map fun entry => entry.name.toList

/-- The names of the parts of an ARM vendor. -/
def partNames (vendor : CpuVendor) : List (List Char) :=
  (getCpuImplementerFromVendor vendor).parts.map fun part => part.name.toList

theorem genericGetCpuList_eq (alloc : Nat → Bool) (matchtable : List MatchEntry)
    (calls : Nat) :
    ∃ room, ∀ list errno, genericGetCpuList alloc matchtable ⟨list, calls, errno⟩ =
      .ok (match firstFailure alloc ((listedNames [] (entryNames matchtable)).length + 1)
          calls with
        | none => ⟨.of (listedNames [] (entryNames matchtable)) room,
            calls + 1 + (listedNames [] (entryNames matchtable)).length, errno⟩
        | some k => .outOfMemory (k + 1)) := by
  obtain ⟨room, h⟩ := @appendNames_eq alloc [] (entryNames matchtable) matchtable.length
    (by rw [entryNames, List.length_map]) (calls + 1)
  refine ⟨room, fun list errno => ?_⟩
  rw [genericGetCpuList, firstFailure]
  by_cases halloc : alloc calls = true
  · rw [if_pos halloc, if_pos halloc]
    simp only [List.map_nil, List.nil_append, List.length_nil, Nat.cast_zero, Nat.sub_zero] at h
    rw [entryNames] at h
    rw [h, ok_bind, entryNames]
    cases firstFailure alloc _ (calls + 1) <;> rfl
  · rw [if_neg halloc, if_neg halloc]

/-- The list that a builder before `cpuid_get_list_arm` leaves. -/
inductive CpuList.Holds : CpuList → List (List Char) → Prop
  | empty : Holds .empty []
  | block (names : List (List Char)) (room : Nat) : Holds (.of names room) names

theorem CpuList.Holds.numEntries {list : CpuList} {used : List (List Char)} (h : list.Holds used) :
    list.numEntries = used.length := by
  cases h <;> rfl

theorem CpuList.Holds.realloc {list : CpuList} {used : List (List Char)} (h : list.Holds used)
    (count : Nat) : reallocNames list.names (used.length + count) =
      .ok (used.map some ++ List.replicate count none) := by
  cases h with
  | empty => simp [CpuList.empty, reallocNames]
  | block _ room =>
    simp only [CpuList.of, reallocNames, Except.ok.injEq]
    rw [List.take_append, List.take_of_length_le (by simp), List.append_assoc, List.take_replicate,
      List.replicate_append_replicate]
    congr 2
    rw [List.length_append, List.length_map, List.length_replicate]
    omega

theorem cpuidGetListArm_eq (alloc : Nat → Bool) {vendor : CpuVendor}
    (hparts : partNames vendor ≠ []) {list : CpuList} {used : List (List Char)}
    (h : list.Holds used) (hfits : used.length + (partNames vendor).length < 2 ^ 31)
    (calls : Nat) (errno : Option CpuError) :
    ∃ room, cpuidGetListArm alloc vendor ⟨list, calls, errno⟩ =
      .ok (if alloc calls then
          match firstFailure alloc ((listedNames used (partNames vendor)).length - used.length)
            (calls + 1) with
          | none => ⟨.of (listedNames used (partNames vendor)) room,
              calls + 1 + ((listedNames used (partNames vendor)).length - used.length), errno⟩
          | some k => .outOfMemory (k + 1)
        else ⟨list, calls + 1, some .noMem⟩) := by
  obtain ⟨room, happend⟩ := @appendNames_eq alloc used (partNames vendor)
    (partNames vendor).length le_rfl (calls + 1)
  refine ⟨room, ?_⟩
  have hlen : (getCpuImplementerFromVendor vendor).parts.length = (partNames vendor).length :=
    (List.length_map _).symm
  have hpos : (partNames vendor).length ≠ 0 := fun h0 => hparts (List.length_eq_zero_iff.mp h0)
  unfold cpuidGetListArm
  simp only [h.numEntries, hlen]
  rw [if_neg (by omega), if_neg hpos,
    show ((used.length : Int) + ((partNames vendor).length : Int)).toNat =
      used.length + (partNames vendor).length by omega, h.realloc, ok_bind]
  by_cases halloc : alloc calls = true
  · rw [if_pos (by simp [halloc]; omega), if_pos halloc, ← partNames, happend, ok_bind]
    cases firstFailure alloc _ (calls + 1) <;> rfl
  · rw [if_neg (by simp [halloc]), if_neg halloc]

end LibCpuid
