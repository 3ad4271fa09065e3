import LibCpuid.CpuListNames
import LibCpuid.Tool.Main

/-! `print_cpulist`, which hands one variable to `cpuid_get_cpu_list` for all vendors in turn.  It
holds garbage at first, and the builders for ARM vendors append to what they find: the order of the
vendors and `cpuid_free_cpu_list` make up for that. -/

namespace LibCpuid

open CLang

/-- The names that are offered for a vendor. -/
def offeredNames : CpuVendor → List (List Char)
  | .cyrix => "Cx486,Cx5x86,6x86,6x86MX,M II,MediaGX,MediaGXi,MediaGXm".toList.splitOn ','
  | .nexgen => "Nx586".toList.splitOn ','
  | .transmeta => "Crusoe,Efficeon".toList.splitOn ','
  | .umc => "UMC x86 CPU".toList.splitOn ','
  | .rise => "Rise mP6".toList.splitOn ','
  | .sis => "SiS mP6".toList.splitOn ','
  | .nsc => "Geode GXm,Geode GXLV,Geode GX1,Geode GX2".toList.splitOn ','
  | vendor => listedNames [] (listedColumn vendor)

/-! ### The list of one vendor -/

/-- A call that leaves some of the names, and all of them in order when no allocation fails. -/
def BuildsList (alloc : Nat → Bool) (offered : List (List Char)) (x : Checked ListState) : Prop :=
  ∃ s names, x = .ok s ∧ s.list.Holds names ∧ names ⊆ offered ∧
    ((∀ k, alloc k = true) → names = offered)

section Build

variable {alloc : Nat → Bool} {vendor : CpuVendor}

theorem firstFailure_eq_none (halloc : ∀ k, alloc k = true) (count calls : Nat) :
    firstFailure alloc count calls = none := by
  obtain rfl : alloc = fun _ => true := funext halloc
  exact firstFailure_none count calls

theorem listedNames_subset {used used' : List (List Char)} (h : used ⊆ used')
    (rest : List (List Char)) : listedNames used rest ⊆ listedNames used' rest := by
  intro name hname
  rw [mem_listedNames] at hname ⊢
  exact hname.imp_left fun hused => h hused

theorem buildsList_generic
    (h : ∀ s, cpuidGetCpuList alloc vendor s =
      genericGetCpuList alloc (vendorEntries vendor) s)
    (hnames : offeredNames vendor = listedNames [] (listedColumn vendor))
    (hparts : partNames vendor = []) (s : ListState) :
    BuildsList alloc (offeredNames vendor) (cpuidGetCpuList alloc vendor s) := by
  obtain ⟨room, hgeneric⟩ := genericGetCpuList_eq alloc (vendorEntries vendor) s.calls
  have hcall := (h s).trans (hgeneric s.list s.errno)
  rw [hnames, listedColumn, hparts, List.append_nil]
  generalize listedNames [] (entryNames (vendorEntries vendor)) = names at hcall ⊢
  cases hfail : firstFailure alloc (names.length + 1) s.calls with
  | none =>
    rw [hfail] at hcall
    exact ⟨_, names, hcall, .block names room, List.Subset.refl names, fun _ => rfl⟩
  | some k =>
    rw [hfail] at hcall
    refine ⟨_, [], hcall, .empty, List.nil_subset _, fun halloc => ?_⟩
    rw [firstFailure_eq_none halloc] at hfail
    cases hfail

theorem copyNames_eq_true (halloc : ∀ k, alloc k = true) (names : List (List Char)) (calls : Nat) :
    (copyNames alloc names calls).1 = true := by
  induction names generalizing calls with
  | nil => rfl
  | cons name names ih =>
    rw [copyNames, if_pos (halloc calls)]
    exact ih (calls + 1)

theorem buildsList_fromString {csv : String}
    (h : ∀ s, cpuidGetCpuList alloc vendor s = .ok (makeListFromString alloc csv s))
    (hnames : offeredNames vendor = csv.toList.splitOn ',') (s : ListState) :
    BuildsList alloc (offeredNames vendor) (cpuidGetCpuList alloc vendor s) := by
  have hof : (⟨(csv.toList.splitOn ',').length, .block ((csv.toList.splitOn ',').map some)⟩ :
      CpuList) = .of (csv.toList.splitOn ',') 0 := by
    rw [CpuList.of, List.replicate_zero, List.append_nil]
  rw [h, hnames, makeListFromString]
  split
  · next hfirst =>
    rw [hof]
    have hcopied (halloc : ∀ k, alloc k = true) :=
      copyNames_eq_true halloc (csv.toList.splitOn ',') (s.calls + 1)
    cases hcopy : copyNames alloc (csv.toList.splitOn ',') (s.calls + 1) with
    | mk copied calls =>
      rw [hcopy] at hcopied
      cases copied with
      | true => exact ⟨_, _, rfl, .block _ 0, List.Subset.refl _, fun _ => rfl⟩
      | false =>
        refine ⟨_, [], rfl, .empty, List.nil_subset _, fun halloc => ?_⟩
        cases hcopied halloc
  · next hfirst =>
    exact ⟨_, [], rfl, .empty, List.nil_subset _, fun halloc => absurd (halloc s.calls) hfirst⟩

/-- `cpuid_get_list_arm` on a list that holds names. -/
theorem buildsList_arm {list : CpuList} {used : List (List Char)} (h : list.Holds used)
    (hused : used.length < 1000) (calls : Nat) (errno : Option CpuError) :
    BuildsList alloc (listedNames used (partNames vendor))
      (cpuidGetListArm alloc vendor ⟨list, calls, errno⟩) := by
  have hlen := partNames_length_lt vendor
  by_cases hparts : partNames vendor = []
  · have hnone : (getCpuImplementerFromVendor vendor).parts.length = 0 := by
      rw [← List.length_map (fun part : ArmIdPart => part.name.toList), ← partNames, hparts]
      rfl
    have hsame : cpuidGetListArm alloc vendor ⟨list, calls, errno⟩ =
        .ok ⟨list, calls, errno⟩ := by
      unfold cpuidGetListArm
      simp only [hnone, h.numEntries, if_true]
      rw [if_neg (by omega)]
    rw [hparts]
    exact ⟨_, used, hsame, h, List.Subset.refl used, fun _ => rfl⟩
  · have hkept : used ⊆ listedNames used (partNames vendor) :=
      fun name hname => mem_listedNames.mpr (.inl hname)
    obtain ⟨room, harm⟩ := cpuidGetListArm_eq alloc hparts h (by omega) calls errno
    generalize listedNames used (partNames vendor) = names at harm hkept ⊢
    by_cases hfirst : alloc calls = true
    · rw [if_pos hfirst] at harm
      cases hfail : firstFailure alloc (names.length - used.length) (calls + 1) with
      | none =>
        rw [hfail] at harm
        exact ⟨_, names, harm, .block names room, List.Subset.refl names, fun _ => rfl⟩
      | some k =>
        rw [hfail] at harm
        refine ⟨_, [], harm, .empty, List.nil_subset _, fun halloc => ?_⟩
        rw [firstFailure_eq_none halloc] at hfail
        cases hfail
    · rw [if_neg hfirst] at harm
      exact ⟨_, used, harm, h, hkept, fun halloc => absurd (halloc calls) hfirst⟩

/-- The list of Intel, whose ARM processors follow the others. -/
theorem buildsList_intel (s : ListState) :
    BuildsList alloc (listedNames [] (listedColumn .intel)) (cpuidGetCpuList alloc .intel s) := by
  have hentries : (entryNames (vendorEntries .intel)).length < 1000 := by decide +kernel
  have hle := listedNames_length_le [] (entryNames (vendorEntries .intel))
  rw [List.length_nil, Nat.zero_add] at hle
  have hcall : cpuidGetCpuList alloc .intel s =
      genericGetCpuList alloc (vendorEntries .intel) s >>= cpuidGetListArm alloc .intel := rfl
  obtain ⟨room, hgeneric⟩ := genericGetCpuList_eq alloc (vendorEntries .intel) s.calls
  rw [hcall, hgeneric, ok_bind, listedColumn, listedNames_append]
  generalize listedNames [] (entryNames (vendorEntries .intel)) = first at hle ⊢
  cases hfail : firstFailure alloc (first.length + 1) s.calls with
  | none => exact buildsList_arm (.block first room) (by omega) _ _
  | some k =>
    obtain ⟨s', names, hs', hholds, hsub, -⟩ :=
      @buildsList_arm alloc .intel _ _ .empty (by decide) (k + 1) (some .noMem)
    refine ⟨s', names, hs', hholds, fun name hname => ?_, fun halloc => ?_⟩
    · exact listedNames_subset (List.nil_subset first) _ (hsub hname)
    · rw [firstFailure_eq_none halloc] at hfail
      cases hfail

/-- A vendor for which the builder only appends needs a list that holds no names. -/
theorem buildsList (hvendor : vendor ≠ .unknown) {s : ListState}
    (h : vendor ∈ armListVendors → s.list.Holds []) :
    BuildsList alloc (offeredNames vendor) (cpuidGetCpuList alloc vendor s) := by
  by_cases harm : vendor ∈ armListVendors
  · obtain ⟨hnames, hentries⟩ : offeredNames vendor = listedNames [] (listedColumn vendor) ∧
        vendorEntries vendor = [] := by
      revert harm
      cases vendor <;> first | exact fun h => absurd h (by decide) | exact fun _ => ⟨rfl, rfl⟩
    rw [cpuidGetCpuList_arm harm, hnames, listedColumn, hentries]
    exact buildsList_arm (h harm) (by decide) s.calls s.errno
  · cases vendor with
    | intel => exact buildsList_intel s
    | amd | hygon | centaur => exact buildsList_generic (fun _ => rfl) rfl (by decide) s
    | cyrix | nexgen | transmeta | umc | rise | sis | nsc =>
      exact buildsList_fromString (fun _ => rfl) rfl s
    | unknown => exact absurd rfl hvendor
    | _ => exact absurd (by decide) harm

end Build

/-! ### All vendors -/

/-- A list that holds names can be freed, and holds none afterwards. -/
theorem CpuList.Holds.free {list : CpuList} {names : List (List Char)} (h : list.Holds names) :
    ∃ list', cpuidFreeCpuList list = .ok list' ∧ list'.Holds [] := by
  cases h with
  | empty => exact ⟨_, rfl, .empty⟩
  | block _ room =>
    cases names with
    | nil => exact ⟨_, rfl, .block [] room⟩
    | cons name names =>
      have hvalid : (CpuList.of (name :: names) room).IsValid :=
        .inr ⟨_, room, List.cons_ne_nil name names, rfl⟩
      exact ⟨_, hvalid.free, .empty⟩

theorem mapM_loadList {α : Type} (read : Nat → Checked α) {xs : List α}
    (h : ∀ i (hi : i < xs.length), read i = .ok xs[i]) :
    (List.range xs.length).mapM read = .ok xs := by
  induction xs using List.reverseRecOn with
  | nil => rfl
  | append_singleton xs x ih =>
    have hxs : (List.range xs.length).mapM read = .ok xs := ih fun i hi => by
      rw [h i (by rw [List.length_append]; omega), List.getElem_append_left hi]
    have hx : read xs.length = .ok x := by
      rw [h xs.length (by simp), List.getElem_concat_length rfl]
    rw [List.length_append, List.length_singleton, List.range_succ, List.mapM_append, hxs, ok_bind,
      List.mapM_cons, hx, ok_bind, List.mapM_nil]
    rfl

/-- The loop of `print_cpulist` over a list that holds names. -/
theorem CpuList.Holds.mapM_listName {list : CpuList} {names : List (List Char)}
    (h : list.Holds names) :
    (List.range list.numEntries.toNat).mapM (listName list) = .ok names := by
  rw [h.numEntries, Int.toNat_natCast]
  cases h with
  | empty => rfl
  | block _ room =>
    refine mapM_loadList _ fun i hi => ?_
    have hload : loadList (names.map some ++ List.replicate room none) i = .ok (some names[i]) := by
      rw [loadList_eq_ok, List.getElem?_append_left (by simpa using hi)]
      simp [hi]
    simp only [listName, CpuList.of, hload, ok_bind]

/-- What is printed for a vendor and names of its processors. -/
def vendorLines (row : String × CpuVendor) (names : List (List Char)) : List ToolEvent :=
  outLine (chars "-----" ++ (chars row.1 ++ chars "-----")) :: names.map outLine

/-- For each vendor some of the names offered for it are printed, and all of them in order when no
allocation fails. -/
def PrintsLists (alloc : Nat → Bool) (rows : List (String × CpuVendor))
    (x : Checked (List ToolEvent)) : Prop :=
  ∃ lists, x = .ok (List.zipWith vendorLines rows lists).flatten ∧
    List.Forall₂ (fun row names => names ⊆ offeredNames row.2) rows lists ∧
    ((∀ k, alloc k = true) → lists = rows.map fun row => offeredNames row.2)

section Vendors

variable {alloc : Nat → Bool} {row : String × CpuVendor} {rest : List (String × CpuVendor)}
  {list : CpuList}

/-- One vendor, with the list as the vendors before it leave it. -/
theorem printsLists_cons (hvendor : row.2 ≠ .unknown)
    (hlist : row.2 ∈ armListVendors → list.Holds [])
    (hrest : ∀ {list : CpuList}, list.Holds [] → ∀ calls,
      PrintsLists alloc rest (printVendors alloc rest list calls))
    (calls : Nat) :
    PrintsLists alloc (row :: rest) (printVendors alloc (row :: rest) list calls) := by
  obtain ⟨s, names, hs, hholds, hsub, hall⟩ :=
    @buildsList alloc row.2 hvendor ⟨list, calls, none⟩ hlist
  obtain ⟨list', hfree, hlist'⟩ := hholds.free
  obtain ⟨lists, hprint, hlists, hlistsAll⟩ := hrest hlist' s.calls
  refine ⟨names :: lists, ?_, .cons hsub hlists, fun halloc => ?_⟩
  · obtain ⟨name, vendor⟩ := row
    rw [printVendors, hs, ok_bind, hholds.mapM_listName, ok_bind, hfree, ok_bind, hprint, ok_bind]
    rfl
  · rw [hall halloc, hlistsAll halloc, List.map_cons]

/-- The vendors after the first one: what `cpuid_free_cpu_list` leaves suits every builder. -/
theorem printsLists_freed (rows : List (String × CpuVendor))
    (hrows : ∀ row ∈ rows, row.2 ≠ CpuVendor.unknown) (hlist : list.Holds []) (calls : Nat) :
    PrintsLists alloc rows (printVendors alloc rows list calls) := by
  induction rows generalizing list calls with
  | nil => exact ⟨[], rfl, .nil, fun _ => rfl⟩
  | cons row rest ih =>
    rw [List.forall_mem_cons] at hrows
    exact printsLists_cons hrows.1 (fun _ => hlist)
      (fun hlist calls => ih hrows.2 hlist calls) calls

end Vendors

/-- Intel, the first of the vendors, has a builder that starts afresh. -/
theorem printsLists_cpuVendors (alloc : Nat → Bool) (list : CpuList) :
    PrintsLists alloc cpuVendors (printVendors alloc cpuVendors list 0) := by
  have hvendors : ∀ row ∈ cpuVendors, row.2 ≠ CpuVendor.unknown := by decide
  rw [cpuVendors, List.forall_mem_cons] at hvendors
  exact printsLists_cons hvendors.1 (fun h => absurd h (by decide))
    (fun hlist calls => printsLists_freed _ hvendors.2 hlist calls) 0

/-- Whatever the variable of `print_cpulist` holds at first and whichever allocations fail, the
program reads and frees nothing that it has not got. -/
theorem printCpulist_printsLists {Affinity : Type} (host : ToolHost Affinity) :
    PrintsLists host.alloc cpuVendors (printCpulist host) :=
  printsLists_cpuVendors host.alloc host.stackList

end LibCpuid
