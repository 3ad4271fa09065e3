import LibCpuid.CpuListOutput
import LibCpuid.Codenames

/-! For which vendors `cpuid_get_cpu_list` lists the codenames that `cpu_identify` can store. -/

namespace LibCpuid

open CLang

/-! ### The list of a vendor -/

theorem firstFailure_none (count calls : Nat) : firstFailure (fun _ => true) count calls = none := by
  induction count generalizing calls with
  | zero => rfl
  | succ count ih => exact ih (calls + 1)

theorem listedNames_append (used first second : List (List Char)) :
    listedNames used (first ++ second) = listedNames (listedNames used first) second := by
  induction first generalizing used with
  | nil => rfl
  | cons name first ih =>
    rw [List.cons_append, listedNames, listedNames]
    split <;> exact ih _

theorem CpuList.Holds.unique {list : CpuList} {names names' : List (List Char)}
    (h : list.Holds names) (h' : list.Holds names') : names = names' := by
  have hlen : names.length = names'.length :=
    Int.natCast_inj.mp (h.numEntries.symm.trans h'.numEntries)
  cases h with
  | empty => exact (List.length_eq_zero_iff.mp hlen.symm).symm
  | block names room =>
    generalize hlist : CpuList.of names room = list at h'
    cases h' with
    | empty => exact List.length_eq_zero_iff.mp hlen
    | block names' room' =>
      have hslots := NamesPtr.block.inj (congrArg CpuList.names hlist)
      have hmap := List.append_inj_left hslots (by rw [List.length_map, List.length_map, hlen])
      exact List.map_injective_iff.mpr (Option.some_injective _) hmap

/-- The names that are offered for the list of a vendor, in their order. -/
def listedColumn (vendor : CpuVendor) : List (List Char) :=
  entryNames (vendorEntries vendor) ++ partNames vendor

section Listing

variable {vendor : CpuVendor}

/-- The list that is left when no allocation fails. -/
def ListsNames (vendor : CpuVendor) (names : List (List Char)) : Prop :=
  ∃ list calls, cpuidGetCpuList (fun _ => true) vendor ⟨.empty, 0, none⟩ =
    .ok ⟨list, calls, none⟩ ∧ list.Holds names

theorem listsNames_generic
    (h : ∀ s, cpuidGetCpuList (fun _ => true) vendor s =
      genericGetCpuList (fun _ => true) (vendorEntries vendor) s)
    (hparts : partNames vendor = []) : ListsNames vendor (listedNames [] (listedColumn vendor)) := by
  obtain ⟨room, hgeneric⟩ := genericGetCpuList_eq (fun _ => true) (vendorEntries vendor) 0
  rw [listedColumn, hparts, List.append_nil]
  generalize listedNames [] (entryNames (vendorEntries vendor)) = names at hgeneric ⊢
  refine ⟨.of names room, 0 + 1 + names.length, ?_, .block names room⟩
  rw [h, hgeneric, firstFailure_none]

theorem partNames_length_lt (vendor : CpuVendor) : (partNames vendor).length < 100 := by
  have hall : ∀ impl ∈ hwImplementer, impl.parts.length < 100 := by decide
  rw [partNames, List.length_map, getCpuImplementerFromVendor]
  cases himpl : hwImplementer.find? fun impl => impl.vendor = vendor with
  | none => decide
  | some impl => exact hall impl (List.mem_of_find?_eq_some himpl)

/-- What `cpuid_get_list_arm` adds to a list. -/
theorem cpuidGetListArm_holds {list : CpuList} {used : List (List Char)} (h : list.Holds used)
    (hused : used.length < 1000) (calls : Nat) : ∃ list' calls',
      cpuidGetListArm (fun _ => true) vendor ⟨list, calls, none⟩ = .ok ⟨list', calls', none⟩ ∧
        list'.Holds (listedNames used (partNames vendor)) := by
  have hlen := partNames_length_lt vendor
  by_cases hparts : partNames vendor = []
  · refine ⟨list, calls, ?_, by rw [hparts]; exact h⟩
    have hnone : (getCpuImplementerFromVendor vendor).parts.length = 0 := by
      rw [← List.length_map (fun part : ArmIdPart => part.name.toList), ← partNames, hparts]
      rfl
    unfold cpuidGetListArm
    simp only [hnone, h.numEntries, if_true]
    rw [if_neg (by omega)]
  · obtain ⟨room, harm⟩ := cpuidGetListArm_eq (fun _ => true) hparts h (by omega) calls none
    rw [if_pos rfl, firstFailure_none] at harm
    exact ⟨_, _, harm, .block _ _⟩

theorem listsNames_arm
    (h : ∀ s, cpuidGetCpuList (fun _ => true) vendor s = cpuidGetListArm (fun _ => true) vendor s)
    (hentries : vendorEntries vendor = []) :
    ListsNames vendor (listedNames [] (listedColumn vendor)) := by
  obtain ⟨list, calls, harm, hholds⟩ := @cpuidGetListArm_holds vendor _ _ .empty (by decide) 0
  rw [listedColumn, hentries]
  exact ⟨list, calls, (h _).trans harm, hholds⟩

theorem listsNames_appended
    (h : ∀ s, cpuidGetCpuList (fun _ => true) vendor s =
      (genericGetCpuList (fun _ => true) (vendorEntries vendor) s >>=
        cpuidGetListArm (fun _ => true) vendor))
    (hentries : (vendorEntries vendor).length < 1000) :
    ListsNames vendor (listedNames [] (listedColumn vendor)) := by
  obtain ⟨room, hgeneric⟩ := genericGetCpuList_eq (fun _ => true) (vendorEntries vendor) 0
  have hle := listedNames_length_le [] (entryNames (vendorEntries vendor))
  rw [entryNames, List.length_map, ← entryNames] at hle
  rw [listedColumn, listedNames_append]
  generalize listedNames [] (entryNames (vendorEntries vendor)) = names at hgeneric hle ⊢
  obtain ⟨list, calls, harm, hholds⟩ := @cpuidGetListArm_holds vendor _ _ (.block names room)
    (by rw [List.length_nil] at hle; omega) (0 + 1 + names.length)
  refine ⟨list, calls, ?_, hholds⟩
  rw [h, hgeneric, firstFailure_none, ok_bind]
  exact harm

/-- When no allocation fails the list of a vendor holds the names offered for it. -/
theorem cpuidGetCpuList_listsNames (hv : vendor ∈ tabledVendors) :
    ListsNames vendor (listedNames [] (listedColumn vendor)) := by
  cases vendor with
  | intel => exact listsNames_appended (fun _ => rfl) (by decide +kernel)
  | amd | hygon | centaur => exact listsNames_generic (fun _ => rfl) (by decide)
  | unknown | cyrix | nexgen | transmeta | umc | rise | sis | nsc => exact absurd hv (by decide)
  | _ => exact listsNames_arm (fun _ => rfl) rfl

end Listing

/-- The names follow each other as they first do in the table. -/
def InTableOrder (table names : List (List Char)) : Prop :=
  names.Pairwise fun a b => table.idxOf a < table.idxOf b

/-- The names so far are those before `rest` in the table, in order; so are those after it. -/
theorem listedNames_inTableOrder {table before rest used : List (List Char)}
    (htable : table = before ++ rest) (horder : InTableOrder table used)
    (hused : ∀ name ∈ used, name ∈ before)
    (hbefore : ∀ name ∈ before, strstr name "Unknown".toList = false → name ∈ used) :
    InTableOrder table (listedNames used rest) := by
  induction rest generalizing before used with
  | nil => exact horder
  | cons name rest ih =>
    have htable' : table = (before ++ [name]) ++ rest := by
      rw [htable, List.append_assoc, List.singleton_append]
    rw [listedNames]
    split
    case isTrue hskip =>
      refine ih htable' horder (fun n hn => List.mem_append_left _ (hused n hn)) ?_
      intro n hn hknown
      rcases List.mem_append.mp hn with hn | hn
      · exact hbefore n hn hknown
      · obtain rfl := List.mem_singleton.mp hn
        exact hskip.resolve_left fun hunknown => by rw [hknown] at hunknown; cases hunknown
    case isFalse hadd =>
      obtain ⟨hknown, hnew⟩ := not_or.mp hadd
      have hfirst : name ∉ before := fun hmem => hnew (hbefore name hmem (by simpa using hknown))
      refine ih htable' ?_ ?_ ?_
      · refine List.pairwise_append.mpr ⟨horder, List.pairwise_singleton _ _, ?_⟩
        rintro n hn _ hmem
        obtain rfl := List.mem_singleton.mp hmem
        rw [htable, List.idxOf_append_of_mem (hused n hn), List.idxOf_append_of_notMem hfirst,
          List.idxOf_cons_self, Nat.add_zero]
        exact List.idxOf_lt_length_of_mem (hused n hn)
      · intro n hn
        rcases List.mem_append.mp hn with hn | hn
        · exact List.mem_append_left _ (hused n hn)
        · exact List.mem_append_right _ hn
      · intro n hn hknown
        rcases List.mem_append.mp hn with hn | hn
        · exact List.mem_append_left _ (hbefore n hn hknown)
        · exact List.mem_append_right _ hn

/-! ### The list and the codenames -/

/-- A name that contains "Unknown" or "unknown". -/
def isUnknownName (name : List Char) : Bool :=
  strstr name "Unknown".toList || strstr name unknStr.toList

/-- The codenames in the tables of a vendor. -/
def codenameColumn (vendor : CpuVendor) : List (List Char) :=
  entryNames (vendorEntries vendor) ++
    (getCpuImplementerFromVendor vendor).parts.map fun part => part.codename.toList

/-- The list of a vendor, from an empty one, has no duplicates, follows the table, and holds exactly
the codenames that `cpu_identify` can store for the vendor, but for unknown ones. -/
def ListsCodenames (vendor : CpuVendor) : Prop :=
  ∃ names, ListsNames vendor names ∧ names.Nodup ∧ InTableOrder (codenameColumn vendor) names ∧
    ∀ name, isUnknownName name = false → (name ∈ names ↔ IsCodename vendor name)

theorem InTableOrder.nodup {table names : List (List Char)} (h : InTableOrder table names) :
    names.Nodup :=
  h.imp fun {a b} hlt heq => by rw [heq] at hlt; exact lt_irrefl _ hlt

theorem mem_listedNames_column {vendor : CpuVendor} {name : List Char}
    (hknown : isUnknownName name = false) :
    name ∈ listedNames [] (listedColumn vendor) ↔ name ∈ listedColumn vendor := by
  rw [mem_listedNames]
  refine ⟨fun h => (h.resolve_left List.not_mem_nil).1, fun h => .inr ⟨h, ?_⟩⟩
  exact (Bool.or_eq_false_iff.mp hknown).1

theorem listsCodenames_of {vendor : CpuVendor} (hv : vendor ∈ tabledVendors)
    (hcolumn : codenameColumn vendor = listedColumn vendor)
    (h : ∀ name, isUnknownName name = false →
      (name ∈ listedColumn vendor ↔ IsCodename vendor name)) : ListsCodenames vendor := by
  have horder : InTableOrder (codenameColumn vendor) (listedNames [] (listedColumn vendor)) :=
    @listedNames_inTableOrder (codenameColumn vendor) [] (listedColumn vendor) [] hcolumn
      List.Pairwise.nil (fun _ hn => hn) fun _ hn _ => hn
  exact ⟨_, cpuidGetCpuList_listsNames hv, horder.nodup, horder, fun name hknown =>
    (mem_listedNames_column hknown).trans (h name hknown)⟩

/-- One name that is offered for the list and is not a codename is enough. -/
theorem not_listsCodenames {vendor : CpuVendor} {name : List Char} (hv : vendor ∈ tabledVendors)
    (hmem : name ∈ listedColumn vendor) (hknown : isUnknownName name = false)
    (hnot : ¬IsCodename vendor name) : ¬ListsCodenames vendor := by
  rintro ⟨names, ⟨list, calls, hcall, hholds⟩, -, -, h⟩
  obtain ⟨list', calls', hcall', hholds'⟩ := cpuidGetCpuList_listsNames hv
  rw [hcall, Except.ok.injEq, ListState.mk.injEq] at hcall'
  obtain ⟨rfl, -⟩ := hcall'
  rw [hholds.unique hholds'] at h
  exact hnot ((h name hknown).mp ((mem_listedNames_column hknown).mpr hmem))

/-! ### Names that are no codenames -/

theorem not_isPartCodename {vendor : CpuVendor} {name : List Char}
    (hknown : isUnknownName name = false)
    (h : ∀ impl ∈ hwImplementer, impl.vendor = vendor → ∀ part ∈ impl.parts,
      part.codename.toList.take 63 ≠ name) : ¬IsPartCodename vendor name := by
  rintro ⟨impl, himpl, hvendor, rfl | ⟨part, hpart, hname⟩⟩
  · exact absurd hknown (by decide)
  · exact h impl himpl hvendor part hpart hname.symm

/-- The list has the names of the parts, not their codenames. -/
theorem lead_names : ∀ vendor ∈ armListVendors, vendor ∉ [CpuVendor.infineon, .freescale] →
    ∃ name ∈ (partNames vendor).take 1, isUnknownName name = false ∧
      ∀ impl ∈ hwImplementer, impl.vendor = vendor → ∀ part ∈ impl.parts,
        part.codename.toList.take 63 ≠ name := by
  decide +kernel

theorem not_listsCodenames_arm {vendor : CpuVendor} (hv : vendor ∈ armListVendors)
    (hparts : vendor ∉ [CpuVendor.infineon, .freescale]) : ¬ListsCodenames vendor := by
  obtain ⟨name, hlead, hknown, hnot⟩ := lead_names vendor hv hparts
  have htabled : ∀ vendor ∈ armListVendors, vendor ∈ tabledVendors ∧
      vendor ∉ [CpuVendor.intel, .amd, .hygon, .centaur] := by decide
  obtain ⟨htabled, hx86⟩ := htabled vendor hv
  refine not_listsCodenames htabled (List.mem_append_right _ (List.mem_of_mem_take hlead)) hknown ?_
  intro h
  rcases h.source htabled with ⟨hmem, -⟩ | hpart
  · exact hx86 hmem
  · exact not_isPartCodename hknown hnot hpart

/-- The names of the ARM parts of Intel are no codenames. -/
theorem not_listsCodenames_intel : ¬ListsCodenames .intel := by
  have hknown : isUnknownName "i80200".toList = false := by decide
  have hmem : "i80200".toList ∈ partNames .intel := by decide
  have hpart : ¬IsPartCodename .intel "i80200".toList :=
    not_isPartCodename hknown (by decide)
  refine not_listsCodenames (by decide) (List.mem_append_right _ hmem) hknown fun h => ?_
  obtain ⟨d, k, entry, hk, hname, -⟩ := h.entry (by decide) hpart (by decide)
  have hnone : ∀ entry ∈ cpudbIntel, entry.name ≠ "i80200" := by decide +kernel
  exact hnone entry (List.mem_of_getElem? hk) hname

/-- Two entries of `cpudb_amd` differ in their names only, so the second is never chosen. -/
theorem cpudbAmd_twins : ∃ entry : MatchEntry, cpudbAmd[122]? = some entry ∧
    cpudbAmd[123]? = some { entry with name := "Phenom X3 (Toliman/512K)" } := ⟨_, rfl, rfl⟩

theorem not_listsCodenames_amd {vendor : CpuVendor} (hv : vendor ∈ [CpuVendor.amd, .hygon]) :
    ¬ListsCodenames vendor := by
  have hknown : isUnknownName "Phenom X3 (Toliman/512K)".toList = false := by decide
  have hmem : "Phenom X3 (Toliman/512K)".toList ∈ entryNames cpudbAmd := by
    obtain ⟨entry, -, htwin⟩ := cpudbAmd_twins
    exact List.mem_map.mpr ⟨_, List.mem_of_getElem? htwin, rfl⟩
  have hfacts : ∀ vendor ∈ [CpuVendor.amd, .hygon], vendor ∈ tabledVendors ∧
      ∀ impl ∈ hwImplementer, impl.vendor ≠ vendor := by decide
  have hentries : vendorEntries vendor = cpudbAmd := by
    simp only [List.mem_cons, List.not_mem_nil, or_false] at hv
    rcases hv with rfl | rfl <;> rfl
  obtain ⟨htabled, himpl⟩ := hfacts vendor hv
  have hpart (name : List Char) : ¬IsPartCodename vendor name := by
    rintro ⟨impl, hmem, hvendor, -⟩
    exact himpl impl hmem hvendor
  refine not_listsCodenames htabled (List.mem_append_left _ (by rwa [hentries])) hknown fun h => ?_
  obtain ⟨d, k, entry, hk, hname, hearlier⟩ := h.entry htabled (hpart _) (by decide)
  rw [hentries] at hk hearlier
  have honly : ∀ p ∈ cpudbAmd.zipIdx, p.1.name = "Phenom X3 (Toliman/512K)" → p.2 = 123 := by
    decide +kernel
  obtain rfl := honly (entry, k) (List.mk_mem_zipIdx_iff_getElem?.mpr hk) hname
  obtain ⟨twin, h122, h123⟩ := cpudbAmd_twins
  rw [h123, Option.some.injEq] at hk
  subst hk
  exact lt_irrefl _ (hearlier 122 (by decide) twin h122)

/-! ### Names that are codenames -/

/-- Without parts every codename of the vendor is unknown, and the list is empty. -/
theorem listsCodenames_noParts {vendor : CpuVendor}
    (hv : vendor ∈ [CpuVendor.infineon, .freescale]) : ListsCodenames vendor := by
  have hfacts : ∀ vendor ∈ [CpuVendor.infineon, .freescale],
      (vendor ∈ tabledVendors ∧ vendor ∉ [CpuVendor.intel, .amd, .hygon, .centaur]) ∧
      (listedColumn vendor = [] ∧ codenameColumn vendor = []) ∧
      ∀ impl ∈ hwImplementer, impl.vendor = vendor → impl.parts.length = 0 := by decide
  obtain ⟨⟨htabled, hx86⟩, ⟨hlisted, hcolumn⟩, hparts⟩ := hfacts vendor hv
  refine listsCodenames_of htabled (hcolumn.trans hlisted.symm) fun name hknown => ?_
  rw [hlisted]
  refine iff_of_false List.not_mem_nil fun h => ?_
  rcases h.source htabled with ⟨hmem, -⟩ | hpart
  · exact hx86 hmem
  · refine not_isPartCodename hknown (fun impl himpl hvendor part hmem => ?_) hpart
    rw [List.length_eq_zero_iff.mp (hparts impl himpl hvendor)] at hmem
    cases hmem

/-- The four characters of a string that a register holds. -/
def packWord (s : List Char) (i : Nat) : BitVec 32 :=
  .ofNat 32 (((s.drop (4 * i)).take 4).foldr (fun c n => c.toNat + 256 * n) 0)

/-- What tells Centaur processors apart. -/
structure CentaurSample where
  signature : BitVec 32
  numCores : Nat
  brand : String

/-- The registers of such a processor. -/
def CentaurSample.raw (s : CentaurSample) : CpuRawData :=
  let vendor := "CentaurHauls".toList
  let quad (i : Nat) : Regs :=
    ⟨packWord s.brand.toList (4 * i), packWord s.brand.toList (4 * i + 1),
      packWord s.brand.toList (4 * i + 2), packWord s.brand.toList (4 * i + 3)⟩
  { CpuRawData.zero with
    basicCpuid := fun leaf => match leaf with
      | 0 => ⟨4, packWord vendor 0, packWord vendor 2, packWord vendor 1⟩
      | 1 => ⟨s.signature, 0, 0, if s.numCores > 1 then 0x10000000 else 0⟩
      | 4 => ⟨.ofNat 32 ((s.numCores - 1) <<< 26), 0, 0, 0⟩
      | _ => .zero
    extCpuid := fun leaf => match leaf with
      | 0 => ⟨0x80000004, 0, 0, 0⟩
      | 2 => quad 0
      | 3 => quad 1
      | 4 => quad 2
      | _ => .zero }

/-- A processor for each name of `cpudb_centaur` that is known. -/
def centaurSamples : List CentaurSample :=
  [⟨0x660, 1, "VIA Samuel"⟩, ⟨0x670, 1, "VIA Samuel 2"⟩, ⟨0x670, 1, "VIA Ezra"⟩,
    ⟨0x680, 1, "VIA C3 Ezra"⟩, ⟨0x690, 1, "VIA Nehemiah"⟩, ⟨0x6a0, 1, "VIA Esther"⟩,
    ⟨0x6d0, 1, "VIA C7-M"⟩, ⟨0x6f0, 1, "VIA Nano"⟩, ⟨0x6f0, 2, "VIA Nano"⟩,
    ⟨0x6f0, 1, "VIA QuadCore"⟩, ⟨0x6f0, 4, "VIA Eden X4"⟩, ⟨0x7f0, 1, "ZHAOXIN KaisHeng KH-C"⟩,
    ⟨0x7f0, 1, "ZHAOXIN KaiXian ZX-C"⟩, ⟨0x107b0, 1, "ZHAOXIN KaisHeng KH-20000"⟩,
    ⟨0x107b0, 1, "ZHAOXIN KaiXian KX-5000"⟩, ⟨0x307b0, 1, "ZHAOXIN KaisHeng KH-30000"⟩,
    ⟨0x307b0, 1, "ZHAOXIN KaiXian KX-6000"⟩, ⟨0x507b0, 1, "ZHAOXIN KaisHeng KH-40000"⟩,
    ⟨0x507b0, 1, "ZHAOXIN KaiXian KX-7000"⟩]

/-- The vendor and the codename that `cpu_identify` stores. -/
def identified (host : Host) (raw : CpuRawData) : Option (CpuVendor × List Char) :=
  match cpuIdentify host raw with
  | .ok (.ok, data) => some (data.vendor, data.cpuCodename)
  | _ => none

theorem IsCodename.of_identified {host : Host} {raw : CpuRawData} {vendor : CpuVendor}
    {name : List Char} (h : identified host raw = some (vendor, name)) :
    IsCodename vendor name := by
  unfold identified at h
  split at h
  · next data hid =>
    obtain ⟨hvendor, hname⟩ := Prod.mk.inj (Option.some.inj h)
    exact ⟨host, raw, data, hid, hvendor, hname⟩
  · cases h

theorem centaurSamples_identified :
    (centaurSamples.map fun s => identified ⟨fun _ _ => .zero, 1⟩ s.raw) =
      (listedNames [] (entryNames cpudbCentaur)).map fun name => some (.centaur, name) := by
  decide +kernel

theorem listsCodenames_centaur : ListsCodenames .centaur := by
  have hparts : (getCpuImplementerFromVendor .centaur).parts = [] := by decide
  have hlisted : listedColumn .centaur = entryNames cpudbCentaur := by
    rw [listedColumn, partNames, hparts]
    exact List.append_nil _
  have hcolumn : codenameColumn .centaur = entryNames cpudbCentaur := by
    rw [codenameColumn, hparts]
    exact List.append_nil _
  refine listsCodenames_of (by decide) (hcolumn.trans hlisted.symm) fun name hknown => ?_
  constructor
  · intro hmem
    have hlist := (mem_listedNames_column hknown).mpr hmem
    rw [hlisted] at hlist
    have hsample : some (CpuVendor.centaur, name) ∈
        (listedNames [] (entryNames cpudbCentaur)).map fun name => some (.centaur, name) :=
      List.mem_map.mpr ⟨name, hlist, rfl⟩
    rw [← centaurSamples_identified] at hsample
    obtain ⟨s, -, hid⟩ := List.mem_map.mp hsample
    exact .of_identified hid
  · intro h
    rw [hlisted]
    rcases h.source (by decide) with ⟨-, d, rfl⟩ | ⟨impl, himpl, hvendor, -⟩
    · have hne : cpudbCentaur ≠ [] := List.cons_ne_nil _ _
      obtain ⟨k, entry, hk, hcodename, -⟩ := matchCpuCodename_codename hne d
      have hmem := List.mem_of_getElem? hk
      have hlen : ∀ entry ∈ cpudbCentaur, entry.name.toList.length ≤ 64 := by decide +kernel
      show (matchCpuCodename cpudbCentaur d).2.cpuCodename ∈ _
      rw [hcodename, List.take_of_length_le (hlen entry hmem)]
      exact List.mem_map.mpr ⟨entry, hmem, rfl⟩
    · have hnone : ∀ impl ∈ hwImplementer, impl.vendor ≠ .centaur := by decide
      exact absurd hvendor (hnone impl himpl)

/-- The tabled vendors whose list is the set of their codenames. -/
theorem listsCodenames_iff {vendor : CpuVendor} (hv : vendor ∈ tabledVendors) :
    ListsCodenames vendor ↔ vendor ∈ [CpuVendor.centaur, .infineon, .freescale] := by
  have hsplit : ∀ vendor ∈ tabledVendors, vendor ∉ [CpuVendor.centaur, .infineon, .freescale] →
      vendor = .intel ∨ vendor ∈ [CpuVendor.amd, .hygon] ∨
        (vendor ∈ armListVendors ∧ vendor ∉ [CpuVendor.infineon, .freescale]) := by decide
  by_cases hgood : vendor ∈ [CpuVendor.centaur, .infineon, .freescale]
  · refine iff_of_true ?_ hgood
    rcases List.mem_cons.mp hgood with rfl | hparts
    · exact listsCodenames_centaur
    · exact listsCodenames_noParts hparts
  · refine iff_of_false ?_ hgood
    rcases hsplit vendor hv hgood with rfl | hamd | ⟨harm, hparts⟩
    · exact not_listsCodenames_intel
    · exact not_listsCodenames_amd hamd
    · exact not_listsCodenames_arm harm hparts

theorem listsCodenames_iff_amd :
    ListsCodenames .amd ↔ CpuVendor.amd ∈ [CpuVendor.centaur, .infineon, .freescale] :=
  listsCodenames_iff (by decide)

/-- A list with a name for parts that are never given it. -/
theorem amdList_toliman :
    "Phenom X3 (Toliman/512K)".toList ∈ listedNames [] (listedColumn .amd) ∧
      ListsNames .amd (listedNames [] (listedColumn .amd)) ∧ ¬ListsCodenames .amd := by
  refine ⟨?_, cpuidGetCpuList_listsNames (by decide), not_listsCodenames_amd (by decide)⟩
  obtain ⟨entry, -, htwin⟩ := cpudbAmd_twins
  refine (mem_listedNames_column (by decide)).mpr (List.mem_append_left _ ?_)
  exact List.mem_map.mpr ⟨_, List.mem_of_getElem? htwin, rfl⟩

end LibCpuid
