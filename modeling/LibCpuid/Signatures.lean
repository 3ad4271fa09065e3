import LibCpuid.Identify

/-! Vendors and hypervisors by their signatures.  The tables have as many rows as the enumerations
have values, more than the source writes, and the rows that it does not write hold the empty
string. -/

namespace LibCpuid

open CLang

/-! ### Hypervisors -/

/-- `hypervisor_vendor_t`. -/
inductive HypervisorVendor
  | none | bhyve | hyperv | kvm | parallels | qemu | virtualbox | vmware | xen | unknown
  deriving DecidableEq

/-- `NUM_HYPERVISOR_VENDORS`. -/
def numHypervisorVendors : Nat := 9

/-- The table of `cpuid_get_hypervisor`, with the rows that are left to zero. -/
def hypervisorMatchtable : List (HypervisorVendor × String) :=
  let rows : List (HypervisorVendor × String) :=
    [(.bhyve, "bhyve bhyve\x00"), (.hyperv, "Microsoft Hv"), (.kvm, "KVMKVMKVM\x00\x00\x00"),
      (.parallels, "prl hyperv\x00\x00"), (.qemu, "TCGTCGTCGTCG"), (.virtualbox, "VBoxVBoxVBox"),
      (.vmware, "VMwareVMware"), (.xen, "XenVMMXenVMM")]
  rows ++ List.replicate (numHypervisorVendors - rows.length) (.none, "")

/-- The string in the answer of leaf 0x40000000. -/
def hypervisorString (regs : Regs) : List Char :=
  cString (regBytes regs.ebx ++ regBytes regs.ecx ++ regBytes regs.edx)

/-- The part of `cpuid_get_hypervisor` behind the identification. -/
def hypervisorOf (host : Host) (data : CpuId) : HypervisorVendor :=
  match data.vendor with
  | .amd | .intel =>
    if !data.flags .hypervisor then .none
    else
      let hypervisorStr := hypervisorString (host.execCpuid 0x40000000 0)
      match hypervisorMatchtable.find? fun row => hypervisorStr = cString row.2.toList with
      | some row => row.1
      | none => .unknown
  | _ => .unknown

/-- `cpuid_get_hypervisor`, with a NULL pointer for `data` or without. -/
def cpuidGetHypervisor (host : Host) (raw : CpuRawData) (data : Option CpuId) :
    Checked HypervisorVendor :=
  match data with
  | some data => .ok (hypervisorOf host data)
  | none => do
    let (r, data) ← cpuIdentify host raw
    .ok (if r = .ok then hypervisorOf host data else .unknown)

/-! ### Lookups -/

/-- A result of a lookup: the value whose signature is the string, and `unknown` for none. -/
structure ExactLookup {α : Type} (signature : α → Option String) (unknown : α) (s : List Char)
    (result : α) : Prop where
  listed : ∀ v, v ≠ unknown → (result = v ↔ (signature v).map String.toList = some s)
  unlisted : (∀ v, (signature v).map String.toList ≠ some s) → result = unknown

section Lookup

variable {α ρ : Type} {signature : α → Option String} {rows : List ρ} {name : ρ → α}
  {word : ρ → List Char}

/-- A search for a row is exact when the rows list the signatures, each once. -/
theorem exactLookup_find?
    (hlisted : ∀ v, ∀ t ∈ signature v, ∃ row ∈ rows, name row = v ∧ word row = t.toList)
    (hrows : ∀ row ∈ rows, (signature (name row)).map String.toList = some (word row))
    (hdistinct : ∀ row ∈ rows, ∀ row' ∈ rows, word row = word row' → name row = name row')
    {unknown result : α} {s : List Char}
    (hsome : ∀ row, rows.find? (fun row => s = word row) = some row → result = name row)
    (hnone : rows.find? (fun row => s = word row) = none → result = unknown) :
    ExactLookup signature unknown s result := by
  have hiff (v : α) : (signature v).map String.toList = some s ↔
      ∃ row ∈ rows, name row = v ∧ word row = s := by
    constructor
    · intro h
      obtain ⟨t, ht, rfl⟩ := Option.map_eq_some_iff.mp h
      exact hlisted v t ht
    · rintro ⟨row, hmem, rfl, rfl⟩
      exact hrows row hmem
  cases hfind : rows.find? fun row => s = word row with
  | some row =>
    have hmem := List.mem_of_find?_eq_some hfind
    have hword : s = word row := by simpa using List.find?_some hfind
    rw [hsome row hfind]
    refine ⟨fun v _ => ?_, fun h => ?_⟩
    · rw [hiff]
      constructor
      · rintro rfl
        exact ⟨row, hmem, rfl, hword.symm⟩
      · rintro ⟨row', hmem', rfl, hword'⟩
        exact hdistinct row hmem row' hmem' (hword.symm.trans hword'.symm)
    · exact absurd ((hiff (name row)).mpr ⟨row, hmem, rfl, hword.symm⟩) (h _)
  | none =>
    have hne : ∀ row ∈ rows, s ≠ word row := by simpa using hfind
    rw [hnone hfind]
    refine ⟨fun v hv => ?_, fun _ => rfl⟩
    refine iff_of_false (Ne.symm hv) fun h => ?_
    obtain ⟨row, hmem, -, hword⟩ := (hiff v).mp h
    exact hne row hmem hword.symm

/-- Rows with the empty string match no other one. -/
theorem find?_append_of_empty {rest : List ρ} (hrest : ∀ row ∈ rest, word row = []) {s : List Char}
    (hs : s ≠ []) :
    (rows ++ rest).find? (fun row => s = word row) = rows.find? fun row => s = word row := by
  have hnone : rest.find? (fun row => s = word row) = none := by
    rw [List.find?_eq_none]
    intro row hmem
    simp [hrest row hmem, hs]
  rw [List.find?_append, hnone, Option.or_none]

end Lookup

/-! ### Signatures -/

/-- The string of the bytes of EBX, EDX and ECX that belongs to a vendor. -/
def CpuVendor.signature : CpuVendor → Option String
  | .intel => some "GenuineIntel"
  | .amd => some "AuthenticAMD"
  | .cyrix => some "CyrixInstead"
  | .nexgen => some "NexGenDriven"
  | .transmeta => some "GenuineTMx86"
  | .umc => some "UMC UMC UMC "
  | .centaur => some "CentaurHauls"
  | .rise => some "RiseRiseRise"
  | .sis => some "SiS SiS SiS "
  | .nsc => some "Geode by NSC"
  | .hygon => some "HygonGenuine"
  | _ => none

/-- The string of the bytes of EBX, ECX and EDX that belongs to a hypervisor. -/
def HypervisorVendor.signature : HypervisorVendor → Option String
  | .bhyve => some "bhyve bhyve"
  | .hyperv => some "Microsoft Hv"
  | .kvm => some "KVMKVMKVM"
  | .parallels => some "prl hyperv"
  | .qemu => some "TCGTCGTCGTCG"
  | .virtualbox => some "VBoxVBoxVBox"
  | .vmware => some "VMwareVMware"
  | .xen => some "XenVMMXenVMM"
  | _ => Option.none

/-- A string is empty exactly when its first byte is zero. -/
theorem cString_regBytes_eq_nil_iff (reg : BitVec 32) (s : List Char) :
    cString (regBytes reg ++ s) = [] ↔ reg.toNat % 256 = 0 := by
  have hbyte : ∀ n < 256, Char.ofNat n = '\x00' ↔ n = 0 := by decide +kernel
  have hfirst : regBytes reg ++ s =
      Char.ofNat (reg.toNat % 256) :: ((regBytes reg).tail ++ s) := rfl
  rw [← hbyte _ (Nat.mod_lt _ (by decide)), hfirst, cString, List.takeWhile_cons]
  by_cases hzero : Char.ofNat (reg.toNat % 256) = '\x00'
  · simp [hzero]
  · simp [hzero]

/-- A value with the signature, and one whose signature is not the string. -/
theorem not_exactLookup_nil {α : Type} {signature : α → Option String} {unknown v : α}
    (hv : v ≠ unknown) (hsignature : (signature v).map String.toList ≠ some []) :
    ¬ExactLookup signature unknown [] v := fun h => hsignature ((h.listed v hv).mp rfl)

/-- The vendors of x86 processors are told apart, but for an empty string. -/
theorem exactLookup_vendor_iff (regs : Regs) :
    ExactLookup CpuVendor.signature .unknown (vendorString regs) (cpuidVendorIdentify regs) ↔
      regs.ebx.toNat % 256 ≠ 0 := by
  have hnil : vendorString regs = [] ↔ regs.ebx.toNat % 256 = 0 := by
    rw [vendorString, List.append_assoc]
    exact cString_regBytes_eq_nil_iff _ _
  rw [ne_eq, ← hnil, cpuidVendorIdentify]
  generalize vendorString regs = s
  by_cases hs : s = []
  · subst hs
    refine iff_of_false ?_ (not_not.mpr rfl)
    have hfind : vendorMatchtable.find? (fun row => ([] : List Char) = row.2.toList) =
        some (.intel, "") := by decide +kernel
    rw [hfind]
    exact not_exactLookup_nil (by decide) (by decide +kernel)
  · refine iff_of_true ?_ hs
    have hrows : vendorMatchtable = vendorMatchtable.take 11 ++ vendorMatchtable.drop 11 :=
      (List.take_append_drop 11 _).symm
    have hrest : ∀ row ∈ vendorMatchtable.drop 11, row.2.toList = [] := by decide +kernel
    have hlisted : ∀ v, ∀ t ∈ CpuVendor.signature v,
        ∃ row ∈ vendorMatchtable.take 11, row.1 = v ∧ row.2.toList = t.toList := by
      intro v
      cases v <;> decide +kernel
    have hsignature : ∀ row ∈ vendorMatchtable.take 11,
        (CpuVendor.signature row.1).map String.toList = some row.2.toList := by decide +kernel
    have hdistinct : ∀ row ∈ vendorMatchtable.take 11, ∀ row' ∈ vendorMatchtable.take 11,
        row.2.toList = row'.2.toList → row.1 = row'.1 := by decide +kernel
    rw [hrows, find?_append_of_empty hrest hs]
    exact exactLookup_find? hlisted hsignature hdistinct (fun row h => by rw [h])
      fun h => by rw [h]

/-- So are the hypervisors, on a processor that has one and says so. -/
theorem exactLookup_hypervisor_iff {host : Host} {data : CpuId}
    (hvendor : data.vendor = .intel ∨ data.vendor = .amd)
    (hflag : data.flags .hypervisor = true) :
    ExactLookup HypervisorVendor.signature .unknown
        (hypervisorString (host.execCpuid 0x40000000 0)) (hypervisorOf host data) ↔
      (host.execCpuid 0x40000000 0).ebx.toNat % 256 ≠ 0 := by
  generalize hregs : host.execCpuid 0x40000000 0 = regs
  have hnil : hypervisorString regs = [] ↔ regs.ebx.toNat % 256 = 0 := by
    rw [hypervisorString, List.append_assoc]
    exact cString_regBytes_eq_nil_iff _ _
  have hof : hypervisorOf host data =
      match hypervisorMatchtable.find? fun row => hypervisorString regs = cString row.2.toList with
      | some row => row.1
      | none => .unknown := by
    rw [hypervisorOf, hflag, hregs]
    rcases hvendor with hvendor | hvendor
    all_goals
      rw [hvendor]
      rfl
  rw [ne_eq, ← hnil, hof]
  generalize hypervisorString regs = s
  by_cases hs : s = []
  · subst hs
    refine iff_of_false ?_ (not_not.mpr rfl)
    have hfind : hypervisorMatchtable.find?
        (fun row => ([] : List Char) = cString row.2.toList) = some (.none, "") := by decide +kernel
    rw [hfind]
    exact not_exactLookup_nil (by decide) (by decide +kernel)
  · refine iff_of_true ?_ hs
    have hrows : hypervisorMatchtable =
        hypervisorMatchtable.take 8 ++ hypervisorMatchtable.drop 8 :=
      (List.take_append_drop 8 _).symm
    have hrest : ∀ row ∈ hypervisorMatchtable.drop 8, cString row.2.toList = [] := by
      decide +kernel
    have hlisted : ∀ v, ∀ t ∈ HypervisorVendor.signature v, ∃ row ∈ hypervisorMatchtable.take 8,
        row.1 = v ∧ cString row.2.toList = t.toList := by
      intro v
      cases v <;> decide +kernel
    have hsignature : ∀ row ∈ hypervisorMatchtable.take 8,
        (HypervisorVendor.signature row.1).map String.toList = some (cString row.2.toList) := by
      decide +kernel
    have hdistinct : ∀ row ∈ hypervisorMatchtable.take 8, ∀ row' ∈ hypervisorMatchtable.take 8,
        cString row.2.toList = cString row'.2.toList → row.1 = row'.1 := by decide +kernel
    rw [hrows, find?_append_of_empty hrest hs]
    exact exactLookup_find? hlisted hsignature hdistinct (fun row h => by rw [h])
      fun h => by rw [h]

/-- Both lookups are exact: that of the vendor, on leaf 0, and that of the hypervisor. -/
structure ExactSignatures (leaf0 : Regs) (host : Host) (raw : CpuRawData) (data : CpuId) : Prop where
  vendor : ExactLookup CpuVendor.signature .unknown (vendorString leaf0) (cpuidVendorIdentify leaf0)
  hypervisor : ∃ v, cpuidGetHypervisor host raw (some data) = .ok v ∧
    ExactLookup HypervisorVendor.signature .unknown
      (hypervisorString (host.execCpuid 0x40000000 0)) v

/-- The lookups are exact exactly when neither string is empty. -/
theorem exactSignatures_iff (leaf0 : Regs) (host : Host) (raw : CpuRawData) {data : CpuId}
    (hvendor : data.vendor = .intel ∨ data.vendor = .amd)
    (hflag : data.flags .hypervisor = true) :
    ExactSignatures leaf0 host raw data ↔
      leaf0.ebx.toNat % 256 ≠ 0 ∧ (host.execCpuid 0x40000000 0).ebx.toNat % 256 ≠ 0 := by
  rw [← exactLookup_vendor_iff, ← exactLookup_hypervisor_iff hvendor hflag]
  constructor
  · rintro ⟨hv, v, hget, hh⟩
    obtain rfl := Except.ok.inj hget
    exact ⟨hv, hh⟩
  · exact fun ⟨hv, hh⟩ => ⟨hv, _, rfl, hh⟩

/-- An Intel processor under KVM. -/
def kvmGuest : CpuId :=
  { cpuIdConstructor with
    vendor := .intel
    flags := fun f => f = .hypervisor }

/-- A host whose hypervisor leaf is the same for every request. -/
def Host.answering (regs : Regs) : Host where
  execCpuid _ _ := regs
  totalCpus := 1

theorem exactSignatures_iff_kvmGuest :
    ExactSignatures ⟨0x16, 0x756e6547, 0x6c65746e, 0x49656e69⟩
        (.answering ⟨0x40000001, 0x4b4d564b, 0x564b4d56, 0x4d⟩) .zero kvmGuest ↔
      (0x756e6547 : BitVec 32).toNat % 256 ≠ 0 ∧ (0x4b4d564b : BitVec 32).toNat % 256 ≠ 0 :=
  exactSignatures_iff _ _ _ (.inl rfl) (by decide)

/-- An empty string is the signature of Intel, and of no hypervisor. -/
theorem not_exactSignatures_empty :
    ¬ExactSignatures ⟨1, 0, 0, 0⟩ (.answering .zero) .zero kvmGuest := fun h =>
  (exactLookup_vendor_iff _).mp h.vendor (by decide)

end LibCpuid
