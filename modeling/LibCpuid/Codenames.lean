import LibCpuid.IdentifyFrame
import LibCpuid.IdentifyFlags

/-! Where the codenames that `cpu_identify` stores come from. -/

namespace LibCpuid

open CLang

/-! ### The entry that `match_cpu_codename` chooses -/

/-- The result is the best so far or the first entry with a higher score than every one before. -/
theorem bestMatch_cases (data : CpuId) (table : List MatchEntry) (i : Nat) (best : Int × Nat) :
    bestMatch data table i best = best ∨
      ∃ (k : Nat) (entry : MatchEntry), table[k]? = some entry ∧
        bestMatch data table i best = (score entry data, i + k) ∧
        best.1 < score entry data ∧
        ∀ m < k, ∀ earlier, table[m]? = some earlier → score earlier data < score entry data := by
  induction table generalizing i best with
  | nil => exact .inl rfl
  | cons first rest ih =>
    rw [bestMatch]
    have hbefore {k : Nat} {entry : MatchEntry} (hfirst : score first data < score entry data)
        (hrest : ∀ m < k, ∀ earlier, rest[m]? = some earlier →
          score earlier data < score entry data) :
        ∀ m < k + 1, ∀ earlier, (first :: rest)[m]? = some earlier →
          score earlier data < score entry data := by
      intro m hm earlier hearlier
      cases m with
      | zero => exact Option.some.inj hearlier ▸ hfirst
      | succ m => exact hrest m (Nat.lt_of_succ_lt_succ hm) earlier hearlier
    split
    case isTrue hgt =>
      rcases ih (i + 1) (score first data, i) with h | ⟨k, entry, hk, hbest, hmore, hearlier⟩
      · refine .inr ⟨0, first, rfl, h, hgt, fun m hm => absurd hm (Nat.not_lt_zero m)⟩
      · refine .inr ⟨k + 1, entry, hk, ?_, hgt.trans hmore, hbefore hmore hearlier⟩
        rw [hbest, Nat.add_right_comm, Nat.add_assoc]
    case isFalse hle =>
      rcases ih (i + 1) best with h | ⟨k, entry, hk, hbest, hmore, hearlier⟩
      · exact .inl h
      · refine .inr ⟨k + 1, entry, hk, ?_, hmore, hbefore ((not_lt.mp hle).trans_lt hmore) hearlier⟩
        rw [hbest, Nat.add_right_comm, Nat.add_assoc]

/-- The codename is the name of an entry whose score no earlier entry has. -/
theorem matchCpuCodename_codename {table : List MatchEntry} (hne : table ≠ []) (data : CpuId) :
    ∃ (k : Nat) (entry : MatchEntry), table[k]? = some entry ∧
      (matchCpuCodename table data).2.cpuCodename = entry.name.toList.take 64 ∧
      ∀ m < k, ∀ earlier, table[m]? = some earlier → score earlier data < score entry data := by
  rcases bestMatch_cases data table 0 (-1, 0) with h | ⟨k, entry, hk, h, -, hearlier⟩
  · obtain ⟨first, rest, rfl⟩ := List.exists_cons_of_ne_nil hne
    refine ⟨0, first, rfl, ?_, fun m hm => absurd hm (Nat.not_lt_zero m)⟩
    simp [matchCpuCodename, h]
  · refine ⟨k, entry, hk, ?_, hearlier⟩
    simp [matchCpuCodename, h, hk]

/-! ### The codenames of a vendor -/

/-- Some raw data of the vendor makes `cpu_identify` succeed with the codename. -/
def IsCodename (vendor : CpuVendor) (name : List Char) : Prop :=
  ∃ host raw data, cpuIdentify host raw = .ok (.ok, data) ∧ data.vendor = vendor ∧
    data.cpuCodename = name

/-- The table of x86 processors of a vendor. -/
def vendorEntries : CpuVendor → List MatchEntry
  | .intel => cpudbIntel
  | .amd | .hygon => cpudbAmd
  | .centaur => cpudbCentaur
  | _ => []

/-- The vendors whose parts are in a table. -/
def tabledVendors : List CpuVendor :=
  [.intel, .amd, .hygon, .centaur, .arm, .broadcom, .cavium, .dec, .fujitsu, .hisilicon,
    .infineon, .freescale, .nvidia, .apm, .qualcomm, .samsung, .marvell, .apple, .faraday,
    .microsoft, .phytium, .ampere]

/-- The vendors that only x86 processors have and that have no table. -/
def untabledVendors : List CpuVendor :=
  [.cyrix, .nexgen, .transmeta, .umc, .rise, .sis, .nsc]

section X86

variable {host : Host} {raw : CpuRawData} {d d' : CpuId} {internal internal' : InternalIdInfo}

theorem cpuidIdentifyIntel_codename
    (h : cpuidIdentifyIntel host raw d internal = .ok (d', internal')) :
    ∃ d1, d'.cpuCodename = (matchCpuCodename cpudbIntel d1).2.cpuCodename := by
  simp only [cpuidIdentifyIntel, bind_eq_ok, Except.ok.injEq, Prod.mk.injEq, Prod.exists] at h
  obtain ⟨d1, internal1, -, d2, -, rfl, -⟩ := h
  refine ⟨{ decodeArchitectureVersionX86 d2 with purpose := cpuidIdentifyPurposeIntel raw }, ?_⟩
  have hsgx (data : CpuId) :
      (decodeIntelSgxFeatures host raw data).cpuCodename = data.cpuCodename := by
    simp only [decodeIntelSgxFeatures]
    split <;> rfl
  rw [apply_ite CpuId.cpuCodename, hsgx, ite_self]

theorem cpuidIdentifyAmd_codename
    (h : cpuidIdentifyAmd raw d internal = .ok (d', internal')) :
    ∃ d1, d'.cpuCodename = (matchCpuCodename cpudbAmd d1).2.cpuCodename := by
  simp only [cpuidIdentifyAmd, bind_eq_ok, Except.ok.injEq, Prod.mk.injEq, Prod.exists] at h
  obtain ⟨d1, internal1, -, purpose, -, rfl, -⟩ := h
  exact ⟨_, rfl⟩

theorem cpuidIdentifyCentaur_codename
    (h : cpuidIdentifyCentaur raw d internal = .ok (d', internal')) :
    ∃ d1, d'.cpuCodename = (matchCpuCodename cpudbCentaur d1).2.cpuCodename := by
  simp only [cpuidIdentifyCentaur, bind_eq_ok, Except.ok.injEq, Prod.mk.injEq, Prod.exists] at h
  obtain ⟨d1, internal1, -, rfl, -⟩ := h
  exact ⟨_, rfl⟩

/-- `cpu_identify` does not succeed on an x86 processor of an unknown vendor. -/
theorem cpuIdentify_vendor_ne {data : CpuId} (harch : cpuidArchitectureIdentify raw = .x86)
    (h : cpuIdentify host raw = .ok (.ok, data)) :
    cpuidVendorIdentify (raw.basicCpuid 0) ≠ .unknown := by
  intro hunknown
  simp only [cpuIdentify, cpuIdentInternal, harch, cpuidBasicIdentify, hunknown, if_true, ok_bind,
    Except.ok.injEq, Prod.mk.injEq] at h
  cases h.1

theorem cpuidVendorIdentify_tabled {regs : Regs} (h : cpuidVendorIdentify regs ≠ .unknown) :
    cpuidVendorIdentify regs ∈ [.intel, .amd, .hygon, .centaur] ++ untabledVendors := by
  unfold cpuidVendorIdentify at h ⊢
  cases hrow : vendorMatchtable.find? fun row => vendorString regs = row.2.toList with
  | none => exact absurd (by rw [hrow]) h
  | some row =>
    have hall : ∀ row ∈ vendorMatchtable,
        row.1 ∈ [.intel, .amd, .hygon, .centaur] ++ untabledVendors := by decide
    exact hall row (List.mem_of_find?_eq_some hrow)

/-- On an x86 processor the codename comes from the table of the vendor, if it has one. -/
theorem cpuIdentify_x86_codename {data : CpuId} (harch : cpuidArchitectureIdentify raw = .x86)
    (h : cpuIdentify host raw = .ok (.ok, data)) :
    data.vendor ∈ untabledVendors ∨
      (data.vendor ∈ [CpuVendor.intel, .amd, .hygon, .centaur] ∧
        ∃ d, data.cpuCodename = (matchCpuCodename (vendorEntries data.vendor) d).2.cpuCodename) := by
  have hne := cpuIdentify_vendor_ne harch h
  have hmem := cpuidVendorIdentify_tabled hne
  obtain ⟨-, -, hbasic⟩ := cpuidBasicIdentify_facts host raw
    { cpuIdConstructor with architecture := .x86 }
  rw [cpuIdentify_of_vendor harch hne] at h
  dsimp only at hbasic h
  generalize (cpuidBasicIdentify host raw { cpuIdConstructor with architecture := .x86 }).2 = d
    at hbasic h
  rw [← hbasic] at h hmem
  have hdecoded {x : Checked (CpuId × InternalIdInfo)}
      (h : (x.map fun s => (CpuError.ok, s.1)) = .ok (.ok, data)) :
      ∃ internal, x = .ok (data, internal) := by
    cases x with
    | error f => cases h
    | ok s => exact ⟨s.2, by cases h; rfl⟩
  have hv := untouched_vendor
  cases hvendor : d.vendor with
  | intel =>
    rw [hvendor] at h
    obtain ⟨internal, hid⟩ := hdecoded h
    have hsame : data.vendor = .intel := (hv.cpuidIdentifyIntel hid).trans hvendor
    rw [hsame]
    exact .inr ⟨by decide, cpuidIdentifyIntel_codename hid⟩
  | amd | hygon =>
    rw [hvendor] at h
    obtain ⟨internal, hid⟩ := hdecoded h
    have hsame := (hv.cpuidIdentifyAmd hid).trans hvendor
    rw [hsame]
    exact .inr ⟨by decide, cpuidIdentifyAmd_codename hid⟩
  | centaur =>
    rw [hvendor] at h
    obtain ⟨internal, hid⟩ := hdecoded h
    have hsame : data.vendor = .centaur := (hv.cpuidIdentifyCentaur hid).trans hvendor
    rw [hsame]
    exact .inr ⟨by decide, cpuidIdentifyCentaur_codename hid⟩
  | _ =>
    rw [hvendor] at h hmem
    obtain ⟨-, rfl⟩ := Prod.mk.inj (Except.ok.inj h)
    rw [hvendor]
    first | exact .inl (by decide) | exact absurd hmem (by decide)

end X86

/-- The codenames that a part of an ARM implementer of the vendor has in its table, and the one of a
part that is in no table. -/
def IsPartCodename (vendor : CpuVendor) (name : List Char) : Prop :=
  ∃ impl ∈ hwImplementer, impl.vendor = vendor ∧
    (name = unknStr.toList ∨ ∃ part ∈ impl.parts, name = part.codename.toList.take 63)

theorem cpuIdentify_arm_codename {host : Host} {raw : CpuRawData} {data : CpuId}
    (harch : cpuidArchitectureIdentify raw = .arm) (h : cpuIdentify host raw = .ok (.ok, data)) :
    data.vendor = .unknown ∨ IsPartCodename data.vendor data.cpuCodename := by
  simp only [cpuIdentify, cpuIdentInternal, harch, ok_bind, Except.ok.injEq, Prod.mk.injEq,
    true_and] at h
  have hdata : (data.vendor, data.cpuCodename) =
      ((getCpuImplementerFromCode (extractsBits raw.armMidr 31 24)).vendor,
        (armIdPart raw).codename.toList.take 63) := by
    have hload := fun s => @loadArmFeatures_frame _ (fun d => (d.vendor, d.cpuCodename))
      (fun _ _ => rfl) raw s
    rw [← h, cpuidIdentifyArm]
    dsimp only
    split <;> exact hload _
  obtain ⟨hvendor, hname⟩ := Prod.mk.inj hdata
  rw [hvendor, hname, armIdPart]
  generalize extractsBits raw.armMidr 31 24 = code
  generalize extractsBits raw.armMidr 15 4 = partNum
  unfold getCpuImplementerFromCode getCpuImplementerParts
  cases himpl : hwImplementer.find? fun impl => impl.id = code with
  | none => exact .inl rfl
  | some impl =>
    refine .inr ⟨impl, List.mem_of_find?_eq_some himpl, rfl, ?_⟩
    dsimp only
    cases hpart : impl.parts.find? fun part => part.id = partNum with
    | none => exact .inl (by decide +kernel)
    | some part => exact .inr ⟨part, List.mem_of_find?_eq_some hpart, rfl⟩

theorem IsCodename.source {vendor : CpuVendor} {name : List Char} (hv : vendor ∈ tabledVendors)
    (h : IsCodename vendor name) :
    (vendor ∈ [CpuVendor.intel, .amd, .hygon, .centaur] ∧
      ∃ d, name = (matchCpuCodename (vendorEntries vendor) d).2.cpuCodename) ∨
      IsPartCodename vendor name := by
  obtain ⟨host, raw, data, hid, rfl, rfl⟩ := h
  cases harch : cpuidArchitectureIdentify raw with
  | x86 =>
    refine .inl ((cpuIdentify_x86_codename harch hid).resolve_left fun hu => ?_)
    have hdisjoint : ∀ vendor ∈ untabledVendors, vendor ∉ tabledVendors := by decide
    exact hdisjoint _ hu hv
  | arm =>
    refine .inr ((cpuIdentify_arm_codename harch hid).resolve_left fun hu => ?_)
    rw [hu] at hv
    exact absurd hv (by decide)
  | unknown => simp [cpuIdentify, cpuIdentInternal, harch] at hid

theorem eq_of_take_eq {name listed : List Char} {n : Nat} (h : name = listed.take n)
    (hlen : name.length < n) : listed = name := by
  rw [h, List.length_take] at hlen
  rw [h, List.take_of_length_le (by omega)]

/-- The codename is the name of an entry whose score no earlier entry has. -/
theorem IsCodename.entry {vendor : CpuVendor} {name : String} (hv : vendor ∈ tabledVendors)
    (hpart : ¬IsPartCodename vendor name.toList) (hlen : name.toList.length < 64)
    (h : IsCodename vendor name.toList) :
    ∃ (d : CpuId) (k : Nat) (entry : MatchEntry), (vendorEntries vendor)[k]? = some entry ∧
      entry.name = name ∧
      ∀ m < k, ∀ earlier, (vendorEntries vendor)[m]? = some earlier →
        score earlier d < score entry d := by
  obtain ⟨hx86, d, hname⟩ := (h.source hv).resolve_right hpart
  have hne : vendorEntries vendor ≠ [] := by
    simp only [List.mem_cons, List.not_mem_nil, or_false] at hx86
    rcases hx86 with rfl | rfl | rfl | rfl <;> exact List.cons_ne_nil _ _
  obtain ⟨k, entry, hk, hcodename, hearlier⟩ := matchCpuCodename_codename hne d
  exact ⟨d, k, entry, hk, String.toList_inj.mp (eq_of_take_eq (hname.trans hcodename) hlen),
    hearlier⟩

end LibCpuid
