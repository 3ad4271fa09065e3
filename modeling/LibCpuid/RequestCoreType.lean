import LibCpuid.Codenames
import LibCpuid.CoreTypes
import LibCpuid.IdentifyFlags

/-! `cpu_request_core_type`: the record of the first logical CPU of a purpose.  The identification
of that CPU may fail or may store another purpose, and the return value does not tell. -/

namespace LibCpuid

open CLang

/-- The loop of `cpu_request_core_type`. -/
def requestLoop (host : Host) (purpose : CpuPurpose) :
    List CpuRawData → CpuId → Checked (CpuError × CpuId)
  | [], data => .ok (.notFound, data)
  | raw :: rest, data => do
    if (← cpuIdentPurpose raw) = purpose then
      let (_, data, _) ← cpuIdentInternal host raw
      .ok (.ok, data)
    else requestLoop host purpose rest data

/-- `cpu_request_core_type`.  For a NULL array it takes what `cpuid_get_all_raw_data` gives. -/
def cpuRequestCoreType (host : Host) (allRawData : CpuError × CpuRawDataArray)
    (purpose : CpuPurpose) (rawArray : Option CpuRawDataArray) (data : CpuId) :
    Checked (CpuError × CpuId) :=
  match rawArray, allRawData with
  | some rawArray, _ => requestLoop host purpose rawArray.raw data
  | none, (.ok, myRawArray) => requestLoop host purpose myRawArray.raw data
  | none, (r, _) => .ok (r, data)

/-! ### The first match -/

/-- `cpu_ident_purpose` returns the purpose. -/
def hasPurpose (purpose : CpuPurpose) (raw : CpuRawData) : Bool :=
  match cpuIdentPurpose raw with
  | .ok found => found = purpose
  | .error _ => false

theorem hasPurpose_iff {purpose : CpuPurpose} {raw : CpuRawData} :
    hasPurpose purpose raw = true ↔ cpuIdentPurpose raw = .ok purpose := by
  unfold hasPurpose
  cases cpuIdentPurpose raw <;> simp

/-- The records before the first match are told to have another purpose. -/
def ScansToMatch (purpose : CpuPurpose) (raws : List CpuRawData) : Prop :=
  ∀ raw ∈ raws.takeWhile (!hasPurpose purpose ·), PurposeInBounds raw

theorem cpuIdentPurpose_returns_iff (raw : CpuRawData) :
    (∃ purpose, cpuIdentPurpose raw = .ok purpose) ↔ PurposeInBounds raw := by
  rw [← cpuIdentPurpose_avoids]
  cases h : cpuIdentPurpose raw with
  | ok purpose => simp
  | error f => simp [cpuIdentPurpose_error h]

section Request

variable {host : Host} {purpose : CpuPurpose} {data : CpuId}

/-- The loop returns for the first match, or for no record, if it gets there. -/
theorem requestLoop_eq_ok_iff {raws : List CpuRawData} {result : CpuError × CpuId} :
    requestLoop host purpose raws data = .ok result ↔ ScansToMatch purpose raws ∧
      match raws.find? (hasPurpose purpose) with
      | some raw => result.1 = .ok ∧ ∃ r internal,
        cpuIdentInternal host raw = .ok (r, result.2, internal)
      | none => result = (.notFound, data) := by
  induction raws with
  | nil => simp [requestLoop, ScansToMatch, eq_comm]
  | cons raw rest ih =>
    rw [requestLoop]
    cases hraw : cpuIdentPurpose raw with
    | error f =>
      have hhas : hasPurpose purpose raw = false := by simp [hasPurpose, hraw]
      refine iff_of_false (by simp) fun ⟨hscan, _⟩ => ?_
      have hbounds := hscan raw (by simp [hhas])
      obtain ⟨found, hfound⟩ := (cpuIdentPurpose_returns_iff raw).mpr hbounds
      rw [hraw] at hfound
      cases hfound
    | ok found =>
      rw [ok_bind]
      by_cases hfound : found = purpose
      · have hhas : hasPurpose purpose raw = true := by simp [hasPurpose, hraw, hfound]
        have hscan : ScansToMatch purpose (raw :: rest) := by simp [ScansToMatch, hhas]
        rw [if_pos hfound, List.find?_cons_of_pos hhas, bind_eq_ok]
        constructor
        · rintro ⟨⟨r, data', internal⟩, hident, heq⟩
          obtain rfl := Except.ok.inj heq
          exact ⟨hscan, rfl, r, internal, hident⟩
        · rintro ⟨-, hok, r, internal, hident⟩
          exact ⟨_, hident, by rw [← hok]⟩
      · have hhas : hasPurpose purpose raw = false := by simp [hasPurpose, hraw, hfound]
        have hscan : ScansToMatch purpose (raw :: rest) ↔ ScansToMatch purpose rest := by
          have hbounds := (cpuIdentPurpose_returns_iff raw).mp ⟨found, hraw⟩
          simp [ScansToMatch, hhas, hbounds]
        rw [if_neg hfound, List.find?_cons_of_neg (by simp [hhas]), hscan, ih]

/-- The registers that `cpu_identify` succeeds on: those of an ARM processor, or of an x86 processor
of a known vendor whose decoder returns. -/
def IsIdentified (raw : CpuRawData) : Prop :=
  cpuidArchitectureIdentify raw = .arm ∨ cpuidArchitectureIdentify raw = .x86 ∧
    cpuidVendorIdentify (raw.basicCpuid 0) ≠ .unknown ∧ DecoderReturns raw

theorem isIdentified_iff (host : Host) (raw : CpuRawData) :
    (∃ data, cpuIdentify host raw = .ok (.ok, data)) ↔ IsIdentified raw := by
  unfold IsIdentified
  cases harch : cpuidArchitectureIdentify raw with
  | arm =>
    refine iff_of_true ⟨cpuidIdentifyArm raw { cpuIdConstructor with architecture := .arm }, ?_⟩
      (.inl rfl)
    simp [cpuIdentify, cpuIdentInternal, harch]
  | unknown => simp [cpuIdentify, cpuIdentInternal, harch]
  | x86 =>
    by_cases hvendor : cpuidVendorIdentify (raw.basicCpuid 0) = .unknown
    · refine iff_of_false ?_ (by simp [hvendor])
      rintro ⟨data, h⟩
      exact cpuIdentify_vendor_ne harch h hvendor
    · simp [cpuIdentify_returns_iff host harch hvendor, hvendor]

theorem cpuIdentify_eq_ok_iff {raw : CpuRawData} {r : CpuError} {data : CpuId} :
    cpuIdentify host raw = .ok (r, data) ↔
      ∃ internal, cpuIdentInternal host raw = .ok (r, data, internal) := by
  unfold cpuIdentify
  cases cpuIdentInternal host raw with
  | error f => simp
  | ok s => simp [Prod.ext_iff]

/-- What a request is to report: success exactly for a first match that is identified, and then its
record, which has the purpose. -/
structure ReportsMatch (host : Host) (purpose : CpuPurpose) (a : CpuRawDataArray)
    (result : CpuError × CpuId) : Prop where
  ok_iff : result.1 = .ok ↔ ∃ raw, a.raw.find? (hasPurpose purpose) = some raw ∧
    ∃ data, cpuIdentify host raw = .ok (.ok, data)
  record : result.1 = .ok → ∃ raw, a.raw.find? (hasPurpose purpose) = some raw ∧
    cpuIdentify host raw = .ok (.ok, result.2) ∧ result.2.purpose = purpose

/-- A request that the code answers as it should: the scan gets to the first match, and that one is
identified and is no Hygon processor with a purpose of its own. -/
structure IsAnswerable (purpose : CpuPurpose) (a : CpuRawDataArray) : Prop where
  scans : ScansToMatch purpose a.raw
  identifies : ∀ raw ∈ a.raw.find? (hasPurpose purpose), IsIdentified raw
  notHygonHybrid : ∀ raw ∈ a.raw.find? (hasPurpose purpose), ¬IsHygonHybrid raw

/-- The purpose that is stored is the one that was found. -/
theorem purpose_eq_iff {raw : CpuRawData} {data : CpuId} {internal : InternalIdInfo}
    (hpurpose : hasPurpose purpose raw = true)
    (hident : cpuIdentInternal host raw = .ok (.ok, data, internal)) :
    data.purpose = purpose ↔ ¬IsHygonHybrid raw := by
  rw [← cpuIdentPurpose_eq_storedPurpose_iff, hasPurpose_iff.mp hpurpose,
    (cpuIdentInternal_facts hident).2, Except.ok.injEq, eq_comm]

/-- A request reports a match exactly when it is answerable. -/
theorem reportsMatch_iff (host : Host) (allRawData : CpuError × CpuRawDataArray)
    (purpose : CpuPurpose) (a : CpuRawDataArray) (data : CpuId) :
    (∃ result, cpuRequestCoreType host allRawData purpose (some a) data = .ok result ∧
      ReportsMatch host purpose a result) ↔ IsAnswerable purpose a := by
  constructor
  · rintro ⟨result, hrun, hreport⟩
    obtain ⟨hscan, hmatch⟩ := requestLoop_eq_ok_iff.mp hrun
    cases hfind : a.raw.find? (hasPurpose purpose) with
    | none => exact ⟨hscan, by simp [hfind], by simp [hfind]⟩
    | some raw =>
      rw [hfind] at hmatch
      obtain ⟨raw', hraw', hident, hpurpose⟩ := hreport.record hmatch.1
      obtain rfl : raw = raw' := Option.some.inj (hfind.symm.trans hraw')
      obtain ⟨internal, hinternal⟩ := cpuIdentify_eq_ok_iff.mp hident
      have hhas : hasPurpose purpose raw = true := List.find?_some hfind
      refine ⟨hscan, fun raw' hraw' => ?_, fun raw' hraw' => ?_⟩
      · obtain rfl := Option.some.inj (hfind.symm.trans hraw')
        exact (isIdentified_iff host raw).mp ⟨_, hident⟩
      · obtain rfl := Option.some.inj (hfind.symm.trans hraw')
        exact (purpose_eq_iff hhas hinternal).mp hpurpose
  · rintro ⟨hscan, hidentifies, hhybrid⟩
    cases hfind : a.raw.find? (hasPurpose purpose) with
    | none =>
      refine ⟨(.notFound, data), requestLoop_eq_ok_iff.mpr ⟨hscan, by rw [hfind]⟩, ?_, ?_⟩
      · simp [hfind]
      · intro h
        cases h
    | some raw =>
      obtain ⟨data', hident⟩ := (isIdentified_iff host raw).mpr (hidentifies raw hfind)
      obtain ⟨internal, hinternal⟩ := cpuIdentify_eq_ok_iff.mp hident
      have hhas : hasPurpose purpose raw = true := List.find?_some hfind
      refine ⟨(.ok, data'), requestLoop_eq_ok_iff.mpr ⟨hscan, ?_⟩, ?_, fun _ => ?_⟩
      · rw [hfind]
        exact ⟨rfl, .ok, internal, hinternal⟩
      · exact iff_of_true rfl ⟨raw, hfind, data', hident⟩
      · exact ⟨raw, hfind, hident, (purpose_eq_iff hhas hinternal).mpr (hhybrid raw hfind)⟩

/-- An array with a record that nothing was read into. -/
def clearedArray : CpuRawDataArray where
  withAffinity := false
  raw := [.zero]
  numRaw_lt := numRaw_singleton_lt .zero

/-- The cleared record counts as one of general purpose, and its failure is reported as success. -/
theorem not_reportsMatch_cleared :
    ¬∃ result, cpuRequestCoreType ⟨fun _ _ => .zero, 1⟩ (.notFound, clearedArray) .general
        (some clearedArray) cpuIdConstructor = .ok result ∧
      ReportsMatch ⟨fun _ _ => .zero, 1⟩ .general clearedArray result := by
  have hgeneral : hasPurpose .general .zero = true := by decide +kernel
  have hunknown : cpuidArchitectureIdentify .zero = .unknown := by decide +kernel
  have hfind : clearedArray.raw.find? (hasPurpose .general) = some .zero :=
    List.find?_cons_of_pos hgeneral
  rintro ⟨result, hrun, hreport⟩
  obtain ⟨-, hmatch⟩ := requestLoop_eq_ok_iff.mp hrun
  rw [hfind] at hmatch
  obtain ⟨raw, hraw, hsuccess⟩ := hreport.ok_iff.mp hmatch.1
  obtain rfl := Option.some.inj (hfind.symm.trans hraw)
  have hidentifies := (isIdentified_iff _ _).mp hsuccess
  simp [IsIdentified, hunknown] at hidentifies

end Request

end LibCpuid
