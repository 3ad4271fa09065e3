import LibCpuid.IdentifyFacts
import LibCpuid.SystemSteps
import Mathlib.Algebra.BigOperators.Group.List.Basic
import Mathlib.Algebra.Order.Group.Int

/-! The history of a run of `cpu_identify_all` with affinity: one visit for each logical CPU, with
the entry that it was counted in.  `Tracks` says what the masks and the counters of the entries hold
after some visits, and `Tabulates` what the core and cache tables hold. -/

namespace LibCpuid

open CLang

/-- What the loop did with one logical CPU: its topology, the index of its entry and the cache
masks of that entry. -/
structure Visit where
  topology : InternalTopology
  entry : Nat
  cacheMask : Fin numCacheTypes → BitVec 32

/-- The entries and their masks and counters after the visits of `hist`. -/
structure Tracks (hist : List Visit) (s : IdentState) : Prop where
  aligned : s.Aligned
  entry_lt : ∀ v ∈ hist, v.entry < s.cpuTypes.length
  mask : ∀ (j : Nat) (data : CpuId), s.cpuTypes[j]? = some data → ∀ i : LogicalCpu,
    getAffinityMaskBit i data.affinityMask = true ↔ ∃ v, hist[i.val]? = some v ∧ v.entry = j
  count : ∀ (j : Nat) (data : CpuId), s.cpuTypes[j]? = some data →
    data.numLogicalCpus = data.affinityMask.count
  sum : (s.cpuTypes.map CpuId.numLogicalCpus).sum = hist.length

theorem tracks_start : Tracks [] .start where
  aligned := IdentState.aligned_start
  entry_lt v hv := by simp at hv
  mask j data h := by simp [IdentState.start] at h
  count j data h := by simp [IdentState.start] at h
  sum := rfl

section Steps

variable {host : Host} {raw : CpuRawData} {purpose : CpuPurpose} {hist : List Visit}
  {s s' : IdentState}

theorem Tracks.of_reads {logicalCpu : Nat} {topology : InternalTopology} (h : Tracks hist s)
    (hr : ReadsTopology true logicalCpu raw s s' topology) : Tracks hist s' where
  aligned := hr.aligned h.aligned
  entry_lt v hv := hr.cpuTypes ▸ h.entry_lt v hv
  mask j data hj := h.mask j data (hr.cpuTypes ▸ hj)
  count j data hj := h.count j data (hr.cpuTypes ▸ hj)
  sum := hr.cpuTypes ▸ h.sum

/-- An entry of the state with a new entry is an old one or the new one. -/
theorem opened_cpuTypes {data data' : CpuId} {idInfo : InternalIdInfo} {j : Nat}
    (h : (s.opened true purpose data idInfo).cpuTypes[j]? = some data') :
    s.cpuTypes[j]? = some data' ∨
      (j = s.cpuTypes.length ∧ data' = { data with numLogicalCpus := 0 }) := by
  simp only [IdentState.opened, if_true] at h
  rcases Nat.lt_or_ge j s.cpuTypes.length with hlt | hge
  · exact .inl (by rwa [List.getElem?_append_left hlt] at h)
  · rw [List.getElem?_append_right hge, List.getElem?_singleton] at h
    split at h
    · exact .inr ⟨by omega, (Option.some.inj h).symm⟩
    · cases h

theorem Tracks.of_opened {data : CpuId} {idInfo : InternalIdInfo} (h : Tracks hist s)
    (hlt : s.cpuTypes.length < 255)
    (hid : cpuIdentInternal host raw = .ok (.ok, data, idInfo)) :
    Tracks hist (s.opened true purpose data idInfo) where
  aligned := h.aligned.opened hlt _ _ _ _
  entry_lt v hv := by
    have := h.entry_lt v hv
    simp only [IdentState.opened, List.length_append]
    omega
  mask j data' hj i := by
    rcases opened_cpuTypes hj with hj | ⟨rfl, rfl⟩
    · exact h.mask j data' hj i
    · -- no logical CPU has visited the new entry
      dsimp only
      rw [(cpuIdentInternal_facts hid).1, getAffinityMaskBit_init]
      constructor
      · intro hfalse
        cases hfalse
      · rintro ⟨v, hv, he⟩
        have := h.entry_lt v (List.mem_of_getElem? hv)
        omega
  count j data' hj := by
    rcases opened_cpuTypes hj with hj | ⟨rfl, rfl⟩
    · exact h.count j data' hj
    · simp [(cpuIdentInternal_facts hid).1, CpuAffinityMask.count]
  sum := by simp [IdentState.opened, h.sum]

theorem Tracks.of_count {i : Nat} {data : CpuId} {v : Visit} (h : Tracks hist s)
    (hs' : s'.Aligned) (hlen : hist.length < 2 ^ 16) (hdata : s.cpuTypes[i]? = some data)
    (htypes : s'.cpuTypes = s.cpuTypes.set i (countCpu (Fin.ofNat _ hist.length) data))
    (hv : v.entry = i) : Tracks (hist ++ [v]) s' := by
  have hi : i < s.cpuTypes.length := (List.getElem?_eq_some_iff.mp hdata).1
  -- an entry of the new state is the one that was counted or one that was left alone
  have hentry {j : Nat} {data' : CpuId} (hj : s'.cpuTypes[j]? = some data') :
      (j = i ∧ data' = countCpu (Fin.ofNat _ hist.length) data) ∨
        (j ≠ i ∧ s.cpuTypes[j]? = some data') := by
    rw [htypes] at hj
    by_cases hij : i = j
    · subst hij
      rw [List.getElem?_set_self hi] at hj
      exact .inl ⟨rfl, (Option.some.inj hj).symm⟩
    · rw [List.getElem?_set_ne hij] at hj
      exact .inr ⟨Ne.symm hij, hj⟩
  have hval : (Fin.ofNat (2 ^ 16) hist.length).val = hist.length := Nat.mod_eq_of_lt hlen
  have happend (k : LogicalCpu) (j : Nat) :
      (∃ w, (hist ++ [v])[k.val]? = some w ∧ w.entry = j) ↔
        (∃ w, hist[k.val]? = some w ∧ w.entry = j) ∨ (k.val = hist.length ∧ v.entry = j) := by
    rcases Nat.lt_trichotomy k.val hist.length with hk | hk | hk
    · rw [List.getElem?_append_left hk]
      simp [hk.ne]
    · simp [hk]
    · simp [List.getElem?_append_right hk.le, List.getElem?_eq_none hk.le, hk.ne',
        show k.val - hist.length ≠ 0 by omega]
  refine ⟨hs', ?_, ?_, ?_, ?_⟩
  · intro w hw
    rw [htypes, List.length_set]
    rcases List.mem_append.mp hw with hw | hw
    · exact h.entry_lt w hw
    · rw [List.mem_singleton.mp hw, hv]
      exact hi
  · intro j data' hj k
    rw [happend]
    rcases hentry hj with ⟨rfl, rfl⟩ | ⟨hne, hj⟩
    · have hk : k = Fin.ofNat (2 ^ 16) hist.length ↔ k.val = hist.length := by
        rw [Fin.ext_iff, hval]
      simp only [countCpu, getAffinityMaskBit_set, Bool.or_eq_true, decide_eq_true_eq,
        h.mask j data hdata k, hk, hv, and_true, or_comm]
    · rw [h.mask j data' hj k]
      simp [hv, Ne.symm hne]
  · intro j data' hj
    rcases hentry hj with ⟨rfl, rfl⟩ | ⟨-, hj⟩
    · have hfree : getAffinityMaskBit (Fin.ofNat (2 ^ 16) hist.length) data.affinityMask = false := by
        rw [Bool.eq_false_iff, ne_eq, h.mask j data hdata, hval]
        simp
      simp only [countCpu, count_setAffinityMaskBit hfree, h.count j data hdata]
      norm_cast
    · exact h.count j data' hj
  · have hsum := h.sum
    have hold := (List.getElem?_eq_some_iff.mp hdata).2
    rw [htypes, List.map_set, List.sum_set', dif_pos (by simpa using hi), List.getElem_map, hold]
    simp only [countCpu, List.length_append, List.length_singleton]
    omega

/-- An iteration with affinity adds one visit. -/
theorem Tracks.of_step (h : Tracks hist s) (hlen : hist.length < 2 ^ 16)
    (hstep : identStep host true hist.length raw s = .ok s') :
    ∃ v : Visit, Tracks (hist ++ [v]) s' := by
  obtain ⟨purpose, s1, topology, s2, i, -, hread, hfind, hcount⟩ := identStep_cases hstep
  have hs' := identStep_aligned h.aligned hstep
  have h1 := h.of_reads (readTopology_reads hread)
  have h2 : Tracks hist s2 := by
    rcases findEntry_cases h1.aligned hfind with ⟨rfl, -⟩ | ⟨-, hlt, -, data, idInfo, hid, rfl⟩
    · exact h1
    · exact h1.of_opened hlt hid
  obtain ⟨data, hdata, htypes, -⟩ := incrementCounters_cases hcount
  exact ⟨⟨topology, i, fun _ => 0⟩, h2.of_count hs' hlen hdata htypes rfl⟩

end Steps

/-- Every state that the loop reaches with affinity comes from a history. -/
theorem loop_tracks {host : Host} {raws : List CpuRawData} {s : IdentState}
    (hlen : raws.length < 2 ^ 16)
    (h : loop (identStep host true) raws 0 .start = .ok s) :
    ∃ hist, hist.length = raws.length ∧ Tracks hist s := by
  have hinv := loop_induct
    (fun done s => done.length ≤ 2 ^ 16 → ∃ hist, hist.length = done.length ∧ Tracks hist s)
    (fun _ => ⟨[], rfl, tracks_start⟩)
    (fun done raw s s' ih hstep hle => by
      simp only [List.length_append, List.length_singleton] at hle ⊢
      obtain ⟨hist, heq, htracks⟩ := ih (by omega)
      obtain ⟨v, hv⟩ := htracks.of_step (by omega) (heq ▸ hstep)
      exact ⟨hist ++ [v], by simp [heq], hv⟩) h
  exact hinv hlen.le

end LibCpuid
