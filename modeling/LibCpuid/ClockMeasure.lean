import LibCpuid.CLang.Closest
import Mathlib.Algebra.BigOperators.Group.List.Basic
import Mathlib.Data.BitVec
import Mathlib.Algebra.Order.Group.Unbundled.Int
import Mathlib.Tactic.Linarith

/-! `cpu_clock_measure` of `rdtsc.c`: the frequency of the processor from readings of the time stamp
counter and of the system clock around a busy loop.  With `quad_check` the function measures four
times and votes. -/

namespace LibCpuid

open CLang

/-! ### Marks -/

/-- `cpu_mark_t`: the time stamp counter, and the system clock in microseconds. -/
structure CpuMark where
  tsc : BitVec 64
  sysClock : BitVec 64

/-- `mark_t_subtract`. -/
def markSubtract (a b : CpuMark) : CpuMark := ⟨a.tsc - b.tsc, a.sysClock - b.sysClock⟩

/-- `cpu_clock_by_mark`. -/
def cpuClockByMark (mark : CpuMark) : Int :=
  if mark.tsc >>> 63 ≠ 0 ∨ mark.sysClock >>> 63 ≠ 0 then -1
  else if mark.sysClock = 0 then -1
  else
    let result := mark.tsc / mark.sysClock
    if result > 0x7fffffff then -1 else result.toNat

/-- The value of a mark that passes the two checks. -/
theorem cpuClockByMark_of_lt {mark : CpuMark} (htsc : mark.tsc.toNat < 2 ^ 63)
    (hpos : 0 < mark.sysClock.toNat) (hclock : mark.sysClock.toNat < 2 ^ 63)
    (hfits : mark.tsc.toNat / mark.sysClock.toNat < 2 ^ 31) :
    cpuClockByMark mark = (mark.tsc.toNat / mark.sysClock.toNat : Nat) := by
  have hsign : ∀ x : BitVec 64, x.toNat < 2 ^ 63 → x >>> 63 = 0 := by
    intro x hx
    apply BitVec.eq_of_toNat_eq
    rw [BitVec.toNat_ushiftRight, Nat.shiftRight_eq_div_pow]
    exact Nat.div_eq_of_lt hx
  have hzero : mark.sysClock ≠ 0 := by
    intro h
    rw [h] at hpos
    exact absurd hpos (by decide)
  have hle : ¬mark.tsc / mark.sysClock > 0x7fffffff := by
    rw [gt_iff_lt, BitVec.lt_def, BitVec.toNat_udiv]
    exact Nat.not_lt.mpr (Nat.le_of_lt_succ hfits)
  rw [cpuClockByMark, if_neg (by simp [hsign _ htsc, hsign _ hclock]), if_neg hzero]
  simp only [if_neg hle, BitVec.toNat_udiv]

theorem cpuClockByMark_bounds (mark : CpuMark) :
    -1 ≤ cpuClockByMark mark ∧ cpuClockByMark mark < 2 ^ 31 := by
  unfold cpuClockByMark
  split
  · decide
  · split
    · decide
    · simp only
      split
      · decide
      · rename_i hle
        rw [gt_iff_lt, BitVec.lt_def, Nat.not_lt] at hle
        have hmax : (0x7fffffff : BitVec 64).toNat = 2 ^ 31 - 1 := rfl
        omega

/-! ### The busy loop -/

/-- The array that `busy_loop` adds up. -/
def busyData : List Int := [32, 12, -1, 5, 23, 0] ++ List.replicate 36 0

/-- `busy_loop`. -/
def busyLoop (amount : Int) : Checked Int :=
  (List.range amount.toNat).foldlM (fun s _ =>
    (List.range 65536).foldlM (fun s _ =>
      busyData.foldlM (fun s x => intResult (s + x)) s) s) 0

theorem sum_busyData : busyData.sum = 71 := by decide

/-- The sum fits for 461 rounds. -/
theorem busyLoop_of_le {amount : Int} (hpos : 0 ≤ amount) (hle : amount ≤ 461) :
    busyLoop amount = .ok (amount * 4653056) := by
  have hparts : ∀ k ≤ busyData.length, 0 ≤ (busyData.take k).sum ∧ (busyData.take k).sum ≤ 71 := by
    decide
  have hdata : ∀ s : Int, 0 ≤ s → s + 71 < 2 ^ 31 →
      busyData.foldlM (fun s x => intResult (s + x)) s = .ok (s + 71) := by
    intro s hs hlt
    rw [← sum_busyData]
    refine foldlM_intResult_add fun k hk => ?_
    have hpart := hparts k hk
    omega
  have hinner : ∀ s : Int, 0 ≤ s → s + 4653056 < 2 ^ 31 →
      (List.range 65536).foldlM (fun s _ =>
        busyData.foldlM (fun s x => intResult (s + x)) s) s = .ok (s + 4653056) := by
    intro s hs hlt
    have hsum := foldlM_add_const (by decide) (fun s (_ : Nat) => hdata s) (List.range 65536) hs
      (by rw [List.length_range]; omega)
    rw [hsum, List.length_range]
    rfl
  have hlen : ((List.range amount.toNat).length : Int) = amount := by
    rw [List.length_range, Int.toNat_of_nonneg hpos]
  have hsum := foldlM_add_const (by decide) (fun s (_ : Nat) => hinner s)
    (List.range amount.toNat) (le_refl 0) (by rw [hlen]; omega)
  rw [busyLoop, hsum, hlen, zero_add]

/-- `1 & busy_loop(cycles)`, with which the function makes the compiler keep the loop, is zero. -/
theorem one_and_busyLoop {amount sum : Int} (h : busyLoop amount = .ok sum) :
    1 &&& BitVec.ofInt 32 sum = 0 := by
  have hdata : ∀ s (_ : Nat) t, busyData.foldlM (fun s x => intResult (s + x)) s = .ok t →
      t = s + 71 := by
    intro s _ t ht
    have hadd : ∀ s x t, intResult (s + x) = .ok t → t = s + x := by
      intro s x t ht
      rw [intResult] at ht
      split at ht
      · exact (Except.ok.inj ht).symm
      · cases ht
    rw [eq_of_foldlM_add hadd ht, List.map_id', sum_busyData]
  have hinner : ∀ s (_ : Nat) t, (List.range 65536).foldlM (fun s _ =>
      busyData.foldlM (fun s x => intResult (s + x)) s) s = .ok t → t = s + 4653056 := by
    intro s _ t ht
    rw [eq_of_foldlM_add hdata ht, List.map_const', List.length_range, List.sum_replicate]
    rfl
  have hsum := eq_of_foldlM_add hinner h
  rw [List.map_const', List.sum_replicate, nsmul_eq_mul, zero_add] at hsum
  apply BitVec.eq_of_toNat_eq
  rw [BitVec.toNat_and, BitVec.toNat_ofInt, hsum]
  have hone : (1 : BitVec 32).toNat = 1 := rfl
  rw [hone, Nat.and_comm, Nat.and_one_is_mod]
  show _ = 0
  omega

/-! ### The measurements -/

/-- What a measurement leaves to the next one: the length of the busy loop, and the flag that the
compiler must believe in. -/
structure BusyState where
  cycles : Int
  zero : BitVec 32

/-- The length of the next busy loop, which is doubled if this one, between two marks of the
difference `temp2`, is too short. -/
def nextCycles (tl : BitVec 64) (temp2 : CpuMark) (cycles : Int) : Checked Int :=
  if temp2.sysClock < tl / 8 then intResult (cycles * 2) else .ok cycles

/-- The body of the `do` loop of `cpu_clock_measure`, between the marks `stop` and `temp`. -/
def busyStep (tl : BitVec 64) (stop temp : CpuMark) (s : BusyState) : Checked BusyState := do
  let sum ← busyLoop s.cycles
  let cycles ← nextCycles tl (markSubtract temp stop) s.cycles
  .ok ⟨cycles, s.zero ||| (1 &&& .ofInt 32 sum)⟩

/-- The `do` loop, on the marks that `cpu_tsc_mark` has still to give.  It has no result while the
marks do not end it. -/
def measureLoop (tl : BitVec 64) (start : CpuMark) : CpuMark → BusyState → List CpuMark →
    Option (Checked (CpuMark × BusyState × List CpuMark))
  | _, _, [] => none
  | stop, s, temp :: marks =>
    match busyStep tl stop temp s with
    | .error e => some (.error e)
    | .ok s =>
      if temp.sysClock - start.sysClock < tl then measureLoop tl start temp s marks
      else some (.ok (temp, s, marks))

/-- The loop over the `n` measurements, which fills `results`. -/
def measureRuns (tl : BitVec 64) : Nat → BusyState → List CpuMark →
    Option (Checked (List Int × BusyState × List CpuMark))
  | 0, s, marks => some (.ok ([], s, marks))
  | _ + 1, _, [] => none
  | n + 1, s, start :: marks =>
    match measureLoop tl start start s marks with
    | none => none
    | some (.error e) => some (.error e)
    | some (.ok (stop, s, marks)) =>
      (measureRuns tl n s marks).map fun r => do
        let (results, s, marks) ← r
        .ok (cpuClockByMark (markSubtract stop start) :: results, s, marks)

/-! ### The quad check -/

/-- The pairs `i < j` of the two loops, in their order. -/
def resultPairs : List (Nat × Nat) :=
  (List.range 4).flatMap fun i => ((List.range 4).filter (i < ·)).map fun j => (i, j)

/-- `mdiff`, `bi` and `bj`. -/
structure BestPair where
  mdiff : Int
  bi : Int
  bj : Int

/-- `if (diff < 0) diff = -diff`. -/
def absDiff (diff : Int) : Checked Int := if diff < 0 then intResult (-diff) else .ok diff

/-- The body of the two loops over the results. -/
def pairStep (results : List Int) (s : BestPair) (pair : Nat × Nat) : Checked BestPair := do
  let ri ← loadList results pair.1
  let rj ← loadList results pair.2
  let diff ← intResult (ri - rj)
  let diff ← absDiff diff
  .ok (if diff < s.mdiff then ⟨diff, pair.1, pair.2⟩ else s)

/-- The vote among four results, and the return value. -/
def quadMean (results : List Int) (zero : BitVec 32) : Checked Int := do
  let best ← resultPairs.foldlM (pairStep results) ⟨0x7fffffff, -1, -1⟩
  let rbi ← loadInt results best.bi
  if rbi = -1 then .ok (-1)
  else
    let rbj ← loadInt results best.bj
    let sum ← intResult (rbi + rbj)
    let sum ← intResult (sum + zero.toInt)
    .ok (sum.tdiv 2)

/-- The time limit `tl` of a measurement, in microseconds. -/
def timeLimit (millis : BitVec 32) (quadCheck : Bool) : BitVec 64 :=
  let tl := millis.signExtend 64 * 1000
  if quadCheck then tl / 4 else tl

/-- `cpu_clock_measure`, on the marks that `cpu_tsc_mark` gives. -/
def cpuClockMeasure (millis : BitVec 32) (quadCheck : Bool) (marks : List CpuMark) :
    Option (Checked Int) :=
  if millis.toInt < 1 then some (.ok (-1))
  else
    let n := if quadCheck then 4 else 1
    (measureRuns (timeLimit millis quadCheck) n ⟨1, 0⟩ marks).map fun r => do
      let (results, s, _) ← r
      if n = 1 then loadList results 0 else quadMean results s.zero

/-! ### The vote -/

section Vote

variable {r : Nat → Int}

theorem mem_resultPairs {pair : Nat × Nat} :
    pair ∈ resultPairs ↔ pair.1 < pair.2 ∧ pair.2 < 4 := by
  simp only [resultPairs, List.mem_flatMap, List.mem_map, List.mem_filter, List.mem_range,
    decide_eq_true_eq]
  constructor
  · rintro ⟨i, hi, j, ⟨hj, hij⟩, rfl⟩
    exact ⟨hij, hj⟩
  · rintro ⟨hij, hj⟩
    exact ⟨pair.1, by omega, pair.2, ⟨hj, hij⟩, rfl⟩

/-- What the two loops minimise. -/
def resultDiff (r : Nat → Int) (pair : Nat × Nat) : Int := |r pair.1 - r pair.2|

/-- The variables of the two loops, for what the scan has found. -/
def BestPair.ofScan : Int × Option (Nat × Nat) → BestPair
  | (mdiff, none) => ⟨mdiff, -1, -1⟩
  | (mdiff, some pair) => ⟨mdiff, pair.1, pair.2⟩

theorem BestPair.mdiff_ofScan (best : Int × Option (Nat × Nat)) :
    (BestPair.ofScan best).mdiff = best.1 := by
  rcases best with ⟨m, _ | pair⟩ <;> rfl

theorem loadList_results {i : Nat} (hi : i < 4) : loadList ((List.range 4).map r) i = .ok (r i) := by
  rw [loadList_of_lt (by simpa using hi)]
  simp

theorem loadInt_results {i : Nat} (hi : i < 4) : loadInt ((List.range 4).map r) i = .ok (r i) := by
  rw [loadInt_of_lt (by simpa using hi)]
  simp

/-- A step of the two loops is a step of the scan, where the difference does not overflow. -/
theorem pairStep_eq {pair : Nat × Nat} (hpair : pair ∈ resultPairs)
    (hdiff : resultDiff r pair < 2 ^ 31) (best : Int × Option (Nat × Nat)) :
    pairStep ((List.range 4).map r) (.ofScan best) pair =
      .ok (.ofScan (keepLess (resultDiff r) best pair)) := by
  obtain ⟨hij, hj⟩ := mem_resultPairs.mp hpair
  rw [resultDiff, abs_lt] at hdiff
  have habs : absDiff (r pair.1 - r pair.2) = .ok (resultDiff r pair) := by
    rw [absDiff, resultDiff]
    split
    case isTrue hneg =>
      rw [abs_of_neg hneg]
      exact intResult_of_fits (by omega) (by omega)
    case isFalse hneg =>
      rw [abs_of_nonneg (not_lt.mp hneg)]
  rw [pairStep, loadList_results (hij.trans hj), loadList_results hj]
  simp only [ok_bind]
  rw [intResult_of_fits (by omega) (by omega)]
  simp only [ok_bind, habs]
  rw [BestPair.mdiff_ofScan, keepLess]
  split <;> rfl

theorem foldlM_pairStep {pairs : List (Nat × Nat)} (hpairs : ∀ pair ∈ pairs, pair ∈ resultPairs)
    (hdiff : ∀ pair ∈ pairs, resultDiff r pair < 2 ^ 31) (best : Int × Option (Nat × Nat)) :
    pairs.foldlM (pairStep ((List.range 4).map r)) (.ofScan best) =
      .ok (.ofScan (pairs.foldl (keepLess (resultDiff r)) best)) := by
  induction pairs generalizing best with
  | nil => rfl
  | cons pair pairs ih =>
    rw [List.foldlM_cons, pairStep_eq (hpairs pair List.mem_cons_self)
      (hdiff pair List.mem_cons_self)]
    exact ih (fun p hp => hpairs p (List.mem_cons_of_mem _ hp))
      (fun p hp => hdiff p (List.mem_cons_of_mem _ hp)) _

/-- Two of the results with the least difference. -/
structure Closest (r : Nat → Int) (i j : Nat) : Prop where
  lt : i < j
  lt_four : j < 4
  le : ∀ pair ∈ resultPairs, resultDiff r (i, j) ≤ resultDiff r pair

/-- The quad check takes the mean of two results that lie closest together.  One difference that is
small keeps `bi` and `bj` from staying -1. -/
theorem quadMean_eq (hdiff : ∀ pair ∈ resultPairs, resultDiff r pair < 2 ^ 31)
    (hsmall : ∃ pair ∈ resultPairs, resultDiff r pair < 0x7fffffff) :
    ∃ i j, Closest r i j ∧ quadMean ((List.range 4).map r) 0 =
      if r i = -1 then .ok (-1)
      else intResult (r i + r j) >>= fun sum => .ok (sum.tdiv 2) := by
  have hscan := isLeast_foldl (resultDiff r) 0x7fffffff resultPairs
  obtain ⟨small, hmem, hlt⟩ := hsmall
  obtain ⟨⟨i, j⟩, hbest⟩ := hscan.exists_of_lt _ hmem hlt
  obtain ⟨hpair, hkey⟩ := hscan.found _ hbest
  obtain ⟨hij, hj⟩ := mem_resultPairs.mp hpair
  have hfold := foldlM_pairStep (fun _ h => h) hdiff (0x7fffffff, none)
  generalize resultPairs.foldl (keepLess (resultDiff r)) (0x7fffffff, none) = best at *
  obtain ⟨m, found⟩ := best
  subst hbest
  refine ⟨i, j, ⟨hij, hj, fun pair h => hkey ▸ hscan.le_key pair h⟩, ?_⟩
  rw [quadMean, show (⟨0x7fffffff, -1, -1⟩ : BestPair) = .ofScan (0x7fffffff, none) from rfl, hfold]
  simp only [ok_bind, BestPair.ofScan]
  rw [loadInt_results (hij.trans hj), loadInt_results hj]
  simp only [ok_bind]
  refine if_congr Iff.rfl rfl ?_
  have hzero : (0 : BitVec 32).toInt = 0 := rfl
  by_cases hfits : -2 ^ 31 ≤ r i + r j ∧ r i + r j < 2 ^ 31
  · simp only [hzero, add_zero, intResult, if_pos hfits, ok_bind]
  · simp only [intResult, if_neg hfits, error_bind]

end Vote

/-! ### Any readings -/

/-- A step where the sum of the busy loop fits. -/
theorem busyStep_of_le {tl : BitVec 64} {stop temp : CpuMark} {s : BusyState} (hzero : s.zero = 0)
    (hpos : 0 ≤ s.cycles) (hle : s.cycles ≤ 461) :
    busyStep tl stop temp s = .ok
      ⟨if (markSubtract temp stop).sysClock < tl / 8 then s.cycles * 2 else s.cycles, 0⟩ := by
  have hsum := busyLoop_of_le hpos hle
  rw [busyStep, hsum, ok_bind, one_and_busyLoop hsum, hzero, BitVec.or_self, nextCycles,
    intResult_of_fits (by omega) (by omega)]
  split <;> rfl

theorem busyStep_zero {tl : BitVec 64} {stop temp : CpuMark} {s s' : BusyState}
    (hzero : s.zero = 0) (h : busyStep tl stop temp s = .ok s') : s'.zero = 0 := by
  rw [busyStep, bind_eq_ok] at h
  obtain ⟨sum, hsum, h⟩ := h
  obtain ⟨cycles, -, h⟩ := bind_eq_ok.mp h
  cases h
  rw [hzero, one_and_busyLoop hsum, BitVec.or_self]

theorem measureLoop_zero {tl : BitVec 64} {start stop last : CpuMark} {s s' : BusyState}
    {marks rest : List CpuMark} (hzero : s.zero = 0)
    (h : measureLoop tl start stop s marks = some (.ok (last, s', rest))) : s'.zero = 0 := by
  induction marks generalizing stop s with
  | nil => cases h
  | cons temp marks ih =>
    rw [measureLoop] at h
    split at h
    · cases h
    · next s1 hstep =>
      have hzero1 := busyStep_zero hzero hstep
      split at h
      · exact ih hzero1 h
      · cases h
        exact hzero1

/-- What is known of the measurements, whatever the clocks do. -/
structure ResultsFit (n : Nat) (results : List Int) : Prop where
  length : results.length = n
  bounds : ∀ r ∈ results, -1 ≤ r ∧ r < 2 ^ 31

theorem measureRuns_fit {tl : BitVec 64} {n : Nat} {s s' : BusyState} {results : List Int}
    {marks rest : List CpuMark} (hzero : s.zero = 0)
    (h : measureRuns tl n s marks = some (.ok (results, s', rest))) :
    ResultsFit n results ∧ s'.zero = 0 := by
  induction n generalizing s results marks with
  | zero =>
    cases h
    exact ⟨⟨rfl, by simp⟩, hzero⟩
  | succ n ih =>
    cases marks with
    | nil => cases h
    | cons start marks =>
      rw [measureRuns] at h
      split at h
      · cases h
      · cases h
      · next stop s1 marks1 hloop =>
        obtain ⟨r, hruns, hr⟩ := Option.map_eq_some_iff.mp h
        obtain ⟨⟨results1, s2, marks2⟩, rfl, hr⟩ := bind_eq_ok.mp hr
        cases hr
        obtain ⟨hfit, hs⟩ := ih (measureLoop_zero hzero hloop) hruns
        refine ⟨⟨by simp [hfit.length], ?_⟩, hs⟩
        intro r hr
        rcases List.mem_cons.mp hr with rfl | hr
        · exact cpuClockByMark_bounds _
        · exact hfit.bounds r hr

/-- The four measurements on these marks end, with these results. -/
def Measures (millis : BitVec 32) (marks : List CpuMark) (results : List Int) : Prop :=
  ∃ s rest, measureRuns (timeLimit millis true) 4 ⟨1, 0⟩ marks = some (.ok (results, s, rest))

section Measures

variable {millis : BitVec 32} {marks : List CpuMark} {results : List Int}

theorem ResultsFit.eq_map (h : ResultsFit 4 results) :
    results = (List.range 4).map (results.getD · 0) := by
  apply List.ext_getElem (by simp [h.length])
  intro i hi _
  simp [hi]

theorem ResultsFit.getD_mem (h : ResultsFit 4 results) {i : Nat} (hi : i < 4) :
    results.getD i 0 ∈ results := by
  have hlt : i < results.length := h.length ▸ hi
  simp [hlt]

theorem ResultsFit.getD_bounds (h : ResultsFit 4 results) {i : Nat} (hi : i < 4) :
    -1 ≤ results.getD i 0 ∧ results.getD i 0 < 2 ^ 31 :=
  h.bounds _ (h.getD_mem hi)

theorem Measures.fit (h : Measures millis marks results) : ResultsFit 4 results := by
  obtain ⟨s, rest, hruns⟩ := h
  exact (measureRuns_fit rfl hruns).1

theorem Measures.quadMean (h : Measures millis marks results) (hmillis : 1 ≤ millis.toInt) :
    cpuClockMeasure millis true marks =
      some (quadMean ((List.range 4).map (results.getD · 0)) 0) := by
  rw [← h.fit.eq_map]
  obtain ⟨s, rest, hruns⟩ := h
  have hzero := (measureRuns_fit rfl hruns).2
  rw [cpuClockMeasure, if_neg (by omega)]
  simp only [if_true, hruns, Option.map_some, ok_bind, hzero]
  rfl

/-- When no result reaches `2 ^ 30` MHz the function gives the mean of two results that lie closest
together, and nothing overflows. -/
theorem cpuClockMeasure_closest (hmillis : 1 ≤ millis.toInt) (h : Measures millis marks results)
    (hlt : ∀ r ∈ results, r < 2 ^ 30) :
    ∃ i j, Closest (results.getD · 0) i j ∧ cpuClockMeasure millis true marks =
      some (.ok (if results.getD i 0 = -1 then -1
        else (results.getD i 0 + results.getD j 0).tdiv 2)) := by
  have hbounds : ∀ i < 4, -1 ≤ results.getD i 0 ∧ results.getD i 0 < 2 ^ 30 :=
    fun i hi => ⟨(h.fit.getD_bounds hi).1, hlt _ (h.fit.getD_mem hi)⟩
  have hdiff : ∀ pair ∈ resultPairs, resultDiff (results.getD · 0) pair < 0x7fffffff := by
    intro pair hpair
    obtain ⟨hij, hj⟩ := mem_resultPairs.mp hpair
    have hi' := hbounds pair.1 (by omega)
    have hj' := hbounds pair.2 hj
    rw [resultDiff, abs_lt]
    omega
  obtain ⟨i, j, hclosest, hmean⟩ :=
    quadMean_eq (fun pair hpair => (hdiff pair hpair).trans (by decide))
      ⟨(0, 1), by decide, hdiff _ (by decide)⟩
  refine ⟨i, j, hclosest, ?_⟩
  rw [h.quadMean hmillis, hmean]
  have hi' := hbounds i (hclosest.lt.trans hclosest.lt_four)
  have hj' := hbounds j hclosest.lt_four
  rw [intResult_of_fits (by omega) (by omega)]
  split <;> rfl

/-- One measurement that is disturbed, however much, costs at most twice the error of the others. -/
theorem cpuClockMeasure_outlier {f ε : Int} {k : Nat} (hmillis : 1 ≤ millis.toInt)
    (h : Measures millis marks results) (hε : 3 * ε ≤ f) (hf : f + 3 * ε < 2 ^ 30)
    (hgood : ∀ i < 4, i ≠ k → |results.getD i 0 - f| ≤ ε) :
    ∃ v, cpuClockMeasure millis true marks = some (.ok v) ∧ |v - f| ≤ 2 * ε := by
  have hgood' : ∀ i < 4, i ≠ k → f - ε ≤ results.getD i 0 ∧ results.getD i 0 ≤ f + ε := by
    intro i hi hne
    have hle := hgood i hi hne
    rw [abs_le] at hle
    omega
  have hbounds : ∀ i < 4, -1 ≤ results.getD i 0 ∧ results.getD i 0 < 2 ^ 31 :=
    fun i hi => h.fit.getD_bounds hi
  have hdiff : ∀ pair ∈ resultPairs, resultDiff (results.getD · 0) pair < 2 ^ 31 := by
    intro pair hpair
    obtain ⟨hij, hj⟩ := mem_resultPairs.mp hpair
    have hi' := hbounds pair.1 (by omega)
    have hj' := hbounds pair.2 hj
    -- at least one of the two is a good one, so they are not -1 and the greatest `int`
    have hone : pair.1 ≠ k ∨ pair.2 ≠ k := by omega
    rw [resultDiff, abs_lt]
    rcases hone with hne | hne
    · have hg := hgood' pair.1 (by omega) hne
      omega
    · have hg := hgood' pair.2 hj hne
      omega
  obtain ⟨a, b, hab, hb, hak, hbk⟩ : ∃ a b, a < b ∧ b < 4 ∧ a ≠ k ∧ b ≠ k := by
    by_cases hk : k = 0 ∨ k = 1
    · exact ⟨2, 3, by omega, by omega, by omega, by omega⟩
    · exact ⟨0, 1, by omega, by omega, by omega, by omega⟩
  have hmem : (a, b) ∈ resultPairs := mem_resultPairs.mpr ⟨hab, hb⟩
  have hnear : resultDiff (results.getD · 0) (a, b) ≤ 2 * ε := by
    have ha' := hgood' a (by omega) hak
    have hb' := hgood' b hb hbk
    simp only [resultDiff, abs_le]
    omega
  obtain ⟨i, j, hclosest, hmean⟩ := quadMean_eq hdiff ⟨(a, b), hmem, by omega⟩
  have hclose : |results.getD i 0 - results.getD j 0| ≤ 2 * ε := (hclosest.le _ hmem).trans hnear
  have hi4 := hclosest.lt.trans hclosest.lt_four
  have hclose' := abs_le.mp hclose
  have hmean' : |(results.getD i 0 + results.getD j 0).tdiv 2 - f| ≤ 2 * ε := by
    by_cases hik : i = k
    · rw [add_comm]
      rw [abs_sub_comm] at hclose
      exact abs_mean_sub_le hclose (hgood j hclosest.lt_four (by have := hclosest.lt; omega))
    · exact abs_mean_sub_le hclose (hgood i hi4 hik)
  have hrange : f - 3 * ε ≤ results.getD i 0 ∧ results.getD i 0 ≤ f + 3 * ε ∧
      f - 3 * ε ≤ results.getD j 0 ∧ results.getD j 0 ≤ f + 3 * ε := by
    by_cases hik : i = k
    · have hg := hgood' j hclosest.lt_four (by have := hclosest.lt; omega)
      omega
    · have hg := hgood' i hi4 hik
      omega
  refine ⟨_, ?_, hmean'⟩
  rw [h.quadMean hmillis, hmean, if_neg (by omega), intResult_of_fits (by omega) (by omega)]
  rfl

end Measures

/-- Marks of four measurements at 3000 or 3001 MHz, in the third of which the counter stood still. -/
def disturbedMarks : List CpuMark :=
  [⟨0, 0⟩, ⟨750000, 250⟩, ⟨751000, 251⟩, ⟨1501000, 501⟩, ⟨1502000, 502⟩, ⟨1502000, 802⟩,
    ⟨1503000, 803⟩, ⟨2253250, 1053⟩]

/-- A measurement that ends at its first mark, before others. -/
theorem measureRuns_cons {tl : BitVec 64} {n : Nat} {start stop : CpuMark} {marks : List CpuMark}
    {r : Int} {results : List Int} {s : BusyState} {rest : List CpuMark}
    (h : tl ≤ stop.sysClock - start.sysClock)
    (hr : cpuClockByMark (markSubtract stop start) = r)
    (hruns : measureRuns tl n ⟨1, 0⟩ marks = some (.ok (results, s, rest))) :
    measureRuns tl (n + 1) ⟨1, 0⟩ (start :: stop :: marks) = some (.ok (r :: results, s, rest)) := by
  have hshort : ¬(markSubtract stop start).sysClock < tl / 8 := by
    rw [BitVec.lt_def, BitVec.toNat_udiv]
    exact Nat.not_lt.mpr ((Nat.div_le_self _ _).trans (BitVec.le_def.mp h))
  have hloop : measureLoop tl start start ⟨1, 0⟩ (stop :: marks) =
      some (.ok (stop, ⟨1, 0⟩, marks)) := by
    rw [measureLoop, busyStep_of_le rfl (by decide) (by decide), if_neg hshort]
    dsimp only
    rw [if_neg (BitVec.not_lt.mpr h)]
  rw [measureRuns, hloop]
  dsimp only
  rw [hruns, ← hr]
  rfl

theorem measures_disturbedMarks : Measures 1 disturbedMarks [3000, 3000, 0, 3001] := by
  have hlimit : timeLimit 1 true = 250 := by decide
  refine ⟨⟨1, 0⟩, [], ?_⟩
  rw [hlimit]
  exact measureRuns_cons (by decide) (by decide) <| measureRuns_cons (by decide) (by decide) <|
    measureRuns_cons (by decide) (by decide) <| measureRuns_cons (by decide) (by decide) rfl

theorem cpuClockMeasure_outlier_third :
    ∃ v, cpuClockMeasure 1 true disturbedMarks = some (.ok v) ∧ |v - 3000| ≤ 2 * 1 :=
  cpuClockMeasure_outlier (k := 2) (by decide) measures_disturbedMarks (by decide) (by decide)
    (by decide)

/-! ### A steady clock -/

/-- A time stamp counter of constant rate `f`, in cycles for each microsecond, and the times at which
`cpu_tsc_mark` reads it.  The counters wrap. -/
structure SteadyClock where
  f : Nat
  offset : Nat
  time : Nat → Nat
  gap : Nat
  time_lt : ∀ n, time n < time (n + 1)
  time_le : ∀ n, time (n + 1) ≤ time n + gap

section Steady

variable (clock : SteadyClock)

/-- The mark with the number `n`. -/
def SteadyClock.mark (n : Nat) : CpuMark where
  tsc := .ofNat 64 (clock.f * clock.time n + clock.offset)
  sysClock := .ofNat 64 (clock.time n)

/-- The `m` marks from the number `k` on. -/
def SteadyClock.marks (k m : Nat) : List CpuMark := (List.range' k m).map clock.mark

theorem SteadyClock.marks_succ (k m : Nat) :
    clock.marks k (m + 1) = clock.mark k :: clock.marks (k + 1) m := by
  simp [SteadyClock.marks, List.range'_succ]

theorem SteadyClock.time_add_le (k n : Nat) : clock.time k + n ≤ clock.time (k + n) := by
  induction n with
  | zero => exact le_refl _
  | succ n ih =>
    have hlt := clock.time_lt (k + n)
    rw [← add_assoc k]
    omega

theorem SteadyClock.time_mono {k n : Nat} (h : k ≤ n) : clock.time k ≤ clock.time n := by
  obtain ⟨d, rfl⟩ := Nat.exists_eq_add_of_le h
  exact (Nat.le_add_right _ _).trans (clock.time_add_le k d)

/-- A difference of two counters, which is exact though the counters wrap. -/
theorem toNat_ofNat_sub {a b : Nat} (h : a ≤ b) (hlt : b - a < 2 ^ 64) :
    (BitVec.ofNat 64 b - BitVec.ofNat 64 a).toNat = b - a := by
  rw [BitVec.toNat_sub, BitVec.toNat_ofNat, BitVec.toNat_ofNat]
  omega

section Window

variable {i j : Nat}

theorem SteadyClock.sysClock_sub (h : i ≤ j) (hlt : clock.time j - clock.time i < 2 ^ 63) :
    (clock.mark j).sysClock - (clock.mark i).sysClock =
      .ofNat 64 (clock.time j - clock.time i) := by
  apply BitVec.eq_of_toNat_eq
  rw [BitVec.toNat_ofNat, Nat.mod_eq_of_lt (by omega)]
  exact toNat_ofNat_sub (clock.time_mono h) (by omega)

theorem SteadyClock.cpuClockByMark_eq (h : i ≤ j) (hpos : clock.time i < clock.time j)
    (hf : clock.f < 2 ^ 31) (hfits : (clock.f + 1) * (clock.time j - clock.time i) < 2 ^ 63) :
    cpuClockByMark (markSubtract (clock.mark j) (clock.mark i)) = clock.f := by
  have hprod : clock.f * (clock.time j - clock.time i) + (clock.time j - clock.time i) < 2 ^ 63 := by
    rwa [← Nat.succ_mul]
  have htsc : (markSubtract (clock.mark j) (clock.mark i)).tsc.toNat =
      clock.f * (clock.time j - clock.time i) := by
    have hle : clock.f * clock.time i ≤ clock.f * clock.time j :=
      Nat.mul_le_mul_left _ (clock.time_mono h)
    have hsub : clock.f * clock.time j + clock.offset - (clock.f * clock.time i + clock.offset) =
        clock.f * (clock.time j - clock.time i) := by
      rw [Nat.mul_sub]
      omega
    rw [markSubtract, SteadyClock.mark, SteadyClock.mark, ← hsub]
    exact toNat_ofNat_sub (by omega) (by omega)
  have hclock : (markSubtract (clock.mark j) (clock.mark i)).sysClock.toNat =
      clock.time j - clock.time i :=
    toNat_ofNat_sub (clock.time_mono h) (by omega)
  have hdiv : clock.f * (clock.time j - clock.time i) / (clock.time j - clock.time i) = clock.f :=
    Nat.mul_div_cancel _ (by omega)
  rw [cpuClockByMark_of_lt (by omega) (by omega) (by omega) (by rw [htsc, hclock, hdiv]; exact hf),
    htsc, hclock, hdiv]

end Window

/-- How many of the first `n` intervals between readings are shorter than an eighth of the time
limit, for which the busy loop is doubled. -/
def SteadyClock.shortIntervals (tl n : Nat) : Nat :=
  (List.range n).countP fun k => clock.time (k + 1) - clock.time k < tl / 8

theorem SteadyClock.shortIntervals_succ (tl n : Nat) :
    clock.shortIntervals tl (n + 1) = clock.shortIntervals tl n +
      if clock.time (n + 1) - clock.time n < tl / 8 then 1 else 0 := by
  simp [SteadyClock.shortIntervals, List.range_succ, List.countP_append]

theorem SteadyClock.shortIntervals_le {tl k : Nat}
    (h : ∀ n, k ≤ n → tl / 8 ≤ clock.time (n + 1) - clock.time n) (n : Nat) :
    clock.shortIntervals tl n ≤ min n k := by
  induction n with
  | zero => simp [SteadyClock.shortIntervals]
  | succ n ih =>
    rw [clock.shortIntervals_succ]
    by_cases hn : k ≤ n
    · have hlong := h n hn
      rw [if_neg (by omega)]
      omega
    · split <;> omega

/-- The state at the mark with the number `n`: the busy loop was doubled for short intervals only. -/
structure SteadyClock.BusyAt (tl n : Nat) (s : BusyState) : Prop where
  zero : s.zero = 0
  cycles : ∃ d ≤ clock.shortIntervals tl n, s.cycles = 2 ^ d

theorem SteadyClock.BusyAt.next {clock : SteadyClock} {tl n : Nat} {s : BusyState}
    (h : clock.BusyAt tl n s) : clock.BusyAt tl (n + 1) s := by
  obtain ⟨d, hd, hcycles⟩ := h.cycles
  refine ⟨h.zero, d, ?_, hcycles⟩
  rw [clock.shortIntervals_succ]
  omega

/-- The body of the measuring loop, on a clock with at most eight short intervals. -/
theorem SteadyClock.busyStep_eq {tl : BitVec 64} (hgap : tl.toNat + clock.gap < 2 ^ 63)
    (hshort : ∀ n, clock.shortIntervals tl.toNat n ≤ 8) {stop : Nat} {s : BusyState}
    (h : clock.BusyAt tl.toNat stop s) :
    ∃ s', busyStep tl (clock.mark stop) (clock.mark (stop + 1)) s = .ok s' ∧
      clock.BusyAt tl.toNat (stop + 1) s' := by
  obtain ⟨d, hd, hcycles⟩ := h.cycles
  have hle : (2 : Int) ^ d ≤ 2 ^ 8 := pow_le_pow_right₀ (by decide) (hd.trans (hshort stop))
  have hpos : (0 : Int) ≤ 2 ^ d := pow_nonneg (by decide) d
  have hnext := clock.time_le stop
  have hcond : (markSubtract (clock.mark (stop + 1)) (clock.mark stop)).sysClock < tl / 8 ↔
      clock.time (stop + 1) - clock.time stop < tl.toNat / 8 := by
    have htoNat : (8 : BitVec 64).toNat = 8 := rfl
    rw [markSubtract]
    dsimp only
    rw [clock.sysClock_sub (Nat.le_add_right stop 1) (by omega), BitVec.lt_def, BitVec.toNat_udiv,
      htoNat, BitVec.toNat_ofNat, Nat.mod_eq_of_lt (by omega)]
  have hsucc := clock.shortIntervals_succ tl.toNat stop
  refine ⟨_, busyStep_of_le h.zero (hcycles ▸ hpos) (by rw [hcycles]; omega), rfl, ?_⟩
  dsimp only
  by_cases hdouble : clock.time (stop + 1) - clock.time stop < tl.toNat / 8
  · rw [if_pos (hcond.mpr hdouble), hcycles]
    rw [if_pos hdouble] at hsucc
    exact ⟨d + 1, by omega, (pow_succ 2 d).symm⟩
  · rw [if_neg fun hlt => hdouble (hcond.mp hlt)]
    rw [if_neg hdouble] at hsucc
    exact ⟨d, by omega, hcycles⟩

/-- The measuring loop ends, no more than `tl` marks after its start.  The induction is on the marks
that are left; the clock advances at each. -/
theorem SteadyClock.measureLoop_eq {tl : BitVec 64} (hgap : tl.toNat + clock.gap < 2 ^ 63)
    (hshort : ∀ n, clock.shortIntervals tl.toNat n ≤ 8) {start : Nat} :
    ∀ (m stop : Nat) (s : BusyState), clock.BusyAt tl.toNat stop s → start ≤ stop →
      clock.time stop - clock.time start < tl.toNat →
      clock.time start + tl.toNat ≤ clock.time stop + m →
      ∃ last s', start < last ∧ last ≤ start + tl.toNat ∧ last ≤ stop + m ∧
        clock.time last - clock.time start < tl.toNat + clock.gap ∧
        clock.BusyAt tl.toNat last s' ∧
        measureLoop tl (clock.mark start) (clock.mark stop) s (clock.marks (stop + 1) m) =
          some (.ok (clock.mark last, s', clock.marks (last + 1) (stop + m - last))) := by
  intro m
  induction m with
  | zero =>
    intro stop s hbusy hle hlt hm
    have hmono := clock.time_mono hle
    omega
  | succ m ih =>
    intro stop s hbusy hle hlt hm
    have hmono := clock.time_mono hle
    have hnext := clock.time_lt stop
    have hnext' := clock.time_le stop
    have hsteps := clock.time_add_le start (stop - start)
    rw [Nat.add_sub_cancel' hle] at hsteps
    have hdiff := clock.sysClock_sub (i := start) (j := stop + 1) (by omega)
      (by omega)
    have hcond : (clock.mark (stop + 1)).sysClock - (clock.mark start).sysClock < tl ↔
        clock.time (stop + 1) - clock.time start < tl.toNat := by
      rw [hdiff, BitVec.lt_def, BitVec.toNat_ofNat, Nat.mod_eq_of_lt (by omega)]
    obtain ⟨s1, hstep, hbusy1⟩ := clock.busyStep_eq hgap hshort hbusy
    rw [clock.marks_succ, measureLoop, hstep]
    dsimp only
    by_cases hend : clock.time (stop + 1) - clock.time start < tl.toNat
    · rw [if_pos (hcond.mpr hend)]
      obtain ⟨last, s', hlast, hle1, hle2, htime, hbusy', hloop⟩ :=
        ih (stop + 1) s1 hbusy1 (by omega) hend (by omega)
      refine ⟨last, s', hlast, hle1, by omega, htime, hbusy', ?_⟩
      rw [show stop + (m + 1) - last = stop + 1 + m - last by omega]
      exact hloop
    · rw [if_neg fun h => hend (hcond.mp h)]
      refine ⟨stop + 1, s1, by omega, by omega, by omega, by omega, hbusy1, ?_⟩
      rw [show stop + (m + 1) - (stop + 1) = m by omega]

/-- Every measurement gives the rate of the clock. -/
theorem SteadyClock.measureRuns_eq {tl : BitVec 64} (hpos : 0 < tl.toNat) (hf : clock.f < 2 ^ 31)
    (hfits : (clock.f + 1) * (tl.toNat + clock.gap) < 2 ^ 63)
    (hshort : ∀ n, clock.shortIntervals tl.toNat n ≤ 8) :
    ∀ (n k m : Nat) (s : BusyState), clock.BusyAt tl.toNat k s → n * (tl.toNat + 1) ≤ m →
      ∃ s' marks, s'.zero = 0 ∧ measureRuns tl n s (clock.marks k m) =
        some (.ok (List.replicate n (clock.f : Int), s', marks)) := by
  have hgap : tl.toNat + clock.gap < 2 ^ 63 :=
    (Nat.le_mul_of_pos_left _ (Nat.succ_pos _)).trans_lt hfits
  intro n
  induction n with
  | zero =>
    intro k m s hbusy hm
    exact ⟨s, _, hbusy.zero, rfl⟩
  | succ n ih =>
    intro k m s hbusy hm
    rw [Nat.succ_mul] at hm
    obtain ⟨m, rfl⟩ : ∃ m', m = m' + 1 := ⟨m - 1, by omega⟩
    obtain ⟨last, s1, hlast, hle1, hle2, htime, hbusy1, hloop⟩ :=
      clock.measureLoop_eq hgap hshort m k s hbusy (le_refl k) (by omega) (by omega)
    obtain ⟨s', marks, hs', hruns⟩ := ih (last + 1) (k + m - last) s1 hbusy1.next (by omega)
    have hstep := clock.time_add_le k (last - k)
    rw [Nat.add_sub_cancel' hlast.le] at hstep
    have hmark := clock.cpuClockByMark_eq hlast.le (by omega) hf
      ((Nat.mul_le_mul_left _ htime.le).trans_lt hfits)
    refine ⟨s', marks, hs', ?_⟩
    rw [clock.marks_succ, measureRuns, hloop]
    dsimp only
    rw [hruns, hmark]
    rfl

end Steady

theorem toNat_signExtend_of_pos {x : BitVec 32} (h : 1 ≤ x.toInt) :
    (x.signExtend 64).toNat = x.toNat ∧ x.toNat < 2 ^ 31 ∧ 0 < x.toNat := by
  have hmsb : x.msb = false := by
    rw [BitVec.msb_eq_toInt]
    simp only [decide_eq_false_iff_not]
    omega
  have htoInt := BitVec.toInt_eq_toNat_of_msb hmsb
  have hlt : 2 * x.toNat < 2 ^ 32 := by
    rw [BitVec.msb_eq_false_iff_two_mul_lt] at hmsb
    exact hmsb
  refine ⟨?_, by omega, by omega⟩
  rw [BitVec.toNat_signExtend, hmsb]
  simp only [Bool.false_eq_true, if_false, BitVec.toNat_setWidth]
  omega

/-- The time limit is positive, and at most a thousand microseconds for each millisecond. -/
theorem timeLimit_bounds {millis : BitVec 32} (h : 1 ≤ millis.toInt) (quadCheck : Bool) :
    0 < (timeLimit millis quadCheck).toNat ∧
      (timeLimit millis quadCheck).toNat ≤ 1000 * millis.toNat := by
  obtain ⟨hext, hlt, hpos⟩ := toNat_signExtend_of_pos h
  have hmul : (millis.signExtend 64 * 1000).toNat = 1000 * millis.toNat := by
    have hnum : (1000 : BitVec 64).toNat = 1000 := rfl
    rw [BitVec.toNat_mul, hext, hnum]
    omega
  have hdiv : (millis.signExtend 64 * 1000 / 4).toNat = 1000 * millis.toNat / 4 := by
    have hnum : (4 : BitVec 64).toNat = 4 := rfl
    rw [BitVec.toNat_udiv, hmul, hnum]
  cases quadCheck
  · rw [timeLimit, if_neg Bool.false_ne_true, hmul]
    omega
  · rw [timeLimit, if_pos rfl, hdiv]
    omega

/-- On a steady clock `cpu_clock_measure` ends, with and without the quad check, and gives the rate.
The product in the hypothesis on `gap` is what the time stamp counter counts in a measurement, and
the last one keeps the sum of the busy loop in its type. -/
theorem cpuClockMeasure_steady (clock : SteadyClock) {millis : BitVec 32} (quadCheck : Bool)
    (hmillis : 1 ≤ millis.toInt) (hf : clock.f < 2 ^ 30)
    (hfits : (clock.f + 1) * (1000 * millis.toNat + clock.gap) < 2 ^ 63)
    (hshort : ∀ n, clock.shortIntervals (timeLimit millis quadCheck).toNat n ≤ 8) :
    ∃ k, ∀ m, k ≤ m →
      cpuClockMeasure millis quadCheck (clock.marks 0 m) = some (.ok (clock.f : Int)) := by
  obtain ⟨hpos, hle⟩ := timeLimit_bounds hmillis quadCheck
  generalize htl : timeLimit millis quadCheck = tl at hpos hle hshort
  have hfits' : (clock.f + 1) * (tl.toNat + clock.gap) < 2 ^ 63 :=
    (Nat.mul_le_mul_left _ (Nat.add_le_add_right hle _)).trans_lt hfits
  have hstart : clock.BusyAt tl.toNat 0 ⟨1, 0⟩ := ⟨rfl, 0, Nat.zero_le _, rfl⟩
  refine ⟨4 * (tl.toNat + 1), fun m hm => ?_⟩
  cases quadCheck with
  | false =>
    obtain ⟨s, marks, -, hruns⟩ :=
      clock.measureRuns_eq hpos (by omega) hfits' hshort 1 0 m ⟨1, 0⟩ hstart (by omega)
    rw [cpuClockMeasure, if_neg (by omega), htl]
    simp only [Bool.false_eq_true, if_false, hruns, Option.map_some, ok_bind, if_true]
    rfl
  | true =>
    obtain ⟨s, marks, -, hruns⟩ :=
      clock.measureRuns_eq hpos (by omega) hfits' hshort 4 0 m ⟨1, 0⟩ hstart hm
    have hmeasures : Measures millis (clock.marks 0 m) (List.replicate 4 (clock.f : Int)) :=
      ⟨s, marks, htl ▸ hruns⟩
    obtain ⟨i, j, hclosest, hmean⟩ := cpuClockMeasure_closest hmillis hmeasures (by
      intro r hr
      rw [List.eq_of_mem_replicate hr]
      omega)
    have hvalue : ∀ i < 4, (List.replicate 4 (clock.f : Int)).getD i 0 = clock.f :=
      fun i hi => List.eq_of_mem_replicate (hmeasures.fit.getD_mem hi)
    rw [hmean, hvalue i (hclosest.lt.trans hclosest.lt_four), hvalue j hclosest.lt_four,
      if_neg (by omega), ← Int.two_mul, Int.mul_tdiv_cancel_left _ (by decide)]

/-- A clock of 3 GHz that wraps at the first reading.  The intervals are of a millisecond for each
cycle of the busy loop, which is doubled three times. -/
def steady3000 : SteadyClock where
  f := 3000
  offset := 2 ^ 64 - 1
  time n := 1000 * (2 ^ min n 3 - 1) + 8000 * (n - 3)
  gap := 8000
  time_lt n := by
    rcases n with _ | _ | _ | n <;> simp
  time_le n := by
    rcases n with _ | _ | _ | n <;> simp
    omega

theorem cpuClockMeasure_steady_3000 :
    ∃ k, ∀ m, k ≤ m → cpuClockMeasure 200 true (steady3000.marks 0 m) = some (.ok 3000) := by
  have hlimit : (timeLimit 200 true).toNat = 50000 := by decide
  refine cpuClockMeasure_steady steady3000 true (by decide) (by decide) (by decide) fun n => ?_
  refine (steady3000.shortIntervals_le (k := 3) (fun n hn => ?_) n).trans (by omega)
  have hmin : min n 3 = 3 ∧ min (n + 1) 3 = 3 := by omega
  rw [hlimit, steady3000]
  dsimp only
  rw [hmin.1, hmin.2]
  omega

end LibCpuid
