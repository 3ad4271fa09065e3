import LibCpuid.BasicIdentify
import Mathlib.Order.Bounds.Basic

/-! The 64-bit levels of `decode_architecture_version_x86`: the level that the flags are complete up
to, and the level that the loop over the levels gets to. -/

namespace LibCpuid

section Prefixes

variable {α : Type} {p q : α → Bool}

/-- The number of elements before the first one that fails is the greatest length of a prefix that
passes. -/
theorem takeWhile_length_isGreatest (p : α → Bool) (l : List α) :
    IsGreatest {n | n ≤ l.length ∧ ∀ a ∈ l.take n, p a = true} (l.takeWhile p).length := by
  have hpre : l.take (l.takeWhile p).length = l.takeWhile p :=
    List.prefix_iff_eq_take.mp (List.takeWhile_prefix p) |>.symm
  constructor
  · exact ⟨(List.takeWhile_sublist p).length_le,
      fun a ha => List.mem_takeWhile_imp (hpre ▸ ha)⟩
  · rintro n ⟨hn, hall⟩
    have htake : (l.take n).takeWhile p = l.take n := List.takeWhile_eq_self_iff.mpr hall
    have hlen := (List.takeWhile_prefix p (l := l.drop n)).length_le
    calc
      n = ((l.take n).takeWhile p).length := by rw [htake, List.length_take_of_le hn]
      _ ≤ (l.takeWhile p).length := by
        conv_rhs => rw [← List.take_append_drop n l, List.takeWhile_append, if_pos (by rw [htake])]
        rw [htake, List.length_append]
        omega

/-- A weaker test stops at the same element exactly when the first element that fails the stronger
test fails it too. -/
theorem takeWhile_length_eq_iff {l : List α} (hpq : ∀ a ∈ l, p a = true → q a = true) :
    (l.takeWhile q).length = (l.takeWhile p).length ↔
      ∀ a, l.find? (fun a => !p a) = some a → q a = false := by
  induction l with
  | nil => simp
  | cons a l ih =>
    have ih := ih fun b hb => hpq b (List.mem_cons_of_mem a hb)
    cases hp : p a with
    | true => simp [hp, hpq a List.mem_cons_self hp, ih]
    | false =>
      cases hq : q a with
      | true => simp [hp, hq]
      | false => simp [hp, hq]

end Prefixes

/-! ### The level of a set of flags -/

/-- All features of a row are flagged. -/
def rowComplete (flags : CpuFeature → Bool) (row : List CpuFeature × CpuFeatureLevel) : Bool :=
  row.1.all flags

/-- The last feature of a row is flagged. -/
def lastFlagged (flags : CpuFeature → Bool) (row : List CpuFeature × CpuFeatureLevel) : Bool :=
  row.1.getLast?.any flags

/-- Every feature of the levels 1, ..., `n` is flagged. -/
def HasLevels (flags : CpuFeature → Bool) (n : Nat) : Prop :=
  ∀ row ∈ architectureMatchtableX86_64.take n, ∀ feature ∈ row.1, flags feature = true

/-- The level of a number, `FEATURE_LEVEL_UNKNOWN` for 0. -/
def levelNumber (n : Nat) : CpuFeatureLevel :=
  ((architectureMatchtableX86_64.take n).getLast?.map Prod.snd).getD .unknown

/-- The flags are complete up to a level and to no greater one. -/
def IsCumulativeLevel (flags : CpuFeature → Bool) (level : CpuFeatureLevel) : Prop :=
  ∃ n, IsGreatest {n | n ≤ architectureMatchtableX86_64.length ∧ HasLevels flags n} n ∧
    level = levelNumber n

/-- The first level with a feature that is not flagged misses the last of its features. -/
def MissesLastFeature (flags : CpuFeature → Bool) : Prop :=
  ∀ row, architectureMatchtableX86_64.find? (fun row => !rowComplete flags row) = some row →
    lastFlagged flags row = false

instance (flags : CpuFeature → Bool) : Decidable (MissesLastFeature flags) :=
  inferInstanceAs (Decidable (∀ row, architectureMatchtableX86_64.find?
    (fun row => !rowComplete flags row) = some row → lastFlagged flags row = false))

theorem levelNumber_inj {m n : Nat} (hm : m ≤ architectureMatchtableX86_64.length)
    (hn : n ≤ architectureMatchtableX86_64.length) (h : levelNumber m = levelNumber n) : m = n := by
  have hall : ∀ m ≤ 4, ∀ n ≤ 4, levelNumber m = levelNumber n → m = n := by decide
  exact hall m hm n hn h

/-- After the features of a row `is_compliant` is the flag of the last one. -/
theorem featuresPresent_last (flags : CpuFeature → Bool) {features : List CpuFeature}
    (hne : features ≠ []) (s : Bool × Bool) :
    (featuresPresent flags features s).1 = features.getLast?.any flags := by
  obtain ⟨init, last, rfl⟩ := (List.eq_nil_or_concat features).resolve_left hne
  simp [featuresPresent]

/-- The loop goes on while the last feature of the row is flagged. -/
theorem x86_64Level_eq {flags : CpuFeature → Bool}
    {rows : List (List CpuFeature × CpuFeatureLevel)} (hrows : ∀ row ∈ rows, row.1 ≠ [])
    (isCompliant : Bool) (level : CpuFeatureLevel) :
    x86_64Level flags rows isCompliant level =
      ((rows.takeWhile (lastFlagged flags)).getLast?.map Prod.snd).getD level := by
  induction rows generalizing isCompliant level with
  | nil => rfl
  | cons row rows ih =>
    obtain ⟨features, next⟩ := row
    have hne : features ≠ [] := hrows _ List.mem_cons_self
    have hlast : (featuresPresent flags features (isCompliant, true)).1 =
        lastFlagged flags (features, next) := featuresPresent_last flags hne _
    rw [x86_64Level]
    dsimp only
    rw [hlast]
    cases hflag : lastFlagged flags (features, next) with
    | false => simp [hflag]
    | true =>
      rw [if_pos rfl, ih fun row hrow => hrows row (List.mem_cons_of_mem _ hrow),
        List.takeWhile_cons_of_pos hflag, List.getLast?_cons]
      cases (rows.takeWhile (lastFlagged flags)).getLast? <;> rfl

theorem decodeArchitectureVersionX86_level {data : CpuId} (hlm : data.flags .lm = true) :
    (decodeArchitectureVersionX86 data).featureLevel =
      levelNumber (architectureMatchtableX86_64.takeWhile (lastFlagged data.flags)).length := by
  have hpre := List.prefix_iff_eq_take.mp
    (List.takeWhile_prefix (lastFlagged data.flags) (l := architectureMatchtableX86_64))
  rw [levelNumber, ← hpre]
  show (if data.flags .lm then _ else _) = _
  rw [if_pos hlm]
  exact x86_64Level_eq (by decide) false .unknown

/-- The level is the cumulative one exactly when the first level with a feature that is missing
misses its last one. -/
theorem featureLevel_cumulative_iff (data : CpuId) (hlm : data.flags .lm = true) :
    IsCumulativeLevel data.flags (decodeArchitectureVersionX86 data).featureLevel ↔
      MissesLastFeature data.flags := by
  have hgreatest : IsGreatest
      {n | n ≤ architectureMatchtableX86_64.length ∧ HasLevels data.flags n}
      (architectureMatchtableX86_64.takeWhile (rowComplete data.flags)).length := by
    simpa only [HasLevels, rowComplete, List.all_eq_true] using
      takeWhile_length_isGreatest (rowComplete data.flags) architectureMatchtableX86_64
  have hweaker : ∀ row ∈ architectureMatchtableX86_64, rowComplete data.flags row = true →
      lastFlagged data.flags row = true := by
    intro row hrow hall
    have hne : ∀ row ∈ architectureMatchtableX86_64, row.1 ≠ [] := by decide
    rw [lastFlagged, List.getLast?_eq_some_getLast (hne row hrow), Option.any_some]
    exact List.all_eq_true.mp hall _ (List.getLast_mem _)
  rw [MissesLastFeature, ← takeWhile_length_eq_iff hweaker, decodeArchitectureVersionX86_level hlm]
  constructor
  · rintro ⟨n, hn, hlevel⟩
    rw [hn.unique hgreatest] at hlevel
    exact levelNumber_inj (List.takeWhile_sublist _).length_le hgreatest.1.1 hlevel
  · intro h
    exact ⟨_, hgreatest, by rw [h]⟩

/-- A processor of AMD's E series: it has SSSE3, the last feature of the second level, but neither
SSE4.1 nor SSE4.2. -/
def eSeries : CpuId :=
  { cpuIdConstructor with
    flags := fun feature => feature ∈ [CpuFeature.fpu, .cx8, .cmov, .mmx, .fxsr, .sse, .sse2, .pni,
      .ssse3, .cx16, .popcnt, .lm, .lahfLm, .abm] }

theorem featureLevel_cumulative_iff_eSeries :
    eSeries.flags .lm = true ∧
      (IsCumulativeLevel eSeries.flags (decodeArchitectureVersionX86 eSeries).featureLevel ↔
        MissesLastFeature eSeries.flags) :=
  ⟨by decide, featureLevel_cumulative_iff eSeries (by decide)⟩

/-- It is given the second level. -/
theorem not_isCumulativeLevel_eSeries :
    ¬IsCumulativeLevel eSeries.flags (decodeArchitectureVersionX86 eSeries).featureLevel := by
  rintro ⟨n, hn, hlevel⟩
  have h2 : (decodeArchitectureVersionX86 eSeries).featureLevel = levelNumber 2 := by decide
  obtain rfl : n = 2 := levelNumber_inj hn.1.1 (by decide) (hlevel.symm.trans h2)
  have : eSeries.flags .sse4_1 = true :=
    hn.1.2 ([.cx16, .lahfLm, .popcnt, .pni, .sse4_1, .sse4_2, .ssse3], .x86_64V2) (by decide)
      .sse4_1 (by decide)
  exact absurd this (by decide)

end LibCpuid
