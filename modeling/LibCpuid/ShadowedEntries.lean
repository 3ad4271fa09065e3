import LibCpuid.CodenameChoice
import LibCpuid.CLang.PackedWeights
import LibCpuid.PatternSamples

/-! Entries that `match_cpu_codename` selects for some processor, and entries that an earlier one
stands before on every processor. -/

namespace LibCpuid

open CLang

/-- `match_cpu_codename` selects the entry at index `k` for some processor whose brand string is in
its buffer. -/
def Alive (table : List MatchEntry) (k : Nat) : Prop :=
  ∃ data : CpuId, data.brandStr.length < 64 ∧ '\x00' ∉ data.brandStr ∧
    ∃ t, bestMatchChecked data table 0 (-1, 0) = .ok (t, k)

section Select

variable {table : List MatchEntry} {data : CpuId} {k m : Nat} {entry other : MatchEntry}

theorem FirstMaximal.le (h : FirstMaximal table data k entry)
    (h' : FirstMaximal table data m other) : k ≤ m := by
  by_contra hlt
  have hless := h.first m (by omega) other h'.entry_at
  have hmost := h'.most entry (List.mem_of_getElem? h.entry_at)
  omega

/-- The index that the code selects is the one of the first entry of maximal score. -/
theorem selected_iff (hne : table ≠ []) (hfits : ∀ entry ∈ table, score entry data < 2 ^ 31) :
    (∃ t, bestMatchChecked data table 0 (-1, 0) = .ok (t, k)) ↔
      ∃ entry, FirstMaximal table data k entry := by
  obtain ⟨k', entry', hfirst, hbest⟩ := bestMatch_firstMaximal hne data
  rw [bestMatchChecked_of_lt hfits, hbest]
  constructor
  · rintro ⟨t, h⟩
    obtain ⟨-, rfl⟩ := Prod.mk.inj (Except.ok.inj h)
    exact ⟨entry', hfirst⟩
  · rintro ⟨entry, h⟩
    obtain rfl : k = k' := Nat.le_antisymm (h.le hfirst) (hfirst.le h)
    exact ⟨_, rfl⟩

end Select

/-! ### Entries that an earlier one stands before -/

/-- The fields of an entry with what a match adds. -/
def entryFields (entry : MatchEntry) : List (Int × Nat) :=
  [(entry.family, 2), (entry.model, 2), (entry.stepping, 2), (entry.extFamily, 2),
    (entry.extModel, 2), (entry.ncores, 2), (entry.l2cache, 1), (entry.l3cache, 1)]

/-- The first pattern is the second one, which has no brackets, with letters replaced by brackets
that list them. -/
def widens : List Char → List Char → Bool
  | wide, [] => wide.isEmpty
  | [], _ :: _ => false
  | w :: wide, n :: narrow =>
    if n = '[' then false
    else if w = n then widens wide narrow
    else if w = '[' ∧ n ≠ '.' ∧ n ≠ '#' then
      let chars := wide.takeWhile (· ≠ ']')
      chars.length ≠ wide.length && chars.any (fun q => q.toLower = n.toLower) &&
        widens (wide.drop (chars.length + 1)) narrow
    else false

/-- The entries have the same fields and the same brand score, and the pattern of the first one
matches where that of the second one does. -/
def Shadows (earlier entry : MatchEntry) : Prop :=
  entryFields earlier = entryFields entry ∧ earlier.brandScore = entry.brandScore ∧
    (earlier.brandPattern = entry.brandPattern ∨
      widens earlier.brandPattern.toList entry.brandPattern.toList = true)

instance (earlier entry : MatchEntry) : Decidable (Shadows earlier entry) :=
  inferInstanceAs (Decidable (_ ∧ _ ∧ _))

/-- An earlier entry of the table shadows the one at index `k`. -/
def Shadowed (table : List MatchEntry) (k : Nat) : Prop :=
  ∃ m < k, ∃ earlier entry, table[m]? = some earlier ∧ table[k]? = some entry ∧
    Shadows earlier entry

section Widens

variable {c p0 : Char} {dj : Nat}

/-- A character other than an open bracket is a token of its own. -/
theorem xmatchEntry_of_ne (hp0 : p0 ≠ '[') (rest rest' : List Char) :
    xmatchEntry c (p0 :: rest) = xmatchEntry c (p0 :: rest') := by
  rw [xmatchEntry, xmatchEntry, if_neg hp0, if_neg hp0]

theorem eq_one_of_xmatchEntry {rest : List Char} (hp0 : p0 ≠ '[')
    (h : xmatchEntry c (p0 :: rest) = some dj) : dj = 1 := by
  rw [xmatchEntry, if_neg hp0] at h
  grind

/-- What a token of the second pattern matches, the one of the first pattern matches. -/
theorem widens_entry {w n : Char} {wide narrow : List Char}
    (h : widens (w :: wide) (n :: narrow) = true) (hentry : xmatchEntry c (n :: narrow) = some dj) :
    dj = 1 ∧ ∃ dj', xmatchEntry c (w :: wide) = some dj' ∧
      widens ((w :: wide).drop dj') narrow = true := by
  rw [widens] at h
  split_ifs at h with hopen hsame hlist
  · subst hsame
    obtain rfl := eq_one_of_xmatchEntry hopen hentry
    exact ⟨rfl, 1, (xmatchEntry_of_ne hopen wide narrow).trans hentry, h⟩
  · obtain ⟨rfl, hany, hdigit⟩ := hlist
    refine ⟨eq_one_of_xmatchEntry hopen hentry, ?_⟩
    simp only [Bool.and_eq_true, decide_eq_true_eq] at h
    obtain ⟨⟨hclosed, hlisted⟩, hrest⟩ := h
    have hletter : c.toLower = n.toLower := by
      rw [xmatchEntry, if_neg hany, if_neg hopen] at hentry
      simp only [hdigit, decide_false, Bool.false_and, Bool.false_eq_true, if_false] at hentry
      by_contra hne
      rw [if_neg hne] at hentry
      cases hentry
    have hc : c.toLower ≠ '['.toLower := by
      intro hc
      exact hopen (eq_of_toLower (by decide) (hletter.symm.trans hc))
    refine ⟨(wide.takeWhile (· ≠ ']')).length + 2, ?_, hrest⟩
    rw [xmatchEntry, if_neg hc, if_neg (by decide), if_neg (by simp), if_pos rfl]
    dsimp only
    rw [if_neg hclosed, hletter, if_pos hlisted]

theorem matchHere_widens {s wide narrow : List Char} (h : widens wide narrow = true)
    (hhere : matchHere s narrow = true) : matchHere s wide = true := by
  induction s generalizing wide narrow with
  | nil =>
    cases narrow with
    | nil =>
      obtain rfl : wide = [] := by simpa [widens] using h
      exact hhere
    | cons n narrow => simp [matchHere] at hhere
  | cons c s ih =>
    cases narrow with
    | nil =>
      obtain rfl : wide = [] := by simpa [widens] using h
      exact hhere
    | cons n narrow =>
      cases wide with
      | nil => simp [widens] at h
      | cons w wide =>
        cases hentry : xmatchEntry c (n :: narrow) with
        | none =>
          rw [matchHere_cons_none (List.cons_ne_nil _ _) hentry] at hhere
          cases hhere
        | some dj =>
          obtain ⟨rfl, dj', hentry', hrest⟩ := widens_entry h hentry
          rw [matchHere_cons_some hentry] at hhere
          rw [matchHere_cons_some hentry']
          exact ih hrest hhere

theorem matchPattern_widens {s wide narrow : List Char} (h : widens wide narrow = true)
    (hnarrow : narrow ≠ []) (hmatch : matchPattern s narrow ≠ 0) : matchPattern s wide ≠ 0 := by
  have hwide : wide ≠ [] := by
    rintro rfl
    obtain ⟨n, narrow, rfl⟩ := List.exists_cons_of_ne_nil hnarrow
    simp [widens] at h
  rcases matchFrom_spec hwide s 0 with ⟨k, hk, -⟩ | ⟨-, hnone⟩
  · rw [matchPattern, hk]
    exact Nat.succ_ne_zero _
  · rcases matchFrom_spec hnarrow s 0 with ⟨k, -, hhere, -⟩ | ⟨hzero, -⟩
    · have := matchHere_widens h hhere
      rw [hnone] at this
      cases this
    · exact absurd hzero hmatch

end Widens

section Shadow

variable {earlier entry : MatchEntry}

/-- An entry never scores more than one that shadows it. -/
theorem Shadows.score_le (h : Shadows earlier entry) (data : CpuId) :
    score entry data ≤ score earlier data := by
  obtain ⟨hfields, hscore, hpattern⟩ := h
  have hsame : scoreFields earlier data = scoreFields entry data := by
    simp only [entryFields, List.cons.injEq, Prod.mk.injEq, and_true] at hfields
    simp only [scoreFields, hfields]
  have hbrand (hmatch : BrandMatches entry data.brandStr) :
      BrandMatches earlier data.brandStr := by
    rcases hpattern with heq | hwidens
    · rw [BrandMatches, hscore, heq]
      exact hmatch
    · have hne : entry.brandPattern.toList ≠ [] := List.ne_nil_of_length_pos hmatch.1.2
      have hearlier := matchPattern_widens hwidens hne hmatch.2
      refine ⟨⟨hscore ▸ hmatch.1.1, List.length_pos_iff.mpr ?_⟩, hearlier⟩
      intro hnil
      rw [hnil] at hwidens
      obtain ⟨n, narrow, hcons⟩ := List.exists_cons_of_ne_nil hne
      simp [hcons, widens] at hwidens
  rw [score_eq, score_eq, hsame, hscore]
  by_cases hmatch : BrandMatches entry data.brandStr
  · rw [if_pos hmatch, if_pos (hbrand hmatch)]
  · rw [if_neg hmatch]
    split
    case isTrue h =>
      have := h.brandScore_pos
      omega
    case isFalse => exact le_refl _

/-- No processor makes an entry that is shadowed the first one of maximal score. -/
theorem Shadowed.not_firstMaximal {table : List MatchEntry} {k : Nat} (h : Shadowed table k)
    (data : CpuId) (entry : MatchEntry) : ¬FirstMaximal table data k entry := by
  obtain ⟨m, hm, earlier, entry', hearlier, hentry, hshadows⟩ := h
  intro hfirst
  obtain rfl := Option.some.inj (hentry.symm.trans hfirst.entry_at)
  have hless := hfirst.first m hm earlier hearlier
  have hle := hshadows.score_le data
  omega

end Shadow

end LibCpuid
