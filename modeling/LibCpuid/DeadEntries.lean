import LibCpuid.ShadowedEntries

/-! Which entries of the tables of Intel and AMD processors are dead.  Every entry that no earlier
one shadows is selected for the processor that it describes best: one with its fields, and with a
brand string that its pattern matches.  That the other entries score less there is a computation,
on bounds of their scores that are kept in a few numbers each. -/

namespace LibCpuid

open CLang

/-! ### The processor that an entry describes best -/

/-- The processor with the fields of an entry and a brand string. -/
def probe (entry : MatchEntry) (brandStr : List Char) : CpuId :=
  { cpuIdConstructor with
    x86 :=
      { cpuIdConstructor.x86 with
        family := entry.family
        model := entry.model
        stepping := entry.stepping
        extFamily := entry.extFamily
        extModel := entry.extModel }
    numCores := entry.ncores
    cache := Function.update (Function.update cpuIdConstructor.cache .l2 entry.l2cache) .l3
      entry.l3cache
    brandStr }

/-- A table entry with what bounds its score on another entry's processor: its fields packed in
`fields`, what its brand pattern adds, and the letters that the pattern asks for.  The brand string
of its own processor is `sample`. -/
structure Row where
  pos : Nat
  pattern : List Char
  fields : Nat
  brand : Nat
  letters : Nat
  sample : List Char

/-- The row of the entry at an index, with the characters of its pattern. -/
def rowOf (pos : Nat) (entry : MatchEntry) (pattern : List Char) : Row :=
  let tokens := (tokensFrom none pattern).getD []
  { pos
    pattern
    fields := pack 251 (entryFields entry)
    brand := if pattern.isEmpty then 0 else entry.brandScore.toNat
    letters := letterSet (literals tokens)
    sample := tokens.map Token.sample }

/-- The row of the entry at an index. -/
def rowAt (pos : Nat) (entry : MatchEntry) : Row := rowOf pos entry entry.brandPattern.toList

/-- Several rows, with the union of their fields, their largest brand score and the letters that
each of them asks for. -/
structure Block where
  fields : Nat
  brand : Nat
  letters : Nat
  rows : List Row

/-- What the fields of two records that agree weigh at most. -/
def sharedWeight (fields fields' : Nat) : Nat := Nat.mod (Nat.land fields fields') 15

/-- A bound of the score of rows with these fields, brand score and letters, on the processor of a
row with the fields and letters: it is below `t`. -/
def isBelow (fields letters t fields' brand' letters' : Nat) : Bool :=
  Nat.blt (Nat.add (sharedWeight fields fields') brand') t ||
    (!includes letters letters' && Nat.blt (sharedWeight fields fields') t)

/-- The pattern of a row does not match the brand string, and the fields of the row score less. -/
def isUnmatched (w : Row) (t : Nat) (r : Row) : Bool :=
  Nat.blt (sharedWeight w.fields r.fields) t && Nat.beq (matchPattern w.sample r.pattern) 0

/-- A row does not beat the row `w`, whose score is `t`: it comes later or scores less. -/
def losesTo (w : Row) (letters t : Nat) (r : Row) : Bool :=
  isBelow w.fields letters t r.fields r.brand r.letters ||
    (Nat.beq w.pos r.pos || isUnmatched w t r ||
      (Nat.blt w.pos r.pos &&
        (isBelow w.fields letters (t + 1) r.fields r.brand r.letters || isUnmatched w (t + 1) r)))

/-- No row beats the row `w`. -/
def wins (w : Row) (letters : Nat) (blocks : List Block) : Bool :=
  let t := Nat.add (Nat.mod w.fields 15) w.brand
  blocks.all fun b =>
    isBelow w.fields letters t b.fields b.brand b.letters || b.rows.all (losesTo w letters t)

/-- `remove_substring` finds no occurrence of the word in a string with the letters. -/
def lacksWord (word s : List Char) (letters : Nat) : Bool :=
  !includes letters (letterSet word) || decide (removeSubstring word s = s)

/-- The sample of a row is a brand string that its pattern matches. -/
def hasSample (w : Row) (letters : Nat) : Bool :=
  (tokensFrom none w.pattern).isSome &&
    w.sample.all (fun c => c ≠ '[' && c ≠ '#' && c ≠ '\x00') && Nat.blt w.sample.length 64 &&
    lacksWord "CPU".toList w.sample letters && lacksWord "Processor".toList w.sample letters &&
    decide (collapseSpaces false w.sample = w.sample)

/-- The rows of the entries from index `i` on, with the characters of their patterns. -/
def rowsFrom : Nat → List MatchEntry → List (List Char) → List Row
  | i, entry :: entries, pattern :: patterns =>
    rowOf i entry pattern :: rowsFrom (i + 1) entries patterns
  | _, _, _ => []

def blockOf (rows : List Row) : Block where
  fields := rows.foldr (fun r n => Nat.lor r.fields n) 0
  brand := rows.foldr (fun r n => max r.brand n) 0
  letters := rows.foldr (fun r n => Nat.land r.letters n) (2 ^ 128 - 1)
  rows

/-- The rows in blocks of eight. -/
def blocksOf : Nat → List Row → List Block
  | 0, _ => []
  | count + 1, rows => blockOf (rows.take 8) :: blocksOf count (rows.drop 8)

/-- Each row wins for its own sample, apart from those at the indexes in the list. -/
def winsApartFrom (dead : List Nat) (rows : List Row) : Bool :=
  let blocks := blocksOf (rows.length / 8 + 1) rows
  rows.all fun w => dead.contains w.pos ||
    (hasSample w (letterSet w.sample) && wins w (letterSet w.sample) blocks)

/-! ### Bounds of scores -/

/-- The set of `b` has what the row `r` has, and `b` asks for no letter that `r` does not ask for. -/
structure Block.Covers (b : Block) (r : Row) : Prop where
  fields : r.fields &&& b.fields = r.fields
  brand : r.brand ≤ b.brand
  letters : includes r.letters b.letters = true

/-- A row alone. -/
theorem Block.covers_row (r : Row) : Block.Covers ⟨r.fields, r.brand, r.letters, [r]⟩ r :=
  ⟨Nat.and_self _, Nat.le_refl _, includes_iff.mpr (Nat.and_self _)⟩

section Bounds

variable {entry other : MatchEntry} {s : List Char}

/-- The fields of an entry on the processor of another one add what they have in common. -/
theorem fieldSum_probe (other entry : MatchEntry) (s : List Char) :
    fieldSum (scoreFields other (probe entry s)) 0 =
      commonWeight (entryFields other) (entryFields entry) := by
  have hzip (fs gs : List (Int × Nat)) (res : Int) :
      fieldSum (List.zipWith (fun f g => (f.1, g.1, (f.2 : Int))) fs gs) res =
        res + commonWeight fs gs := by
    induction fs generalizing gs res with
    | nil => simp [fieldSum, commonWeight]
    | cons f fs ih =>
      cases gs with
      | nil => simp [fieldSum, commonWeight]
      | cons g gs =>
        rw [List.zipWith_cons_cons, fieldSum, List.foldl_cons, ← fieldSum, ih, commonWeight]
        dsimp only
        push_cast
        split <;> omega
  have hfields : scoreFields other (probe entry s) =
      List.zipWith (fun f g => (f.1, g.1, (f.2 : Int))) (entryFields other)
        (entryFields entry) := rfl
  rw [hfields, hzip, zero_add]

theorem weight_entryFields (entry : MatchEntry) :
    weight (pack 251 (entryFields entry)) =
      commonWeight (entryFields entry) (entryFields entry) :=
  weight_pack (by decide) (by simp [entryFields])

theorem weight_entryFields_lt (entry : MatchEntry) :
    weight (pack 251 (entryFields entry)) < 15 := by
  have hsum : commonWeight (entryFields entry) (entryFields entry) ≤ 14 := commonWeight_le_sum _ _
  rw [weight_entryFields]
  omega

theorem sharedWeight_eq (fields : Nat) : sharedWeight (pack 251 (entryFields entry)) fields =
    weight (pack 251 (entryFields entry) &&& fields) := by
  have hsubset : (pack 251 (entryFields entry) &&& fields) &&& pack 251 (entryFields entry) =
      pack 251 (entryFields entry) &&& fields := by
    rw [Nat.and_right_comm, Nat.and_self]
  exact mod_eq_weight ((weight_mono hsubset).trans_lt (weight_entryFields_lt entry))

/-- What the fields add is bounded by the common part of the packed fields, or of more fields. -/
theorem commonWeight_le_sharedWeight {fields : Nat}
    (entry : MatchEntry)
    (hfields : pack 251 (entryFields other) &&& fields = pack 251 (entryFields other)) :
    commonWeight (entryFields other) (entryFields entry) ≤
      sharedWeight (pack 251 (entryFields entry)) fields := by
  rw [sharedWeight_eq]
  have hsame : (entryFields other).map Prod.snd = (entryFields entry).map Prod.snd := rfl
  have hwidth : 0 < 251 := by decide
  apply (commonWeight_le hwidth (by simp [entryFields]) hsame).trans
  apply weight_mono
  rw [Nat.and_comm (pack 251 (entryFields other)), Nat.and_assoc, Nat.and_left_comm _ _ fields,
    hfields, ← Nat.and_assoc, Nat.and_self]

theorem score_probe (other entry : MatchEntry) (s : List Char) : score other (probe entry s) =
    commonWeight (entryFields other) (entryFields entry) +
      if BrandMatches other s then other.brandScore else 0 := by
  rw [score_eq, fieldSum_probe]
  show (if BrandMatches other s then _ else _) = _
  split <;> simp

theorem BrandMatches.brand_eq (pos : Nat) (h : BrandMatches other s) :
    ((rowAt pos other).brand : Int) = other.brandScore := by
  obtain ⟨⟨hscore, hlen⟩, -⟩ := h
  have hempty : ¬other.brandPattern.toList.isEmpty = true := by
    rw [List.isEmpty_iff]
    exact List.ne_nil_of_length_pos hlen
  rw [rowAt, rowOf, if_neg hempty, Int.toNat_of_nonneg hscore.le]

/-- A brand string that the pattern matches has the letters of the row. -/
theorem BrandMatches.includes (pos : Nat) (h : BrandMatches other s) (hplain : IsPlain s)
    (hclean : scoredBrandStr s = s) :
    includes (letterSet s) (rowAt pos other).letters = true := by
  rw [rowAt, rowOf]
  cases htokens : tokensFrom none other.brandPattern.toList with
  | none => exact includes_iff.mpr (Nat.zero_and _)
  | some ts =>
    exact includes_of_matchPattern (tokenized_of_tokensFrom htokens).tokensOf hplain
      (hclean ▸ h.2)

theorem includes_trans {a b c : Nat} (hab : includes b a = true) (hbc : includes c b = true) :
    includes c a = true := by
  rw [includes_iff] at hab hbc ⊢
  rw [← hab, Nat.and_assoc, hbc]

/-- The rows that a block covers score less than its bound. -/
theorem score_lt_of_isBelow (hplain : IsPlain s) (hclean : scoredBrandStr s = s) {b : Block}
    {pos t : Nat} (hcovers : b.Covers (rowAt pos other))
    (h : isBelow (pack 251 (entryFields entry)) (letterSet s) t b.fields b.brand b.letters = true) :
    score other (probe entry s) < t := by
  have hweight := commonWeight_le_sharedWeight entry hcovers.fields
  have hbrand := hcovers.brand
  rw [score_probe]
  rw [isBelow, Bool.or_eq_true, Bool.and_eq_true, Nat.blt_eq, Nat.blt_eq,
    Bool.not_eq_true'] at h
  rcases h with h | ⟨hletters, h⟩
  · split
    case isTrue hmatch =>
      have := hmatch.brand_eq pos
      have : sharedWeight _ _ + b.brand < t := h
      omega
    case isFalse =>
      have : sharedWeight _ _ + b.brand < t := h
      omega
  · have hmiss : ¬BrandMatches other s := by
      intro hmatch
      rw [includes_trans hcovers.letters (hmatch.includes pos hplain hclean)] at hletters
      cases hletters
    rw [if_neg hmiss]
    omega

theorem score_lt_of_isUnmatched {t : Nat} (hclean : scoredBrandStr s = s)
    (h : (Nat.blt (sharedWeight (pack 251 (entryFields entry)) (pack 251 (entryFields other))) t &&
      Nat.beq (matchPattern s other.brandPattern.toList) 0) = true) :
    score other (probe entry s) < t := by
  have hweight := commonWeight_le_sharedWeight entry
    (Nat.and_self (pack 251 (entryFields other)))
  rw [Bool.and_eq_true, Nat.blt_eq, Nat.beq_eq] at h
  have hmiss : ¬BrandMatches other s := fun hmatch => hmatch.2 (hclean.symm ▸ h.2)
  rw [score_probe, if_neg hmiss]
  omega

end Bounds

/-! ### Rows of a table -/

/-- The lists hold the characters of the patterns. -/
def Spelled (table : List MatchEntry) (patterns : List (List Char)) : Prop :=
  List.Forall₂ (fun entry pattern => entry.brandPattern.toList = pattern) table patterns

section Rows

variable {table : List MatchEntry} {patterns : List (List Char)} {rows : List Row} {b : Block}
  {r : Row}

theorem getElem?_rowsFrom (h : Spelled table patterns) (i k : Nat) :
    (rowsFrom i table patterns)[k]? =
      (table[k]?).map fun entry => rowAt (i + k) entry := by
  induction h generalizing i k with
  | nil => simp [rowsFrom]
  | cons hpattern h ih =>
    cases k with
    | zero => simp [rowsFrom, rowAt, hpattern]
    | succ k =>
      rw [rowsFrom, List.getElem?_cons_succ, List.getElem?_cons_succ, ih, Nat.add_right_comm,
        Nat.add_assoc]

theorem blockOf_covers (hr : r ∈ rows) : (blockOf rows).Covers r := by
  induction rows with
  | nil => exact absurd hr List.not_mem_nil
  | cons first rest ih =>
    have hfields : (blockOf (first :: rest)).fields = first.fields ||| (blockOf rest).fields := rfl
    have hbrand : (blockOf (first :: rest)).brand = max first.brand (blockOf rest).brand := rfl
    have hletters : (blockOf (first :: rest)).letters =
      first.letters &&& (blockOf rest).letters := rfl
    rcases List.mem_cons.mp hr with rfl | hmem
    · refine ⟨?_, hbrand ▸ le_max_left _ _, ?_⟩
      · rw [hfields, Nat.or_comm]
        exact and_or_of_and (Nat.and_self _) _
      · rw [hletters, includes_iff, Nat.and_right_comm, Nat.and_self]
    · obtain ⟨h1, h2, h3⟩ := ih hmem
      refine ⟨?_, hbrand ▸ h2.trans (le_max_right _ _), ?_⟩
      · rw [hfields]
        exact and_or_of_and h1 _
      · rw [includes_iff] at h3
        rw [hletters, includes_iff, Nat.and_assoc, h3]

theorem exists_block {count : Nat} (hlen : rows.length < 8 * count) (hr : r ∈ rows) :
    ∃ b ∈ blocksOf count rows, r ∈ b.rows ∧ b.Covers r := by
  induction count generalizing rows with
  | zero => omega
  | succ count ih =>
    rw [blocksOf]
    rw [← List.take_append_drop 8 rows, List.mem_append] at hr
    rcases hr with htake | hdrop
    · exact ⟨_, List.mem_cons_self, htake, blockOf_covers htake⟩
    · have hpos := List.length_pos_of_mem hdrop
      rw [List.length_drop] at hpos
      obtain ⟨b, hb, hrows⟩ := ih (by rw [List.length_drop]; omega) hdrop
      exact ⟨b, List.mem_cons_of_mem _ hb, hrows⟩

end Rows

/-! ### Entries that win -/

section Win

variable {table : List MatchEntry} {entry other : MatchEntry} {s : List Char} {k m : Nat}

theorem removeSubstring_of_not_infix {word s : List Char} (h : ¬word <:+: s) :
    removeSubstring word s = s := by
  induction s with
  | nil => rfl
  | cons c s ih =>
    rw [removeSubstring, if_neg, ih fun hinfix => h (List.infix_cons hinfix)]
    intro hbegins
    exact h (List.isPrefixOf_iff_prefix.mp hbegins).isInfix

theorem removeSubstring_of_lacksWord {word : List Char}
    (h : lacksWord word s (letterSet s) = true) : removeSubstring word s = s := by
  rw [lacksWord, Bool.or_eq_true, Bool.not_eq_true', decide_eq_true_eq] at h
  rcases h with hletters | hsame
  · apply removeSubstring_of_not_infix
    intro hinfix
    rw [includes_letterSet fun c hc => ⟨c, hinfix.subset hc, rfl⟩] at hletters
    cases hletters
  · exact hsame

/-- The sample of a row is a brand string in its buffer that the pattern of the entry matches. -/
structure IsSample (entry : MatchEntry) (s : List Char) : Prop where
  length : s.length < 64
  nul : '\x00' ∉ s
  plain : IsPlain s
  clean : scoredBrandStr s = s
  matched : entry.brandScore > 0 → entry.brandPattern.toList ≠ [] → BrandMatches entry s

theorem isSample_of_hasSample
    (h : hasSample (rowAt k entry)
      (letterSet (rowAt k entry).sample) = true) :
    IsSample entry (rowAt k entry).sample := by
  simp only [hasSample, Bool.and_eq_true, List.all_eq_true, decide_eq_true_eq, Nat.blt_eq] at h
  obtain ⟨⟨⟨⟨⟨htokens, hchars⟩, hlen⟩, hcpu⟩, hprocessor⟩, hspaces⟩ := h
  have hplain : IsPlain (rowAt k entry).sample :=
    fun c hc => (hchars c hc).1
  have hclean : scoredBrandStr (rowAt k entry).sample =
      (rowAt k entry).sample := by
    rw [scoredBrandStr, removeSubstring_of_lacksWord hcpu, removeSubstring_of_lacksWord hprocessor,
      hspaces]
  refine ⟨hlen, fun hnul => (hchars _ hnul).2 rfl, hplain, hclean, fun hscore hne => ?_⟩
  obtain ⟨ts, hts⟩ := Option.isSome_iff_exists.mp htokens
  have hsample : (rowAt k entry).sample = ts.map Token.sample := by
    have : tokensFrom none entry.brandPattern.toList = some ts := hts
    rw [rowAt, rowOf, this]
    rfl
  refine ⟨⟨hscore, List.length_pos_iff.mpr hne⟩, ?_⟩
  rw [hclean, hsample]
  exact matchPattern_sample (tokenized_of_tokensFrom hts) hne (hsample ▸ hplain)

/-- The score of an entry on its own processor. -/
theorem score_probe_self (h : IsSample entry s) :
    score entry (probe entry s) =
      (Nat.add (Nat.mod (rowAt k entry).fields 15)
        (rowAt k entry).brand : Nat) := by
  have hfields : Nat.mod (rowAt k entry).fields 15 =
      commonWeight (entryFields entry) (entryFields entry) :=
    (mod_eq_weight (weight_entryFields_lt entry)).trans (weight_entryFields entry)
  have hbrand : (if BrandMatches entry s then entry.brandScore else 0) =
      (rowAt k entry).brand := by
    by_cases hmatch : BrandMatches entry s
    · rw [if_pos hmatch, hmatch.brand_eq k]
    · rw [if_neg hmatch, rowAt, rowOf]
      by_cases hempty : entry.brandPattern.toList.isEmpty = true
      · rw [if_pos hempty, Nat.cast_zero]
      · have hscore : ¬entry.brandScore > 0 := fun hscore =>
          hmatch (h.matched hscore fun hnil => hempty (List.isEmpty_iff.mpr hnil))
        rw [if_neg hempty, Int.toNat_of_nonpos (not_lt.mp hscore), Nat.cast_zero]
  rw [score_probe, hfields, hbrand, Nat.add_eq, Nat.cast_add]

/-- An entry whose row loses scores less, or is a later one that does not score more. -/
theorem score_of_losesTo {t : Nat} (h : IsSample entry s)
    (hloses : losesTo (rowAt k entry) (letterSet s) t
      (rowAt m other) = true)
    (hs : (rowAt k entry).sample = s) :
    m = k ∨ score other (probe entry s) < t ∨ k < m ∧ score other (probe entry s) < t + 1 := by
  have hbelow {t : Nat} (hrow : isBelow (rowAt k entry).fields (letterSet s) t
      (rowAt m other).fields (rowAt m other).brand (rowAt m other).letters = true) :
      score other (probe entry s) < t :=
    score_lt_of_isBelow h.plain h.clean (Block.covers_row (rowAt m other)) hrow
  have hunmatched {t : Nat} (hrow : isUnmatched (rowAt k entry) t
      (rowAt m other) = true) : score other (probe entry s) < t := by
    rw [isUnmatched, hs] at hrow
    exact score_lt_of_isUnmatched h.clean hrow
  simp only [losesTo, Bool.or_eq_true, Bool.and_eq_true, Nat.blt_eq, Nat.beq_eq] at hloses
  rcases hloses with hrow | (hself | hrow) | ⟨hlater, hrow | hrow⟩
  · exact .inr (.inl (hbelow hrow))
  · exact .inl hself.symm
  · exact .inr (.inl (hunmatched hrow))
  · exact .inr (.inr ⟨hlater, by exact_mod_cast hbelow hrow⟩)
  · exact .inr (.inr ⟨hlater, by exact_mod_cast hunmatched hrow⟩)

/-- An entry that wins is the first one of maximal score on its own processor. -/
theorem firstMaximal_of_wins {patterns : List (List Char)} (hspelled : Spelled table patterns)
    (hentry : table[k]? = some entry) (h : IsSample entry s) (hs : (rowAt k entry).sample = s)
    (hwins : wins (rowAt k entry) (letterSet s)
      (blocksOf ((rowsFrom 0 table patterns).length / 8 + 1) (rowsFrom 0 table patterns)) = true) :
    FirstMaximal table (probe entry s) k entry := by
  have hself := score_probe_self (k := k) h
  rw [wins, List.all_eq_true] at hwins
  generalize Nat.add (Nat.mod (rowAt k entry).fields 15) (rowAt k entry).brand = t at hself hwins
  have hloses {m : Nat} {other : MatchEntry} (hother : table[m]? = some other) :
      m = k ∨ score other (probe entry s) < t ∨
        k < m ∧ score other (probe entry s) < t + 1 := by
    have hrow : rowAt m other ∈ rowsFrom 0 table patterns := by
      apply List.mem_of_getElem? (i := m)
      rw [getElem?_rowsFrom hspelled, hother, Nat.zero_add]
      rfl
    have hlen : (rowsFrom 0 table patterns).length <
        8 * ((rowsFrom 0 table patterns).length / 8 + 1) := by omega
    obtain ⟨b, hb, hmem, hcovers⟩ := exists_block hlen hrow
    have hblock := hwins b hb
    rw [Bool.or_eq_true, List.all_eq_true] at hblock
    rcases hblock with hbelow | hrows
    · exact .inr (.inl (score_lt_of_isBelow h.plain h.clean hcovers hbelow))
    · exact score_of_losesTo h (hrows _ hmem) hs
  refine ⟨hentry, fun other hother => ?_, fun m hm earlier hearlier => ?_⟩
  · obtain ⟨m, hm⟩ := List.mem_iff_getElem?.mp hother
    rcases hloses hm with rfl | hless | ⟨-, hless⟩
    · obtain rfl := Option.some.inj (hm.symm.trans hentry)
      exact le_refl _
    · omega
    · omega
  · rcases hloses hearlier with rfl | hless | ⟨hlater, -⟩
    · omega
    · omega
    · omega

/-- The entries of a table are alive apart from those that do not win. -/
theorem alive_of_winsApartFrom {patterns : List (List Char)} {dead : List Nat}
    (hfits : ∀ data, ∀ entry ∈ table, score entry data < 2 ^ 31)
    (hspelled : Spelled table patterns)
    (hwins : winsApartFrom dead (rowsFrom 0 table patterns) = true) (hk : k < table.length)
    (hdead : k ∉ dead) : Alive table k := by
  have hentry : table[k]? = some table[k] := List.getElem?_eq_getElem hk
  have hrow : rowAt k table[k] ∈ rowsFrom 0 table patterns := by
    apply List.mem_of_getElem? (i := k)
    rw [getElem?_rowsFrom hspelled, hentry, Nat.zero_add]
    rfl
  rw [winsApartFrom, List.all_eq_true] at hwins
  have hboth := (Bool.or_eq_true ..).mp (hwins _ hrow)
  rw [Bool.and_eq_true] at hboth
  obtain ⟨hsample, hwin⟩ := hboth.resolve_left fun h => hdead (List.contains_iff_mem.mp h)
  have h := isSample_of_hasSample hsample
  have hfirst := firstMaximal_of_wins hspelled hentry h rfl hwin
  have hne : table ≠ [] := List.ne_nil_of_length_pos (by omega)
  exact ⟨probe table[k] (rowAt k table[k]).sample, h.length, h.nul,
    (selected_iff hne (hfits _)).mpr ⟨_, hfirst⟩⟩

end Win

/-! ### The tables -/

/-- The indexes of entries of a table with those of earlier ones that shadow them. -/
def AreTwins (table : List MatchEntry) (twins : List (Nat × Nat)) : Prop :=
  ∀ pair ∈ twins, pair.2 < pair.1 ∧
    (table[pair.2]?.bind fun earlier => table[pair.1]?.map fun entry =>
      decide (Shadows earlier entry)) = some true

instance (table : List MatchEntry) (twins : List (Nat × Nat)) : Decidable (AreTwins table twins) :=
  inferInstanceAs (Decidable (∀ pair ∈ twins, _ ∧ _))

section Tables

variable {table : List MatchEntry} {k : Nat}

theorem shadowed_of_twins {twins : List (Nat × Nat)} (h : AreTwins table twins)
    (hk : k ∈ twins.map Prod.fst) : Shadowed table k := by
  obtain ⟨pair, hpair, rfl⟩ := List.mem_map.mp hk
  obtain ⟨hlt, htwins⟩ := h pair hpair
  obtain ⟨earlier, hearlier, hentries⟩ := Option.bind_eq_some_iff.mp htwins
  obtain ⟨entry, hentry, hshadows⟩ := Option.map_eq_some_iff.mp hentries
  exact ⟨pair.2, hlt, earlier, entry, hearlier, hentry, of_decide_eq_true hshadows⟩

/-- No processor makes the code select an entry that an earlier one shadows. -/
theorem Shadowed.not_alive (hfits : ∀ data, ∀ entry ∈ table, score entry data < 2 ^ 31)
    (h : Shadowed table k) : ¬Alive table k := by
  rintro ⟨data, -, -, hselected⟩
  have hne : table ≠ [] := by
    rintro rfl
    obtain ⟨m, -, earlier, entry, hearlier, -⟩ := h
    cases hearlier
  obtain ⟨entry, hfirst⟩ := (selected_iff hne (hfits data)).mp hselected
  exact h.not_firstMaximal data entry hfirst

/-- A table whose dead entries are the ones with twins. -/
structure DeadAre (table : List MatchEntry) (twins : List (Nat × Nat)) : Prop where
  shadowed : AreTwins table twins
  others : ∃ patterns, Spelled table patterns ∧
    winsApartFrom (twins.map Prod.fst) (rowsFrom 0 table patterns) = true

theorem DeadAre.alive_iff {twins : List (Nat × Nat)} (h : DeadAre table twins)
    (hfits : ∀ data, ∀ entry ∈ table, score entry data < 2 ^ 31) (hk : k < table.length) :
    Alive table k ↔ ¬Shadowed table k := by
  obtain ⟨patterns, hspelled, hwins⟩ := h.others
  constructor
  · intro halive hshadowed
    exact hshadowed.not_alive hfits halive
  · intro hnot
    apply alive_of_winsApartFrom hfits hspelled hwins hk
    intro htwin
    exact hnot (shadowed_of_twins h.shadowed htwin)

end Tables

/-- The dead entries of `cpudb_intel`, each with an earlier entry that shadows it. -/
def twinsIntel : List (Nat × Nat) :=
  [(75, 71), (123, 114), (298, 291), (308, 307), (320, 303), (409, 408)]

/-- The dead entries of `cpudb_amd`, each with an earlier entry that shadows it. -/
def twinsAmd : List (Nat × Nat) := [(11, 6), (46, 44), (123, 122)]

theorem deadAre_intel : DeadAre cpudbIntel twinsIntel := by
  refine ⟨by decide +kernel, ?_⟩
  apply Exists.intro
  apply And.intro
  · unfold Spelled cpudbIntel
    dsimp only
    repeat (apply List.Forall₂.cons; exact String.toList_ofList)
    exact .nil
  · decide +kernel

theorem deadAre_amd : DeadAre cpudbAmd twinsAmd := by
  refine ⟨by decide +kernel, ?_⟩
  apply Exists.intro
  apply And.intro
  · unfold Spelled cpudbAmd
    dsimp only
    repeat (apply List.Forall₂.cons; exact String.toList_ofList)
    exact .nil
  · decide +kernel

/-- An entry of the tables of Intel and AMD processors is selected for some processor exactly when
no earlier entry shadows it. -/
theorem alive_iff_not_shadowed {table : List MatchEntry}
    (htable : table = cpudbIntel ∨ table = cpudbAmd) {k : Nat} (hk : k < table.length) :
    Alive table k ↔ ¬Shadowed table k := by
  rcases htable with rfl | rfl
  · exact deadAre_intel.alive_iff
      (fun data _ hentry => score_lt_of_vendor .intel hentry data) hk
  · exact deadAre_amd.alive_iff
      (fun data _ hentry => score_lt_of_vendor .amd hentry data) hk

theorem alive_iff_not_shadowed_first : Alive cpudbIntel 0 ↔ ¬Shadowed cpudbIntel 0 :=
  alive_iff_not_shadowed (.inl rfl) (by decide +kernel)

/-- Every entry of the table is alive. -/
def NoDeadEntry (table : List MatchEntry) : Prop := ∀ k < table.length, Alive table k

/-- The entry at index 75 of the Intel table is a copy of the one at 71, and the one at 11 of the AMD
table of the one at 6. -/
theorem not_noDeadEntry : ¬NoDeadEntry cpudbIntel ∧ ¬NoDeadEntry cpudbAmd := by
  constructor
  · intro h
    have hshadowed := shadowed_of_twins (k := 75) deadAre_intel.shadowed (by decide)
    refine hshadowed.not_alive (fun data _ hentry => ?_) (h 75 (by decide +kernel))
    exact score_lt_of_vendor .intel hentry data
  · intro h
    have hshadowed := shadowed_of_twins (k := 11) deadAre_amd.shadowed (by decide)
    refine hshadowed.not_alive (fun data _ hentry => ?_) (h 11 (by decide +kernel))
    exact score_lt_of_vendor .amd hentry data

end LibCpuid
