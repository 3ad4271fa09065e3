import LibCpuid.Codenames

/-! `match_cpu_codename` selects the first entry of maximal score, whatever the white space in the
brand string is. -/

namespace LibCpuid

open CLang

/-! ### The code with its `int` additions -/

/-- `res += increment` on `int`s. -/
def addInt (res increment : Int) : Checked Int :=
  if -2 ^ 31 ≤ res + increment ∧ res + increment < 2 ^ 31 then .ok (res + increment)
  else .error .overflow

/-- The fields of an entry, the data that they are compared with, and what a match adds. -/
def scoreFields (entry : MatchEntry) (data : CpuId) : List (Int × Int × Int) :=
  [(entry.family, data.x86.family, 2), (entry.model, data.x86.model, 2),
    (entry.stepping, data.x86.stepping, 2), (entry.extFamily, data.x86.extFamily, 2),
    (entry.extModel, data.x86.extModel, 2), (entry.ncores, data.numCores, 2),
    (entry.l2cache, data.cache .l2, 1), (entry.l3cache, data.cache .l3, 1)]

/-- The brand string that the pattern of an entry is tested on. -/
def scoredBrandStr (brandStr : List Char) : List Char :=
  collapseSpaces false
    (removeSubstring "Processor".toList (removeSubstring "CPU".toList brandStr))

/-- `score`.  The brand string and the pattern are in buffers of 64 characters, where
`matchPattern` is what the code computes. -/
def scoreChecked (entry : MatchEntry) (data : CpuId) : Checked Int := do
  let res ← (scoreFields entry data).foldlM
    (fun res field =>
      if field.1 ≥ 0 ∧ field.1 = field.2.1 then addInt res field.2.2 else .ok res) 0
  let pattern := entry.brandPattern.toList
  if entry.brandScore > 0 ∧ pattern.length > 0 then
    if matchPattern (scoredBrandStr data.brandStr) pattern ≠ 0 then addInt res entry.brandScore
    else .ok res
  else .ok res

/-- The loop of `match_cpu_codename`, from index `i`: the best score so far and its index. -/
def bestMatchChecked (data : CpuId) : List MatchEntry → Nat → Int × Nat → Checked (Int × Nat)
  | [], _, best => .ok best
  | entry :: rest, i, best => do
    let t ← scoreChecked entry data
    bestMatchChecked data rest (i + 1) (if t > best.1 then (t, i) else best)

/-- The `cpu_id_t` with the names of an entry. -/
def CpuId.named (data : CpuId) (entry : MatchEntry) : CpuId :=
  { data with
    cpuCodename := entry.name.toList.take 64
    technologyNode := entry.technology.toList.take 16 }

/-- `match_cpu_codename`. -/
def matchCpuCodenameChecked (matchtable : List MatchEntry) (data : CpuId) :
    Checked (Int × CpuId) := do
  let best ← bestMatchChecked data matchtable 0 (-1, 0)
  match matchtable[best.2]? with
  | none => .error .outOfBounds
  | some entry => .ok (best.1, data.named entry)

section Sum

variable {fields : List (Int × Int × Int)}

/-- What the fields that match add up to. -/
def fieldSum (fields : List (Int × Int × Int)) (res : Int) : Int :=
  fields.foldl
    (fun res field => if field.1 ≥ 0 ∧ field.1 = field.2.1 then res + field.2.2 else res) res

theorem le_fieldSum (hfields : ∀ field ∈ fields, 0 ≤ field.2.2) (res : Int) :
    res ≤ fieldSum fields res := by
  induction fields generalizing res with
  | nil => exact le_refl res
  | cons field rest ih =>
    have hfield := hfields field List.mem_cons_self
    have hrest (field) (hfield : field ∈ rest) := hfields field (List.mem_cons_of_mem _ hfield)
    apply le_trans _ (ih hrest _)
    dsimp only
    split <;> omega

theorem fieldSum_le (hfields : ∀ field ∈ fields, 0 ≤ field.2.2) (res : Int) :
    fieldSum fields res ≤ res + (fields.map fun field => field.2.2).sum := by
  induction fields generalizing res with
  | nil => exact (add_zero res).ge
  | cons field rest ih =>
    have hfield := hfields field List.mem_cons_self
    have hrest (field) (hfield : field ∈ rest) := hfields field (List.mem_cons_of_mem _ hfield)
    rw [List.map_cons, List.sum_cons]
    apply le_trans (ih hrest _)
    dsimp only
    split <;> omega

/-- The sums of the loop are ones of `int`s when the last one is. -/
theorem foldlM_addInt {res : Int} (hres : 0 ≤ res) (hfields : ∀ field ∈ fields, 0 ≤ field.2.2)
    (hsum : fieldSum fields res < 2 ^ 31) :
    fields.foldlM
      (fun res field =>
        if field.1 ≥ 0 ∧ field.1 = field.2.1 then addInt res field.2.2 else .ok res) res =
      .ok (fieldSum fields res) := by
  induction fields generalizing res with
  | nil => rfl
  | cons field rest ih =>
    have hrest (field) (hfield : field ∈ rest) := hfields field (List.mem_cons_of_mem _ hfield)
    have hfield := hfields field List.mem_cons_self
    rw [fieldSum, List.foldl_cons, ← fieldSum] at hsum ⊢
    rw [List.foldlM_cons]
    have hle := le_fieldSum hrest
      (if field.1 ≥ 0 ∧ field.1 = field.2.1 then res + field.2.2 else res)
    by_cases hmatch : field.1 ≥ 0 ∧ field.1 = field.2.1
    · rw [if_pos hmatch] at hsum hle ⊢
      rw [if_pos hmatch, addInt, if_pos (by omega), ok_bind, ih (by omega) hrest hsum]
    · rw [if_neg hmatch] at hsum hle ⊢
      rw [if_neg hmatch, ok_bind, ih hres hrest hsum]

end Sum

section Score

variable {entry : MatchEntry} {data : CpuId}

theorem scoreFields_nonneg (entry : MatchEntry) (data : CpuId) :
    ∀ field ∈ scoreFields entry data, 0 ≤ field.2.2 := by
  simp [scoreFields]

/-- The pattern of the entry is tested on the brand string and matches it. -/
def BrandMatches (entry : MatchEntry) (brandStr : List Char) : Prop :=
  (entry.brandScore > 0 ∧ entry.brandPattern.toList.length > 0) ∧
    matchPattern (scoredBrandStr brandStr) entry.brandPattern.toList ≠ 0

instance (brandStr : List Char) : Decidable (BrandMatches entry brandStr) :=
  inferInstanceAs (Decidable (_ ∧ _))

theorem score_eq : score entry data =
    if BrandMatches entry data.brandStr then
      fieldSum (scoreFields entry data) 0 + entry.brandScore
    else fieldSum (scoreFields entry data) 0 := by
  show (if entry.brandScore > 0 ∧ entry.brandPattern.toList.length > 0 then
    if matchPattern (scoredBrandStr data.brandStr) entry.brandPattern.toList ≠ 0 then
      fieldSum (scoreFields entry data) 0 + entry.brandScore
    else fieldSum (scoreFields entry data) 0
    else fieldSum (scoreFields entry data) 0) = _
  rw [← ite_and]
  rfl

theorem BrandMatches.brandScore_pos {brandStr : List Char} (h : BrandMatches entry brandStr) :
    0 < entry.brandScore := h.1.1

theorem score_nonneg (entry : MatchEntry) (data : CpuId) : 0 ≤ score entry data := by
  have hsum := le_fieldSum (scoreFields_nonneg entry data) 0
  rw [score_eq]
  split
  case isTrue h =>
    have := h.brandScore_pos
    omega
  case isFalse => exact hsum

/-- The fields add 14 at most. -/
theorem score_le (entry : MatchEntry) (data : CpuId) :
    score entry data ≤ 14 + max 0 entry.brandScore := by
  have hsum : fieldSum (scoreFields entry data) 0 ≤ 14 := fieldSum_le (scoreFields_nonneg _ _) 0
  rw [score_eq]
  split <;> omega

/-- The code computes the score when it is an `int`. -/
theorem scoreChecked_of_lt (hscore : score entry data < 2 ^ 31) :
    scoreChecked entry data = .ok (score entry data) := by
  have hsum := le_fieldSum (scoreFields_nonneg entry data) 0
  rw [score_eq] at hscore ⊢
  have hlt : fieldSum (scoreFields entry data) 0 < 2 ^ 31 := by
    split at hscore
    case isTrue h =>
      have := h.brandScore_pos
      omega
    case isFalse => exact hscore
  rw [scoreChecked, foldlM_addInt (le_refl 0) (scoreFields_nonneg _ _) hlt, ok_bind]
  dsimp only
  rw [← ite_and]
  by_cases hmatch : BrandMatches entry data.brandStr
  · rw [if_pos hmatch] at hscore ⊢
    have := hmatch.brandScore_pos
    exact (if_pos hmatch).trans (by rw [addInt, if_pos (by omega)])
  · rw [if_neg hmatch]
    exact if_neg hmatch

theorem bestMatchChecked_of_lt {table : List MatchEntry}
    (hfits : ∀ entry ∈ table, score entry data < 2 ^ 31) (i : Nat) (best : Int × Nat) :
    bestMatchChecked data table i best = .ok (bestMatch data table i best) := by
  induction table generalizing i best with
  | nil => rfl
  | cons entry rest ih =>
    rw [bestMatchChecked, scoreChecked_of_lt (hfits entry List.mem_cons_self), ok_bind,
      ih fun entry hentry => hfits entry (List.mem_cons_of_mem _ hentry)]
    rfl

end Score

/-! ### The first entry of maximal score -/

/-- `entry`, at index `k`, is the first one of the table whose score is maximal. -/
structure FirstMaximal (table : List MatchEntry) (data : CpuId) (k : Nat) (entry : MatchEntry) :
    Prop where
  entry_at : table[k]? = some entry
  most : ∀ other ∈ table, score other data ≤ score entry data
  first : ∀ m < k, ∀ earlier, table[m]? = some earlier → score earlier data < score entry data

section Scan

variable {table : List MatchEntry} {data : CpuId}

theorem le_bestMatch (data : CpuId) (table : List MatchEntry) (i : Nat) (best : Int × Nat) :
    best.1 ≤ (bestMatch data table i best).1 ∧
      ∀ entry ∈ table, score entry data ≤ (bestMatch data table i best).1 := by
  induction table generalizing i best with
  | nil => exact ⟨le_refl _, fun entry hentry => absurd hentry List.not_mem_nil⟩
  | cons entry rest ih =>
    rw [bestMatch]
    by_cases hmore : score entry data > best.1
    · rw [if_pos hmore]
      obtain ⟨hbest, hrest⟩ := ih (i + 1) (score entry data, i)
      exact ⟨hmore.le.trans hbest, List.forall_mem_cons.mpr ⟨hbest, hrest⟩⟩
    · rw [if_neg hmore]
      obtain ⟨hbest, hrest⟩ := ih (i + 1) best
      exact ⟨hbest, List.forall_mem_cons.mpr ⟨(not_lt.mp hmore).trans hbest, hrest⟩⟩

/-- The loop selects the first entry of maximal score. -/
theorem bestMatch_firstMaximal (hne : table ≠ []) (data : CpuId) :
    ∃ k entry, FirstMaximal table data k entry ∧
      bestMatch data table 0 (-1, 0) = (score entry data, k) := by
  obtain ⟨-, hle⟩ := le_bestMatch data table 0 (-1, 0)
  rcases bestMatch_cases data table 0 (-1, 0) with h | ⟨k, entry, hk, h, -, hfirst⟩
  · -- the initial best score is below every score
    obtain ⟨entry, rest, rfl⟩ := List.exists_cons_of_ne_nil hne
    have hnonneg := score_nonneg entry data
    have := h ▸ hle entry List.mem_cons_self
    dsimp only at this
    omega
  · rw [h] at hle
    exact ⟨k, entry, ⟨hk, hle, hfirst⟩, by rw [h, Nat.zero_add]⟩

end Scan

/-! ### Spacing -/

/-- A non-empty run of white space. -/
structure IsBlank (ws : List Char) : Prop where
  ne_nil : ws ≠ []
  space : ∀ c ∈ ws, isSpace c = true

/-- The second string is the first one with a run of white space replaced by another one. -/
inductive Respaced : List Char → List Char → Prop
  | intro {ws ws' : List Char} (before after : List Char) (h : IsBlank ws) (h' : IsBlank ws') :
    Respaced (before ++ ws ++ after) (before ++ ws' ++ after)

theorem Respaced.cons {s t : List Char} (c : Char) (h : Respaced s t) :
    Respaced (c :: s) (c :: t) := by
  obtain ⟨before, after, h, h'⟩ := h
  exact .intro (c :: before) after h h'

section Remove

variable {sub ws : List Char}

/-- A word that begins a string ends before the first white space of the string. -/
theorem isPrefixOf_blank (hsub : ∀ c ∈ sub, isSpace c = false) (hws : IsBlank ws)
    (before after : List Char) :
    sub.isPrefixOf (before ++ ws ++ after) = sub.isPrefixOf before := by
  induction sub generalizing before with
  | nil => rfl
  | cons c sub ih =>
    cases before with
    | nil =>
      obtain ⟨w, ws, rfl⟩ := List.exists_cons_of_ne_nil hws.ne_nil
      have hc := hsub c List.mem_cons_self
      have hw := hws.space w List.mem_cons_self
      have hne : c ≠ w := by
        rintro rfl
        rw [hc] at hw
        cases hw
      simp [List.isPrefixOf, hne]
    | cons b before =>
      have := ih (fun c hc => hsub c (List.mem_cons_of_mem _ hc)) before
      simp only [List.cons_append, List.isPrefixOf, this]

/-- A word is not looked for in a run of white space. -/
theorem removeSubstring_blank (hne : sub ≠ []) (hsub : ∀ c ∈ sub, isSpace c = false)
    (hws : ∀ c ∈ ws, isSpace c = true) (after : List Char) :
    removeSubstring sub (ws ++ after) = ws ++ removeSubstring sub after := by
  induction ws with
  | nil => rfl
  | cons w ws ih =>
    have hrest : ∀ c ∈ ws, isSpace c = true := fun c hc => hws c (List.mem_cons_of_mem _ hc)
    have hmiss : sub.isPrefixOf (w :: (ws ++ after)) = false := by
      have := isPrefixOf_blank hsub ⟨List.cons_ne_nil w ws, hws⟩ [] after
      rw [List.nil_append, List.cons_append] at this
      rw [this]
      cases sub with
      | nil => exact absurd rfl hne
      | cons c sub => rfl
    rw [List.cons_append, removeSubstring, if_neg (by simp [hmiss]), ih hrest, List.cons_append]

/-- The removal of a word changes two strings that differ in a run of white space alike. -/
theorem Respaced.removeSubstring {s t : List Char} (hne : sub ≠ [])
    (hsub : ∀ c ∈ sub, isSpace c = false) (h : Respaced s t) :
    Respaced (removeSubstring sub s) (removeSubstring sub t) := by
  obtain ⟨before, after, hws, hws'⟩ := h
  induction before with
  | nil =>
    rw [List.nil_append, List.nil_append, removeSubstring_blank hne hsub hws.space,
      removeSubstring_blank hne hsub hws'.space]
    exact .intro [] _ hws hws'
  | cons b before ih =>
    have hbegins {ws : List Char} (hws : IsBlank ws) :=
      isPrefixOf_blank hsub hws (b :: before) after
    simp only [List.cons_append, LibCpuid.removeSubstring] at hbegins ⊢
    rw [hbegins hws, hbegins hws']
    by_cases hfound : sub.isPrefixOf (b :: before) = true
    · rw [if_pos hfound, if_pos hfound]
      -- the word lies before the white space
      have hlen := (List.isPrefixOf_iff_prefix.mp hfound).length_le
      have hdrop (ws : List Char) : (b :: (before ++ ws ++ after)).drop sub.length =
          (b :: before).drop sub.length ++ ws ++ after := by
        rw [← List.cons_append, ← List.cons_append, List.append_assoc,
          List.drop_append_of_le_length hlen, List.append_assoc]
      rw [hdrop, hdrop]
      exact .intro _ _ hws hws'
    · rw [if_neg hfound, if_neg hfound]
      exact ih.cons b

end Remove

/-- In a run of white space `collapse_spaces` only sees whether it is in one. -/
theorem collapseSpaces_blank {ws : List Char} (hws : IsBlank ws) (inSpace : Bool)
    (after : List Char) :
    collapseSpaces inSpace (ws ++ after) =
      (if inSpace then [] else [' ']) ++ collapseSpaces true after := by
  obtain ⟨hne, hspace⟩ := hws
  induction ws generalizing inSpace with
  | nil => exact absurd rfl hne
  | cons w ws ih =>
    have hw := hspace w List.mem_cons_self
    have hrest : collapseSpaces true (ws ++ after) = collapseSpaces true after := by
      cases ws with
      | nil => rfl
      | cons w' ws =>
        exact ih true (List.cons_ne_nil _ _) fun c hc => hspace c (List.mem_cons_of_mem _ hc)
    rw [List.cons_append, collapseSpaces, if_pos hw, hrest]
    cases inSpace <;> rfl

theorem Respaced.collapseSpaces_eq {s t : List Char} (h : Respaced s t) (inSpace : Bool) :
    collapseSpaces inSpace s = collapseSpaces inSpace t := by
  obtain ⟨before, after, hws, hws'⟩ := h
  induction before generalizing inSpace with
  | nil =>
    rw [List.nil_append, List.nil_append, collapseSpaces_blank hws, collapseSpaces_blank hws']
  | cons b before ih =>
    simp only [List.cons_append, collapseSpaces, ih]

/-- Neither word that is removed has white space. -/
theorem scoredBrandStr_respaced {s t : List Char} (h : Respaced s t) :
    scoredBrandStr s = scoredBrandStr t := by
  have hcpu : ∀ c ∈ "CPU".toList, isSpace c = false := by decide
  have hprocessor : ∀ c ∈ "Processor".toList, isSpace c = false := by decide
  have hremoved := (h.removeSubstring (by decide) hcpu).removeSubstring (by decide) hprocessor
  exact hremoved.collapseSpaces_eq false

theorem score_respaced {data : CpuId} {brandStr : List Char} (h : Respaced data.brandStr brandStr)
    (entry : MatchEntry) : score entry { data with brandStr } = score entry data := by
  have hbrand : BrandMatches entry brandStr ↔ BrandMatches entry data.brandStr := by
    rw [BrandMatches, BrandMatches, scoredBrandStr_respaced h]
  rw [score_eq, score_eq, if_congr hbrand rfl rfl]
  rfl

/-! ### The choice -/

/-- For the table and the data, the code returns the score of an entry of maximal score that no
earlier entry has, and it selects it, with any other white space in the brand string too. -/
structure ChoiceStable (table : List MatchEntry) (data : CpuId) (k : Nat) (entry : MatchEntry) :
    Prop where
  chosen : FirstMaximal table data k entry
  selected : bestMatchChecked data table 0 (-1, 0) = .ok (score entry data, k)
  returned : matchCpuCodenameChecked table data = .ok (score entry data, data.named entry)
  respaced : ∀ brandStr, Respaced data.brandStr brandStr →
    bestMatchChecked { data with brandStr } table 0 (-1, 0) = .ok (score entry data, k) ∧
      matchCpuCodenameChecked table { data with brandStr } =
        .ok (score entry data, CpuId.named { data with brandStr } entry)

theorem bestMatch_respaced {data : CpuId} {brandStr : List Char}
    (h : Respaced data.brandStr brandStr) (table : List MatchEntry) (i : Nat) (best : Int × Nat) :
    bestMatch { data with brandStr } table i best = bestMatch data table i best := by
  induction table generalizing i best with
  | nil => rfl
  | cons entry rest ih => rw [bestMatch, bestMatch, score_respaced h, ih]

theorem matchCpuCodenameChecked_of_best {table : List MatchEntry} {data : CpuId} {k : Nat}
    {t : Int} {entry : MatchEntry} (hentry : table[k]? = some entry)
    (h : bestMatchChecked data table 0 (-1, 0) = .ok (t, k)) :
    matchCpuCodenameChecked table data = .ok (t, data.named entry) := by
  rw [matchCpuCodenameChecked, h, ok_bind]
  dsimp only
  rw [hentry]

theorem choiceStable {table : List MatchEntry} (hne : table ≠ []) {data : CpuId}
    (hfits : ∀ entry ∈ table, score entry data < 2 ^ 31) :
    ∃ k entry, ChoiceStable table data k entry := by
  obtain ⟨k, entry, hfirst, hbest⟩ := bestMatch_firstMaximal hne data
  have hselected := (bestMatchChecked_of_lt hfits 0 (-1, 0)).trans (congrArg _ hbest)
  refine ⟨k, entry, hfirst, hselected, matchCpuCodenameChecked_of_best hfirst.entry_at hselected,
    fun brandStr hspace => ?_⟩
  have hsame : bestMatchChecked { data with brandStr } table 0 (-1, 0) =
      .ok (score entry data, k) := by
    rw [bestMatchChecked_of_lt fun other hother => (score_respaced hspace other).trans_lt
      (hfits other hother), bestMatch_respaced hspace, hbest]
  exact ⟨hsame, matchCpuCodenameChecked_of_best hfirst.entry_at hsame⟩

theorem brandScore_le (vendor : CpuVendor) :
    ∀ entry ∈ vendorEntries vendor, entry.brandScore ≤ 14 := by
  cases vendor <;> decide +kernel

/-- On the tables of the recognition code no score overflows. -/
theorem score_lt_of_vendor (vendor : CpuVendor) {entry : MatchEntry}
    (hentry : entry ∈ vendorEntries vendor) (data : CpuId) : score entry data < 2 ^ 31 := by
  have hbrand := brandScore_le vendor entry hentry
  have hscore := score_le entry data
  omega

theorem choiceStable_vendorEntries {vendor : CpuVendor} (hvendor : vendorEntries vendor ≠ [])
    (data : CpuId) : ∃ k entry, ChoiceStable (vendorEntries vendor) data k entry :=
  choiceStable hvendor fun _ hentry => score_lt_of_vendor vendor hentry data

/-- A processor with the brand string. -/
def brandedCpuId (brandStr : List Char) : CpuId :=
  { cpuIdConstructor with x86 := { cpuIdConstructor.x86 with family := 6 }, brandStr }

/-- Three entries that the processor matches: the second one scores more than the first one, and the
third one as much. -/
def competingEntries : List MatchEntry :=
  [⟨6, -1, -1, -1, -1, -1, -1, -1, "", 0, "Other", "65 nm"⟩,
    ⟨6, -1, -1, -1, -1, -1, -1, -1, "a b", 4, "Near", "65 nm"⟩,
    ⟨6, -1, -1, -1, -1, -1, -1, -1, "b", 4, "Late", "65 nm"⟩]

theorem choiceStable_competingEntries :
    ∃ k entry, ChoiceStable competingEntries (brandedCpuId ['a', '\t', 'b']) k entry :=
  choiceStable (List.cons_ne_nil _ _) (by decide +kernel)

/-- The largest brand score that an `int` can hold is too much for an entry of the same family. -/
theorem not_choiceStable_hugeScore :
    ¬∃ k entry, ChoiceStable [⟨6, -1, -1, -1, -1, -1, -1, -1, "a b", 2 ^ 31 - 1, "Near", "65 nm"⟩]
      (brandedCpuId ['a', '\t', 'b']) k entry := by
  rintro ⟨k, entry, h⟩
  have hover : bestMatchChecked (brandedCpuId ['a', '\t', 'b'])
      [⟨6, -1, -1, -1, -1, -1, -1, -1, "a b", 2 ^ 31 - 1, "Near", "65 nm"⟩] 0 (-1, 0) =
      .error .overflow := by decide +kernel
  cases hover.symm.trans h.selected

end LibCpuid
