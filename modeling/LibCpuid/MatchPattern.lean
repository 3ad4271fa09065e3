import LibCpuid.CLang.CStr
import LibCpuid.Util
import Mathlib.Data.List.Forall2
import Mathlib.Order.Bounds.Basic

/-! `match_pattern` finds the first place in a string where the tokens of a pattern match.  The code
with its reads and its `int`s computes what `matchPattern` does on strings whose lengths are
`int`s, and `matchPattern` follows the grammar of the patterns. -/

namespace LibCpuid

open CLang

/-! ### The code -/

/-- `while (p[j] && p[j] != ']') j++`. -/
def bracketEnd (p : CStr) (j : Nat) : Checked Nat :=
  match _h : p.get j with
  | .error e => .error e
  | .ok q =>
    if q ≠ '\x00' ∧ q ≠ ']' then
      if j + 1 < 2 ^ 31 then bracketEnd p (j + 1) else .error .overflow
    else .ok j
termination_by p.strlen + 1 - j
decreasing_by
  have := CStr.le_of_get ‹p.get j = .ok q›
  omega

/-- The loop over the characters in brackets, for the `count` of them from `i` on. -/
def listedAt (c : Char) (p : CStr) : Nat → Nat → Checked Bool
  | 0, _ => .ok false
  | count + 1, i => do
    let q ← p.get i
    if q.toLower = c.toLower then .ok true else listedAt c p count (i + 1)

/-- `xmatch_entry`, where `none` is -1. -/
def xmatchEntryChecked (c : Char) (p : CStr) : Checked (Option Nat) := do
  if c = '\x00' then .ok none
  else
    let p0 ← p.get 0
    if c.toLower = p0.toLower then .ok (some 1)
    else if p0 = '.' then .ok (some 1)
    else if p0 = '#' && c.isDigit then .ok (some 1)
    else if p0 = '[' then
      let j ← bracketEnd p 1
      if (← p.get j) = '\x00' then .ok none
      else if ← listedAt c p (j - 1) 1 then .ok (some (← checkInt (j + 1)))
      else .ok none
    else .ok none

/-- The inner loop of `match_pattern`, at index `i` of the string.  It gives the last `j`. -/
def trialEnd (s p : CStr) (m : Int) (i k j : Nat) : Checked Nat :=
  if (j : Int) < m then
    if i + k < 2 ^ 31 then
      match _h : s.get (i + k) with
      | .error e => .error e
      | .ok c => do
        match ← xmatchEntryChecked c (← p.advance j) with
        | none => .ok j
        | some dj =>
          let j ← checkInt (j + dj)
          trialEnd s p m i (k + 1) j
    else .error .overflow
  else .ok j
termination_by s.strlen + 1 - (i + k)
decreasing_by
  have := CStr.le_of_get ‹s.get (i + k) = .ok c›
  omega

/-- The outer loop, for `count` indices from `i` on. -/
def searchFrom (s p : CStr) (m : Int) : Nat → Nat → Checked Nat
  | 0, _ => .ok 0
  | count + 1, i => do
    if (← xmatchEntryChecked (← s.get i) p).isSome then
      let j ← trialEnd s p m i 0 0
      if (j : Int) = m then .ok (i + 1) else searchFrom s p m count (i + 1)
    else searchFrom s p m count (i + 1)

/-- `match_pattern`, with the lengths of the strings as `int`s. -/
def matchPatternChecked (s p : CStr) : Checked Nat :=
  searchFrom s p (toInt32 p.strlen) (toInt32 s.strlen).toNat 0

/-! ### The code computes `matchPattern` -/

section Entry

variable {p : CStr}

theorem bracketEnd_eq (hlen : p.strlen < 2 ^ 31) {j : Nat} (hj : j ≤ p.strlen) :
    bracketEnd p j = .ok (j + ((p.chars.drop j).takeWhile (· ≠ ']')).length) := by
  generalize hrest : p.chars.drop j = rest
  induction rest generalizing j with
  | nil =>
    obtain ⟨hget, -⟩ := CStr.get_of_drop_nil hj hrest
    rw [bracketEnd]
    split
    case h_1 e he => simp [hget] at he
    case h_2 q hq =>
      obtain rfl : '\x00' = q := Except.ok.inj (hget.symm.trans hq)
      simp
  | cons c rest ih =>
    obtain ⟨hget, hnul, hlt, hdrop⟩ := CStr.get_of_drop hrest
    rw [bracketEnd]
    split
    case h_1 e he => simp [hget] at he
    case h_2 q hq =>
      obtain rfl : c = q := Except.ok.inj (hget.symm.trans hq)
      by_cases hclose : c = ']'
      · simp [hclose]
      · rw [if_pos ⟨hnul, hclose⟩, if_pos (by omega), ih hlt hdrop,
          List.takeWhile_cons_of_pos (by simpa using hclose), List.length_cons]
        congr 1
        omega

theorem listedAt_eq (c : Char) {count i : Nat} (h : i + count ≤ p.strlen) :
    listedAt c p count i =
      .ok (((p.chars.drop i).take count).any fun q => q.toLower = c.toLower) := by
  induction count generalizing i with
  | zero => simp [listedAt]
  | succ count ih =>
    obtain ⟨q, rest, hrest⟩ := CStr.drop_eq_cons (s := p) (i := i) (by omega)
    obtain ⟨hget, -, -, hdrop⟩ := CStr.get_of_drop hrest
    rw [listedAt, hget, ok_bind, ih (by omega), hdrop, hrest, List.take_succ_cons, List.any_cons]
    by_cases hq : q.toLower = c.toLower
    · simp [hq]
    · simp [hq]

/-- No other character has a character that is not a letter as its lower case. -/
theorem eq_of_toLower {c d : Char} (hd : d.toNat < 65 ∨ 90 < d.toNat ∧ d.toNat < 97)
    (h : c.toLower = d) : c = d := by
  delta Char.toLower at h
  split at h
  case isTrue hupper =>
    have hval : (c.val + ('a'.val - 'A'.val)).toNat = d.toNat := congrArg Char.toNat h
    have hge : 65 ≤ c.val.toNat := UInt32.le_iff_toNat_le.mp hupper.1
    have hle : c.val.toNat ≤ 90 := UInt32.le_iff_toNat_le.mp hupper.2
    rw [UInt32.toNat_add, show ('a'.val - 'A'.val).toNat = 32 from rfl] at hval
    omega
  case isFalse => exact h

/-- In brackets that are closed the scan ends at the closing one. -/
theorem xmatchEntryChecked_bracket (hlen : p.strlen < 2 ^ 31) {c : Char} {rest : List Char}
    (hp : p.chars = '[' :: rest) :
    (do
      let j ← bracketEnd p 1
      if (← p.get j) = '\x00' then .ok none
      else if ← listedAt c p (j - 1) 1 then .ok (some (← checkInt (j + 1)))
      else .ok none : Checked (Option Nat)) =
    .ok (if (rest.takeWhile (· ≠ ']')).length = rest.length then none
      else if (rest.takeWhile (· ≠ ']')).any (fun q => q.toLower = c.toLower) then
        some ((rest.takeWhile (· ≠ ']')).length + 2)
      else none) := by
  have hstrlen : p.strlen = rest.length + 1 := by rw [CStr.strlen, hp, List.length_cons]
  have hdrop : p.chars.drop 1 = rest := by rw [hp]; rfl
  have hle := (List.takeWhile_prefix (· ≠ ']') (l := rest)).length_le
  rw [bracketEnd_eq hlen (by omega), ok_bind, hdrop]
  generalize hchars : rest.takeWhile (· ≠ ']') = chars at hle ⊢
  have hdropj : p.chars.drop (1 + chars.length) = rest.drop chars.length := by
    rw [← List.drop_drop, hdrop]
  by_cases hend : chars.length = rest.length
  · obtain ⟨hget, -⟩ := CStr.get_of_drop_nil (s := p) (by omega) (hdropj.trans (by simp [hend]))
    rw [hget, ok_bind, if_pos rfl, if_pos hend]
  · obtain ⟨q, rest', hrest⟩ : ∃ q rest', rest.drop chars.length = q :: rest' := by
      apply List.exists_cons_of_length_pos
      rw [List.length_drop]
      omega
    obtain ⟨hget, hnul, -⟩ := CStr.get_of_drop (hdropj.trans hrest)
    have htake : rest.take chars.length = chars := by
      rw [← hchars]
      exact (List.prefix_iff_eq_take.mp (List.takeWhile_prefix _)).symm
    rw [hget, ok_bind, if_neg hnul, if_neg hend, Nat.add_sub_cancel_left, listedAt_eq c (by omega),
      ok_bind, hdrop, htake, checkInt_of_lt (by omega), ok_bind]
    rw [show 1 + chars.length + 1 = chars.length + 2 by omega]
    cases chars.any fun q => decide (q.toLower = c.toLower)
    · rfl
    · rfl

theorem xmatchEntryChecked_eq (hlen : p.strlen < 2 ^ 31) {c : Char} (hc : c ≠ '\x00') :
    xmatchEntryChecked c p = .ok (xmatchEntry c p.chars) := by
  rw [xmatchEntryChecked, if_neg hc]
  cases hp : p.chars with
  | nil =>
    obtain ⟨hget, -⟩ := CStr.get_of_drop_nil (s := p) (Nat.zero_le _) hp
    have hlower : c.toLower ≠ '\x00'.toLower := fun h => hc (eq_of_toLower (by decide) h)
    rw [hget, ok_bind, if_neg hlower]
    rfl
  | cons p0 rest =>
    obtain ⟨hget, -⟩ := CStr.get_of_drop (s := p) (i := 0) hp
    rw [hget, ok_bind, xmatchEntry]
    by_cases hsame : c.toLower = p0.toLower
    · rw [if_pos hsame, if_pos hsame]
    by_cases hany : p0 = '.'
    · rw [if_neg hsame, if_neg hsame, if_pos hany, if_pos hany]
    by_cases hdigit : (p0 = '#' && c.isDigit) = true
    · rw [if_neg hsame, if_neg hsame, if_neg hany, if_neg hany, if_pos hdigit, if_pos hdigit]
    by_cases hopen : p0 = '['
    · subst hopen
      rw [if_neg hsame, if_neg hsame, if_neg hany, if_neg hany, if_neg hdigit, if_neg hdigit,
        if_pos rfl, if_pos rfl]
      exact xmatchEntryChecked_bracket hlen hp
    · rw [if_neg hsame, if_neg hsame, if_neg hany, if_neg hany, if_neg hdigit, if_neg hdigit,
        if_neg hopen, if_neg hopen]

theorem xmatchEntry_bounds {c : Char} {p : List Char} {dj : Nat} (h : xmatchEntry c p = some dj) :
    0 < dj ∧ dj ≤ p.length := by
  cases p with
  | nil => cases h
  | cons p0 rest =>
    have hle := (List.takeWhile_prefix (· ≠ ']') (l := rest)).length_le
    rw [List.length_cons]
    rw [xmatchEntry] at h
    split at h
    · cases h; omega
    · split at h
      · cases h; omega
      · split at h
        · cases h; omega
        · split at h
          · dsimp only at h
            split at h
            · cases h
            · split at h
              · cases h; omega
              · cases h
          · cases h

end Entry

/-! #### The trial at an index -/

section Trial

variable {s p : CStr} {i k j : Nat}

theorem matchHere_nil (s : List Char) : matchHere s [] = true := by
  cases s <;> rfl

theorem matchHere_cons_none {c : Char} {s p : List Char} (hp : p ≠ [])
    (h : xmatchEntry c p = none) : matchHere (c :: s) p = false := by
  cases p with
  | nil => exact absurd rfl hp
  | cons p0 p => simp [matchHere, h]

theorem matchHere_cons_some {c : Char} {s p : List Char} {dj : Nat}
    (h : xmatchEntry c p = some dj) : matchHere (c :: s) p = matchHere s (p.drop dj) := by
  cases p with
  | nil => cases h
  | cons p0 p => simp [matchHere, h]

theorem trialEnd_stop {m : Int} (h : ¬(j : Int) < m) : trialEnd s p m i k j = .ok j := by
  rw [trialEnd, if_neg h]

section Step

variable {m : Int} {c : Char} {q : CStr} (h : (j : Int) < m) (hik : i + k < 2 ^ 31)
  (hget : s.get (i + k) = .ok c) (hadvance : p.advance j = .ok q)
include h hik hget hadvance

theorem trialEnd_none (hentry : xmatchEntryChecked c q = .ok none) :
    trialEnd s p m i k j = .ok j := by
  rw [trialEnd, if_pos h, if_pos hik]
  split
  case h_1 e he => simp [hget] at he
  case h_2 d hd =>
    obtain rfl : c = d := Except.ok.inj (hget.symm.trans hd)
    rw [hadvance, ok_bind, hentry, ok_bind]

theorem trialEnd_some {dj : Nat} (hentry : xmatchEntryChecked c q = .ok (some dj))
    (hdj : j + dj < 2 ^ 31) : trialEnd s p m i k j = trialEnd s p m i (k + 1) (j + dj) := by
  rw [trialEnd, if_pos h, if_pos hik]
  split
  case h_1 e he => simp [hget] at he
  case h_2 d hd =>
    obtain rfl : c = d := Except.ok.inj (hget.symm.trans hd)
    rw [hadvance, ok_bind, hentry, ok_bind]
    dsimp only
    rw [checkInt_of_lt hdj, ok_bind]

end Step

/-- A trial reaches the end of the pattern when the rest of the pattern matches. -/
theorem trialEnd_eq (hs : s.strlen < 2 ^ 31) (hp : p.strlen < 2 ^ 31) (hik : i + k ≤ s.strlen)
    (hj : j ≤ p.strlen) :
    ∃ j', trialEnd s p p.strlen i k j = .ok j' ∧
      (j' = p.strlen ↔ matchHere (s.chars.drop (i + k)) (p.chars.drop j) = true) := by
  generalize hrest : s.chars.drop (i + k) = rest
  induction rest generalizing k j with
  | nil =>
    rcases Nat.lt_or_eq_of_le hj with hlt | rfl
    · obtain ⟨hget, -⟩ := CStr.get_of_drop_nil hik hrest
      obtain ⟨q, hadvance, -⟩ := CStr.advance_of_le hj
      obtain ⟨p0, prest, hdrop⟩ := CStr.drop_eq_cons hlt
      refine ⟨j, trialEnd_none (by omega) (by omega) hget hadvance (if_pos rfl), ?_⟩
      rw [hdrop, matchHere]
      simp [Nat.ne_of_lt hlt]
    · refine ⟨_, trialEnd_stop (by omega), ?_⟩
      simp [CStr.strlen, matchHere_nil]
  | cons c rest ih =>
    rcases Nat.lt_or_eq_of_le hj with hlt | rfl
    · obtain ⟨hget, hnul, hklt, hrest'⟩ := CStr.get_of_drop hrest
      obtain ⟨q, hadvance, hq, hqle⟩ := CStr.advance_of_le hj
      have hentry := xmatchEntryChecked_eq (p := q) (by omega) hnul
      rw [hq] at hentry
      cases hdj : xmatchEntry c (p.chars.drop j) with
      | none =>
        obtain ⟨p0, prest, hdrop⟩ := CStr.drop_eq_cons hlt
        rw [hdj] at hentry
        refine ⟨j, trialEnd_none (by omega) (by omega) hget hadvance hentry, ?_⟩
        rw [matchHere_cons_none (by simp [hdrop]) hdj]
        simp [Nat.ne_of_lt hlt]
      | some dj =>
        obtain ⟨-, hdjle⟩ := xmatchEntry_bounds hdj
        have hjdj : j + dj ≤ p.strlen := by
          rw [List.length_drop] at hdjle
          rw [CStr.strlen] at hlt ⊢
          omega
        rw [hdj] at hentry
        rw [trialEnd_some (by omega) (by omega) hget hadvance hentry (by omega),
          matchHere_cons_some hdj, List.drop_drop]
        exact ih hklt hjdj hrest'
    · refine ⟨_, trialEnd_stop (by omega), ?_⟩
      simp [CStr.strlen, matchHere_nil]

end Trial

/-! #### The search -/

section Search

variable {s p : CStr} (hs : s.strlen < 2 ^ 31) (hp : p.strlen < 2 ^ 31)
include hs hp

theorem searchFrom_eq {count i : Nat} (h : i + count = s.strlen) :
    searchFrom s p p.strlen count i = .ok (matchFrom p.chars (s.chars.drop i) i) := by
  induction count generalizing i with
  | zero =>
    have hnil : s.chars.drop i = [] := List.drop_of_length_le (Nat.le_of_eq h.symm)
    rw [hnil]
    rfl
  | succ count ih =>
    obtain ⟨c, rest, hrest⟩ := CStr.drop_eq_cons (s := s) (i := i) (by omega)
    obtain ⟨hget, hnul, -, hdrop⟩ := CStr.get_of_drop hrest
    obtain ⟨j, htrial, hj⟩ :=
      trialEnd_eq hs hp (i := i) (k := 0) (j := 0) (by omega) (Nat.zero_le _)
    have hnext := ih (i := i + 1) (by omega)
    rw [hdrop] at hnext
    rw [Nat.add_zero, List.drop_zero, hrest] at hj
    rw [searchFrom, hget, ok_bind, xmatchEntryChecked_eq hp hnul, ok_bind, hrest, matchFrom]
    by_cases hentry : (xmatchEntry c p.chars).isSome = true
    · rw [if_pos hentry, htrial, ok_bind]
      by_cases hfull : j = p.strlen
      · rw [if_pos (by omega), if_pos (by simp [hentry, hj.mp hfull])]
      · have hhere := mt hj.mpr hfull
        rw [if_neg (by omega), if_neg (by simp [hhere]), hnext]
    · rw [if_neg hentry, if_neg (by simp [hentry]), hnext]

/-- On strings whose lengths are `int`s, every read is inside its string and no `int`
overflows. -/
theorem matchPatternChecked_eq :
    matchPatternChecked s p = .ok (matchPattern s.chars p.chars) := by
  rw [matchPatternChecked, toInt32_of_lt hs, toInt32_of_lt hp, Int.toNat_natCast,
    searchFrom_eq hs hp (Nat.zero_add _)]
  rfl

end Search

/-! ### The grammar -/

/-- What a pattern asks of one character. -/
inductive Token
  | any
  | digit
  | oneOf (chars : List Char)
  | lit (c : Char)
  deriving DecidableEq, Repr

/-- The characters of a token, upper and lower case alike. -/
def Token.Accepts : Token → Char → Prop
  | .any, _ => True
  | .digit, c => c.isDigit = true
  | .oneOf chars, c => ∃ q ∈ chars, q.toLower = c.toLower
  | .lit q, c => q.toLower = c.toLower

/-- A pattern whose brackets are closed is a list of tokens. -/
inductive TokensOf : List Char → List Token → Prop
  | nil : TokensOf [] []
  | any {p ts} : TokensOf p ts → TokensOf ('.' :: p) (.any :: ts)
  | digit {p ts} : TokensOf p ts → TokensOf ('#' :: p) (.digit :: ts)
  | oneOf {chars p ts} : ']' ∉ chars → TokensOf p ts →
      TokensOf ('[' :: (chars ++ ']' :: p)) (.oneOf chars :: ts)
  | lit {c p ts} : c ≠ '.' → c ≠ '#' → c ≠ '[' → TokensOf p ts → TokensOf (c :: p) (.lit c :: ts)

/-- The tokens accept the characters of a string from an index on. -/
def MatchesAt (ts : List Token) (s : List Char) (i : Nat) : Prop :=
  List.Forall₂ Token.Accepts ts ((s.drop i).take ts.length)

/-- One more than the least index where the tokens match, or 0 if there is none. -/
def IsFirstMatch (ts : List Token) (s : List Char) (r : Nat) : Prop :=
  (∃ i, r = i + 1 ∧ IsLeast {i | MatchesAt ts s i} i) ∨ (r = 0 ∧ ∀ i, ¬MatchesAt ts s i)

section Grammar

theorem toLower_ne_symbol {c : Char} (hc : c ≠ '[' ∧ c ≠ '#') :
    c.toLower ≠ '['.toLower ∧ c.toLower ≠ '#'.toLower :=
  ⟨fun h => hc.1 (eq_of_toLower (by decide) h), fun h => hc.2 (eq_of_toLower (by decide) h)⟩

/-- The first token of a pattern accepts what its characters match. -/
theorem xmatchEntry_tokensOf {p : List Char} {t : Token} {ts : List Token}
    (h : TokensOf p (t :: ts)) : ∃ dj, TokensOf (p.drop dj) ts ∧ ∀ c, c ≠ '[' ∧ c ≠ '#' →
      (t.Accepts c → xmatchEntry c p = some dj) ∧ (¬t.Accepts c → xmatchEntry c p = none) := by
  cases h with
  | any h =>
    refine ⟨1, h, fun c _ => ⟨fun _ => ?_, fun hno => absurd trivial hno⟩⟩
    rw [xmatchEntry]
    split <;> simp
  | digit h =>
    refine ⟨1, h, fun c hc => ?_⟩
    rw [xmatchEntry, if_neg (toLower_ne_symbol hc).2, if_neg (by decide)]
    constructor
    · intro hdigit
      rw [if_pos (by simpa [Token.Accepts] using hdigit)]
    · intro hdigit
      rw [if_neg (by simpa [Token.Accepts] using hdigit), if_neg (by decide)]
  | @oneOf chars p ts hclose h =>
    have htake : (chars ++ ']' :: p).takeWhile (· ≠ ']') = chars := by
      rw [List.takeWhile_append_of_pos]
      · simp
      · intro q hq
        simpa using fun heq : q = ']' => hclose (heq ▸ hq)
    have hlen : chars.length ≠ (chars ++ ']' :: p).length := by simp
    refine ⟨chars.length + 2, by simpa using h, fun c hc => ?_⟩
    rw [xmatchEntry, if_neg (toLower_ne_symbol hc).1, if_neg (by decide), if_neg (by simp),
      if_pos rfl]
    dsimp only
    rw [htake, if_neg hlen]
    constructor
    · intro hlisted
      rw [if_pos (by simpa [Token.Accepts] using hlisted)]
    · intro hlisted
      rw [if_neg (by simpa [Token.Accepts] using hlisted)]
  | lit hany hdigit hopen h =>
    refine ⟨1, h, fun c _ => ?_⟩
    rw [xmatchEntry]
    constructor
    · intro hsame
      rw [if_pos hsame.symm]
    · intro hsame
      rw [if_neg fun heq => hsame heq.symm, if_neg hany, if_neg (by simp [hdigit]), if_neg hopen]

theorem ne_nil_of_tokensOf {p : List Char} {t : Token} {ts : List Token}
    (h : TokensOf p (t :: ts)) : p ≠ [] := by
  cases h <;> simp

/-- A trial succeeds when the tokens accept as many characters. -/
theorem matchHere_iff {p : List Char} {ts : List Token} (h : TokensOf p ts) {s : List Char}
    (hs : ∀ c ∈ s, c ≠ '[' ∧ c ≠ '#') :
    matchHere s p = true ↔ List.Forall₂ Token.Accepts ts (s.take ts.length) := by
  induction ts generalizing p s with
  | nil =>
    cases h
    simp [matchHere_nil]
  | cons t ts ih =>
    have hne := ne_nil_of_tokensOf h
    obtain ⟨dj, hrest, hentry⟩ := xmatchEntry_tokensOf h
    cases s with
    | nil =>
      obtain ⟨p0, p, rfl⟩ := List.exists_cons_of_ne_nil hne
      simp [matchHere]
    | cons c s =>
      have hs' : ∀ c ∈ s, c ≠ '[' ∧ c ≠ '#' := fun c hc => hs c (List.mem_cons_of_mem _ hc)
      obtain ⟨hyes, hno⟩ := hentry c (hs c List.mem_cons_self)
      rw [List.length_cons, List.take_succ_cons, List.forall₂_cons]
      by_cases haccept : t.Accepts c
      · rw [matchHere_cons_some (hyes haccept), ih hrest hs', and_iff_right haccept]
      · rw [matchHere_cons_none hne (hno haccept)]
        simp [haccept]

/-- The search stops at the first index where a trial succeeds. -/
theorem matchFrom_spec {p : List Char} (hp : p ≠ []) (s : List Char) (i : Nat) :
    (∃ k, matchFrom p s i = i + k + 1 ∧ IsLeast {k | matchHere (s.drop k) p = true} k) ∨
      (matchFrom p s i = 0 ∧ ∀ k, matchHere (s.drop k) p = false) := by
  induction s generalizing i with
  | nil =>
    refine .inr ⟨rfl, fun k => ?_⟩
    obtain ⟨p0, p, rfl⟩ := List.exists_cons_of_ne_nil hp
    simp [matchHere]
  | cons c s ih =>
    rw [matchFrom]
    cases hhere : matchHere (c :: s) p with
    | true =>
      have hentry : (xmatchEntry c p).isSome = true := by
        by_contra hnone
        rw [Bool.not_eq_true, Option.isSome_eq_false_iff, Option.isNone_iff_eq_none] at hnone
        rw [matchHere_cons_none hp hnone] at hhere
        cases hhere
      rw [if_pos (by simp [hentry])]
      exact .inl ⟨0, rfl, hhere, fun k _ => Nat.zero_le k⟩
    | false =>
      rw [if_neg (by simp)]
      rcases ih (i + 1) with ⟨k, hk, hmem, hleast⟩ | ⟨hzero, hnone⟩
      · refine .inl ⟨k + 1, by omega, hmem, fun k' hk' => ?_⟩
        cases k' with
        | zero => exact absurd (hk'.symm.trans hhere) (by simp)
        | succ k' => exact Nat.succ_le_succ (hleast hk')
      · refine .inr ⟨hzero, fun k => ?_⟩
        cases k with
        | zero => exact hhere
        | succ k => exact hnone k

/-- `match_pattern` follows the grammar. -/
theorem isFirstMatch_matchPattern {s p : List Char} {ts : List Token} (h : TokensOf p ts)
    (hp : p ≠ []) (hs : ∀ c ∈ s, c ≠ '[' ∧ c ≠ '#') : IsFirstMatch ts s (matchPattern s p) := by
  have hhere (k : Nat) : matchHere (s.drop k) p = true ↔ MatchesAt ts s k :=
    matchHere_iff h fun c hc => hs c (List.mem_of_mem_drop hc)
  rcases matchFrom_spec hp s 0 with ⟨k, hk, hleast⟩ | ⟨hzero, hnone⟩
  · simp only [hhere] at hleast
    exact .inl ⟨k, by rw [matchPattern, hk, Nat.zero_add], hleast⟩
  · refine .inr ⟨hzero, fun i hmatch => ?_⟩
    rw [← hhere, hnone] at hmatch
    cases hmatch

end Grammar

/-! ### The result of the code -/

/-- `match_pattern` reads only its strings and gives the first place where the tokens of the pattern
match, in a string without the characters that the code compares with before it looks at what they
stand for. -/
def FindsFirst (s p : CStr) : Prop :=
  ∀ ts, TokensOf p.chars ts → p.chars ≠ [] → (∀ c ∈ s.chars, c ≠ '[' ∧ c ≠ '#') →
    ∃ r, matchPatternChecked s p = .ok r ∧ IsFirstMatch ts s.chars r

/-- The lengths of both strings are `int`s. -/
theorem findsFirst {s p : CStr} (hs : s.strlen < 2 ^ 31) (hp : p.strlen < 2 ^ 31) :
    FindsFirst s p := by
  intro ts htokens hne hplain
  exact ⟨_, matchPatternChecked_eq hs hp, isFirstMatch_matchPattern htokens hne hplain⟩

/-- The pattern `i[37]` in the haystack `Core i7`. -/
theorem findsFirst_core : ∃ r,
    matchPatternChecked ⟨['C', 'o', 'r', 'e', ' ', 'i', '7'], by decide⟩
        ⟨['i', '[', '3', '7', ']'], by decide⟩ = .ok r ∧
      IsFirstMatch [.lit 'i', .oneOf ['3', '7']] ['C', 'o', 'r', 'e', ' ', 'i', '7'] r :=
  findsFirst (by decide) (by decide) _
    (.lit (by decide) (by decide) (by decide) (@TokensOf.oneOf ['3', '7'] [] [] (by decide) .nil))
    (by decide) (by decide)

section Long

variable {s p : CStr}

theorem searchFrom_of_neg {m : Int} (hm : m < 0) {count i r : Nat}
    (h : searchFrom s p m count i = .ok r) : r = 0 := by
  induction count generalizing i with
  | zero => exact (Except.ok.inj h).symm
  | succ count ih =>
    rw [searchFrom] at h
    obtain ⟨c, -, h⟩ := bind_eq_ok.mp h
    obtain ⟨entry, -, h⟩ := bind_eq_ok.mp h
    split at h
    · rw [trialEnd_stop (by omega), ok_bind, if_neg (by omega)] at h
      exact ih h
    · exact ih h

/-- A length that is negative as an `int` ends the search without a match. -/
theorem matchPatternChecked_of_neg {r : Nat} (hneg : toInt32 s.strlen < 0 ∨ toInt32 p.strlen < 0)
    (h : matchPatternChecked s p = .ok r) : r = 0 := by
  rw [matchPatternChecked] at h
  rcases hneg with hneg | hneg
  · rw [Int.toNat_of_nonpos (by omega)] at h
    exact (Except.ok.inj h).symm
  · exact searchFrom_of_neg hneg h

theorem not_findsFirst_of_neg {ts : List Token}
    (hneg : toInt32 s.strlen < 0 ∨ toInt32 p.strlen < 0) (htokens : TokensOf p.chars ts)
    (hne : p.chars ≠ []) (hplain : ∀ c ∈ s.chars, c ≠ '[' ∧ c ≠ '#')
    (hmatch : MatchesAt ts s.chars 0) : ¬FindsFirst s p := by
  intro h
  obtain ⟨r, hr, hfirst⟩ := h ts htokens hne hplain
  have hzero := matchPatternChecked_of_neg hneg hr
  rcases hfirst with ⟨i, hi, -⟩ | ⟨-, hnone⟩
  · omega
  · exact hnone 0 hmatch

end Long

/-- The haystack `a…a` of `n` characters. -/
def longHaystack (n : Nat) : CStr :=
  ⟨List.replicate n 'a', fun h => absurd (List.eq_of_mem_replicate h) (by decide)⟩

/-- The pattern `a[b…b]` with `n` characters in brackets. -/
def longPattern (n : Nat) : CStr := ⟨'a' :: '[' :: (List.replicate n 'b' ++ [']']), by simp⟩

theorem not_findsFirst_longHaystack {n : Nat} (hneg : toInt32 n < 0) :
    ¬FindsFirst (longHaystack n) ⟨['a'], by decide⟩ := by
  have hlen : (longHaystack n).strlen = n := List.length_replicate
  have hpos : n ≠ 0 := by
    rintro rfl
    cases hneg
  have htokens : TokensOf ['a'] [.lit 'a'] := .lit (by decide) (by decide) (by decide) .nil
  refine not_findsFirst_of_neg (.inl (by rwa [hlen])) htokens (by simp) ?_ ?_
  · intro c hc
    rw [List.eq_of_mem_replicate hc]
    decide
  · obtain ⟨k, rfl⟩ := Nat.exists_eq_succ_of_ne_zero hpos
    simp [MatchesAt, Token.Accepts, longHaystack, List.replicate_succ]

theorem not_findsFirst_longPattern {n : Nat} (hneg : toInt32 (n + 3) < 0) (hn : n ≠ 0) :
    ¬FindsFirst ⟨['a', 'b'], by decide⟩ (longPattern n) := by
  have hlen : (longPattern n).strlen = n + 3 := by simp [CStr.strlen, longPattern]
  have htokens : TokensOf (longPattern n).chars [.lit 'a', .oneOf (List.replicate n 'b')] :=
    .lit (by decide) (by decide) (by decide) (.oneOf (by simp) .nil)
  refine not_findsFirst_of_neg (.inr (by rwa [hlen])) htokens (by simp [longPattern]) (by decide) ?_
  simp [MatchesAt, Token.Accepts, hn]

/-- A haystack and a pattern of 2^31 characters and more match, and the result is 0. -/
theorem not_findsFirst : ¬FindsFirst (longHaystack (2 ^ 31)) ⟨['a'], by decide⟩ ∧
    ¬FindsFirst ⟨['a', 'b'], by decide⟩ (longPattern (2 ^ 31)) :=
  ⟨not_findsFirst_longHaystack (by decide), not_findsFirst_longPattern (by decide) (by decide)⟩

end LibCpuid
