import LibCpuid.MatchPattern

/-! Strings that a pattern matches, and letters that every such string has.  Both are computed from
the tokens of the pattern. -/

namespace LibCpuid

open CLang

/-! ### Tokens -/

/-- The tokens of a pattern, from where the characters of an open bracket, last one first, have been
read. -/
def tokensFrom : Option (List Char) → List Char → Option (List Token)
  | none, [] => some []
  | some _, [] => none
  | none, c :: p =>
    if c = '.' then (tokensFrom none p).map (.any :: ·)
    else if c = '#' then (tokensFrom none p).map (.digit :: ·)
    else if c = '[' then tokensFrom (some []) p
    else (tokensFrom none p).map (.lit c :: ·)
  | some chars, c :: p =>
    if c = ']' then
      if chars.isEmpty then none else (tokensFrom none p).map (.oneOf chars.reverse :: ·)
    else tokensFrom (some (c :: chars)) p

/-- A character that a token accepts. -/
def Token.sample : Token → Char
  | .any => 'x'
  | .digit => '0'
  | .oneOf chars => chars.getLastD 'x'
  | .lit c => c

/-- The tokens are those of the pattern, and each accepts its sample. -/
structure Tokenized (p : List Char) (ts : List Token) : Prop where
  tokensOf : TokensOf p ts
  sample : ∀ t ∈ ts, t.Accepts t.sample

theorem Tokenized.cons {p q : List Char} {t : Token} {ts : List Token} (h : Tokenized p ts)
    (htokens : TokensOf p ts → TokensOf q (t :: ts)) (ht : t.Accepts t.sample) :
    Tokenized q (t :: ts) :=
  ⟨htokens h.tokensOf, List.forall_mem_cons.mpr ⟨ht, h.sample⟩⟩

theorem accepts_oneOf_sample {chars : List Char} (h : chars ≠ []) :
    (Token.oneOf chars).Accepts (Token.oneOf chars).sample := by
  rw [Token.sample, List.getLastD_eq_getLast?, List.getLast?_eq_some_getLast h]
  exact ⟨_, List.getLast_mem h, rfl⟩

/-- What follows the characters of an open bracket closes it, and then come tokens. -/
theorem tokensFrom_spec {p : List Char} {ts : List Token} :
    (tokensFrom none p = some ts → Tokenized p ts) ∧
      ∀ chars, ']' ∉ chars → tokensFrom (some chars) p = some ts →
        Tokenized ('[' :: (chars.reverse ++ p)) ts := by
  induction p generalizing ts with
  | nil =>
    constructor
    · intro h
      obtain rfl := Option.some.inj h
      exact ⟨.nil, fun t ht => absurd ht List.not_mem_nil⟩
    · intro chars _ h
      cases h
  | cons c p ih =>
    have hnone (ts : List Token) (hts : tokensFrom none p = some ts) : Tokenized p ts :=
      ih.1 hts
    constructor
    · intro h
      rw [tokensFrom] at h
      split_ifs at h with hany hdigit hopen
      · obtain ⟨ts, hts, rfl⟩ := Option.map_eq_some_iff.mp h
        exact hany ▸ (hnone ts hts).cons .any trivial
      · obtain ⟨ts, hts, rfl⟩ := Option.map_eq_some_iff.mp h
        exact hdigit ▸ (hnone ts hts).cons .digit rfl
      · exact hopen ▸ ih.2 [] List.not_mem_nil h
      · obtain ⟨ts, hts, rfl⟩ := Option.map_eq_some_iff.mp h
        exact (hnone ts hts).cons (.lit hany hdigit hopen) rfl
    · intro chars hchars h
      rw [tokensFrom] at h
      split_ifs at h with hclose hempty
      · obtain ⟨ts, hts, rfl⟩ := Option.map_eq_some_iff.mp h
        have hne : chars.reverse ≠ [] := by simpa using hempty
        subst hclose
        exact (hnone ts hts).cons (.oneOf (by simpa using hchars)) (accepts_oneOf_sample hne)
      · have := ih.2 (c :: chars) (by simp [hchars, Ne.symm hclose]) h
        simpa using this

theorem tokenized_of_tokensFrom {p : List Char} {ts : List Token}
    (h : tokensFrom none p = some ts) : Tokenized p ts :=
  tokensFrom_spec.1 h

/-! ### A string that a pattern matches -/

/-- The string has no character that `xmatch_entry` takes for a literal before it looks at what it
stands for in a pattern. -/
def IsPlain (s : List Char) : Prop := ∀ c ∈ s, c ≠ '[' ∧ c ≠ '#'

instance (s : List Char) : Decidable (IsPlain s) := inferInstanceAs (Decidable (∀ c ∈ s, _))

theorem matchPattern_sample {p : List Char} {ts : List Token} (h : Tokenized p ts) (hp : p ≠ [])
    (hplain : IsPlain (ts.map Token.sample)) : matchPattern (ts.map Token.sample) p ≠ 0 := by
  have hhere : MatchesAt ts (ts.map Token.sample) 0 := by
    rw [MatchesAt, List.drop_zero, List.take_of_length_le (by simp), List.forall₂_map_right_iff,
      List.forall₂_same]
    exact h.sample
  rcases isFirstMatch_matchPattern h.tokensOf hp hplain with ⟨i, hi, -⟩ | ⟨-, hnone⟩
  · rw [hi]
    exact Nat.succ_ne_zero i
  · exact absurd hhere (hnone 0)

/-! ### Letters -/

/-- The letters of a string, upper and lower case alike, as bits. -/
def letterSet (s : List Char) : Nat := s.foldr (fun c n => Nat.lor (2 ^ c.toLower.toNat) n) 0

/-- The characters that a pattern asks for. -/
def literals (ts : List Token) : List Char :=
  ts.filterMap fun t =>
    match t with
    | .lit c => some c
    | _ => none

/-- The first set has no element that the second one lacks. -/
def includes (b a : Nat) : Bool := Nat.beq (Nat.land a b) a

theorem includes_iff {a b : Nat} : includes b a = true ↔ a &&& b = a :=
  (Nat.beq_eq ▸ Iff.rfl : Nat.beq (Nat.land a b) a = true ↔ Nat.land a b = a)

theorem testBit_letterSet {s : List Char} {i : Nat} :
    (letterSet s).testBit i = true ↔ ∃ c ∈ s, c.toLower.toNat = i := by
  induction s with
  | nil => simp [letterSet]
  | cons c s ih =>
    have hcons : letterSet (c :: s) = 2 ^ c.toLower.toNat ||| letterSet s := rfl
    rw [hcons, Nat.testBit_or, Bool.or_eq_true, ih, Nat.testBit_two_pow, List.exists_mem_cons_iff]
    simp

/-- A string has the letters of one whose characters it has. -/
theorem includes_letterSet {s t : List Char} (h : ∀ c ∈ s, ∃ d ∈ t, c.toLower = d.toLower) :
    includes (letterSet t) (letterSet s) = true := by
  rw [includes_iff]
  apply Nat.eq_of_testBit_eq
  intro i
  rw [Nat.testBit_and]
  cases hi : (letterSet s).testBit i with
  | false => rfl
  | true =>
    obtain ⟨c, hc, hcode⟩ := testBit_letterSet.mp hi
    obtain ⟨d, hd, hlower⟩ := h c hc
    rw [Bool.true_and]
    exact testBit_letterSet.mpr ⟨d, hd, hlower ▸ hcode⟩

/-- A string that a pattern matches has the letters that the pattern asks for. -/
theorem includes_of_matchPattern {s p : List Char} {ts : List Token} (h : TokensOf p ts)
    (hplain : IsPlain s) (hmatch : matchPattern s p ≠ 0) :
    includes (letterSet s) (letterSet (literals ts)) = true := by
  apply includes_letterSet
  intro c hc
  obtain ⟨t, ht, htc⟩ := List.mem_filterMap.mp hc
  have hp : p ≠ [] := by
    rintro rfl
    cases h
    cases ht
  rcases isFirstMatch_matchPattern h hp hplain with ⟨i, -, hi⟩ | ⟨hzero, -⟩
  · have haccepts := hi.1
    obtain ⟨n, hn, rfl⟩ := List.mem_iff_getElem.mp ht
    have hlen := haccepts.length_eq
    have haccept := haccepts.get hn (hlen ▸ hn)
    refine ⟨_, List.mem_of_mem_drop (List.mem_of_mem_take (List.getElem_mem (hlen ▸ hn))), ?_⟩
    split at htc
    case h_1 q hq =>
      obtain rfl := Option.some.inj htc
      rw [List.get_eq_getElem, hq] at haccept
      exact haccept
    case h_2 => cases htc
  · exact absurd hzero hmatch

end LibCpuid
