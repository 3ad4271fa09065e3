import LibCpuid.CLang.Checked

/-! Strings of a C program, read through a pointer, and the `int`s that count their characters. -/

namespace CLang

/-- A string, as the characters in front of its NUL. -/
structure CStr where
  chars : List Char
  noNul : '\x00' ∉ chars

/-- The conversion of a length to `int`. -/
def toInt32 (n : Nat) : Int := (n : Int).bmod (2 ^ 32)

theorem toInt32_of_lt {n : Nat} (h : n < 2 ^ 31) : toInt32 n = n :=
  Int.bmod_eq_of_le (by omega) (by omega)

/-- An `int` that is not negative, after an addition. -/
def checkInt (n : Nat) : Checked Nat := if n < 2 ^ 31 then .ok n else .error .overflow

theorem checkInt_of_lt {n : Nat} (h : n < 2 ^ 31) : checkInt n = .ok n := if_pos h

namespace CStr

variable (s : CStr)

def strlen : Nat := s.chars.length

/-- The character `s[i]`, which may be the NUL. -/
def get (i : Nat) : Checked Char := loadList (s.chars ++ ['\x00']) i

/-- The pointer `s + i`. -/
def advance (i : Nat) : Checked CStr :=
  if i ≤ s.strlen then .ok ⟨s.chars.drop i, fun h => s.noNul (List.mem_of_mem_drop h)⟩
  else .error .outOfBounds

variable {s}

theorem drop_eq_cons {i : Nat} (h : i < s.strlen) : ∃ c rest, s.chars.drop i = c :: rest := by
  apply List.exists_cons_of_length_pos
  rw [List.length_drop]
  exact Nat.sub_pos_of_lt h

theorem get_of_drop {i : Nat} {c : Char} {rest : List Char} (h : s.chars.drop i = c :: rest) :
    s.get i = .ok c ∧ c ≠ '\x00' ∧ i < s.strlen ∧ s.chars.drop (i + 1) = rest := by
  have hi : i < s.chars.length := by
    by_contra hge
    rw [List.drop_of_length_le (Nat.not_lt.mp hge)] at h
    cases h
  have hcons := List.drop_eq_getElem_cons hi
  rw [h] at hcons
  obtain ⟨hc, hrest⟩ := List.cons.inj hcons
  refine ⟨?_, ?_, hi, hrest.symm⟩
  · rw [get, loadList_eq_ok, List.getElem?_append_left hi, hc, List.getElem?_eq_getElem hi]
  · rintro rfl
    exact s.noNul (hc ▸ List.getElem_mem hi)

theorem get_of_drop_nil {i : Nat} (hi : i ≤ s.strlen) (h : s.chars.drop i = []) :
    s.get i = .ok '\x00' ∧ i = s.strlen := by
  have hlen : i = s.chars.length := Nat.le_antisymm hi (List.drop_eq_nil_iff.mp h)
  refine ⟨?_, hlen⟩
  rw [get, loadList_eq_ok, hlen]
  simp

theorem get_of_gt {i : Nat} (hi : s.strlen < i) : s.get i = .error .outOfBounds :=
  loadList_of_le (by rw [List.length_append, List.length_singleton]; exact hi)

theorem advance_of_le {i : Nat} (hi : i ≤ s.strlen) :
    ∃ t, s.advance i = .ok t ∧ t.chars = s.chars.drop i ∧ t.strlen ≤ s.strlen := by
  refine ⟨_, if_pos hi, rfl, ?_⟩
  rw [strlen, strlen, List.length_drop]
  exact Nat.sub_le _ _

theorem le_of_get {i : Nat} {c : Char} (h : s.get i = .ok c) : i ≤ s.strlen := by
  by_contra hgt
  rw [get_of_gt (Nat.not_le.mp hgt)] at h
  cases h

end CStr

end CLang
