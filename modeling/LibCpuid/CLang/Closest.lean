import LibCpuid.CLang.Checked
import Mathlib.Algebra.Order.Group.Unbundled.Int
import Mathlib.Order.Defs.LinearOrder
import Mathlib.Tactic.Linarith

/-! Signed arithmetic that faults when the result does not fit, and a vote among measurements: a
scan keeps the candidate with the least key, and the mean of the two measurements that lie closest
together is near the truth when all but one of them are. -/

namespace CLang

/-! ### Signed arithmetic -/

/-- The result of an operation on values of type `int`, which must fit in the type. -/
def intResult (x : Int) : Checked Int :=
  if -2 ^ 31 ≤ x ∧ x < 2 ^ 31 then .ok x else .error .overflow

theorem intResult_of_fits {x : Int} (hlow : -2 ^ 31 ≤ x) (hhigh : x < 2 ^ 31) :
    intResult x = .ok x := if_pos ⟨hlow, hhigh⟩

/-- An element of an array, at an index of type `int`. -/
def loadInt {α : Type} (a : List α) (i : Int) : Checked α :=
  if 0 ≤ i then loadList a i.toNat else .error .outOfBounds

theorem loadInt_of_lt {α : Type} {a : List α} {i : Nat} (h : i < a.length) :
    loadInt a i = .ok a[i] := by
  rw [loadInt, if_pos (Int.natCast_nonneg i)]
  exact loadList_of_lt h

section Sums

variable {γ : Type}

/-- A loop that gives a result has added the weight of each element. -/
theorem eq_of_foldlM_add {f : Int → γ → Checked Int} {w : γ → Int}
    (hf : ∀ s x t, f s x = .ok t → t = s + w x) {xs : List γ} {s t : Int}
    (h : xs.foldlM f s = .ok t) : t = s + (xs.map w).sum := by
  induction xs generalizing s with
  | nil =>
    obtain rfl : s = t := Except.ok.inj h
    simp
  | cons x xs ih =>
    rw [List.foldlM_cons, bind_eq_ok] at h
    obtain ⟨s', hx, hrest⟩ := h
    rw [ih hrest, hf _ _ _ hx, List.map_cons, List.sum_cons, add_assoc]

/-- A sum of values of type `int`, each of whose partial sums fits in the type. -/
theorem foldlM_intResult_add {xs : List Int} {s : Int}
    (h : ∀ k ≤ xs.length, -2 ^ 31 ≤ s + (xs.take k).sum ∧ s + (xs.take k).sum < 2 ^ 31) :
    xs.foldlM (fun s x => intResult (s + x)) s = .ok (s + xs.sum) := by
  induction xs generalizing s with
  | nil => simp
  | cons x xs ih =>
    have hfits : -2 ^ 31 ≤ s + x ∧ s + x < 2 ^ 31 := by
      simpa using h 1 (by simp)
    rw [List.foldlM_cons, intResult_of_fits hfits.1 hfits.2, ok_bind, ih, List.sum_cons, add_assoc]
    intro k hk
    have hprefix := h (k + 1) (Nat.succ_le_succ hk)
    rwa [List.take_succ_cons, List.sum_cons, ← add_assoc] at hprefix

/-- A loop whose every round adds the same amount, where the sum fits. -/
theorem foldlM_add_const {f : Int → γ → Checked Int} {c bound : Int} (hc : 0 ≤ c)
    (hf : ∀ s x, 0 ≤ s → s + c < bound → f s x = .ok (s + c)) (xs : List γ) {s : Int}
    (hs : 0 ≤ s) (h : s + xs.length * c < bound) : xs.foldlM f s = .ok (s + xs.length * c) := by
  induction xs generalizing s with
  | nil => simp
  | cons x xs ih =>
    have hrest : 0 ≤ (xs.length : Int) * c := mul_nonneg (Int.natCast_nonneg _) hc
    have hsum : s + (x :: xs).length * c = s + c + xs.length * c := by
      rw [List.length_cons, Nat.cast_succ, add_mul, one_mul]
      omega
    rw [hsum] at h ⊢
    rw [List.foldlM_cons, hf s x hs (by omega), ok_bind]
    exact ih (by omega) h

end Sums

/-! ### The scan for the least key -/

section Least

variable {α κ : Type} [LinearOrder κ] (key : α → κ)

/-- A step of the scan: the least key so far, and the candidate that has it. -/
def keepLess (best : κ × Option α) (a : α) : κ × Option α :=
  if key a < best.1 then (key a, some a) else best

/-- What the scan of `xs` has found when it started with no candidate. -/
structure IsLeast (bound : κ) (xs : List α) (best : κ × Option α) : Prop where
  le_bound : best.1 ≤ bound
  le_key : ∀ a ∈ xs, best.1 ≤ key a
  found : ∀ a, best.2 = some a → a ∈ xs ∧ key a = best.1
  missed : best.2 = none → best.1 = bound

theorem isLeast_nil (bound : κ) : IsLeast key bound [] (bound, none) where
  le_bound := le_refl bound
  le_key := by simp
  found := by simp
  missed _ := rfl

theorem IsLeast.keepLess {bound : κ} {xs : List α} {best : κ × Option α}
    (h : IsLeast key bound xs best) (a : α) :
    IsLeast key bound (xs ++ [a]) (keepLess key best a) := by
  unfold CLang.keepLess
  split
  case isTrue hlt =>
    refine ⟨hlt.le.trans h.le_bound, ?_, ?_, by simp⟩
    · intro b hb
      rcases List.mem_append.mp hb with hb | hb
      · exact hlt.le.trans (h.le_key b hb)
      · rw [List.mem_singleton.mp hb]
    · rintro b ⟨⟩
      exact ⟨by simp, rfl⟩
  case isFalse hge =>
    refine ⟨h.le_bound, ?_, ?_, h.missed⟩
    · intro b hb
      rcases List.mem_append.mp hb with hb | hb
      · exact h.le_key b hb
      · rw [List.mem_singleton.mp hb]
        exact not_lt.mp hge
    · intro b hb
      obtain ⟨hmem, hkey⟩ := h.found b hb
      exact ⟨List.mem_append_left _ hmem, hkey⟩

/-- The scan finds the least key, if one of the keys is below the bound. -/
theorem isLeast_foldl (bound : κ) (xs : List α) :
    IsLeast key bound xs (xs.foldl (CLang.keepLess key) (bound, none)) := by
  induction xs using List.reverseRecOn with
  | nil => exact isLeast_nil key bound
  | append_singleton xs a ih =>
    rw [List.foldl_append]
    exact ih.keepLess key a

theorem IsLeast.exists_of_lt {bound : κ} {xs : List α} {best : κ × Option α}
    (h : IsLeast key bound xs best) {a : α} (ha : a ∈ xs) (hlt : key a < bound) :
    ∃ b, best.2 = some b := by
  cases hb : best.2 with
  | some b => exact ⟨b, rfl⟩
  | none =>
    have hle := h.le_key a ha
    rw [h.missed hb] at hle
    exact absurd hlt (not_lt.mpr hle)

end Least

/-! ### The mean of two measurements -/

/-- Half a sum that is near `2 * f` is near `f`, also when the division truncates. -/
theorem abs_tdiv_two_sub_le {s f δ : Int} (h : |s - 2 * f| ≤ 2 * δ) : |s.tdiv 2 - f| ≤ δ := by
  rw [abs_le] at h ⊢
  have htwo : (2 : Int).sign = 1 := rfl
  rw [Int.tdiv_eq_ediv, htwo]
  split <;> omega

/-- Two measurements that lie closer together than two good ones must, one of which is good. -/
theorem abs_mean_sub_le {a b f ε : Int} (hclose : |a - b| ≤ 2 * ε) (ha : |a - f| ≤ ε) :
    |(a + b).tdiv 2 - f| ≤ 2 * ε := by
  apply abs_tdiv_two_sub_le
  rw [abs_le] at hclose ha ⊢
  omega

end CLang
