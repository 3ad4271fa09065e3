import Mathlib.Algebra.Group.Nat.Defs
import Mathlib.Data.Fin.Basic
import Mathlib.Data.List.Induction
import Mathlib.Logic.Function.Basic

/-! Computations of a C program that may fault: each array access names the bound that it must
respect, each division its divisor, and so on.  A computation either gives its result or the first
fault that it meets. -/

namespace CLang

/-- Why a computation has no result. -/
inductive Fault
  | outOfBounds
  | divByZero
  | nullPointer
  | shiftTooFar
  | overflow
  | invalidPointer
  deriving DecidableEq, Repr

/-- A computation that may fault. -/
abbrev Checked := Except Fault

section Bind

variable {ε α β : Type}

@[simp] theorem ok_bind (a : α) (f : α → Except ε β) : (Except.ok a >>= f) = f a := rfl

@[simp] theorem error_bind (e : ε) (f : α → Except ε β) :
    ((Except.error e : Except ε α) >>= f) = .error e := rfl

@[simp] theorem pure_eq_ok (a : α) : (pure a : Except ε α) = .ok a := rfl

@[simp] theorem throw_eq_error (e : ε) : (throw e : Except ε α) = .error e := rfl

theorem bind_eq_ok {x : Except ε α} {f : α → Except ε β} {b : β} :
    (x >>= f) = .ok b ↔ ∃ a, x = .ok a ∧ f a = .ok b := by
  cases x <;> simp

theorem bind_eq_error {x : Except ε α} {f : α → Except ε β} {e : ε} :
    (x >>= f) = .error e ↔ x = .error e ∨ ∃ a, x = .ok a ∧ f a = .error e := by
  cases x <;> simp

/-- The computation gives a result with the property. -/
def yields (x : Except ε α) (p : α → Bool) : Bool :=
  match x with
  | .ok a => p a
  | .error _ => false

theorem exists_of_yields {x : Except ε α} {p : α → Bool} (h : yields x p = true) :
    ∃ a, x = .ok a ∧ p a = true := by
  cases x with
  | error e => cases h
  | ok a => exact ⟨a, rfl, h⟩

theorem exists_of_yields_fst [DecidableEq α] {x : Except ε (α × β)} {a : α}
    (h : yields x (fun r => decide (r.1 = a)) = true) : ∃ b, x = .ok (a, b) := by
  obtain ⟨⟨a', b⟩, rfl, heq⟩ := exists_of_yields h
  exact ⟨b, by rw [← of_decide_eq_true heq]⟩

/-- The computation does not end with the error `e`. -/
def Avoids (e : ε) (x : Except ε α) : Prop := x ≠ .error e

@[simp] theorem avoids_ok (e : ε) (a : α) : Avoids e (.ok a) := by simp [Avoids]

@[simp] theorem avoids_error {e e' : ε} : Avoids e (.error e' : Except ε α) ↔ e' ≠ e := by
  simp [Avoids]

/-- A sequence avoids an error when its first part does, and its second part does on the result of
the first. -/
theorem avoids_bind {e : ε} {x : Except ε α} {f : α → Except ε β} :
    Avoids e (x >>= f) ↔ Avoids e x ∧ ∀ a, x = .ok a → Avoids e (f a) := by
  cases x <;> simp [Avoids]

end Bind

section Arrays

variable {α : Type} {n : Nat}

/-- The element `a[i]`. -/
def load (a : Fin n → α) (i : Nat) : Checked α :=
  if h : i < n then .ok (a ⟨i, h⟩) else .error .outOfBounds

/-- The array after `a[i] = v`. -/
def store (a : Fin n → α) (i : Nat) (v : α) : Checked (Fin n → α) :=
  if h : i < n then .ok (Function.update a ⟨i, h⟩ v) else .error .outOfBounds

theorem load_of_lt (a : Fin n → α) {i : Nat} (h : i < n) : load a i = .ok (a ⟨i, h⟩) := by
  simp [load, h]

theorem load_of_le (a : Fin n → α) {i : Nat} (h : n ≤ i) : load a i = .error .outOfBounds := by
  simp [load, Nat.not_lt.mpr h]

theorem store_of_lt (a : Fin n → α) {i : Nat} (h : i < n) (v : α) :
    store a i v = .ok (Function.update a ⟨i, h⟩ v) := by
  simp [store, h]

theorem store_of_le (a : Fin n → α) {i : Nat} (h : n ≤ i) (v : α) :
    store a i v = .error .outOfBounds := by
  simp [store, Nat.not_lt.mpr h]

theorem store_eq_ok {a b : Fin n → α} {i : Nat} {v : α} :
    store a i v = .ok b ↔ ∃ h : i < n, b = Function.update a ⟨i, h⟩ v := by
  unfold store
  split <;> simp_all [eq_comm]

theorem avoids_store {a : Fin n → α} {i : Nat} {v : α} :
    Avoids .outOfBounds (store a i v) ↔ i < n := by
  unfold store
  split <;> simp [*]

/-- The element `a[i]` of an array that grows, whose bound is its length. -/
def loadList (a : List α) (i : Nat) : Checked α :=
  match a[i]? with
  | some v => .ok v
  | none => .error .outOfBounds

/-- The array after `a[i] = v`, for an array that grows. -/
def storeList (a : List α) (i : Nat) (v : α) : Checked (List α) :=
  if i < a.length then .ok (a.set i v) else .error .outOfBounds

theorem loadList_of_lt {a : List α} {i : Nat} (h : i < a.length) : loadList a i = .ok a[i] := by
  simp [loadList, h]

theorem loadList_of_le {a : List α} {i : Nat} (h : a.length ≤ i) :
    loadList a i = .error .outOfBounds := by
  simp [loadList, h]

theorem loadList_eq_ok {a : List α} {i : Nat} {v : α} : loadList a i = .ok v ↔ a[i]? = some v := by
  unfold loadList
  split <;> simp_all

theorem storeList_of_lt {a : List α} {i : Nat} (h : i < a.length) (v : α) :
    storeList a i v = .ok (a.set i v) := by
  simp [storeList, h]

end Arrays

section Loops

variable {ε α σ : Type}

/-- The states of a loop over the elements of a list, in order, from the index `k` on. -/
def loop (step : Nat → α → σ → Except ε σ) : List α → Nat → σ → Except ε σ
  | [], _, s => .ok s
  | a :: rest, k, s => do
    let s' ← step k a s
    loop step rest (k + 1) s'

theorem loop_append (step : Nat → α → σ → Except ε σ) (xs ys : List α) (k : Nat) (s : σ) :
    loop step (xs ++ ys) k s = (do
      let s' ← loop step xs k s
      loop step ys (k + xs.length) s') := by
  induction xs generalizing k s with
  | nil => simp [loop]
  | cons x xs ih =>
    simp only [List.cons_append, loop, List.length_cons]
    cases step k x s with
    | error e => rfl
    | ok s' =>
      rw [ok_bind, ok_bind, ih, show k + 1 + xs.length = k + (xs.length + 1) by omega]

/-- What holds of the empty prefix at the start, and is kept by each step, holds of the list when
the loop ends. -/
theorem loop_induct {step : Nat → α → σ → Except ε σ} {s0 : σ} (P : List α → σ → Prop)
    (h0 : P [] s0)
    (hstep : ∀ done a s s', P done s → step done.length a s = .ok s' → P (done ++ [a]) s')
    {xs : List α} {s : σ} (h : loop step xs 0 s0 = .ok s) : P xs s := by
  induction xs using List.reverseRecOn generalizing s with
  | nil =>
    obtain rfl : s0 = s := by simpa [loop] using h
    exact h0
  | append_singleton xs x ih =>
    rw [loop_append, bind_eq_ok] at h
    obtain ⟨s1, h1, h2⟩ := h
    rw [loop, bind_eq_ok] at h2
    obtain ⟨s2, h2, h3⟩ := h2
    obtain rfl : s2 = s := by simpa [loop] using h3
    rw [Nat.zero_add] at h2
    exact hstep xs x s1 s2 (ih h1) h2

/-- A loop fails where one of its steps does, after steps that did not. -/
theorem loop_eq_error_iff {step : Nat → α → σ → Except ε σ} {s0 : σ} {xs : List α} {e : ε} :
    loop step xs 0 s0 = .error e ↔
      ∃ k a s, xs[k]? = some a ∧ loop step (xs.take k) 0 s0 = .ok s ∧ step k a s = .error e := by
  induction xs using List.reverseRecOn with
  | nil => simp [loop]
  | append_singleton xs x ih =>
    rw [loop_append, bind_eq_error, ih]
    constructor
    · rintro (⟨k, a, s, ha, hs, he⟩ | ⟨s, hs, he⟩)
      · have hk : k < xs.length := (List.getElem?_eq_some_iff.mp ha).1
        exact ⟨k, a, s, by rw [List.getElem?_append_left hk, ha],
          by rw [List.take_append_of_le_length hk.le, hs], he⟩
      · refine ⟨xs.length, x, s, by simp, by simpa using hs, ?_⟩
        rw [loop, bind_eq_error] at he
        rcases he with he | ⟨s', -, he⟩
        · rwa [Nat.zero_add] at he
        · cases he
    · rintro ⟨k, a, s, ha, hs, he⟩
      rcases Nat.lt_or_ge k xs.length with hk | hk
      · rw [List.getElem?_append_left hk] at ha
        rw [List.take_append_of_le_length hk.le] at hs
        exact .inl ⟨k, a, s, ha, hs, he⟩
      · obtain ⟨hlt, hax⟩ := List.getElem?_eq_some_iff.mp ha
        have hk' : k = xs.length := by
          simp only [List.length_append, List.length_singleton] at hlt
          omega
        subst hk'
        obtain rfl : x = a := by simpa using hax
        refine .inr ⟨s, by simpa using hs, ?_⟩
        rw [loop, Nat.zero_add, he, error_bind]

/-- A loop avoids an error when each of its steps does, from the state that the steps before it
left. -/
theorem avoids_loop {step : Nat → α → σ → Except ε σ} {s0 : σ} {xs : List α} {e : ε} :
    Avoids e (loop step xs 0 s0) ↔
      ∀ k a s, xs[k]? = some a → loop step (xs.take k) 0 s0 = .ok s → Avoids e (step k a s) := by
  simp only [Avoids, ne_eq, loop_eq_error_iff, not_exists, not_and]

/-- A fold whose steps fault unless a test of the element passes. -/
theorem foldlM_guarded {p : α → Prop} [DecidablePred p] {e : ε} {step : σ → α → Except ε σ}
    {next : σ → α → σ} (hstep : ∀ s a, step s a = if p a then .ok (next s a) else .error e)
    (as : List α) (s : σ) :
    as.foldlM step s = if ∀ a ∈ as, p a then .ok (as.foldl next s) else .error e := by
  induction as generalizing s with
  | nil => simp
  | cons a as ih =>
    rw [List.foldlM_cons, hstep]
    by_cases ha : p a
    · simp [ha, ih]
    · simp [ha]

end Loops

end CLang
