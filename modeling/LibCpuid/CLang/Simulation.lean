import LibCpuid.CLang.Checked

/-! Simulation between computations that may fail: every result of the first is matched by a result
of the second, in a relation that the next computation may rely on. -/

namespace CLang

/-- Every result of `x` is matched by a result of `y`. -/
def Simulates {ε ε' σ τ : Type} (R : σ → τ → Prop) (x : Except ε σ) (y : Except ε' τ) : Prop :=
  ∀ s, x = .ok s → ∃ t, y = .ok t ∧ R s t

namespace Simulates

variable {ε ε' α β σ τ σ' τ' : Type} {R : σ → τ → Prop} {R' : σ' → τ' → Prop}

theorem ok {s : σ} {t : τ} (h : R s t) :
    Simulates R (.ok s : Except ε σ) (.ok t : Except ε' τ) := by
  rintro s' ⟨⟩
  exact ⟨t, rfl, h⟩

theorem error (e : ε) (y : Except ε' τ) : Simulates R (.error e : Except ε σ) y := by
  rintro s' ⟨⟩

theorem of_eq {x : Except ε σ} {y : Except ε σ} (h : x = y) : Simulates (· = ·) x y :=
  fun s hs => ⟨s, h ▸ hs, rfl⟩

theorem bind {x : Except ε σ} {y : Except ε' τ} {f : σ → Except ε σ'} {g : τ → Except ε' τ'}
    (h : Simulates R x y) (hnext : ∀ s t, R s t → Simulates R' (f s) (g t)) :
    Simulates R' (x >>= f) (y >>= g) := by
  intro s' hs'
  obtain ⟨s, hs, hf⟩ := bind_eq_ok.mp hs'
  obtain ⟨t, ht, hR⟩ := h s hs
  obtain ⟨t', ht', hR'⟩ := hnext s t hR s' hf
  exact ⟨t', bind_eq_ok.mpr ⟨t, ht, ht'⟩, hR'⟩

theorem ite {p q : Prop} [Decidable p] [Decidable q] {x x' : Except ε σ} {y y' : Except ε' τ}
    (hpq : p ↔ q) (h : Simulates R x y) (h' : Simulates R x' y') :
    Simulates R (if p then x else x') (if q then y else y') := by
  by_cases hp : p
  · rwa [if_pos hp, if_pos (hpq.mp hp)]
  · rwa [if_neg hp, if_neg (fun hq => hp (hpq.mpr hq))]

/-- A loop simulates another when its steps do, on elements that correspond. -/
theorem loop {S : α → β → Prop} {step : Nat → α → σ → Except ε σ}
    {step' : Nat → β → τ → Except ε' τ}
    (hstep : ∀ k a b s t, S a b → R s t → Simulates R (step k a s) (step' k b t))
    {xs : List α} {ys : List β} (h : List.Forall₂ S xs ys) {k : Nat} {s : σ} {t : τ}
    (hR : R s t) : Simulates R (CLang.loop step xs k s) (CLang.loop step' ys k t) := by
  induction h generalizing k s t with
  | nil => exact ok hR
  | cons hab _ ih => exact (hstep k _ _ s t hab hR).bind fun s' t' hR' => ih hR'

end Simulates

end CLang
