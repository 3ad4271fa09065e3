import LibCpuid.CLang.Checked

/-! Functions with static variables, which hold results of earlier calls.  A function is transparent
when its result is the same from every state that satisfies an invariant: then the calls of a run
give what each of them would give in a process of its own. -/

namespace CLang

variable {ε σ α β γ : Type}

/-- From every state with `P` the function gives the same result, and it leaves a state with `Q`. -/
def Transparent (P Q : σ → Prop) (f : σ → Except ε (α × σ)) : Prop :=
  ∃ x : Except ε α, ∀ s, P s → (f s).map Prod.fst = x ∧ ∀ r, f s = .ok r → Q r.2

namespace Transparent

variable {P Q R : σ → Prop} {f : σ → Except ε (α × σ)}

/-- A function that always returns the same. -/
theorem of_returns (a : α) (h : ∀ s, P s → ∃ s', f s = .ok (a, s') ∧ Q s') :
    Transparent P Q f := by
  refine ⟨.ok a, fun s hs => ?_⟩
  obtain ⟨s', hf, hs'⟩ := h s hs
  rw [hf]
  refine ⟨rfl, ?_⟩
  rintro r ⟨⟩
  exact hs'

theorem ok (a : α) (h : ∀ s, P s → Q s) :
    Transparent P Q (fun s => (.ok (a, s) : Except ε (α × σ))) :=
  of_returns a fun s hs => ⟨s, rfl, h s hs⟩

/-- A computation that does not look at the state. -/
theorem of_checked (x : Except ε α) (h : ∀ s, P s → Q s) :
    Transparent P Q fun s => x >>= fun a => .ok (a, s) := by
  cases x with
  | error e => exact ⟨.error e, fun s _ => ⟨rfl, fun r hr => by cases hr⟩⟩
  | ok a => exact ok a h

theorem bind {g : α → σ → Except ε (β × σ)} (hf : Transparent P Q f)
    (hg : ∀ a, Transparent Q R (g a)) : Transparent P R fun s => f s >>= fun r => g r.1 r.2 := by
  obtain ⟨x, hx⟩ := hf
  choose y hy using hg
  refine ⟨x >>= y, fun s hs => ?_⟩
  obtain ⟨hfx, hQ⟩ := hx s hs
  dsimp only
  cases hfs : f s with
  | error e =>
    rw [hfs] at hfx
    exact ⟨by rw [← hfx]; rfl, fun r hr => by cases hr⟩
  | ok r =>
    rw [hfs] at hfx
    obtain ⟨hgy, hR⟩ := hy r.1 r.2 (hQ r hfs)
    exact ⟨by rw [← hfx]; exact hgy, hR⟩

theorem mono {Q' : σ → Prop} (hf : Transparent P Q f) (h : ∀ s, Q s → Q' s) :
    Transparent P Q' f := by
  obtain ⟨x, hx⟩ := hf
  exact ⟨x, fun s hs => ⟨(hx s hs).1, fun r hr => h r.2 ((hx s hs).2 r hr)⟩⟩

theorem congr {g : σ → Except ε (α × σ)} (hf : Transparent P Q f) (h : ∀ s, P s → g s = f s) :
    Transparent P Q g := by
  obtain ⟨x, hx⟩ := hf
  exact ⟨x, fun s hs => h s hs ▸ hx s hs⟩

/-- A test that comes out the same in every state. -/
theorem ite {c : σ → Prop} [DecidablePred c] {C : Prop} {g : σ → Except ε (α × σ)}
    (hc : ∀ s, P s → (c s ↔ C)) (hf : Transparent P Q f) (hg : Transparent P Q g) :
    Transparent P Q fun s => if c s then f s else g s := by
  by_cases hC : C
  · exact hf.congr fun s hs => if_pos ((hc s hs).mpr hC)
  · exact hg.congr fun s hs => if_neg fun h => hC ((hc s hs).mp h)

/-- The results of a transparent function from two states. -/
theorem map_fst_eq (hf : Transparent P Q f) {s t : σ} (hs : P s) (ht : P t) :
    (f s).map Prod.fst = (f t).map Prod.fst := by
  obtain ⟨x, hx⟩ := hf
  exact (hx s hs).1.trans (hx t ht).1.symm

theorem preserves (hf : Transparent P Q f) {s s' : σ} {a : α} (hs : P s)
    (h : f s = .ok (a, s')) : Q s' := by
  obtain ⟨x, hx⟩ := hf
  exact (hx s hs).2 _ h

end Transparent

/-- Some calls, one after the other, on the variables that each leaves to the next. -/
def runCalls (f : γ → σ → Except ε (α × σ)) : List γ → σ → Except ε (List α × σ)
  | [], s => .ok ([], s)
  | c :: cs, s => do
    let (a, s) ← f c s
    let (as, s) ← runCalls f cs s
    .ok (a :: as, s)

theorem runCalls_cons_congr {f g : γ → σ → Except ε (α × σ)} {c : γ} {cs : List γ} {s : σ}
    (hc : f c s = g c s) (h : ∀ a s', f c s = .ok (a, s') → runCalls f cs s' = runCalls g cs s') :
    runCalls f (c :: cs) s = runCalls g (c :: cs) s := by
  rw [runCalls, runCalls, ← hc]
  cases hfs : f c s with
  | error e => rfl
  | ok r =>
    obtain ⟨a, s'⟩ := r
    rw [ok_bind, ok_bind]
    dsimp only
    rw [h a s' hfs]

/-- Two functions that agree on the states which the first one keeps have the same runs. -/
theorem runCalls_congr {P : σ → Prop} {f g : γ → σ → Except ε (α × σ)} {cs : List γ}
    (hkeep : ∀ c ∈ cs, ∀ s a s', P s → f c s = .ok (a, s') → P s')
    (heq : ∀ c ∈ cs, ∀ s, P s → f c s = g c s) {s : σ} (hs : P s) :
    runCalls f cs s = runCalls g cs s := by
  induction cs generalizing s with
  | nil => rfl
  | cons c cs ih =>
    have hmem := List.mem_cons_self (a := c) (l := cs)
    refine runCalls_cons_congr (heq c hmem s hs) fun a s' hfs => ?_
    exact ih (fun c' h => hkeep c' (List.mem_cons_of_mem _ h))
      (fun c' h => heq c' (List.mem_cons_of_mem _ h)) (hkeep c hmem s a s' hs hfs)

/-- A run of transparent calls gives what each call gives from the start. -/
theorem runCalls_eq_mapM {P : σ → Prop} {f : γ → σ → Except ε (α × σ)} {start : σ}
    (hstart : P start) {cs : List γ} (h : ∀ c ∈ cs, Transparent P P (f c)) {s : σ} (hs : P s) :
    (runCalls f cs s).map Prod.fst = cs.mapM fun c => (f c start).map Prod.fst := by
  induction cs generalizing s with
  | nil => rfl
  | cons c cs ih =>
    have hc := h c (List.mem_cons_self ..)
    rw [List.mapM_cons, ← hc.map_fst_eq hs hstart, runCalls]
    cases hfs : f c s with
    | error e => rfl
    | ok r =>
      obtain ⟨a, s'⟩ := r
      have hih := ih (fun c' hmem => h c' (List.mem_cons_of_mem _ hmem)) (hc.preserves hs hfs)
      rw [ok_bind, ← hih]
      dsimp only
      cases runCalls f cs s' <;> rfl

end CLang
