import LibCpuid.CLang.Checked
import Mathlib.Data.Finset.Card
import Mathlib.Data.Finset.Image
import Mathlib.Data.Fintype.Card

/-! A table that counts keys with one probe: each key has one slot, the key zero marks a slot as
empty, and a key whose slot holds another key is dropped.  The number of slots in use and the uses
of a slot are counters that wrap.  `Records` says what the table holds after some visits, in
whatever order they came: the counter is the number of slots that the keys mean. -/

namespace CLang

/-- A slot: the key that it holds and how often it was accepted. -/
structure Slot (κ : Type) where
  key : κ
  uses : Nat

/-- A table of `n` slots and the number of slots in use. -/
structure SlotTable (κ : Type) (n : Nat) where
  instances : Nat
  slots : Fin n → Slot κ

namespace SlotTable

variable {κ : Type} [Zero κ] {n : Nat}

/-- A table that no key has visited. -/
def empty : SlotTable κ n := ⟨0, fun _ => ⟨0, 0⟩⟩

variable (index : κ → Nat) (countMod useMod : Nat)

/-- What a table holds after visits of `keys`. -/
structure Records (keys : List κ) (t : SlotTable κ n) : Prop where
  inRange : ∀ k ∈ keys, index k < n
  unused : ∀ i, (t.slots i).uses = 0 → (t.slots i).key = 0
  used : ∀ i, (t.slots i).uses = 0 ↔ ∀ k ∈ keys, index k ≠ i
  uses_le : ∀ i, (t.slots i).uses ≤ keys.length
  count : t.instances = (keys.map index).toFinset.card % countMod

/-- One visit of a key to its slot. -/
def visit [DecidableEq κ] (key : κ) (t : SlotTable κ n) : Checked (SlotTable κ n) := do
  let slot ← load t.slots (index key)
  if slot.key = 0 ∨ slot.key = key then
    let slots ← store t.slots (index key) ⟨key, (slot.uses + 1) % useMod⟩
    .ok ⟨if slot.uses = 0 then (t.instances + 1) % countMod else t.instances, slots⟩
  else .ok t

variable {index countMod useMod}

theorem records_empty : Records index countMod [] (empty : SlotTable κ n) where
  inRange k hk := by simp at hk
  unused _ _ := rfl
  used i := by simp [empty]
  uses_le _ := Nat.zero_le _
  count := by simp [empty]

variable [DecidableEq κ]

/-- A visit faults exactly when the index of the key is past the table. -/
theorem visit_eq_ok_iff (key : κ) (t : SlotTable κ n) :
    (∃ t', visit index countMod useMod key t = .ok t') ↔ index key < n := by
  constructor
  · rintro ⟨t', h⟩
    by_contra hn
    simp [visit, load_of_le _ (Nat.not_lt.mp hn)] at h
  · intro h
    rw [visit, load_of_lt _ h, ok_bind]
    split
    · exact ⟨_, by rw [store_of_lt _ h, ok_bind]⟩
    · exact ⟨t, rfl⟩

theorem visit_error {key : κ} {t : SlotTable κ n} (h : n ≤ index key) :
    visit index countMod useMod key t = .error .outOfBounds := by
  simp [visit, load_of_le _ h]

/-- What a visit does, by whether the slot takes the key. -/
theorem visit_cases {key : κ} {t t' : SlotTable κ n}
    (h : visit index countMod useMod key t = .ok t') :
    ∃ hi : index key < n,
      let slot := t.slots ⟨index key, hi⟩
      ((slot.key = 0 ∨ slot.key = key) ∧
        t' = ⟨if slot.uses = 0 then (t.instances + 1) % countMod else t.instances,
          Function.update t.slots ⟨index key, hi⟩ ⟨key, (slot.uses + 1) % useMod⟩⟩) ∨
      (slot.key ≠ 0 ∧ t' = t) := by
  have hi := (visit_eq_ok_iff key t).mp ⟨t', h⟩
  refine ⟨hi, ?_⟩
  rw [visit, load_of_lt _ hi, ok_bind] at h
  split at h
  · next htake =>
    rw [store_of_lt _ hi, ok_bind] at h
    exact .inl ⟨htake, (Except.ok.inj h).symm⟩
  · next hdrop => exact .inr ⟨fun h0 => hdrop (.inl h0), (Except.ok.inj h).symm⟩

/-- A visit adds its key to the record, as long as no use counter wraps. -/
theorem Records.visit {keys : List κ} {key : κ} {t t' : SlotTable κ n}
    (hr : Records index countMod keys t) (hlen : keys.length + 1 < useMod)
    (h : visit index countMod useMod key t = .ok t') :
    Records index countMod (keys ++ [key]) t' := by
  obtain ⟨hi, h⟩ := visit_cases h
  have hrange : ∀ k ∈ keys ++ [key], index k < n := by
    intro k hk
    rcases List.mem_append.mp hk with hk | hk
    · exact hr.inRange k hk
    · rwa [List.mem_singleton.mp hk]
  have hcard : ((keys ++ [key]).map index).toFinset =
      insert (index key) (keys.map index).toFinset := by
    ext; simp
  rcases h with ⟨-, rfl⟩ | ⟨hkey, rfl⟩
  · refine ⟨hrange, ?_, ?_, ?_, ?_⟩
    · intro i
      by_cases hii : i = ⟨index key, hi⟩
      · subst hii
        have := hr.uses_le ⟨index key, hi⟩
        simp [Nat.mod_eq_of_lt (show (t.slots ⟨index key, hi⟩).uses + 1 < useMod by omega)]
      · simpa [hii] using hr.unused i
    · intro i
      by_cases hii : i = ⟨index key, hi⟩
      · subst hii
        have := hr.uses_le ⟨index key, hi⟩
        simp [Nat.mod_eq_of_lt (show (t.slots ⟨index key, hi⟩).uses + 1 < useMod by omega)]
      · have hne : index key ≠ i := fun he => hii (Fin.ext he.symm)
        simp only [Function.update_of_ne hii, hr.used i, List.mem_append, List.mem_singleton]
        constructor
        · rintro h k (hk | rfl)
          · exact h k hk
          · exact hne
        · exact fun h k hk => h k (.inl hk)
    · intro i
      by_cases hii : i = ⟨index key, hi⟩
      · subst hii
        have := hr.uses_le ⟨index key, hi⟩
        simp only [Function.update_self, List.length_append, List.length_singleton]
        exact (Nat.mod_le _ _).trans (by omega)
      · have := hr.uses_le i
        simp only [Function.update_of_ne hii, List.length_append, List.length_singleton]
        omega
    · rw [hcard]
      by_cases hu : (t.slots ⟨index key, hi⟩).uses = 0
      · have hnew : index key ∉ (keys.map index).toFinset := by
          have := (hr.used ⟨index key, hi⟩).mp hu
          simpa using this
        rw [Finset.card_insert_of_notMem hnew, if_pos hu, hr.count, Nat.mod_add_mod]
      · have hold : index key ∈ (keys.map index).toFinset := by
          have := mt (hr.used ⟨index key, hi⟩).mpr hu
          push Not at this
          simpa using this
        rw [Finset.insert_eq_of_mem hold, if_neg hu, hr.count]
  · -- the slot holds another key, so it was in use already
    have hu : (t'.slots ⟨index key, hi⟩).uses ≠ 0 := fun h0 => hkey (hr.unused _ h0)
    have hold : ∃ k ∈ keys, index k = index key := by
      have := mt (hr.used ⟨index key, hi⟩).mpr hu
      push Not at this
      exact this
    refine ⟨hrange, hr.unused, ?_, fun i => (hr.uses_le i).trans (by simp), ?_⟩
    · intro i
      rw [hr.used i]
      constructor
      · intro h k hk
        rcases List.mem_append.mp hk with hk | hk
        · exact h k hk
        · obtain ⟨k', hk', he⟩ := hold
          rw [List.mem_singleton.mp hk, ← he]
          exact h k' hk'
      · exact fun h k hk => h k (List.mem_append_left _ hk)
    · rw [hcard, Finset.insert_eq_of_mem (by simpa using hold), hr.count]

/-- The counter is the number of distinct keys exactly when keys that share a slot are equal and
the counter does not wrap. -/
theorem Records.instances_eq_card_iff {keys : List κ} {t : SlotTable κ n}
    (hr : Records index countMod keys t) (hn : n ≤ countMod) (hpos : 0 < countMod) :
    t.instances = keys.toFinset.card ↔
      (∀ k ∈ keys, ∀ k' ∈ keys, index k = index k' → k = k') ∧
        keys.toFinset.card < countMod := by
  have himage : (keys.map index).toFinset = keys.toFinset.image index := by
    ext; simp
  have hle : (keys.toFinset.image index).card ≤ keys.toFinset.card := Finset.card_image_le
  have hinj : (keys.toFinset.image index).card = keys.toFinset.card ↔
      ∀ k ∈ keys, ∀ k' ∈ keys, index k = index k' → k = k' := by
    rw [Finset.card_image_iff]
    simp [Set.InjOn]
  have hslots : (keys.toFinset.image index).card ≤ n := by
    calc
      (keys.toFinset.image index).card ≤ (Finset.range n).card :=
        Finset.card_le_card fun i hi => by
          obtain ⟨k, hk, rfl⟩ := Finset.mem_image.mp hi
          exact Finset.mem_range.mpr (hr.inRange k (List.mem_toFinset.mp hk))
      _ = n := Finset.card_range n
  rw [hr.count, himage, ← hinj]
  rcases Nat.lt_or_ge (keys.toFinset.image index).card countMod with hlt | hge
  · rw [Nat.mod_eq_of_lt hlt]
    constructor
    · exact fun h => ⟨h, h ▸ hlt⟩
    · exact fun h => h.1
  · -- every slot is in use: the counter is back at zero and the keys are not
    have hfull : (keys.toFinset.image index).card = countMod := by omega
    rw [hfull, Nat.mod_self]
    constructor <;> intro h <;> omega

end SlotTable

end CLang
