import Mathlib.Data.Set.Lattice
import MainboardFirmware.Library.Loop

/-!
# Paint — setting the points of a region

A picture is a function from points to values. `Paints area value p q` says that `q` is `p` with the
points of `area` set as `value` says and every other point left alone; it is reflexive on the empty
region, composes by union, and so passes through loops whose rounds paint one region each.
-/

namespace MainboardFirmware

variable {ι β : Type*}

/-- `q` is `p` with `value` on `area`. -/
structure Paints (area : Set ι) (value : ι → β) (p q : ι → β) : Prop where
  inside : ∀ i ∈ area, q i = value i
  outside : ∀ i ∉ area, q i = p i

namespace Paints

variable {area area' : Set ι} {value value' : ι → β} {p q r : ι → β}

theorem nothing (value : ι → β) (p : ι → β) : Paints ∅ value p p :=
  ⟨fun _ h => h.elim, fun _ _ => rfl⟩

/-- One region after the other. -/
theorem union (h : Paints area value p q) (h' : Paints area' value q r) :
    Paints (area ∪ area') value p r := by
  constructor
  · intro i hi
    by_cases hin : i ∈ area'
    · exact h'.inside i hin
    · rw [h'.outside i hin]
      exact h.inside i (hi.resolve_right hin)
  · intro i hi
    rw [h'.outside i fun hin => hi (Or.inr hin), h.outside i fun hin => hi (Or.inl hin)]

/-- Only the values on the region count. -/
theorem congr_value (h : Paints area value p q) (hvalue : ∀ i ∈ area, value i = value' i) :
    Paints area value' p q :=
  ⟨fun i hi => (h.inside i hi).trans (hvalue i hi), h.outside⟩

end Paints

namespace Loop

universe u v

variable {σ : Type u} {ε : Type v} {body : ℕ → σ → Except ε σ}

/-- A loop whose rounds each paint a region paints their union. -/
theorem up_paints (inv : ℕ → σ → Prop) (view : σ → ι → β) (area : ℕ → Set ι) (value : ι → β)
    {n : ℕ} {s : σ} (h0 : inv 0 s)
    (hstep : ∀ i s, i < n → inv i s →
      Ends (body i s) fun s' => inv (i + 1) s' ∧ Paints (area i) value (view s) (view s')) :
    Ends (up body 0 n s) fun s' =>
      inv n s' ∧ Paints {p | ∃ i < n, p ∈ area i} value (view s) (view s') := by
  apply up_zero_ends fun i t =>
    inv i t ∧ Paints {p | ∃ j < i, p ∈ area j} value (view s) (view t)
  · have hnone : {p | ∃ j < 0, p ∈ area j} = (∅ : Set ι) := by
      simp
    rw [hnone]
    exact ⟨h0, Paints.nothing value (view s)⟩
  · intro i t hi ht
    refine (hstep i t hi ht.1).mono fun t' ht' => ⟨ht'.1, ?_⟩
    have hregion : {p | ∃ j < i + 1, p ∈ area j} = {p | ∃ j < i, p ∈ area j} ∪ area i := by
      ext p
      constructor
      · rintro ⟨j, hj, hp⟩
        rcases Nat.lt_succ_iff_lt_or_eq.1 hj with hlt | rfl
        · exact Or.inl ⟨j, hlt, hp⟩
        · exact Or.inr hp
      · rintro (⟨j, hj, hp⟩ | hp)
        · exact ⟨j, Nat.lt_succ_of_lt hj, hp⟩
        · exact ⟨i, Nat.lt_succ_self i, hp⟩
    rw [hregion]
    exact ht.2.union ht'.2

/-- Steps that each paint a region paint their union. -/
theorem each_paints {α : Type*} {step : α → σ → Except ε σ} (view : σ → ι → β)
    (area : α → Set ι) (value : ι → β) {as : List α} {s : σ}
    (hstep : ∀ a ∈ as, ∀ s, Ends (step a s) fun s' => Paints (area a) value (view s) (view s')) :
    Ends (each step as s) fun s' =>
      Paints {p | ∃ a ∈ as, p ∈ area a} value (view s) (view s') := by
  induction as generalizing s with
  | nil =>
      have hnone : {p | ∃ a ∈ ([] : List α), p ∈ area a} = (∅ : Set ι) := by
        simp
      rw [hnone]
      exact Ends.ok (Paints.nothing value (view s))
  | cons a as ih =>
      have hregion : {p | ∃ b ∈ a :: as, p ∈ area b} = area a ∪ {p | ∃ b ∈ as, p ∈ area b} := by
        ext p
        simp
      rw [hregion]
      refine (hstep a (by simp) s).bind fun s' hs' => ?_
      exact (ih fun b hb => hstep b (by simp [hb])).mono fun t ht => hs'.union ht

end Loop
end MainboardFirmware
