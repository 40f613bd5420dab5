import Mathlib.Algebra.Order.Floor.Div
import Mathlib.Data.Int.CardIntervalMod
import Mathlib.Data.Nat.Count

/-!
# Accumulator — firing by adding up a step

A loop adds a fixed step to an accumulator in each round and fires when that reaches a period. If it
starts again from 0 it drops what was over the period, so it fires every `⌈period / step⌉` rounds and
falls behind the period for ever unless the step divides it.
-/

namespace MainboardFirmware
namespace Accumulator

/-! ## The accumulator -/

/-- The accumulator behind a round. -/
def next (period step acc : ℕ) : ℕ :=
  if period ≤ acc + step then 0 else acc + step

/-- The rounds from one firing to the next. -/
def stride (period step : ℕ) : ℕ :=
  period ⌈/⌉ step

variable {period step : ℕ}

theorem stride_le_iff (hstep : 0 < step) (m : ℕ) : stride period step ≤ m ↔ period ≤ m * step := by
  rw [Nat.mul_comm]
  exact ceilDiv_le_iff_le_mul hstep

theorem stride_pos (hstep : 0 < step) (hperiod : 0 < period) : 0 < stride period step := by
  have hzero := @stride_le_iff period step hstep 0
  omega

/-- The period is reached in the last round of a stride and not before. -/
theorem period_le_iff (hstep : 0 < step) (m : ℕ) :
    period ≤ m * step + step ↔ stride period step ≤ m + 1 := by
  rw [stride_le_iff hstep, Nat.add_mul, Nat.one_mul]

/-- Counting rounds within a stride. -/
theorem succ_mod_stride (hstep : 0 < step) (hperiod : 0 < period) (j : ℕ) :
    (j + 1) % stride period step =
      if stride period step ≤ j % stride period step + 1 then 0
      else j % stride period step + 1 := by
  have hlt : j % stride period step < stride period step := Nat.mod_lt j (stride_pos hstep hperiod)
  rw [← Nat.mod_add_mod]
  split
  · rename_i hlast
    have heq : j % stride period step + 1 = stride period step := Nat.le_antisymm hlt hlast
    rw [heq, Nat.mod_self]
  · rename_i hinside
    exact Nat.mod_eq_of_lt (Nat.lt_of_not_le hinside)

/-- The accumulator counts the steps since the last firing. -/
theorem iterate_next (hstep : 0 < step) (hperiod : 0 < period) (j : ℕ) :
    (next period step)^[j] 0 = j % stride period step * step := by
  induction j with
  | zero =>
      simp
  | succ j ih =>
      have hreach := @period_le_iff period step hstep (j % stride period step)
      rw [Function.iterate_succ_apply', ih, next, succ_mod_stride hstep hperiod]
      by_cases hlast : stride period step ≤ j % stride period step + 1
      · rw [if_pos (hreach.2 hlast), if_pos hlast, Nat.zero_mul]
      · rw [if_neg fun h => hlast (hreach.1 h), if_neg hlast, Nat.add_mul, Nat.one_mul]

/-- It never gets to the period. -/
theorem iterate_next_lt (hstep : 0 < step) (hperiod : 0 < period) (j : ℕ) :
    (next period step)^[j] 0 < period := by
  have hlt : j % stride period step < stride period step := Nat.mod_lt j (stride_pos hstep hperiod)
  rw [iterate_next hstep hperiod]
  apply Nat.lt_of_not_le
  intro hle
  exact absurd ((stride_le_iff hstep _).2 hle) (Nat.not_le.2 hlt)

/-- So it fires in the last round of each stride. -/
theorem fires_iff (hstep : 0 < step) (hperiod : 0 < period) (j : ℕ) :
    period ≤ (next period step)^[j] 0 + step ↔ stride period step ∣ j + 1 := by
  rw [iterate_next hstep hperiod, period_le_iff hstep, Nat.dvd_iff_mod_eq_zero,
    succ_mod_stride hstep hperiod]
  split
  · rename_i hlast
    exact ⟨fun _ => rfl, fun _ => hlast⟩
  · rename_i hinside
    exact ⟨fun h => absurd h hinside, fun h => absurd h (Nat.succ_ne_zero _)⟩

/-! ## Keeping a period -/

/-- The first round fires, and the firing after `n` others comes with round `n * period / step`, or in
less than a step. -/
def InTime (period step : ℕ) (fires : ℕ → Prop) [DecidablePred fires] : Prop :=
  fires 0 ∧ ∀ n, ∃ i, fires i ∧ Nat.count fires i = n ∧
    n * period ≤ i * step ∧ i * step < n * period + step

/-- The multiples of `q` below its `n`-th one. -/
theorem count_multiples {fires : ℕ → Prop} [DecidablePred fires] {q : ℕ} (hq : 0 < q)
    (hfires : ∀ i, fires i ↔ q ∣ i) (n : ℕ) : Nat.count fires (n * q) = n := by
  have hmod : ∀ i, fires i ↔ i ≡ 0 [MOD q] := by
    intro i
    rw [hfires, Nat.modEq_zero_iff_dvd]
  have hcount : Nat.count fires (n * q) = Nat.count (· ≡ 0 [MOD q]) (n * q) := by
    congr 1
    funext i
    exact propext (hmod i)
  rw [hcount, Nat.count_modEq_card _ hq]
  simp [hq]

/-- A lag of `late` in every period stays below a bound for ever only if it is none. -/
theorem late_eq_zero {late bound : ℕ} (h : ∀ n, n * late < bound) : late = 0 := by
  by_contra hne
  have hle : bound ≤ bound * late := Nat.le_mul_of_pos_right bound (Nat.pos_of_ne_zero hne)
  exact absurd (h bound) (Nat.not_lt.2 hle)

/-- Rounds that fire by the stride keep the period if and only if the step divides it. -/
theorem inTime_iff {fires : ℕ → Prop} [DecidablePred fires] (hstep : 0 < step)
    (hperiod : 0 < period) (hfires : ∀ i, fires i ↔ stride period step ∣ i) :
    InTime period step fires ↔ step ∣ period := by
  have hpos := stride_pos hstep hperiod
  have hcount := count_multiples hpos hfires
  have hfire : ∀ n, fires (n * stride period step) := by
    intro n
    exact (hfires _).2 (Nat.dvd_mul_left _ n)
  constructor
  · rintro ⟨_, hall⟩
    -- the firing after `n` others is the one in round `n * stride`
    have hround : ∀ n, n * period ≤ n * stride period step * step ∧
        n * stride period step * step < n * period + step := by
      intro n
      rcases hall n with ⟨i, hi, hn, hle, hlt⟩
      have heq : i = n * stride period step :=
        Nat.count_injective hi (hfire n) (hn.trans (hcount n).symm)
      rw [← heq]
      exact ⟨hle, hlt⟩
    have hreach : period ≤ stride period step * step := by
      simpa using (hround 1).1
    have hlate : stride period step * step - period = 0 := by
      apply @late_eq_zero _ step
      intro n
      have hlt := (hround n).2
      rw [Nat.mul_sub, ← Nat.mul_assoc]
      omega
    have heq : stride period step * step = period := by
      omega
    exact ⟨stride period step, by rw [Nat.mul_comm, heq]⟩
  · rintro ⟨k, rfl⟩
    have hstride : stride (step * k) step = k := by
      have hle := fun m => @stride_le_iff (step * k) step hstep m
      have hmul : ∀ m, step * k ≤ m * step ↔ k ≤ m := by
        intro m
        rw [Nat.mul_comm m]
        exact Nat.mul_le_mul_left_iff hstep
      exact Nat.le_antisymm ((hle k).2 ((hmul k).2 le_rfl)) ((hmul _).1 ((hle _).1 le_rfl))
    have hzero : fires 0 := (hfires 0).2 (Nat.dvd_zero _)
    refine ⟨hzero, ?_⟩
    intro n
    have heq : n * stride (step * k) step * step = n * (step * k) := by
      rw [hstride, Nat.mul_assoc, Nat.mul_comm k]
    exact ⟨n * stride (step * k) step, hfire n, hcount n, heq.ge, by rw [heq]; omega⟩

end Accumulator
end MainboardFirmware
