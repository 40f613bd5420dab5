import Mathlib.Algebra.Order.Floor.Ring
import Mathlib.Tactic.Ring

/-!
# Ticks — waiting on a periodic tick

A scheduler that knows time only as ticks of a fixed period. A task that waits for `n` ticks runs
again at the `n`-th tick boundary after the call, so the time it really waits depends on how far into
the current period it called.
-/

namespace MainboardFirmware
namespace Ticks

variable {K : Type*} [Field K] [LinearOrder K] [IsStrictOrderedRing K] [FloorRing K]

/-- How long ago the last tick boundary was. -/
def phase (period now : K) : K :=
  now - period * ⌊now / period⌋

/-- The instant at which a wait for `n` ticks is over; waiting for no tick does not wait. -/
def wake (period now : K) (n : ℕ) : K :=
  if n = 0 then now else period * (⌊now / period⌋ + n)

theorem phase_nonneg {period : K} (hp : 0 < period) (now : K) : 0 ≤ phase period now := by
  have hfloor : (⌊now / period⌋ : K) ≤ now / period := Int.floor_le _
  have hmul : period * ⌊now / period⌋ ≤ now := by
    calc period * ⌊now / period⌋ ≤ period * (now / period) :=
          mul_le_mul_of_nonneg_left hfloor hp.le
      _ = now := mul_div_cancel₀ now hp.ne'
  exact sub_nonneg.2 hmul

omit [IsStrictOrderedRing K] in
@[simp] theorem wake_zero (period now : K) : wake period now 0 = now := rfl

omit [IsStrictOrderedRing K] in
/-- A wait for `n` ticks takes `n` periods less the part of the current one that is over. -/
theorem wake_sub (period now : K) {n : ℕ} (hn : n ≠ 0) :
    wake period now n - now = period * n - phase period now := by
  rw [wake, if_neg hn, phase]
  ring

/-- So it takes at most `n` periods and more than `n - 1`. -/
theorem wake_sub_le {period : K} (hp : 0 < period) (now : K) (n : ℕ) :
    wake period now n - now ≤ period * n := by
  rcases Nat.eq_zero_or_pos n with hn | hn
  · simp [hn]
  · rw [wake_sub period now hn.ne']
    exact sub_le_self _ (phase_nonneg hp now)

end Ticks
end MainboardFirmware
