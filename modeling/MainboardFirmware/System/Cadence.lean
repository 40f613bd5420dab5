import MainboardFirmware.Library.Accumulator
import MainboardFirmware.System.Supervisor

/-!
# Cadence — when the supervisor task attempts its heartbeats

The loop of `task_supervisor` adds its feed interval to `since_publish_ms` and starts again from 0 when
the heartbeat period is reached, whatever was over. So heartbeats come in time for ever only if the
interval divides the period, and the very first sum may wrap around at 2^32.
-/

namespace MainboardFirmware

open Machine Accumulator

/-! ## Rounds -/

def SupervisorAct.isHeartbeat : SupervisorAct → Bool
  | .heartbeat _ _ => true
  | _ => false

/-- The local variables of `task_supervisor` before round `i`. -/
def supervisorAt (sup : Supervisor) (stats : ℕ → HealthStats) (i : ℕ) : SupervisorTask :=
  run (supervisorStep sup) (taskSupervisorStart sup) ((List.range i).map stats)

/-- Round `i` attempts a heartbeat. -/
def attemptsHeartbeat (sup : Supervisor) (stats : ℕ → HealthStats) (i : ℕ) : Bool :=
  (taskSupervisorRound sup (stats i) (supervisorAt sup stats i)).1.any SupervisorAct.isHeartbeat

variable {sup : Supervisor}

theorem supervisorAt_succ (sup : Supervisor) (stats : ℕ → HealthStats) (i : ℕ) :
    supervisorAt sup stats (i + 1) = supervisorStep sup (supervisorAt sup stats i) (stats i) := by
  simp [supervisorAt, run, List.range_succ]

/-- The interval never changes. -/
theorem supervisorAt_tickMs (sup : Supervisor) (stats : ℕ → HealthStats) (i : ℕ) :
    (supervisorAt sup stats i).tickMs = (taskSupervisorStart sup).tickMs := by
  induction i with
  | zero =>
      rfl
  | succ i ih =>
      calc
        (supervisorAt sup stats (i + 1)).tickMs
            = (supervisorStep sup (supervisorAt sup stats i) (stats i)).tickMs := by
              rw [supervisorAt_succ]
        _ = (supervisorAt sup stats i).tickMs := supervisorStep_tickMs sup _ _
        _ = (taskSupervisorStart sup).tickMs := ih

/-- A round attempts a heartbeat exactly if the sum reaches the period. -/
theorem round_attempts_iff (sup : Supervisor) (stats : HealthStats) (t : SupervisorTask) :
    (taskSupervisorRound sup stats t).1.any SupervisorAct.isHeartbeat = true ↔
      sup.heartbeatPeriodMs ≤ t.sincePublishMs + t.tickMs := by
  rcases hbeat : buildHeartbeat sup stats systemSupHeartbeatMax with ⟨len, json⟩
  by_cases hdue : sup.heartbeatPeriodMs ≤ t.sincePublishMs + t.tickMs
  · simp [taskSupervisorRound, hbeat, hdue, SupervisorAct.isHeartbeat]
  · simp [taskSupervisorRound, hdue, SupervisorAct.isHeartbeat]

theorem supervisorStep_since (sup : Supervisor) (t : SupervisorTask) (stats : HealthStats) :
    (supervisorStep sup t stats).sincePublishMs =
      if sup.heartbeatPeriodMs ≤ t.sincePublishMs + t.tickMs then 0
      else t.sincePublishMs + t.tickMs := by
  unfold supervisorStep taskSupervisorRound
  dsimp only
  split
  · rfl
  · rfl

/-! ## The accumulator of the task -/

/-- The period and the interval of the task, and that neither a first sum nor a later one wraps. -/
structure Steady (sup : Supervisor) (period tick : ℕ) : Prop where
  period_eq : sup.heartbeatPeriodMs.toNat = period
  tick_eq : (taskSupervisorStart sup).tickMs.toNat = tick
  tick_pos : 0 < tick
  tick_le : tick ≤ period
  noWrap : period + tick < 2 ^ 32

theorem Steady.sum_eq {period tick : ℕ} (h : Steady sup period tick) {since : UInt32}
    (hsince : since.toNat ≤ period) :
    (since + (taskSupervisorStart sup).tickMs).toNat = since.toNat + tick := by
  have hwrap := h.noWrap
  rw [UInt32.toNat_add, h.tick_eq]
  apply Nat.mod_eq_of_lt
  omega

/-- One round is one round of the accumulator. -/
theorem Steady.step {period tick : ℕ} (h : Steady sup period tick) {t : SupervisorTask}
    (htick : t.tickMs = (taskSupervisorStart sup).tickMs) (hsince : t.sincePublishMs.toNat ≤ period)
    (stats : HealthStats) :
    (supervisorStep sup t stats).sincePublishMs.toNat = next period tick t.sincePublishMs.toNat := by
  have hdue : sup.heartbeatPeriodMs ≤ t.sincePublishMs + (taskSupervisorStart sup).tickMs ↔
      period ≤ t.sincePublishMs.toNat + tick := by
    rw [UInt32.le_iff_toNat_le, h.sum_eq hsince, h.period_eq]
  rw [supervisorStep_since, htick, next, apply_ite UInt32.toNat, h.sum_eq hsince]
  exact if_congr hdue rfl rfl

/-- The first round fires and the others follow the accumulator from 0. -/
theorem Steady.since_succ {period tick : ℕ} (h : Steady sup period tick) (stats : ℕ → HealthStats)
    (j : ℕ) :
    (supervisorAt sup stats (j + 1)).sincePublishMs.toNat = (next period tick)^[j] 0 := by
  have hperiod : 0 < period := Nat.lt_of_lt_of_le h.tick_pos h.tick_le
  induction j with
  | zero =>
      have hstart : (taskSupervisorStart sup).sincePublishMs.toNat = period := h.period_eq
      have hfires : next period tick period = 0 := if_pos (Nat.le_add_right period tick)
      calc
        (supervisorAt sup stats 1).sincePublishMs.toNat
            = next period tick (taskSupervisorStart sup).sincePublishMs.toNat :=
              h.step rfl hstart.le (stats 0)
        _ = 0 := by rw [hstart, hfires]
  | succ j ih =>
      have hbelow : (supervisorAt sup stats (j + 1)).sincePublishMs.toNat ≤ period := by
        rw [ih]
        exact (iterate_next_lt h.tick_pos hperiod j).le
      rw [supervisorAt_succ, h.step (supervisorAt_tickMs sup stats (j + 1)) hbelow, ih,
        Function.iterate_succ_apply']

/-- So a heartbeat is attempted in the first round of every stride. -/
theorem Steady.attempts_iff {period tick : ℕ} (h : Steady sup period tick) (stats : ℕ → HealthStats)
    (i : ℕ) : attemptsHeartbeat sup stats i = true ↔ stride period tick ∣ i := by
  have hperiod : 0 < period := Nat.lt_of_lt_of_le h.tick_pos h.tick_le
  have hround := round_attempts_iff sup (stats i) (supervisorAt sup stats i)
  rw [supervisorAt_tickMs, UInt32.le_iff_toNat_le, h.period_eq] at hround
  cases i with
  | zero =>
      have hstart : (taskSupervisorStart sup).sincePublishMs.toNat = period := h.period_eq
      have hsum : period ≤
          ((taskSupervisorStart sup).sincePublishMs + (taskSupervisorStart sup).tickMs).toNat := by
        rw [h.sum_eq hstart.le, hstart]
        exact Nat.le_add_right period tick
      exact ⟨fun _ => Nat.dvd_zero _, fun _ => hround.2 hsum⟩
  | succ j =>
      have hsince := h.since_succ stats j
      have hbelow : (supervisorAt sup stats (j + 1)).sincePublishMs.toNat ≤ period := by
        rw [hsince]
        exact (iterate_next_lt h.tick_pos hperiod j).le
      rw [h.sum_eq hbelow, hsince] at hround
      exact hround.trans (fires_iff h.tick_pos hperiod j)

/-- A first sum that wraps is below the period, so the first round is skipped. -/
theorem first_round_of_wrap
    (hwrap : 2 ^ 32 ≤ sup.heartbeatPeriodMs.toNat + (taskSupervisorStart sup).tickMs.toNat)
    (stats : ℕ → HealthStats) : attemptsHeartbeat sup stats 0 = false := by
  have hround := round_attempts_iff sup (stats 0) (taskSupervisorStart sup)
  have hstart : (taskSupervisorStart sup).sincePublishMs = sup.heartbeatPeriodMs := rfl
  have htick := UInt32.toNat_lt (taskSupervisorStart sup).tickMs
  rw [hstart, UInt32.le_iff_toNat_le, UInt32.toNat_add] at hround
  have hnot : ¬attemptsHeartbeat sup stats 0 = true := by
    intro hattempts
    have hreached := hround.1 hattempts
    omega
  simpa using hnot

/-! ## Heartbeats in time -/

/-- Half the watchdog timeout, or the heartbeat period itself where that is not more or there is no
half, goes evenly into the heartbeat period, and the sum of the two is a 32-bit number. -/
def EvenCadence (wdtTimeoutMs heartbeatPeriodMs : ℕ) : Prop :=
  ((wdtTimeoutMs < 2 ∨ heartbeatPeriodMs ≤ wdtTimeoutMs / 2) ∧ 2 * heartbeatPeriodMs < 2 ^ 32) ∨
    (wdtTimeoutMs / 2 ∣ heartbeatPeriodMs ∧ heartbeatPeriodMs + wdtTimeoutMs / 2 < 2 ^ 32)

/-- The same of the interval that comes out of both. -/
theorem evenCadence_iff {wdt period tick : ℕ} (hperiod : 0 < period)
    (htick : tick = if wdt < 2 then period else min (wdt / 2) period) :
    EvenCadence wdt period ↔ tick ∣ period ∧ period + tick < 2 ^ 32 := by
  unfold EvenCadence
  by_cases hself : wdt < 2 ∨ period ≤ wdt / 2
  · have heq : tick = period := by
      split at htick <;> omega
    have hhalf : wdt / 2 ∣ period → period + wdt / 2 < 2 ^ 32 → 2 * period < 2 ^ 32 := by
      intro hdvd hsum
      have hle := Nat.le_of_dvd hperiod hdvd
      have hpos := Nat.pos_of_dvd_of_pos hdvd hperiod
      omega
    rw [heq, ← Nat.two_mul]
    constructor
    · rintro (⟨_, hsum⟩ | ⟨hdvd, hsum⟩)
      · exact ⟨Nat.dvd_refl _, hsum⟩
      · exact ⟨Nat.dvd_refl _, hhalf hdvd hsum⟩
    · rintro ⟨_, hsum⟩
      exact .inl ⟨hself, hsum⟩
  · have heq : tick = wdt / 2 := by
      split at htick <;> omega
    rw [heq]
    exact ⟨fun h => h.elim (fun h => absurd h.1 hself) id, .inr⟩

/-- For every accepted configuration with heartbeats and all statistics: the first round attempts a
heartbeat and every later one is attempted less than an interval after its time and never before, if
and only if the cadence is even. -/
theorem heartbeats_in_time_iff (cfg : SupervisorConfig) (init reconfigure : EspErr)
    (w : SupervisorWorld)
    (haccepted : (systemSupervisorInit (some cfg) init reconfigure w).1 = espOk)
    (hheartbeats : 1 ≤ cfg.heartbeatPeriodMs) (stats : ℕ → HealthStats) :
    let sup := (systemSupervisorInit (some cfg) init reconfigure w).2.sup
    InTime cfg.heartbeatPeriodMs.toNat (taskSupervisorStart sup).tickMs.toNat
        (fun i => attemptsHeartbeat sup stats i = true) ↔
      EvenCadence cfg.wdtTimeoutMs.toNat cfg.heartbeatPeriodMs.toNat := by
  intro sup
  have hinit := init_accepted haccepted
  have htimeout : sup.wdtTimeoutMs = cfg.wdtTimeoutMs := congrArg (fun w => w.sup.wdtTimeoutMs) hinit
  have hperiod : sup.heartbeatPeriodMs = cfg.heartbeatPeriodMs :=
    congrArg (fun w => w.sup.heartbeatPeriodMs) hinit
  have hpos : 0 < sup.heartbeatPeriodMs := by
    rw [hperiod]
    exact UInt32.lt_iff_toNat_lt.2 (UInt32.le_iff_toNat_le.1 hheartbeats)
  have hposNat : 0 < cfg.heartbeatPeriodMs.toNat := UInt32.le_iff_toNat_le.1 hheartbeats
  have htick := tickMs_of_heartbeat hpos
  rw [htimeout, hperiod] at htick
  rw [evenCadence_iff hposNat htick]
  have hbounds : 0 < (taskSupervisorStart sup).tickMs.toNat ∧
      (taskSupervisorStart sup).tickMs.toNat ≤ cfg.heartbeatPeriodMs.toNat := by
    rw [htick]
    split <;> omega
  by_cases hwrap : cfg.heartbeatPeriodMs.toNat + (taskSupervisorStart sup).tickMs.toNat < 2 ^ 32
  · have hsteady : Steady sup cfg.heartbeatPeriodMs.toNat (taskSupervisorStart sup).tickMs.toNat :=
      ⟨congrArg UInt32.toNat hperiod, rfl, hbounds.1, hbounds.2, hwrap⟩
    rw [inTime_iff hbounds.1 hposNat (hsteady.attempts_iff stats)]
    exact ⟨fun hdvd => ⟨hdvd, hwrap⟩, fun h => h.1⟩
  · have hskipped : attemptsHeartbeat sup stats 0 = false := by
      apply first_round_of_wrap
      rw [hperiod]
      exact Nat.le_of_not_lt hwrap
    constructor
    · rintro ⟨hfirst, _⟩
      exact absurd (hskipped.symm.trans hfirst) (by simp)
    · rintro ⟨_, hsum⟩
      exact absurd hsum hwrap

/-- Statistics that never change. -/
def idleStats (_ : ℕ) : HealthStats :=
  ⟨0, 0, 0⟩

/-- A heartbeat every 7 s from a task that wakes every 5 s: the third is due after 14 s and before 19 s,
and comes after 20 s. -/
theorem third_heartbeat_late :
    let cfg : SupervisorConfig := ⟨10000, true, 7000, none, none⟩
    let inited := systemSupervisorInit (some cfg) espOk espOk ⟨Supervisor.static, none⟩
    inited.1 = espOk ∧ (taskSupervisorStart inited.2.sup).tickMs = 5000 ∧
      (List.range 5).map (attemptsHeartbeat inited.2.sup idleStats) = [true, false, true, false, true] ∧
      ¬InTime 7000 5000 fun i => attemptsHeartbeat inited.2.sup idleStats i = true := by
  intro cfg inited
  have hthird : attemptsHeartbeat inited.2.sup idleStats 3 = false := by
    decide
  refine ⟨by decide, by decide, by decide, ?_⟩
  rintro ⟨_, hall⟩
  rcases hall 2 with ⟨i, hi, _, hle, hlt⟩
  have hround : i = 3 := by
    omega
  rw [hround, hthird] at hi
  exact absurd hi (by simp)

/-- The configuration in `app_main`. -/
theorem heartbeats_in_time_iff_main :
    let cfg := mainSupervisorConfig []
    let inited := systemSupervisorInit (some cfg) espErrInvalidState espOk ⟨Supervisor.static, none⟩
    inited.1 = espOk ∧ 1 ≤ cfg.heartbeatPeriodMs ∧
      InTime 5000 5000 fun i => attemptsHeartbeat inited.2.sup idleStats i = true :=
  ⟨by decide, by decide, (heartbeats_in_time_iff (mainSupervisorConfig []) espErrInvalidState espOk
    ⟨Supervisor.static, none⟩ (by decide) (by decide) idleStats).2
      (.inr ⟨by decide, by decide⟩)⟩

end MainboardFirmware
