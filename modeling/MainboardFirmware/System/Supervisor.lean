import Mathlib.Data.Nat.Digits.Defs
import MainboardFirmware.Esp.CString
import MainboardFirmware.Esp.Err
import MainboardFirmware.Library.Machine

/-!
# Supervisor — `firmware/main/system/system_supervisor.c`

The health supervisor: it sets the task watchdog up, and its own task feeds the watchdog and publishes
heartbeats from one loop. The interval of that loop comes from both periods of the configuration, and
for some configurations it is not below the timeout of the watchdog it feeds.
-/

namespace MainboardFirmware

open Machine

/-! ## Data -/

def systemSupDeviceIdMax : Nat := 32
def systemSupHeartbeatMax : Nat := 160

/-- `esp_task_wdt_config_t` -/
structure TwdtConfig where
  timeoutMs : UInt32
  idleCoreMask : UInt32
  triggerPanic : Bool
  deriving DecidableEq, Repr

/-- `system_supervisor_config_t`; of the callback only whether it is `NULL`. -/
structure SupervisorConfig where
  wdtTimeoutMs : UInt32
  triggerPanic : Bool
  heartbeatPeriodMs : UInt32
  publish : Option Unit
  deviceId : Option CString
  deriving DecidableEq, Repr

/-- `s_cfg` and `s_initialized` -/
structure Supervisor where
  wdtTimeoutMs : UInt32
  heartbeatPeriodMs : UInt32
  publish : Option Unit
  deviceId : CString
  initialized : Bool
  deriving DecidableEq, Repr

/-- Their initial values. -/
def Supervisor.static : Supervisor :=
  ⟨0, 0, none, [], false⟩

/-- The module and the task watchdog, if that runs. -/
structure SupervisorWorld where
  sup : Supervisor
  twdt : Option TwdtConfig
  deriving DecidableEq, Repr

/-! ## Lifecycle -/

/-- `system_supervisor_init`; `init` and `reconfigure` are the answers of the two watchdog calls. -/
def systemSupervisorInit (cfg : Option SupervisorConfig) (init reconfigure : EspErr)
    (w : SupervisorWorld) : EspErr × SupervisorWorld :=
  match cfg with
  | none => (espErrInvalidArg, w)
  | some cfg =>
      if cfg.wdtTimeoutMs = 0 then
        (espErrInvalidArg, w)
      else
        let twdtCfg : TwdtConfig := ⟨cfg.wdtTimeoutMs, 0, cfg.triggerPanic⟩
        -- the startup code of ESP-IDF may have the watchdog running
        let ret := if init = espErrInvalidState then reconfigure else init
        if ret ≠ espOk then
          (ret, w)
        else
          (espOk, ⟨{
            wdtTimeoutMs := cfg.wdtTimeoutMs
            heartbeatPeriodMs := cfg.heartbeatPeriodMs
            publish := cfg.publish
            deviceId := strlcpy (cfg.deviceId.getD (ascii "unknown")) systemSupDeviceIdMax
            initialized := true }, some twdtCfg⟩)

/-! ## Heartbeats -/

/-- `%lu`, `%llu` -/
def decimal (n : Nat) : CString :=
  if n = 0 then [0x30] else (Nat.digits 10 n).reverse.map fun d => 0x30 + d.toUInt8

/-- What `build_heartbeat` asks the system for. -/
structure HealthStats where
  timerUs : Int64
  freeHeap : UInt32
  minFreeHeap : UInt32

/-- The text of a heartbeat. -/
def heartbeatJson (sup : Supervisor) (stats : HealthStats) : CString :=
  ascii "\x7b\"device_id\":\"" ++ sup.deviceId ++
    ascii "\",\"uptime_s\":" ++ decimal (stats.timerUs / 1000000).toUInt64.toNat ++
    ascii ",\"free_heap\":" ++ decimal stats.freeHeap.toNat ++
    ascii ",\"min_free_heap\":" ++ decimal stats.minFreeHeap.toNat ++ ascii "\x7d"

/-- `build_heartbeat` into a buffer of `bufSz` bytes: its result, and the string it leaves there. -/
def buildHeartbeat (sup : Supervisor) (stats : HealthStats) (bufSz : Nat) : Int × CString :=
  let json := heartbeatJson sup stats
  let len := json.length
  (if 0 < len ∧ len < bufSz then len else -1, json.take (bufSz - 1))

/-! ## The supervisor task -/

/-- The local variables of `task_supervisor`. -/
structure SupervisorTask where
  tickMs : UInt32
  sincePublishMs : UInt32
  deriving DecidableEq, Repr

/-- What a round of its loop does. -/
inductive SupervisorAct
  | feed
  | heartbeat (len : Int) (json : CString)
  | publish (json : CString) (len : Int)
  | delay (ms : UInt32)
  deriving DecidableEq, Repr

/-- `task_supervisor` up to its loop; what the watchdog answers to the registration is only logged. -/
def taskSupervisorStart (sup : Supervisor) : SupervisorTask :=
  let tickMs := sup.wdtTimeoutMs / 2
  -- a heartbeat period of 0 is below every half
  let tickMs :=
    if tickMs = 0 ∨ sup.heartbeatPeriodMs < tickMs then sup.heartbeatPeriodMs else tickMs
  let tickMs := if tickMs = 0 then 1000 else tickMs
  -- the first round publishes
  ⟨tickMs, sup.heartbeatPeriodMs⟩

/-- One round of its loop; what the callback returns is only logged. -/
def taskSupervisorRound (sup : Supervisor) (stats : HealthStats) (t : SupervisorTask) :
    List SupervisorAct × SupervisorTask :=
  let sincePublishMs := t.sincePublishMs + t.tickMs
  if sup.heartbeatPeriodMs ≤ sincePublishMs then
    let (len, json) := buildHeartbeat sup stats systemSupHeartbeatMax
    let published := if 0 < len ∧ sup.publish ≠ none then [.publish json len] else []
    ([.feed, .heartbeat len json] ++ published ++ [.delay t.tickMs], ⟨t.tickMs, 0⟩)
  else
    ([.feed, .delay t.tickMs], ⟨t.tickMs, sincePublishMs⟩)

/-- The loop's step on the statistics of one round. -/
def supervisorStep (sup : Supervisor) (t : SupervisorTask) (stats : HealthStats) : SupervisorTask :=
  (taskSupervisorRound sup stats t).2

/-! ## The interval of the loop -/

variable {sup : Supervisor}

theorem supervisorStep_tickMs (sup : Supervisor) (t : SupervisorTask) (stats : HealthStats) :
    (supervisorStep sup t stats).tickMs = t.tickMs := by
  unfold supervisorStep taskSupervisorRound
  dsimp only
  split
  · rfl
  · rfl

/-- A round feeds the watchdog once, at its beginning, and waits once, at its end. -/
theorem round_feeds_and_delays (sup : Supervisor) (t : SupervisorTask) (stats : HealthStats) :
    ∃ acts, (taskSupervisorRound sup stats t).1 = .feed :: acts ++ [.delay t.tickMs] ∧
      .feed ∉ acts ∧ ∀ ms, .delay ms ∉ acts := by
  rcases hbeat : buildHeartbeat sup stats systemSupHeartbeatMax with ⟨len, json⟩
  by_cases hdue : sup.heartbeatPeriodMs ≤ t.sincePublishMs + t.tickMs
  · simp only [taskSupervisorRound, hbeat, if_pos hdue]
    -- the heartbeat goes to the callback only if it was rendered and there is one
    by_cases hpublish : 0 < len ∧ sup.publish ≠ none
    · rw [if_pos hpublish]
      exact ⟨[.heartbeat len json, .publish json len], rfl, by simp, by simp⟩
    · rw [if_neg hpublish]
      exact ⟨[.heartbeat len json], rfl, by simp, by simp⟩
  · simp only [taskSupervisorRound, hbeat, if_neg hdue]
    exact ⟨[], rfl, List.not_mem_nil, fun _ => List.not_mem_nil⟩

/-- So every two feeds in a row are the interval apart that the task has computed before its loop. -/
theorem run_feed_interval (sup : Supervisor) (stats : List HealthStats) (last : HealthStats) :
    ∃ acts, (taskSupervisorRound sup last
        (run (supervisorStep sup) (taskSupervisorStart sup) stats)).1 =
        .feed :: acts ++ [.delay (taskSupervisorStart sup).tickMs] ∧
      .feed ∉ acts ∧ ∀ ms, .delay ms ∉ acts := by
  have htick : (run (supervisorStep sup) (taskSupervisorStart sup) stats).tickMs =
      (taskSupervisorStart sup).tickMs := by
    have hstep : ∀ t a, t.tickMs = (taskSupervisorStart sup).tickMs →
        (supervisorStep sup t a).tickMs = (taskSupervisorStart sup).tickMs :=
      fun t a ht => (supervisorStep_tickMs sup t a).trans ht
    exact inv_run hstep rfl stats
  rw [← htick]
  exact round_feeds_and_delays sup _ last

/-- The interval without heartbeats. -/
theorem tickMs_of_no_heartbeat (h : sup.heartbeatPeriodMs = 0) :
    (taskSupervisorStart sup).tickMs = 1000 := by
  have hundone : sup.wdtTimeoutMs / 2 = 0 ∨ 0 < sup.wdtTimeoutMs / 2 := by
    rw [UInt32.lt_iff_toNat_lt, ← UInt32.toNat_inj]
    exact Nat.eq_zero_or_pos _
  -- the period of 0 replaces any half, and then has to be replaced itself
  simp only [taskSupervisorStart, h, if_pos hundone, if_true]

/-- The interval with heartbeats: half the timeout, or the heartbeat period where that is less or the
half is nothing. -/
theorem tickMs_of_heartbeat (h : 0 < sup.heartbeatPeriodMs) :
    (taskSupervisorStart sup).tickMs.toNat =
      if sup.wdtTimeoutMs.toNat < 2 then sup.heartbeatPeriodMs.toNat
      else min (sup.wdtTimeoutMs.toNat / 2) sup.heartbeatPeriodMs.toNat := by
  have hpos : 0 < sup.heartbeatPeriodMs.toNat := UInt32.lt_iff_toNat_lt.1 h
  have hhalf : (sup.wdtTimeoutMs / 2).toNat = sup.wdtTimeoutMs.toNat / 2 :=
    UInt32.toNat_div _ _
  unfold taskSupervisorStart
  dsimp only
  simp only [← UInt32.toNat_inj, UInt32.lt_iff_toNat_lt, hhalf, apply_ite UInt32.toNat,
    UInt32.toNat_zero]
  split <;> split <;> split <;> omega

/-! ## The cadence -/

/-- The watchdog is fed in time, and heartbeats need not wait for a feed. -/
def SafeCadence (wdtTimeoutMs heartbeatPeriodMs tickMs : UInt32) : Prop :=
  0 < tickMs ∧ tickMs < wdtTimeoutMs ∧ (0 < heartbeatPeriodMs → tickMs ≤ heartbeatPeriodMs)

theorem start_safeCadence_iff (sup : Supervisor) :
    SafeCadence sup.wdtTimeoutMs sup.heartbeatPeriodMs (taskSupervisorStart sup).tickMs ↔
      if sup.heartbeatPeriodMs = 0 then 1000 < sup.wdtTimeoutMs else 2 ≤ sup.wdtTimeoutMs := by
  unfold SafeCadence
  split
  · rename_i hzero
    rw [tickMs_of_no_heartbeat hzero, hzero]
    exact ⟨fun h => h.2.1, fun h => ⟨by decide, h, fun hpos => absurd hpos (by decide)⟩⟩
  · rename_i hne
    have hpos : 0 < sup.heartbeatPeriodMs := UInt32.pos_iff_ne_zero.2 hne
    have htick := tickMs_of_heartbeat hpos
    simp only [UInt32.lt_iff_toNat_lt, UInt32.le_iff_toNat_le, UInt32.toNat_zero] at hpos ⊢
    rw [htick]
    have htwo : (2 : UInt32).toNat = 2 := rfl
    rw [htwo]
    constructor
    · rintro ⟨_, hlt, _⟩
      by_contra hsmall
      rw [if_pos (Nat.lt_of_not_le hsmall)] at hlt
      omega
    · intro hle
      rw [if_neg (Nat.not_lt.2 hle)]
      exact ⟨by omega, by omega, fun _ => Nat.min_le_right _ _⟩

/-- What an accepted configuration leaves in the module and in the watchdog. -/
theorem init_accepted {cfg : SupervisorConfig} {init reconfigure : EspErr} {w : SupervisorWorld}
    (h : (systemSupervisorInit (some cfg) init reconfigure w).1 = espOk) :
    (systemSupervisorInit (some cfg) init reconfigure w).2 =
      ⟨⟨cfg.wdtTimeoutMs, cfg.heartbeatPeriodMs, cfg.publish,
          strlcpy (cfg.deviceId.getD (ascii "unknown")) systemSupDeviceIdMax, true⟩,
        some ⟨cfg.wdtTimeoutMs, 0, cfg.triggerPanic⟩⟩ := by
  unfold systemSupervisorInit at h ⊢
  dsimp only at h ⊢
  generalize (if init = espErrInvalidState then reconfigure else init) = ret at h ⊢
  by_cases hzero : cfg.wdtTimeoutMs = 0
  · rw [if_pos hzero] at h
    exact absurd h espErrInvalidArg_ne_ok
  · rw [if_neg hzero] at h ⊢
    by_cases hret : ret = espOk
    · rw [if_neg (not_not.2 hret)]
    · rw [if_pos hret] at h
      exact absurd h hret

/-- For every configuration that is accepted, the feed interval is positive, below the timeout and not
above the heartbeat period exactly if the timeout is above the fallback of 1000 ms where there are no
heartbeats, and can be halved where there are. -/
theorem feed_cadence_safe_iff (cfg : SupervisorConfig) (init reconfigure : EspErr)
    (w : SupervisorWorld)
    (haccepted : (systemSupervisorInit (some cfg) init reconfigure w).1 = espOk) :
    let sup := (systemSupervisorInit (some cfg) init reconfigure w).2.sup
    SafeCadence cfg.wdtTimeoutMs cfg.heartbeatPeriodMs (taskSupervisorStart sup).tickMs ↔
      if cfg.heartbeatPeriodMs = 0 then 1000 < cfg.wdtTimeoutMs else 2 ≤ cfg.wdtTimeoutMs := by
  intro sup
  have hinit := init_accepted haccepted
  have htimeout : sup.wdtTimeoutMs = cfg.wdtTimeoutMs := congrArg (fun w => w.sup.wdtTimeoutMs) hinit
  have hperiod : sup.heartbeatPeriodMs = cfg.heartbeatPeriodMs :=
    congrArg (fun w => w.sup.heartbeatPeriodMs) hinit
  rw [← htimeout, ← hperiod]
  exact start_safeCadence_iff sup

/-- A watchdog of half a second without heartbeats, and one that can not be halved. -/
theorem feed_interval_beyond_timeout :
    let tick := fun cfg =>
      (taskSupervisorStart (systemSupervisorInit (some cfg) espOk espOk
        ⟨Supervisor.static, none⟩).2.sup).tickMs
    let silent : SupervisorConfig := ⟨500, true, 0, none, none⟩
    let tiny : SupervisorConfig := ⟨1, true, 5000, none, none⟩
    (tick silent = 1000 ∧ ¬SafeCadence 500 0 (tick silent)) ∧
      (tick tiny = 5000 ∧ ¬SafeCadence 1 5000 (tick tiny)) := by
  intro tick silent tiny
  have hsilent : tick silent = 1000 := by decide
  have htiny : tick tiny = 5000 := by decide
  refine ⟨⟨hsilent, fun h => ?_⟩, htiny, fun h => ?_⟩
  · have hlt := h.2.1
    rw [hsilent] at hlt
    exact absurd hlt (by decide)
  · have hlt := h.2.1
    rw [htiny] at hlt
    exact absurd hlt (by decide)

/-- The configuration in `app_main` is a safe one. -/
def mainSupervisorConfig (deviceId : CString) : SupervisorConfig :=
  ⟨10000, true, 5000, some (), some deviceId⟩

theorem feed_cadence_safe_iff_main :
    let world : SupervisorWorld := ⟨Supervisor.static, none⟩
    let inited := systemSupervisorInit (some (mainSupervisorConfig [])) espErrInvalidState espOk world
    inited.1 = espOk ∧
      SafeCadence 10000 5000 (taskSupervisorStart inited.2.sup).tickMs :=
  ⟨by decide, (feed_cadence_safe_iff (mainSupervisorConfig []) espErrInvalidState espOk
    ⟨Supervisor.static, none⟩ (by decide)).2 (by decide)⟩

end MainboardFirmware
