import MainboardFirmware.Bus.Registry

/-!
# Restored — is a recovered bus the bus it was?

Beside a run of the bus we keep what its callers asked for: the configuration of the last successful
`i2c_bus_init` and the address and clock rate of each device added since. The bus object retains the
pins, the port and the addresses, but not the clock rates, and recovery re-adds every device with a
rate of 0. So a successful recovery brings back the bus that was asked for exactly if every device
was registered with that rate.
-/

namespace MainboardFirmware

open Machine

/-! ## What the callers asked for -/

/-- The configuration of the last `i2c_bus_init`, if it succeeded, and the address and `scl_hz` of
each device added since. -/
structure Asked where
  config : Option I2cBusConfig
  devices : List (UInt8 × UInt32)

namespace Asked

def nothing : Asked :=
  ⟨none, []⟩

/-- What has been asked for after one more call. -/
def after (asked : Asked) (move : World × BusCall) : Asked :=
  match move.2 with
  | .init (some cfg) _ =>
      ⟨if (move.2.exec move.1).1 = espOk then some cfg else none, []⟩
  | .addDevice addr sclHz _ _ _ =>
      if (move.2.exec move.1).1 = espOk then ⟨asked.config, asked.devices ++ [(addr, sclHz)]⟩
      else asked
  | _ => asked

end Asked

/-- The bus is what was asked for: a live master bus on the port and pins of the configuration, with
each device attached to it at its address and its clock rate. -/
structure SameBus (asked : Asked) (w : World) : Prop where
  deviceCount_eq : w.bus.deviceCount = asked.devices.length
  master : ∃ m, w.bus.busHandle = some m ∧ m.id ∈ w.esp.liveMasters ∧
    (∀ cfg, asked.config = some cfg → m.config = masterBusConfig cfg.port cfg.sclPin cfg.sdaPin) ∧
    ∀ i, ∀ hi : i < asked.devices.length, ∃ d, (w.bus.devices i).handle = some d ∧
      d.master = m.id ∧ d.config = ⟨7, (asked.devices.get ⟨i, hi⟩).1, (asked.devices.get ⟨i, hi⟩).2⟩

/-! ## What the bus object retains of it -/

/-- The bus object has the pins, the port and the addresses asked for. -/
structure Retains (asked : Asked) (w : World) : Prop where
  pins : ∀ cfg, asked.config = some cfg →
    (w.bus.port, w.bus.sclPin, w.bus.sdaPin) = (cfg.port, cfg.sclPin, cfg.sdaPin)
  deviceCount_eq : w.bus.deviceCount = asked.devices.length
  addr : ∀ i, ∀ hi : i < asked.devices.length,
    (w.bus.devices i).addr = (asked.devices.get ⟨i, hi⟩).1

namespace Retains

variable {asked : Asked} {w w' : World}

theorem initial : Retains Asked.nothing World.initial where
  pins cfg h := absurd h (by simp [Asked.nothing])
  deviceCount_eq := rfl
  addr i hi := absurd hi (Nat.not_lt_zero i)

theorem sameRegistry (h : Retains asked w) (hsame : SameRegistry w w') : Retains asked w' where
  pins cfg hcfg := hsame.pins_eq.trans (h.pins cfg hcfg)
  deviceCount_eq := hsame.deviceCount_eq.trans h.deviceCount_eq
  addr i hi := (hsame.addr_eq i).trans (h.addr i hi)

theorem idle (h : Retains asked w) (hidle : Idle w w') : Retains asked w' where
  pins cfg hcfg := by
    rw [hidle.1]
    exact h.pins cfg hcfg
  deviceCount_eq := hidle.deviceCount_eq.trans h.deviceCount_eq
  addr i hi := by
    rw [hidle.devices_eq]
    exact h.addr i hi

theorem xfer (h : Retains asked w) (op : XferOp) (bus : Option Unit) (dev : Option MasterDev)
    (env : XferEnv) : Retains asked (i2cBusXfer op bus dev env w).2 := by
  rcases xfer_idle_or_recovers op bus dev env w with hidle | ⟨_, _, w₀, hbefore, hafter⟩
  · exact h.idle hidle
  · have hrecovered := (h.idle hbefore).sameRegistry (recover_sameRegistry env.recover w₀)
    exact hrecovered.idle hafter

theorem init (h : Retains asked w) (cfg : Option I2cBusConfig) (env : InitEnv) :
    Retains (asked.after (w, .init cfg env)) (busStep w (.init cfg env)) := by
  cases cfg with
  | none =>
      exact h
  | some cfg =>
      refine ⟨?_, (init_spec cfg env w).1, fun i hi => absurd hi (Nat.not_lt_zero i)⟩
      intro cfg' hcfg
      -- only a successful `init` is remembered, and it copies the configuration
      cases hmutex : env.mutexCreated with
      | false =>
          simp [Asked.after, BusCall.exec, i2cBusInit, Esp.createMutex, hmutex] at hcfg
      | true =>
          by_cases hret : env.newMasterBus = espOk
          · simp only [Asked.after, BusCall.exec, i2cBusInit, Esp.createMutex, Esp.newMasterBus,
              hmutex, hret, if_true, ne_eq, not_true_eq_false, if_false, Option.some_inj] at hcfg
            subst hcfg
            simp [busStep, BusCall.exec, i2cBusInit, Esp.createMutex, Esp.newMasterBus, hmutex, hret]
          · simp [Asked.after, BusCall.exec, i2cBusInit, Esp.createMutex, Esp.newMasterBus, hmutex,
              hret] at hcfg

theorem addDevice (h : Retains asked w) (addr : UInt8) (sclHz : UInt32) (label : Option String)
    (out : Option (Option MasterDev)) (ret : EspErr) :
    Retains (asked.after (w, .addDevice addr sclHz label out ret))
      (busStep w (.addDevice addr sclHz label out ret)) := by
  by_cases hok : (i2cBusAddDevice (some ()) addr sclHz label out ret w).1 = espOk
  · rcases addDevice_appends hok with ⟨_, _, m, d, _, _, _, _, esp, hw', _, _, _⟩
    simp only [Asked.after, busStep, BusCall.exec, hok, hw', if_true]
    refine ⟨h.pins, by simp [h.deviceCount_eq], fun i hi => ?_⟩
    by_cases hnew : i = w.bus.deviceCount
    · have hlen : i = asked.devices.length := hnew.trans h.deviceCount_eq
      subst hlen
      simp [h.deviceCount_eq]
    · -- the slots below the new one are as they were
      have hlt : i < asked.devices.length := by
        simp only [List.length_append, List.length_singleton] at hi
        have hne : i ≠ asked.devices.length := h.deviceCount_eq ▸ hnew
        omega
      simpa [hnew, List.getElem_append_left hlt] using h.addr i hlt
  · have hidle := addDevice_failed_idle hok
    simp only [Asked.after, busStep, BusCall.exec, hok, if_false]
    exact h.idle hidle

theorem deinit (h : Retains asked w) (del : EspErr) :
    Retains (asked.after (w, .deinit del)) (busStep w (.deinit del)) := by
  by_cases hdown : w.bus.initialized = false
  · have hsame : busStep w (.deinit del) = w := by
      simp [busStep, BusCall.exec, i2cBusDeinit, hdown]
    rw [hsame]
    exact h
  · -- the bus object keeps all but its `initialized`
    have hbus : (busStep w (.deinit del)).bus = { w.bus with initialized := false } := by
      simp [busStep, BusCall.exec, i2cBusDeinit, hdown]
    refine ⟨?_, ?_, ?_⟩
    · rw [hbus]
      exact h.pins
    · rw [hbus]
      exact h.deviceCount_eq
    · rw [hbus]
      exact h.addr

theorem step (h : Retains asked w) (call : BusCall) :
    Retains (asked.after (w, call)) (busStep w call) := by
  cases call with
  | init cfg env => exact h.init cfg env
  | deinit del => exact h.deinit del
  | addDevice addr sclHz label out ret => exact h.addDevice addr sclHz label out ret
  | write dev data env => exact h.xfer _ _ dev env
  | read dev len env => exact h.xfer _ _ dev env
  | writeRead dev wrData rdLen env => exact h.xfer _ _ dev env
  | scan env => exact h.idle (scan_idle (some ()) env w)

theorem run (h : Retains asked w) (calls : List BusCall) :
    Retains ((moves busStep w calls).foldl Asked.after asked) (run busStep w calls) := by
  induction calls generalizing asked w with
  | nil =>
      exact h
  | cons call calls ih =>
      exact ih (h.step call)

end Retains

/-! ## Recovery -/

/-- A successful recovery of a bus that retains what was asked for restores it exactly if every
device was registered without a clock rate. -/
theorem recover_sameBus_iff {asked : Asked} {w : World} (h : Retains asked w) {env : RecoverEnv}
    (hok : (i2cBusRecoverLocked env w).1 = espOk) :
    SameBus asked (i2cBusRecoverLocked env w).2 ↔ ∀ d ∈ asked.devices, d.2 = 0 := by
  rcases recover_config env w hok with ⟨id, hup, hconfig⟩
  have hcount := (recover_sameRegistry env w).deviceCount_eq
  constructor
  · intro hsame
    rcases hsame.master with ⟨m, _, _, _, hdevices⟩
    rw [List.forall_mem_iff_get]
    intro i
    rcases hdevices i i.isLt with ⟨d, hd, _, hd'⟩
    have hi : i.val < w.bus.deviceCount := i.isLt.trans_eq h.deviceCount_eq.symm
    rcases hconfig i hi with ⟨d₀, hd₀, hd₀'⟩
    -- one handle, so one configuration
    have heq : d₀ = d := Option.some.inj (hd₀.symm.trans hd)
    rw [heq, hd'] at hd₀'
    exact congrArg DeviceConfig.sclSpeedHz hd₀'
  · intro hzero
    refine ⟨hcount.trans h.deviceCount_eq, _, hup.busHandle_eq, hup.live, ?_, ?_⟩
    · intro cfg hcfg
      have hpins := h.pins cfg hcfg
      simp only [Prod.mk.injEq] at hpins
      rw [hpins.1, hpins.2.1, hpins.2.2]
    · intro i hi
      have hi' : i < w.bus.deviceCount := h.deviceCount_eq ▸ hi
      rcases hup.attached i (hcount ▸ hi') with ⟨d, hd, hmaster, _⟩
      rcases hconfig i hi' with ⟨d₀, hd₀, hd₀'⟩
      have heq : d₀ = d := Option.some.inj (hd₀.symm.trans hd)
      have hrate := hzero _ (List.get_mem asked.devices ⟨i, hi⟩)
      refine ⟨d, hd, hmaster, ?_⟩
      rw [← heq, hd₀', h.addr i hi, hrate]

/-- Recovery starts inside a transfer, in a world `w` that differs from the last state of a run at most
in the log and the error count. If it returns `ESP_OK` it leaves the bus its callers asked for exactly
if, its answers being good, every device was registered with a clock rate of 0. -/
theorem recovered_bus_is_same_iff (calls : List BusCall) (w : World)
    (hidle : Idle (run busStep World.initial calls) w) (env : RecoverEnv) :
    let asked := (moves busStep World.initial calls).foldl Asked.after Asked.nothing
    ((i2cBusRecoverLocked env w).1 = espOk → SameBus asked (i2cBusRecoverLocked env w).2) ↔
      (env.Heals asked.devices.length → ∀ d ∈ asked.devices, d.2 = 0) := by
  intro asked
  have hretains : Retains asked w := (Retains.initial.run calls).idle hidle
  have hheals := recover_eq_ok_iff env w
  rw [hretains.deviceCount_eq] at hheals
  rw [← hheals]
  exact forall_congr' fun hok => recover_sameBus_iff hretains hok

/-- SDA is high at once, and the rebuild and the re-adding are answered with `ESP_OK`. -/
def wellAnswered : RecoverEnv :=
  ⟨espOk, fun _ => true, espOk, fun _ => espOk, espOk⟩

/-- The bus of the display and the sensors, with the ADC registered at 400 kHz. -/
def registeredRun : List BusCall :=
  [.init (some ⟨18, 19, 0⟩) ⟨true, espOk⟩, .addDevice 0x48 400000 (some "ADS1115") (some none) espOk]

/-- After a recovery that returns `ESP_OK` the device is attached with a clock rate of 0. -/
theorem recovered_device_lost_clock_rate :
    (i2cBusRecoverLocked wellAnswered (run busStep World.initial registeredRun)).1 = espOk ∧
      (((i2cBusRecoverLocked wellAnswered (run busStep World.initial registeredRun)).2.bus.devices
        0).handle = some ⟨1, 1, ⟨7, 0x48, 0⟩⟩) ∧
      (moves busStep World.initial registeredRun).foldl Asked.after Asked.nothing =
        ⟨some ⟨18, 19, 0⟩, [(0x48, 400000)]⟩ ∧
      ¬ SameBus ⟨some ⟨18, 19, 0⟩, [(0x48, 400000)]⟩
        (i2cBusRecoverLocked wellAnswered (run busStep World.initial registeredRun)).2 := by
  refine ⟨by decide, by decide, rfl, fun hsame => ?_⟩
  rcases hsame.master with ⟨_, _, _, _, hdevices⟩
  rcases hdevices 0 Nat.zero_lt_one with ⟨d, hd, _, hd'⟩
  have hdev : d = ⟨1, 1, ⟨7, 0x48, 0⟩⟩ := Option.some.inj (hd.symm.trans (by decide))
  rw [hdev] at hd'
  exact absurd hd' (by decide)

theorem recovered_bus_is_same_iff_registered :
    (i2cBusRecoverLocked wellAnswered (run busStep World.initial registeredRun)).1 = espOk →
        SameBus ⟨some ⟨18, 19, 0⟩, [(0x48, 400000)]⟩
          (i2cBusRecoverLocked wellAnswered (run busStep World.initial registeredRun)).2 ↔
      (wellAnswered.Heals 1 → ∀ d ∈ [((0x48 : UInt8), (400000 : UInt32))], d.2 = 0) :=
  recovered_bus_is_same_iff registeredRun _ (Idle.refl _) wellAnswered

end MainboardFirmware
