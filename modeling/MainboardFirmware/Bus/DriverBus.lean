import MainboardFirmware.Bus.I2cBusApi
import MainboardFirmware.Bus.Registry

/-!
# DriverBus — the IC drivers on the bus of `i2c_bus.c`

The drivers are written over any bus. Here the bus is the real one, with its registry, its recovery
and what ESP-IDF answers. A transfer, whatever happens to it, never changes the number of registered
devices; a transfer that is answered well on a bus that is up succeeds and leaves it up.
-/

namespace MainboardFirmware

/-- The bus during one driver operation: what `i2c_master_bus_add_device` answers, and what each
transfer of the operation gets. -/
structure DriverBus where
  world : World
  addDevice : EspErr
  xfer : Nat → XferEnv
  /-- transfers made in this operation -/
  xfers : Nat

/-- The bus functions of `i2c_bus.c`. -/
def driverApi : I2cBusApi Unit MasterDev DriverBus where
  addDevice bus addr sclHz label old s :=
    let (ret, out, world) := i2cBusAddDevice bus addr sclHz label (some old) s.addDevice s.world
    (ret, out.getD old, { s with world := world })
  write bus dev data s :=
    let (ret, world) := i2cBusWrite bus dev data (s.xfer s.xfers) s.world
    (ret, { s with world := world, xfers := s.xfers + 1 })
  writeRead bus dev wrData rdLen s :=
    let (res, world) := i2cBusWriteRead bus dev wrData rdLen (s.xfer s.xfers) s.world
    (res.1, res.2, { s with world := world, xfers := s.xfers + 1 })

/-! ## Transfers and the registry -/

theorem xfer_deviceCount (op : XferOp) (bus : Option Unit) (dev : Option MasterDev) (env : XferEnv)
    (w : World) : (i2cBusXfer op bus dev env w).2.bus.deviceCount = w.bus.deviceCount := by
  rcases xfer_idle_or_recovers op bus dev env w with hidle | ⟨_, _, w₀, hbefore, hafter⟩
  · exact hidle.deviceCount_eq
  · calc
      (i2cBusXfer op bus dev env w).2.bus.deviceCount
          = (i2cBusRecoverLocked env.recover w₀).2.bus.deviceCount := hafter.deviceCount_eq
      _ = w₀.bus.deviceCount := (recover_sameRegistry env.recover w₀).deviceCount_eq
      _ = w.bus.deviceCount := hbefore.deviceCount_eq

/-- The mutex is free and the first attempt succeeds. -/
def XferEnv.Healthy (env : XferEnv) : Prop :=
  env.mutexTaken = true ∧ (env.attempt 0).1 = espOk

theorem xfer_healthy {env : XferEnv} (h : env.Healthy) {w : World} (hup : w.bus.initialized = true)
    (op : XferOp) (dev : Option MasterDev) :
    (i2cBusXfer op (some ()) dev env w).1.1 = espOk ∧
      (i2cBusXfer op (some ()) dev env w).2.bus = w.bus := by
  simp [i2cBusXfer, hup, h.1, attemptXfer, healXfer, espErrTimeout_ne_ok.symm, finishXfer, h.2,
    World.emit]

namespace DriverBus

/-- Any number of transfers later: the same number of devices, on a bus as sound as before. -/
structure Transferred (s s' : DriverBus) : Prop where
  deviceCount_eq : s'.world.bus.deviceCount = s.world.bus.deviceCount
  inv : BusInv s.world → BusInv s'.world
  xfer_eq : s'.xfer = s.xfer

/-- The bus is up and every transfer is answered well. -/
structure Healthy (s : DriverBus) : Prop where
  up : s.world.bus.initialized = true
  answers : ∀ k, (s.xfer k).Healthy

namespace Transferred

theorem refl (s : DriverBus) : Transferred s s :=
  ⟨rfl, id, rfl⟩

theorem trans {s₁ s₂ s₃ : DriverBus} (h₁ : Transferred s₁ s₂) (h₂ : Transferred s₂ s₃) :
    Transferred s₁ s₃ where
  deviceCount_eq := h₂.deviceCount_eq.trans h₁.deviceCount_eq
  inv h := h₂.inv (h₁.inv h)
  xfer_eq := h₂.xfer_eq.trans h₁.xfer_eq

theorem write (bus : Option Unit) (dev : Option MasterDev) (data : List UInt8) (s : DriverBus) :
    Transferred s (driverApi.write bus dev data s).2 where
  deviceCount_eq := xfer_deviceCount _ bus dev _ s.world
  inv h := h.xfer _ bus dev _
  xfer_eq := rfl

end Transferred

theorem Healthy.write {s : DriverBus} (h : s.Healthy) (dev : Option MasterDev) (data : List UInt8) :
    (driverApi.write (some ()) dev data s).1 = espOk ∧
      (driverApi.write (some ()) dev data s).2.Healthy := by
  have hxfer := xfer_healthy (h.answers s.xfers) h.up (.transmit data) dev
  refine ⟨hxfer.1, ?_, h.answers⟩
  have hbus : (driverApi.write (some ()) dev data s).2.world.bus = s.world.bus := hxfer.2
  rw [hbus]
  exact h.up

/-! ## Registration -/

/-- The device is taken: the bus is up, the registry has room and ESP-IDF agrees. -/
def takes (s : DriverBus) : Bool :=
  s.world.bus.initialized && decide (s.world.bus.deviceCount < i2cBusMaxDevices) &&
    decide (s.addDevice = espOk)

/-- Adding one device. -/
structure Added (s : DriverBus) (ret : EspErr) (s' : DriverBus) : Prop where
  deviceCount_eq : s'.world.bus.deviceCount =
    s.world.bus.deviceCount + if s.takes then 1 else 0
  ret_eq_ok_iff : ret = espOk ↔ s.takes = true
  inv : BusInv s'.world
  initialized_eq : s'.world.bus.initialized = s.world.bus.initialized
  xfer_eq : s'.xfer = s.xfer

theorem added {s : DriverBus} (hs : BusInv s.world) (addr : UInt8) (sclHz : UInt32)
    (label : Option String) (old : Option MasterDev) :
    Added s (driverApi.addDevice (some ()) addr sclHz label old s).1
      (driverApi.addDevice (some ()) addr sclHz label old s).2.2 := by
  have htakes : (i2cBusAddDevice (some ()) addr sclHz label (some old) s.addDevice s.world).1 =
      espOk ↔ s.takes = true := by
    cases hinit : s.world.bus.initialized with
    | false =>
        simp [i2cBusAddDevice, takes, hinit]
    | true =>
        -- the bus is up, so it has a master and the rest is up to the registry and ESP-IDF
        rcases hs.up hinit with ⟨m, hm⟩
        by_cases hfull : i2cBusMaxDevices ≤ s.world.bus.deviceCount
        · simp [i2cBusAddDevice, takes, hinit, hfull]
        · by_cases hret : s.addDevice = espOk <;>
            simp [i2cBusAddDevice, takes, hinit, hfull, Nat.lt_of_not_le hfull, hm.busHandle_eq,
              Esp.addDevice, hret]
  have hinv := hs.addDevice addr sclHz label (some old) s.addDevice
  by_cases hok : (i2cBusAddDevice (some ()) addr sclHz label (some old) s.addDevice s.world).1 = espOk
  · -- one entry more, and nothing else of the bus has changed
    rcases addDevice_appends hok with ⟨_, _, m, d, _, _, _, _, esp, hw', _, _, _⟩
    refine ⟨?_, htakes, hinv, ?_, rfl⟩
    · simp only [driverApi, hw', htakes.1 hok, if_true]
    · simp only [driverApi, hw']
  · have hidle := addDevice_failed_idle hok
    have hnot : s.takes = false := by
      cases hcase : s.takes with
      | false =>
          rfl
      | true =>
          exact absurd (htakes.2 hcase) hok
    refine ⟨?_, htakes, hinv, hidle.initialized_eq, rfl⟩
    rw [hnot]
    exact hidle.deviceCount_eq

end DriverBus
end MainboardFirmware
