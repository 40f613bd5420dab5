import MainboardFirmware.Bus.Transfer

/-!
# ErrorCount — does `error_count` count the failed transactions?

Beside the bus we count the transfers that return another code than `ESP_OK`. A transfer that is not
given the mutex, and one whose only attempt fails, is counted once. One whose first attempt times out
is counted for the timeout, whatever recovery and the retry make of it, and once more if it fails. So
the two counts agree throughout a run exactly if no first attempt in it times out.
-/

namespace MainboardFirmware

open Machine

/-! ## The count beside the bus -/

/-- A bus and the number of transfers on it that failed. -/
structure Counted where
  world : World
  failed : Nat

/-- What is done with a bus once it is up. -/
inductive Traffic
  | addDevice (addr : UInt8) (sclHz : UInt32) (label : Option String)
      (out : Option (Option MasterDev)) (ret : EspErr)
  | xfer (op : XferOp) (dev : Option MasterDev) (env : XferEnv)

def countedStep (s : Counted) : Traffic → Counted
  | .addDevice addr sclHz label out ret =>
      ⟨busStep s.world (.addDevice addr sclHz label out ret), s.failed⟩
  | .xfer op dev env =>
      let res := (op.call dev env).exec s.world
      ⟨res.2, if res.1 = espOk then s.failed else s.failed + 1⟩

/-- The error count is the number of failed transfers, up to its 32 bits. -/
def CountsFailures (s : Counted) : Prop :=
  i2cBusGetErrorCount (some ()) s.world = UInt32.ofNat s.failed

/-- A transfer does not get as far as a first attempt that times out. -/
def Traffic.NoTimeout : Traffic → Prop
  | .addDevice .. => True
  | .xfer _ _ env => ¬(env.mutexTaken = true ∧ (env.attempt 0).1 = espErrTimeout)

/-! ## One step -/

/-- Up, and counted right so far. -/
structure CountInv (s : Counted) : Prop where
  up : s.world.bus.initialized = true
  counts : s.world.bus.errorCount = UInt32.ofNat s.failed

theorem countsFailures_iff (s : Counted) :
    CountsFailures s ↔ s.world.bus.errorCount = UInt32.ofNat s.failed :=
  Iff.rfl

/-- Registering a device leaves the count and `initialized` alone. -/
theorem addDevice_keeps_count (addr : UInt8) (sclHz : UInt32) (label : Option String)
    (out : Option (Option MasterDev)) (ret : EspErr) (w : World) :
    (busStep w (.addDevice addr sclHz label out ret)).bus.errorCount = w.bus.errorCount ∧
      (busStep w (.addDevice addr sclHz label out ret)).bus.initialized = w.bus.initialized := by
  by_cases hok : (i2cBusAddDevice (some ()) addr sclHz label out ret w).1 = espOk
  · rcases addDevice_appends hok with ⟨_, _, _, _, _, _, _, _, esp, hw', _, _, _⟩
    simp only [busStep, BusCall.exec, hw', and_self]
  · simp only [busStep, BusCall.exec]
    rcases addDevice_failed hok with hsame | hlogged
    · rw [hsame]
      exact ⟨rfl, rfl⟩
    · rw [hlogged]
      exact ⟨rfl, rfl⟩

/-- What one transfer adds to the number of failures. -/
theorem xfer_failed (s : Counted) (op : XferOp) (dev : Option MasterDev) (env : XferEnv) :
    UInt32.ofNat (countedStep s (.xfer op dev env)).failed =
      UInt32.ofNat s.failed +
        if (i2cBusXfer op (some ()) dev env s.world).1.1 ≠ espOk then 1 else 0 := by
  by_cases hok : (i2cBusXfer op (some ()) dev env s.world).1.1 = espOk
  · simp [countedStep, XferOp.exec_call, hok]
  · simp [countedStep, XferOp.exec_call, hok]

/-- A transfer without a timeout of its first attempt leaves the bus as it was. -/
theorem xfer_idle_of_noTimeout {op : XferOp} {dev : Option MasterDev} {env : XferEnv} (w : World)
    (h : (Traffic.xfer op dev env).NoTimeout) : Idle w (i2cBusXfer op (some ()) dev env w).2 := by
  rcases xfer_idle_or_recovers op (some ()) dev env w with hidle | ⟨hentered, htimeout, _⟩
  · exact hidle
  · exact absurd ⟨hentered.2.2, htimeout⟩ h

/-- Under the invariant, a step keeps the count right exactly if no first attempt times out in it. -/
theorem countedStep_counts_iff (s : Counted) (t : Traffic) (hs : CountInv s) :
    CountsFailures (countedStep s t) ↔ t.NoTimeout := by
  rw [countsFailures_iff]
  cases t with
  | addDevice addr sclHz label out ret =>
      have hkept := (addDevice_keeps_count addr sclHz label out ret s.world).1
      exact ⟨fun _ => trivial, fun _ => hkept.trans hs.counts⟩
  | xfer op dev env =>
      have hworld : (countedStep s (.xfer op dev env)).world =
          (i2cBusXfer op (some ()) dev env s.world).2 := by
        simp [countedStep, XferOp.exec_call]
      rw [hworld, xfer_failed]
      cases htaken : env.mutexTaken with
      | false =>
          -- turned away: one failure, counted once
          rw [xfer_of_not_taken hs.up htaken]
          simp [Traffic.NoTimeout, htaken, World.countError, World.emit, hs.counts]
      | true =>
          rw [xfer_errorCount op dev env ⟨by simp, hs.up, htaken⟩, hs.counts]
          -- a timeout of the first attempt is one count too many
          by_cases htimeout : (env.attempt 0).1 = espErrTimeout
          · simp [Traffic.NoTimeout, htaken, htimeout]
          · simp [Traffic.NoTimeout, htaken, htimeout]

theorem countedStep_inv (s : Counted) (t : Traffic) (hs : CountInv s) (ht : t.NoTimeout) :
    CountInv (countedStep s t) := by
  refine ⟨?_, (countedStep_counts_iff s t hs).2 ht⟩
  cases t with
  | addDevice addr sclHz label out ret =>
      exact (addDevice_keeps_count addr sclHz label out ret s.world).2.trans hs.up
  | xfer op dev env =>
      have hidle : Idle s.world (i2cBusXfer op (some ()) dev env s.world).2 :=
        xfer_idle_of_noTimeout s.world ht
      simp only [countedStep, XferOp.exec_call]
      exact hidle.initialized_eq.trans hs.up

/-! ## Runs -/

/-- A successful `i2c_bus_init` leaves the bus up with nothing counted. -/
theorem init_countInv {cfg : Option I2cBusConfig} {env : InitEnv} {w : World}
    (h : ((BusCall.init cfg env).exec w).1 = espOk) :
    CountInv ⟨((BusCall.init cfg env).exec w).2, 0⟩ := by
  cases cfg with
  | none =>
      exact absurd h espErrInvalidArg_ne_ok
  | some cfg =>
      cases hmutex : env.mutexCreated with
      | false =>
          simp [BusCall.exec, i2cBusInit, Esp.createMutex, hmutex] at h
      | true =>
          by_cases hret : env.newMasterBus = espOk
          · constructor
            · simp [BusCall.exec, i2cBusInit, Esp.createMutex, Esp.newMasterBus, hmutex, hret]
            · simp [BusCall.exec, i2cBusInit, Esp.createMutex, Esp.newMasterBus, hmutex, hret,
                I2cBus.zero]
          · simp [BusCall.exec, i2cBusInit, Esp.createMutex, Esp.newMasterBus, hmutex, hret] at h

/-- In every run on a bus that a successful `i2c_bus_init` brought up, the error count is the number
of transfers that failed so far, in every state, exactly if no transfer that is given the mutex has
its first attempt answered with `ESP_ERR_TIMEOUT`. -/
theorem error_count_counts_failures_iff (cfg : Option I2cBusConfig) (env : InitEnv) (w : World)
    (hinit : ((BusCall.init cfg env).exec w).1 = espOk) (traffic : List Traffic) :
    (∀ s ∈ states countedStep ⟨((BusCall.init cfg env).exec w).2, 0⟩ traffic, CountsFailures s) ↔
      ∀ t ∈ traffic, t.NoTimeout := by
  have hstart := init_countInv hinit
  rw [← @forall_moves_label_iff _ _ countedStep _ ⟨((BusCall.init cfg env).exec w).2, 0⟩]
  exact forall_states_iff countedStep_counts_iff countedStep_inv hstart hstart.counts traffic

theorem error_count_counts_failures_iff_started :
    (∀ s ∈ states countedStep ⟨startedBus, 0⟩ [.xfer (.transmit [0x14, 0x01]) none hangsOnce],
        CountsFailures s) ↔
      ∀ t ∈ [Traffic.xfer (.transmit [0x14, 0x01]) none hangsOnce], t.NoTimeout :=
  error_count_counts_failures_iff (some ⟨18, 19, 0⟩) ⟨true, espOk⟩ World.initial rfl _

/-- A bus that hangs, with SDA held low through the whole recovery. -/
def staysHung : XferEnv where
  mutexTaken := true
  attempt _ := (espErrTimeout, [])
  recover := ⟨espOk, fun _ => false, espOk, fun _ => espOk, espOk⟩

/-- A write that recovery heals is counted though it succeeds, and one that recovery cannot heal is
counted twice. -/
theorem timeout_counted_wrong :
    let healed := countedStep ⟨startedBus, 0⟩ (.xfer (.transmit [0x14, 0x01]) none hangsOnce)
    let lost := countedStep ⟨startedBus, 0⟩ (.xfer (.transmit [0x14, 0x01]) none staysHung)
    (i2cBusGetErrorCount (some ()) healed.world = 1 ∧ healed.failed = 0) ∧
      (i2cBusGetErrorCount (some ()) lost.world = 2 ∧ lost.failed = 1) ∧
      ¬ ∀ traffic, ∀ s ∈ states countedStep ⟨startedBus, 0⟩ traffic, CountsFailures s := by
  refine ⟨by decide, by decide, fun hall => ?_⟩
  have hlost := hall [.xfer (.transmit [0x14, 0x01]) none staysHung]
    (countedStep ⟨startedBus, 0⟩ (.xfer (.transmit [0x14, 0x01]) none staysHung)) (by simp)
  exact absurd hlost (by decide : ¬ (2 : UInt32) = UInt32.ofNat 1)

end MainboardFirmware
