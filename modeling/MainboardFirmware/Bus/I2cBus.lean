import Mathlib.Logic.Function.Basic
import MainboardFirmware.Esp.I2cMaster

/-!
# I2cBus — `firmware/main/bus/i2c_bus.c`

The bus object and its functions, on a world that pairs the one `i2c_bus_t` with the ESP-IDF side.
A pointer to the bus is an `Option Unit` (`none` is `NULL`). What ESP-IDF answers to the calls of one
function is that function's last argument, so every sequence of answers is a sequence of arguments.
Log output (`ESP_LOGx`) and the microsecond delays are left out, and with them `clk_hz`, which is
only logged.
-/

namespace MainboardFirmware

def i2cBusMaxDevices : Nat := 8
def i2cBusRecoveryRetry : Nat := 1
def i2cBusRecoveryClocks : Nat := 9

/-- `i2c_device_entry_t` -/
structure I2cDeviceEntry where
  addr : UInt8
  handle : Option MasterDev
  label : Option String
  active : Bool
  deriving DecidableEq, Repr

/-- `i2c_bus_config_t` -/
structure I2cBusConfig where
  sdaPin : Int
  sclPin : Int
  port : Int
  deriving DecidableEq, Repr

/-- `i2c_bus_t`. Slot `i` of the registry is `devices i`; only the slots below `i2cBusMaxDevices`
exist in the C array, and no function below reads or writes another one. -/
structure I2cBus where
  busHandle : Option MasterBus
  mutex : Option Nat
  devices : Nat → I2cDeviceEntry
  deviceCount : Nat
  errorCount : UInt32
  sdaPin : Int
  sclPin : Int
  port : Int
  initialized : Bool

/-- `memset(bus, 0, sizeof(i2c_bus_t))` -/
def I2cBus.zero : I2cBus where
  busHandle := none
  mutex := none
  devices := fun _ => ⟨0, none, none, false⟩
  deviceCount := 0
  errorCount := 0
  sdaPin := 0
  sclPin := 0
  port := 0
  initialized := false

structure World where
  bus : I2cBus
  esp : Esp

namespace World

def snapshot (w : World) : BusSnapshot :=
  ⟨w.bus.initialized, w.bus.busHandle, w.esp.liveMasters⟩

def emit (w : World) (calls : List HwCall) : World :=
  { w with esp := w.esp.emit calls }

/-- `bus->error_count++` -/
def countError (w : World) : World :=
  { w with bus := { w.bus with errorCount := w.bus.errorCount + 1 } }

end World

/-- The static bus object before the first call. -/
def World.initial : World :=
  ⟨I2cBus.zero, {}⟩

/-! ## Lifecycle -/

/-- The answers `i2c_bus_init` gets. -/
structure InitEnv where
  mutexCreated : Bool
  newMasterBus : EspErr

/-- The master bus configuration, the same in `i2c_bus_init` and in recovery. -/
def masterBusConfig (port sclPin sdaPin : Int) : MasterBusConfig where
  i2cPort := port
  sclIoNum := sclPin
  sdaIoNum := sdaPin
  glitchIgnoreCnt := 7
  enableInternalPullup := false

def i2cBusInit (bus : Option Unit) (cfg : Option I2cBusConfig) (env : InitEnv) (w : World) :
    EspErr × World :=
  match bus, cfg with
  | some (), some cfg =>
      -- the object is zeroed first, so whatever an earlier init left in it is lost
      match w.esp.createMutex env.mutexCreated with
      | (none, esp) => (espErrNoMem, ⟨I2cBus.zero, esp⟩)
      | (some mutex, esp) =>
          let (ret, busHandle, esp) :=
            esp.newMasterBus (masterBusConfig cfg.port cfg.sclPin cfg.sdaPin) env.newMasterBus none
          if ret ≠ espOk then
            -- the mutex is deleted, but the field keeps pointing at it
            (ret, ⟨{ I2cBus.zero with mutex := some mutex }, esp.deleteMutex mutex⟩)
          else
            (espOk,
              ⟨{ I2cBus.zero with
                  mutex := some mutex
                  busHandle := busHandle
                  sdaPin := cfg.sdaPin
                  sclPin := cfg.sclPin
                  port := cfg.port
                  initialized := true }, esp⟩)
  | _, _ => (espErrInvalidArg, w)

/-- `i2c_bus_deinit`; `del` is what `i2c_del_master_bus` answers. -/
def i2cBusDeinit (bus : Option Unit) (del : EspErr) (w : World) : EspErr × World :=
  if bus = none ∨ w.bus.initialized = false then
    (espErrInvalidState, w)
  else
    -- whatever the deletion answers, the mutex goes and the bus is down
    let esp := w.esp.delMasterBus w.bus.busHandle del
    let esp := match w.bus.mutex with
      | some mutex => esp.deleteMutex mutex
      | none => esp
    (del, ⟨{ w.bus with initialized := false }, esp⟩)

/-! ## Device management -/

/-- `i2c_bus_add_device`. `out` is the caller's handle variable (`none` for a `NULL` pointer, else
what it holds); the result carries what it holds afterwards. -/
def i2cBusAddDevice (bus : Option Unit) (addr : UInt8) (sclHz : UInt32) (label : Option String)
    (out : Option (Option MasterDev)) (ret : EspErr) (w : World) :
    EspErr × Option (Option MasterDev) × World :=
  match out with
  | none => (espErrInvalidArg, out, w)
  | some old =>
      if bus = none ∨ w.bus.initialized = false then
        (espErrInvalidArg, out, w)
      else if i2cBusMaxDevices ≤ w.bus.deviceCount then
        (espErrNoMem, out, w)
      else
        let (ret, handle, esp) := w.esp.addDevice w.bus.busHandle ⟨7, addr, sclHz⟩ ret old
        if ret ≠ espOk then
          -- the registry is only touched behind this return
          (ret, some handle, ⟨w.bus, esp⟩)
        else
          (espOk, some handle,
            ⟨{ w.bus with
                devices := Function.update w.bus.devices w.bus.deviceCount
                  ⟨addr, handle, label, true⟩
                deviceCount := w.bus.deviceCount + 1 }, esp⟩)

/-! ## Self-healing -/

/-- The answers one run of recovery gets: the deletion of the wedged master bus, the level of every
`gpio_get_level(sda_pin)` in order, the rebuild, the re-adding of each registered device, and the
deletion of the rebuilt bus if that fails. -/
structure RecoverEnv where
  delMasterBus : EspErr
  sda : Nat → Bool
  newMasterBus : EspErr
  addDevice : Nat → EspErr
  delRebuilt : EspErr

/-- The clocking loop of recovery with `budget` pulses left, whose next sample of SDA is the `k`-th:
the number of pulses it issues and the calls it makes. -/
def clockSclUntilReleased (sda : Nat → Bool) : Nat → Nat → Nat × List HwCall
  | 0, k => (0, [.gpioGetLevel .sda (sda k)])
  | budget + 1, k =>
      if sda k = true then
        (0, [.gpioGetLevel .sda true])
      else
        let (pulses, calls) := clockSclUntilReleased sda budget (k + 1)
        (pulses + 1,
          .gpioGetLevel .sda false :: .gpioSetLevel .scl false :: .gpioSetLevel .scl true :: calls)

/-- The re-adding loop of recovery, with `n` entries left from entry `i` on. -/
def readdDevices (env : RecoverEnv) : Nat → Nat → World → EspErr × World
  | 0, _, w => (espOk, w)
  | n + 1, i, w =>
      -- the clock rate is not retained in the registry, so the device comes back with 0
      let entry := w.bus.devices i
      let (ret, handle, esp) :=
        w.esp.addDevice w.bus.busHandle ⟨7, entry.addr, 0⟩ (env.addDevice i) entry.handle
      if ret ≠ espOk then
        -- the entries re-added before this one keep handles of the bus deleted here
        (ret, ⟨{ w.bus with busHandle := none }, esp.delMasterBus w.bus.busHandle env.delRebuilt⟩)
      else
        readdDevices env n (i + 1)
          ⟨{ w.bus with devices := Function.update w.bus.devices i { entry with handle := handle } },
            esp⟩

/-- The first stage of recovery: the wedged master bus is deleted; what that answers is ignored. -/
def teardown (env : RecoverEnv) (w : World) : World :=
  match w.bus.busHandle with
  | some m =>
      ⟨{ w.bus with busHandle := none, initialized := false },
        w.esp.delMasterBus (some m) env.delMasterBus⟩
  | none => ⟨{ w.bus with initialized := false }, w.esp⟩

/-- The last stage of recovery: a new master bus, and the registry re-applied to it. -/
def rebuild (env : RecoverEnv) (w : World) : EspErr × World :=
  let (ret, busHandle, esp) :=
    w.esp.newMasterBus (masterBusConfig w.bus.port w.bus.sclPin w.bus.sdaPin) env.newMasterBus
      w.bus.busHandle
  let w : World := ⟨{ w.bus with busHandle := busHandle }, esp⟩
  if ret ≠ espOk then
    (ret, w)
  else
    let (ret, w) := readdDevices env w.bus.deviceCount 0 w
    if ret ≠ espOk then
      (ret, w)
    else
      (espOk, { w with bus := { w.bus with initialized := true } })

/-- `_i2c_bus_recover_locked` -/
def i2cBusRecoverLocked (env : RecoverEnv) (w : World) : EspErr × World :=
  let w := teardown env w
  let w := w.emit [.gpioConfig, .gpioSetLevel .scl true, .gpioSetLevel .sda true]
  let (pulses, calls) := clockSclUntilReleased env.sda i2cBusRecoveryClocks 0
  let w := w.emit calls
  -- the level after the loop is sampled once more, after the `pulses + 1` samples of the loop
  let w := w.emit [.gpioGetLevel .sda (env.sda (pulses + 1))]
  if env.sda (pulses + 1) = false then
    (espErrInvalidState, w)
  else
    rebuild env
      (w.emit [.gpioSetLevel .sda false, .gpioSetLevel .scl true, .gpioSetLevel .sda true])

/-! ## Data transfer -/

/-- The answers one transfer call gets; `attempt k` is the result of its `k`-th hardware attempt
and the bytes that attempt puts into the caller's buffer. -/
structure XferEnv where
  mutexTaken : Bool
  attempt : Nat → EspErr × List UInt8
  recover : RecoverEnv

/-- One hardware attempt. -/
def attemptXfer (op : XferOp) (dev : Option MasterDev) (answer : EspErr × List UInt8) (w : World) :
    (EspErr × List UInt8) × World :=
  (answer, w.emit [.transfer op dev w.snapshot answer.1])

/-- `for (attempt = 0; attempt < I2C_BUS_RECOVERY_RETRY && ret != ESP_OK; attempt++)`, with `n`
retries left; `k` counts the hardware attempts made so far. -/
def retryXfer (op : XferOp) (dev : Option MasterDev) (env : XferEnv) :
    Nat → Nat → EspErr × List UInt8 → World → (EspErr × List UInt8) × World
  | 0, _, res, w => (res, w)
  | n + 1, k, res, w =>
      if res.1 = espOk then
        (res, w)
      else
        let (res, w) := attemptXfer op dev (env.attempt k) w
        retryXfer op dev env n (k + 1) res w

/-- What a transfer does about the result of its first attempt: a timeout is counted and healed, and
after a successful recovery the transaction is tried again. -/
def healXfer (op : XferOp) (dev : Option MasterDev) (env : XferEnv) (res : EspErr × List UInt8)
    (w : World) : (EspErr × List UInt8) × World :=
  if res.1 = espErrTimeout then
    let (healed, w) := i2cBusRecoverLocked env.recover w.countError
    if healed = espOk then retryXfer op dev env i2cBusRecoveryRetry 1 res w else (res, w)
  else
    (res, w)

/-- The end of a transfer: the mutex is given back and a failure is counted. -/
def finishXfer (res : EspErr × List UInt8) (w : World) : (EspErr × List UInt8) × World :=
  let w := w.emit [.giveMutex]
  if res.1 ≠ espOk then (res, w.countError) else (res, w)

/-- The common body of `i2c_bus_write`, `i2c_bus_read` and `i2c_bus_write_read`. -/
def i2cBusXfer (op : XferOp) (bus : Option Unit) (dev : Option MasterDev) (env : XferEnv)
    (w : World) : (EspErr × List UInt8) × World :=
  if bus = none ∨ w.bus.initialized = false then
    ((espErrInvalidState, []), w)
  else if env.mutexTaken = false then
    -- not getting the mutex counts as an error, too
    ((espErrTimeout, []), (w.emit [.takeMutex false]).countError)
  else
    let (res, w) := attemptXfer op dev (env.attempt 0) (w.emit [.takeMutex true])
    let (res, w) := healXfer op dev env res w
    finishXfer res w

/-- `i2c_bus_write` -/
def i2cBusWrite (bus : Option Unit) (dev : Option MasterDev) (data : List UInt8) (env : XferEnv)
    (w : World) : EspErr × World :=
  let (res, w) := i2cBusXfer (.transmit data) bus dev env w
  (res.1, w)

/-- `i2c_bus_read` -/
def i2cBusRead (bus : Option Unit) (dev : Option MasterDev) (len : Nat) (env : XferEnv)
    (w : World) : (EspErr × List UInt8) × World :=
  i2cBusXfer (.receive len) bus dev env w

/-- `i2c_bus_write_read` -/
def i2cBusWriteRead (bus : Option Unit) (dev : Option MasterDev) (wrData : List UInt8) (rdLen : Nat)
    (env : XferEnv) (w : World) : (EspErr × List UInt8) × World :=
  i2cBusXfer (.transmitReceive wrData rdLen) bus dev env w

/-! ## Diagnostic -/

/-- The answers `i2c_bus_scan` gets; `probe addr` is the answer of `i2c_master_probe`. -/
structure ScanEnv where
  mutexTaken : Bool
  probe : Nat → EspErr

/-- `i2c_bus_scan`: addresses `0x03` to `0x77` are probed; what answers is only logged. -/
def i2cBusScan (bus : Option Unit) (env : ScanEnv) (w : World) : EspErr × World :=
  if bus = none ∨ w.bus.initialized = false then
    (espErrInvalidState, w)
  else if env.mutexTaken = false then
    (espErrTimeout, (w.emit [.takeMutex false]).countError)
  else
    let probes := (List.range' 0x03 0x75).map fun addr => HwCall.probe addr w.snapshot (env.probe addr)
    (espOk, w.emit ([.takeMutex true] ++ probes ++ [.giveMutex]))

/-- `i2c_bus_get_error_count` -/
def i2cBusGetErrorCount (bus : Option Unit) (w : World) : UInt32 :=
  if bus = none then 0 else w.bus.errorCount

/-- `i2c_bus_get_device_count` -/
def i2cBusGetDeviceCount (bus : Option Unit) (w : World) : Nat :=
  if bus = none then 0 else w.bus.deviceCount

/-! ## Sequences of calls -/

/-- A call on the one bus, with the answers ESP-IDF gives during it. -/
inductive BusCall
  | init (cfg : Option I2cBusConfig) (env : InitEnv)
  | deinit (del : EspErr)
  | addDevice (addr : UInt8) (sclHz : UInt32) (label : Option String)
      (out : Option (Option MasterDev)) (ret : EspErr)
  | write (dev : Option MasterDev) (data : List UInt8) (env : XferEnv)
  | read (dev : Option MasterDev) (len : Nat) (env : XferEnv)
  | writeRead (dev : Option MasterDev) (wrData : List UInt8) (rdLen : Nat) (env : XferEnv)
  | scan (env : ScanEnv)

/-- The return code of a call and the world after it. -/
def BusCall.exec (call : BusCall) (w : World) : EspErr × World :=
  match call with
  | .init cfg env => i2cBusInit (some ()) cfg env w
  | .deinit del => i2cBusDeinit (some ()) del w
  | .addDevice addr sclHz label out ret =>
      let res := i2cBusAddDevice (some ()) addr sclHz label out ret w
      (res.1, res.2.2)
  | .write dev data env => i2cBusWrite (some ()) dev data env w
  | .read dev len env =>
      let res := i2cBusRead (some ()) dev len env w
      (res.1.1, res.2)
  | .writeRead dev wrData rdLen env =>
      let res := i2cBusWriteRead (some ()) dev wrData rdLen env w
      (res.1.1, res.2)
  | .scan env => i2cBusScan (some ()) env w

/-- One call as a move of the bus. -/
def busStep (w : World) (call : BusCall) : World :=
  (call.exec w).2

end MainboardFirmware
