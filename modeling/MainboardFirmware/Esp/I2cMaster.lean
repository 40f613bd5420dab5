import Mathlib.Data.Finset.Basic
import MainboardFirmware.Esp.Err

/-!
# I2cMaster — the ESP-IDF objects `i2c_bus.c` works with

ESP-IDF itself is not part of the repository. What the bus code relies on is:

* `i2c_new_master_bus` and `i2c_master_bus_add_device` hand out fresh handles, and leave the
  caller's handle variable alone when they fail;
* `i2c_del_master_bus` invalidates the master bus and every device handle attached to it, unless it
  fails, which leaves them as they are;
* every call may return any `esp_err_t`.

A device handle points to an immutable record of the master bus it was attached to and of the
configuration it was attached with, so "attached to a live bus" is a question about `liveMasters`.
Every call is appended to `log` together with what was true when it was issued.
-/

namespace MainboardFirmware

/-- `i2c_master_bus_config_t`, the fields the firmware fills in. -/
structure MasterBusConfig where
  i2cPort : Int
  sclIoNum : Int
  sdaIoNum : Int
  glitchIgnoreCnt : Nat
  enableInternalPullup : Bool
  deriving DecidableEq, Repr

/-- What an `i2c_master_bus_handle_t` points to. -/
structure MasterBus where
  id : Nat
  config : MasterBusConfig
  deriving DecidableEq, Repr

/-- `i2c_device_config_t` -/
structure DeviceConfig where
  devAddrLength : Nat
  deviceAddress : UInt8
  sclSpeedHz : UInt32
  deriving DecidableEq, Repr

/-- What an `i2c_master_dev_handle_t` points to. -/
structure MasterDev where
  id : Nat
  master : Nat
  config : DeviceConfig
  deriving DecidableEq, Repr

/-- One hardware transaction: `i2c_master_transmit`, `i2c_master_receive` or
`i2c_master_transmit_receive`. -/
inductive XferOp
  | transmit (data : List UInt8)
  | receive (len : Nat)
  | transmitReceive (wrData : List UInt8) (rdLen : Nat)
  deriving DecidableEq, Repr

/-- The two open-drain lines recovery drives by hand. -/
inductive Line
  | sda
  | scl
  deriving DecidableEq, Repr

/-- What was true of the bus object when a call went out. -/
structure BusSnapshot where
  initialized : Bool
  busHandle : Option MasterBus
  liveMasters : Finset Nat
  deriving DecidableEq

/-- A call `i2c_bus.c` makes to ESP-IDF or FreeRTOS. -/
inductive HwCall
  | createMutex (mutex : Option Nat)
  | deleteMutex (mutex : Nat)
  | takeMutex (taken : Bool)
  | giveMutex
  | newMasterBus (master : Option MasterBus)
  | delMasterBus (master : Option MasterBus)
  | addDevice (dev : Option MasterDev)
  | transfer (op : XferOp) (dev : Option MasterDev) (at_ : BusSnapshot) (ret : EspErr)
  | probe (addr : Nat) (at_ : BusSnapshot) (ret : EspErr)
  | gpioConfig
  | gpioSetLevel (line : Line) (level : Bool)
  | gpioGetLevel (line : Line) (level : Bool)
  deriving DecidableEq

/-- The ESP-IDF side of the bus. -/
structure Esp where
  nextMaster : Nat := 0
  nextDev : Nat := 0
  nextMutex : Nat := 0
  liveMasters : Finset Nat := ∅
  liveMutexes : Finset Nat := ∅
  log : List HwCall := []

namespace Esp

def emit (e : Esp) (calls : List HwCall) : Esp :=
  { e with log := e.log ++ calls }

/-- `xSemaphoreCreateMutex`, which returns `NULL` when there is no heap left. -/
def createMutex (e : Esp) (ok : Bool) : Option Nat × Esp :=
  if ok then
    (some e.nextMutex,
      { e.emit [.createMutex (some e.nextMutex)] with
        nextMutex := e.nextMutex + 1
        liveMutexes := insert e.nextMutex e.liveMutexes })
  else
    (none, e.emit [.createMutex none])

/-- `vSemaphoreDelete` -/
def deleteMutex (e : Esp) (mutex : Nat) : Esp :=
  { e.emit [.deleteMutex mutex] with liveMutexes := e.liveMutexes.erase mutex }

/-- `i2c_new_master_bus` answering `ret`, with what `*out` holds afterwards. -/
def newMasterBus (e : Esp) (config : MasterBusConfig) (ret : EspErr) (out : Option MasterBus) :
    EspErr × Option MasterBus × Esp :=
  if ret = espOk then
    (espOk, some ⟨e.nextMaster, config⟩,
      { e.emit [.newMasterBus (some ⟨e.nextMaster, config⟩)] with
        nextMaster := e.nextMaster + 1
        liveMasters := insert e.nextMaster e.liveMasters })
  else
    (ret, out, e.emit [.newMasterBus none])

/-- `i2c_del_master_bus` answering `ret`. -/
def delMasterBus (e : Esp) (master : Option MasterBus) (ret : EspErr) : Esp :=
  match master with
  | some m =>
      { e.emit [.delMasterBus (some m)] with
        liveMasters := if ret = espOk then e.liveMasters.erase m.id else e.liveMasters }
  | none => e.emit [.delMasterBus none]

/-- `i2c_master_bus_add_device` answering `ret`, with what `*out` holds afterwards. -/
def addDevice (e : Esp) (master : Option MasterBus) (config : DeviceConfig) (ret : EspErr)
    (out : Option MasterDev) : EspErr × Option MasterDev × Esp :=
  match master with
  | some m =>
      if ret = espOk then
        (espOk, some ⟨e.nextDev, m.id, config⟩,
          { e.emit [.addDevice (some ⟨e.nextDev, m.id, config⟩)] with nextDev := e.nextDev + 1 })
      else
        (ret, out, e.emit [.addDevice none])
  | none => (espErrInvalidArg, out, e.emit [.addDevice none])

end Esp
end MainboardFirmware
