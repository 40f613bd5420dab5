import MainboardFirmware.Esp.Err

/-!
# I2cBusApi — the bus as the IC drivers see it

A driver reaches its chip only through `i2c_bus_add_device`, `i2c_bus_write` and
`i2c_bus_write_read`. The drivers are written over any implementation of the three, so that one text
runs on a simulated chip as well as on the bus of `i2c_bus.c`.
-/

namespace MainboardFirmware

/-- The bus functions a driver calls: `β` is what an `i2c_bus_t *` points at, `η` what a device
handle is, `σ` everything behind them. -/
structure I2cBusApi (β η σ : Type) where
  /-- `i2c_bus_add_device(bus, addr, scl_hz, label, &handle)`; the fifth argument is what the handle
  variable held before, the second component what it holds after. -/
  addDevice : Option β → UInt8 → UInt32 → Option String → Option η → σ → EspErr × Option η × σ
  /-- `i2c_bus_write(bus, dev, data, len)` -/
  write : Option β → Option η → List UInt8 → σ → EspErr × σ
  /-- `i2c_bus_write_read(bus, dev, wr_data, wr_len, buf, rd_len)`; the bytes are what was put into
  the buffer. -/
  writeRead : Option β → Option η → List UInt8 → Nat → σ → EspErr × List UInt8 × σ

/-- The bus calls a driver makes, as they show up in a record of its traffic. -/
inductive BusOp
  | addDevice
  | write (data : List UInt8)
  | writeRead (wrData : List UInt8) (rdLen : Nat)
  deriving DecidableEq, Repr

end MainboardFirmware
