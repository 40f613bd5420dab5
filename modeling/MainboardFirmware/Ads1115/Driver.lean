import MainboardFirmware.Bus.I2cBusApi

/-!
# Driver — `firmware/main/drivers/ic/ads1115.c`

The four operations of the ADC driver, over any bus and any `vTaskDelay`. As for the expander, one
driver instance is followed and a pointer to its context is an `Option Unit`. The enumerations of a
channel configuration are 32-bit values that nothing checks; a data rate outside the conversion time
table makes `ads1115_read` undefined, which is `none`.
-/

namespace MainboardFirmware

/-! ## Constants -/

def ads1115RegConversion : UInt8 := 0x00
def ads1115RegConfig : UInt8 := 0x01
def ads1115ConfigReset : UInt16 := 0x8583
def ads1115ConversionMarginMs : UInt32 := 2
def ads1115Channel0 : UInt32 := 4
def ads1115Channel3 : UInt32 := 7

/-- `configTICK_RATE_HZ` is `CONFIG_FREERTOS_HZ` of `sdkconfig`. -/
def configTickRateHz : UInt32 := 100

/-- `pdMS_TO_TICKS` -/
def pdMsToTicks (ms : UInt32) : UInt32 :=
  ms * configTickRateHz / 1000

/-- `ads1115_data_rate_t` -/
inductive Ads1115DataRate
  | dr16Sps
  | dr32Sps
  | dr64Sps
  | dr128Sps
  | dr250Sps
  | dr475Sps
  | dr860Sps
  deriving DecidableEq, Repr

/-- The value of the enumerator. -/
def Ads1115DataRate.value : Ads1115DataRate → UInt32
  | .dr16Sps => 1
  | .dr32Sps => 2
  | .dr64Sps => 3
  | .dr128Sps => 4
  | .dr250Sps => 5
  | .dr475Sps => 6
  | .dr860Sps => 7

/-- `s_conversion_to_ms`; the designated initializers start at index 1. -/
def conversionToMs : List UInt32 :=
  [0, 63, 32, 16, 8, 4, 3, 2]

/-! ## Data -/

variable {β η σ : Type}

/-- `ads1115_channel_config_t` -/
structure Ads1115ChannelConfig where
  channel : UInt32
  pga : UInt32
  dataRate : UInt32
  deriving DecidableEq, Repr

/-- `ads1115_config_t` -/
structure Ads1115Config (β : Type) where
  bus : Option β
  addr : UInt32
  sclHz : UInt32
  channelConfig : Fin 4 → Ads1115ChannelConfig

/-- `ads1115_dev_t` -/
structure Ads1115Dev (β η : Type) where
  bus : Option β
  dev : Option η
  channelConfig : Fin 4 → Ads1115ChannelConfig
  initialized : Bool

/-- `memset(dev, 0, sizeof(ads1115_dev_t))` -/
def Ads1115Dev.zero : Ads1115Dev β η :=
  ⟨none, none, fun _ => ⟨0, 0, 0⟩, false⟩

/-- The configuration `ads1115_read` uses for a channel. -/
def Ads1115Dev.configOf (dev : Ads1115Dev β η) (channel : UInt32) : Ads1115ChannelConfig :=
  dev.channelConfig (Fin.ofNat 4 (channel - ads1115Channel0).toNat)

/-- The driver instance and the bus it talks over. -/
structure Ads1115World (β η σ : Type) where
  dev : Ads1115Dev β η
  bus : σ

/-! ## Private helpers -/

variable (api : I2cBusApi β η σ) (vTaskDelay : UInt32 → σ → σ)

/-- `_ads1115_channel_valid` -/
def ads1115ChannelValid (channel : UInt32) : Bool :=
  ads1115Channel0 ≤ channel && channel ≤ ads1115Channel3

/-- `_ads1115_build_config_word` -/
def ads1115BuildConfigWord (config : Ads1115ChannelConfig) : UInt16 :=
  (0 : UInt16) ||| ((1 : UInt32) <<< 15).toUInt16
    ||| (config.channel.toUInt16 &&& 0x07) <<< 12
    ||| (config.pga.toUInt16 &&& 0x07) <<< 9
    ||| ((1 : UInt32) <<< 8).toUInt16
    ||| (config.dataRate.toUInt8.toUInt16 &&& 0x07) <<< 5
    ||| 0x03

/-- `_ads1115_write_register` -/
def ads1115WriteRegister (reg : UInt8) (value : UInt16) (w : Ads1115World β η σ) :
    EspErr × Ads1115World β η σ :=
  let payload := [reg, ((value >>> 8) &&& 0xFF).toUInt8, (value &&& 0xFF).toUInt8]
  let (ret, bus) := api.write w.dev.bus w.dev.dev payload w.bus
  (ret, ⟨w.dev, bus⟩)

/-- `_ads1115_read_register`; `old` is what the output holds before. -/
def ads1115ReadRegister (reg : UInt8) (old : UInt16) (w : Ads1115World β η σ) :
    EspErr × UInt16 × Ads1115World β η σ :=
  let (ret, bytes, bus) := api.writeRead w.dev.bus w.dev.dev [reg] 2 w.bus
  if ret ≠ espOk then
    (ret, old, ⟨w.dev, bus⟩)
  else
    (espOk, (bytes.getD 0 0).toUInt16 <<< 8 ||| (bytes.getD 1 0).toUInt16, ⟨w.dev, bus⟩)

/-! ## Operations -/

def ads1115Init (dev : Option Unit) (config : Option (Ads1115Config β))
    (w : Ads1115World β η σ) : EspErr × Ads1115World β η σ :=
  match dev, config with
  | some (), some config =>
      if config.bus = none then
        (espErrInvalidArg, w)
      else
        let ctx : Ads1115Dev β η := Ads1115Dev.zero
        let (ret, handle, bus) :=
          api.addDevice config.bus config.addr.toUInt8 config.sclHz (some "ADS1115") ctx.dev w.bus
        if ret ≠ espOk then
          (ret, ⟨{ ctx with dev := handle }, bus⟩)
        else
          let ctx := { ctx with
            dev := handle
            bus := config.bus
            channelConfig := config.channelConfig }
          let (ret, w) := ads1115WriteRegister api ads1115RegConfig ads1115ConfigReset ⟨ctx, bus⟩
          if ret ≠ espOk then (ret, w) else (espOk, ⟨{ w.dev with initialized := true }, w.bus⟩)
  | _, _ => (espErrInvalidArg, w)

/-- `ads1115_read`; `out` is the caller's `*out_raw` (`none` for a `NULL` pointer), before and
after. -/
def ads1115Read (dev : Option Unit) (channel : UInt32) (out : Option UInt16)
    (w : Ads1115World β η σ) : Option (EspErr × Option UInt16 × Ads1115World β η σ) :=
  if dev = none ∨ out = none then
    some (espErrInvalidArg, out, w)
  else if w.dev.initialized = false then
    some (espErrInvalidState, out, w)
  else if ads1115ChannelValid channel = false then
    some (espErrInvalidArg, out, w)
  else
    let config := w.dev.channelConfig (Fin.ofNat 4 (channel - ads1115Channel0).toNat)
    let (ret, w) := ads1115WriteRegister api ads1115RegConfig (ads1115BuildConfigWord config) w
    if ret ≠ espOk then
      some (ret, out, w)
    else
      match conversionToMs[config.dataRate.toNat]? with
      | none => none
      | some ms =>
          let delayMs := ms + ads1115ConversionMarginMs
          let w : Ads1115World β η σ := ⟨w.dev, vTaskDelay (pdMsToTicks delayMs) w.bus⟩
          let (ret, raw, w) := ads1115ReadRegister api ads1115RegConversion 0 w
          if ret ≠ espOk then some (ret, out, w) else some (espOk, some raw, w)

def ads1115Reset (dev : Option Unit) (w : Ads1115World β η σ) : EspErr × Ads1115World β η σ :=
  if dev = none then
    (espErrInvalidArg, w)
  else if w.dev.initialized = false then
    (espErrInvalidState, w)
  else
    ads1115WriteRegister api ads1115RegConfig ads1115ConfigReset w

def ads1115Deinit (dev : Option Unit) (w : Ads1115World β η σ) : Ads1115World β η σ :=
  if dev = none then w else ⟨{ w.dev with initialized := false }, w.bus⟩

end MainboardFirmware
