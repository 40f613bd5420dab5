import Mathlib.Tactic.IntervalCases
import MainboardFirmware.Ads1115.ConfigWord
import MainboardFirmware.Library.Machine
import MainboardFirmware.Tasks.Sensor

/-!
# Adapter — `firmware/main/drivers/sensor/sensor_ads1115.c`

The ADC driver behind the sensor contract: one device, one active channel, and a reading in volts.
The values are exact rationals in place of `float`.

The gain of the active channel is used twice. The driver puts its low three bits into the config word,
and the adapter scales by a table over the named gains, with one fallback for all others. The two
agree exactly on the named gains and on those whose low bits name the range of the fallback. A data
rate outside the driver's table of conversion times leaves every reading undefined.
-/

namespace MainboardFirmware

open Machine

local instance channels_neZero : NeZero 4 := ⟨by decide⟩

/-! ## The adapter -/

def sensorAds1115SclHz : UInt32 := 100000

/-- `sensor_config_t`; `extra` points to a `sensor_ads1115_config_t`, that is to a channel table. -/
structure SensorConfig (β : Type) where
  bus : Option β
  i2cAddr : UInt8
  channel : UInt8
  extra : Option (Fin 4 → Ads1115ChannelConfig)

/-- The static variables of the adapter; of `s_drv` whether it is not `NULL`. -/
structure Ads1115Sensor (β η : Type) where
  drv : Bool
  dev : Ads1115Dev β η
  activeChannel : UInt32
  activeChannelId : UInt8
  activeLsbVolts : ℚ
  initialized : Bool

/-- Their initial values. -/
def Ads1115Sensor.static {β η : Type} : Ads1115Sensor β η :=
  ⟨false, Ads1115Dev.zero, ads1115Channel0, 0, 0, false⟩

/-- The adapter and the bus its device is on. -/
structure SensorWorld (β η σ : Type) where
  sensor : Ads1115Sensor β η
  bus : σ

/-- `_ads1115_lsb_volts`, in the order of `ads1115_pga_t` -/
def ads1115LsbVolts (pga : UInt32) : ℚ :=
  match pga.toNat with
  | 0 => 6.144 / 32768
  | 1 => 4.096 / 32768
  | 2 => 2.048 / 32768
  | 3 => 1.024 / 32768
  | 4 => 0.512 / 32768
  | 5 => 0.256 / 32768
  | _ => 4.096 / 32768

section Operations

variable {β η σ : Type} (api : I2cBusApi β η σ) (vTaskDelay : UInt32 → σ → σ)

/-- `ads1115_sensor_init` -/
def ads1115SensorInit (cfg : Option (SensorConfig β)) (w : SensorWorld β η σ) :
    EspErr × SensorWorld β η σ :=
  if w.sensor.initialized = true then
    -- the configuration is not looked at
    (espOk, w)
  else
    match cfg with
    | none => (espErrInvalidArg, w)
    | some cfg =>
        match cfg.bus, cfg.extra with
        | some bus, some table =>
            if 3 < cfg.channel then
              (espErrInvalidArg, w)
            else
              let adsCfg : Ads1115Config β :=
                ⟨some bus, cfg.i2cAddr.toUInt32, sensorAds1115SclHz, table⟩
              let (err, ads) := ads1115Init api (some ()) (some adsCfg) ⟨w.sensor.dev, w.bus⟩
              if err ≠ espOk then
                -- `s_drv` stays set
                (err, ⟨{ w.sensor with drv := true, dev := ads.dev }, ads.bus⟩)
              else
                (espOk, ⟨{
                  drv := true
                  dev := ads.dev
                  activeChannel := ads1115Channel0 + cfg.channel.toUInt32
                  activeChannelId := cfg.channel
                  activeLsbVolts := ads1115LsbVolts (table (Fin.ofNat 4 cfg.channel.toNat)).pga
                  initialized := true }, ads.bus⟩)
        | _, _ => (espErrInvalidArg, w)

/-- `ads1115_sensor_read`; `out` is the caller's sample (`none` for a `NULL` pointer), before and
after. `none` is the undefined read of the driver. -/
def ads1115SensorRead (timerUs : Int64) (out : Option (SensorReading ℚ))
    (w : SensorWorld β η σ) :
    Option (EspErr × Option (SensorReading ℚ) × SensorWorld β η σ) :=
  if w.sensor.initialized = false then
    some (espErrInvalidState, out, w)
  else if out = none then
    some (espErrInvalidArg, out, w)
  else
    match ads1115Read api vTaskDelay (some ()) w.sensor.activeChannel (some 0)
        ⟨w.sensor.dev, w.bus⟩ with
    | none => none
    | some (err, raw, ads) =>
        let w : SensorWorld β η σ := ⟨{ w.sensor with dev := ads.dev }, ads.bus⟩
        if err ≠ espOk then
          some (err, out, w)
        else
          -- the cast reads the register as two's complement
          let signedCode := (raw.getD 0).toInt16
          some (espOk, some ⟨w.sensor.activeChannelId,
            (signedCode.toInt : ℚ) * w.sensor.activeLsbVolts,
            (timerUs / 1000).toUInt64.toUInt32⟩, w)

/-- `ads1115_sensor_deinit` -/
def ads1115SensorDeinit (w : SensorWorld β η σ) : SensorWorld β η σ :=
  if w.sensor.drv = true ∧ w.sensor.initialized = true then
    let ads := ads1115Deinit (some ()) ⟨w.sensor.dev, w.bus⟩
    ⟨{ w.sensor with dev := ads.dev, initialized := false }, ads.bus⟩
  else
    ⟨{ w.sensor with initialized := false }, w.bus⟩

end Operations

/-! ## The two gains -/

/-- The full-scale range the chip applies for the PGA field of its config register. -/
def fullScale : Nat → ℚ
  | 0 => 6.144
  | 1 => 4.096
  | 2 => 2.048
  | 3 => 1.024
  | 4 => 0.512
  | _ => 0.256

/-- The range of the adapter is that of the chip. -/
def SameRange (pga : UInt32) : Prop :=
  pga.toNat ≤ 5 ∨ pga.toNat % 8 = 1

instance (pga : UInt32) : Decidable (SameRange pga) :=
  inferInstanceAs (Decidable (_ ∨ _))

theorem fullScale_eq_fallback_iff {field : Nat} (hfield : field < 8) :
    fullScale field = 4.096 ↔ field = 1 := by
  interval_cases field <;> norm_num [fullScale]

theorem lsbVolts_of_unnamed {pga : UInt32} (h : 5 < pga.toNat) :
    ads1115LsbVolts pga = 4.096 / 32768 := by
  unfold ads1115LsbVolts
  split <;> first | omega | rfl

/-- One code is the range of the chip divided by 32768 exactly on the named gains and on those that
share their low bits with the fallback. -/
theorem lsbVolts_eq_iff (pga : UInt32) :
    ads1115LsbVolts pga = fullScale (pga.toNat % 8) / 32768 ↔ SameRange pga := by
  by_cases hnamed : pga.toNat ≤ 5
  · refine ⟨fun _ => Or.inl hnamed, fun _ => ?_⟩
    unfold ads1115LsbVolts
    generalize pga.toNat = n at hnamed
    interval_cases n <;> rfl
  · -- the adapter has fallen back, so it depends on what the low bits name
    have hfield : pga.toNat % 8 < 8 := Nat.mod_lt _ (by decide)
    rw [lsbVolts_of_unnamed (Nat.lt_of_not_le hnamed), div_left_inj' (by norm_num), eq_comm,
      fullScale_eq_fallback_iff hfield]
    exact ⟨Or.inr, fun h => h.resolve_left hnamed⟩

/-! ## One reading -/

/-- What the adapter remembers of its last successful init, in a context the driver has completed. -/
structure Active (sensor : Ads1115Sensor Unit UInt8) : Prop where
  wired : Wired sensor.dev
  channel : ads1115ChannelValid sensor.activeChannel = true
  lsbVolts : sensor.activeLsbVolts =
    ads1115LsbVolts (sensor.dev.configOf sensor.activeChannel).pga

/-- Whatever is on the bus, a reading is defined, and if it returns `ESP_OK` its value is the code in
the conversion register times the range that the config word of the same reading selects, divided by
32768. -/
def ScalesByProgrammedGain (sensor : Ads1115Sensor Unit UInt8) : Prop :=
  ∀ (bus : AdcBus) (timerUs : Int64) (out : SensorReading ℚ), ∃ res,
    ads1115SensorRead adcApi AdcBus.vTaskDelay timerUs (some out) ⟨sensor, bus⟩ = some res ∧
      (res.1 = espOk → ∃ word readAt reading,
        res.2.1 = some reading ∧
        res.2.2.bus.log = bus.log ++ [(bus.now, .write (registerBytes ads1115RegConfig word)),
          (readAt, .writeRead [ads1115RegConversion] 2)] ∧
        reading.value = ((res.2.2.bus.adc.result res.2.2.bus.now).toInt16.toInt : ℚ) *
          (fullScale (configField word 9 3) / 32768))

/-- The gain and the data rate of a channel are ones with which readings come out right. -/
def Ads1115ChannelConfig.Scales (entry : Ads1115ChannelConfig) : Prop :=
  SameRange entry.pga ∧ entry.dataRate.toNat < 8

instance (entry : Ads1115ChannelConfig) : Decidable entry.Scales :=
  inferInstanceAs (Decidable (_ ∧ _))

/-- The sample of a completed reading. -/
def Ads1115Sensor.sample (sensor : Ads1115Sensor Unit UInt8) (bus : AdcBus) (timerUs : Int64) :
    SensorReading ℚ :=
  ⟨sensor.activeChannelId, ((bus.adc.result bus.now).toInt16.toInt : ℚ) * sensor.activeLsbVolts,
    (timerUs / 1000).toUInt64.toUInt32⟩

/-- A converter with the code 1, now and at any other time. -/
def oneCode : AdcBus :=
  AdcBus.ready ⟨1, none⟩ (fun _ => 1) 0

theorem oneCode_result (dev : Ads1115Dev Unit UInt8) (channel : UInt32) (ms : UInt32) :
    let bus := ((oneCode.configured dev channel).waited ms).readOut
    bus.adc.result bus.now = 1 := by
  have hadc : (oneCode.configured dev channel).adc =
      ⟨1, some (conversionTime (drField (ads1115BuildConfigWord (dev.configOf channel))), 1)⟩ := by
    have hwritten := written_config oneCode (os_buildConfigWord (dev.configOf channel))
    simp only [oneCode, AdcBus.ready, zero_add] at hwritten
    exact hwritten
  have hresult : ∀ now, (oneCode.configured dev channel).adc.result now = 1 := by
    intro now
    rw [hadc]
    simp [Adc.result]
  exact hresult _

section Reading

variable {sensor : Ads1115Sensor Unit UInt8} (hinit : sensor.initialized = true)
  (hactive : Active sensor)

include hinit hactive

/-- A reading of which both transfers succeed. -/
theorem sensorRead_of_answered {bus : AdcBus} {ms : UInt32} (hwritten : bus.answer = espOk)
    (hrate : conversionToMs[(sensor.dev.configOf sensor.activeChannel).dataRate.toNat]? = some ms)
    (hread : ((bus.configured sensor.dev sensor.activeChannel).waited ms).answer = espOk)
    (timerUs : Int64) (out : SensorReading ℚ) :
    let bus' := ((bus.configured sensor.dev sensor.activeChannel).waited ms).readOut
    ads1115SensorRead adcApi AdcBus.vTaskDelay timerUs (some out) ⟨sensor, bus⟩ =
      some (espOk, some (sensor.sample bus' timerUs), ⟨sensor, bus'⟩) := by
  have hraw := read_of_configured hactive.wired hactive.channel hwritten hrate 0
  dsimp only at hraw ⊢
  rw [hread, if_pos rfl] at hraw
  unfold ads1115SensorRead
  rw [if_neg (by simp [hinit]), if_neg (by simp), hraw]
  rfl

/-- A reading that returns `ESP_OK` had both of its transfers answered so. -/
theorem sensorRead_ok {bus : AdcBus} {timerUs : Int64} {out : SensorReading ℚ} {res}
    (hres : ads1115SensorRead adcApi AdcBus.vTaskDelay timerUs (some out) ⟨sensor, bus⟩ = some res)
    (hok : res.1 = espOk) : ∃ ms, bus.answer = espOk ∧
      conversionToMs[(sensor.dev.configOf sensor.activeChannel).dataRate.toNat]? = some ms ∧
      ((bus.configured sensor.dev sensor.activeChannel).waited ms).answer = espOk := by
  by_cases hwritten : bus.answer = espOk
  · cases hrate : conversionToMs[(sensor.dev.configOf sensor.activeChannel).dataRate.toNat]? with
    | none =>
        have hraw := read_of_rate_outside hactive.wired hactive.channel hwritten hrate 0
        simp [ads1115SensorRead, hinit, hraw] at hres
    | some ms =>
        refine ⟨ms, hwritten, rfl, ?_⟩
        by_contra hfail
        have hraw := read_of_configured hactive.wired hactive.channel hwritten hrate 0
        dsimp only at hraw
        simp only [ads1115SensorRead, hinit, Bool.true_eq_false, if_false, reduceCtorEq, hraw, ne_eq,
          hfail, not_false_eq_true, if_true, Option.some.injEq] at hres
        rw [← hres] at hok
        exact hfail hok
  · have hraw := read_of_config_refused hactive.wired hactive.channel hwritten 0
    simp only [ads1115SensorRead, hinit, Bool.true_eq_false, if_false, reduceCtorEq, hraw, ne_eq,
      hwritten, not_false_eq_true, if_true, Option.some.injEq] at hres
    rw [← hres] at hok
    exact absurd hok hwritten

/-- A reading is defined as long as the data rate is inside the table. -/
theorem sensorRead_exists
    (hrate : (sensor.dev.configOf sensor.activeChannel).dataRate.toNat < 8) (bus : AdcBus)
    (timerUs : Int64) (out : SensorReading ℚ) :
    ∃ res, ads1115SensorRead adcApi AdcBus.vTaskDelay timerUs (some out) ⟨sensor, bus⟩ = some res := by
  by_cases hwritten : bus.answer = espOk
  · rcases (conversionToMs_some_iff _).2 hrate with ⟨ms, hms⟩
    have hraw := read_of_configured hactive.wired hactive.channel hwritten hms 0
    simp only [ads1115SensorRead, hinit, Bool.true_eq_false, if_false, reduceCtorEq, hraw]
    split <;> exact ⟨_, rfl⟩
  · have hraw := read_of_config_refused hactive.wired hactive.channel hwritten 0
    simp only [ads1115SensorRead, hinit, Bool.true_eq_false, if_false, reduceCtorEq, hraw]
    split <;> exact ⟨_, rfl⟩

/-- An active adapter scales by the gain it programs exactly if the ranges agree and the data rate is
one that the driver has a conversion time for. -/
theorem scales_iff_of_active :
    ScalesByProgrammedGain sensor ↔ (sensor.dev.configOf sensor.activeChannel).Scales := by
  have hfield : configField (ads1115BuildConfigWord (sensor.dev.configOf sensor.activeChannel)) 9 3 =
      (sensor.dev.configOf sensor.activeChannel).pga.toNat % 8 := by
    have hword := buildConfigWord_toNat (sensor.dev.configOf sensor.activeChannel)
    simp only [configField]
    omega
  constructor
  · -- the code 1 shows the size of one step
    intro hscales
    rcases hscales oneCode 0 ⟨0, 0, 0⟩ with ⟨res, hres, hscaled⟩
    cases hms : conversionToMs[(sensor.dev.configOf sensor.activeChannel).dataRate.toNat]? with
    | none =>
        have hraw := read_of_rate_outside hactive.wired hactive.channel
          (show oneCode.answer = espOk from rfl) hms 0
        simp [ads1115SensorRead, hinit, hraw] at hres
    | some ms =>
        refine ⟨?_, (conversionToMs_some_iff _).1 ⟨ms, hms⟩⟩
        have hread := @sensorRead_of_answered sensor hinit hactive oneCode ms rfl hms rfl 0 ⟨0, 0, 0⟩
        rw [Option.some.inj (hres.symm.trans hread)] at hscaled
        rcases hscaled rfl with ⟨word, readAt, reading, hreading, hlog, hvalue⟩
        dsimp only at hreading hlog hvalue
        rw [configured_log] at hlog
        have hbytes := List.append_cancel_left hlog
        simp only [List.cons.injEq, Prod.mk.injEq, BusOp.write.injEq, true_and] at hbytes
        rw [← registerBytes_injective ads1115RegConfig hbytes.1, hfield,
          ← Option.some.inj hreading] at hvalue
        have hcode := oneCode_result sensor.dev sensor.activeChannel ms
        dsimp only at hcode
        simp only [Ads1115Sensor.sample, hcode, hactive.lsbVolts] at hvalue
        rw [← lsbVolts_eq_iff]
        have hone : (((1 : UInt16).toInt16.toInt : Int) : ℚ) = 1 := by
          norm_num
          rfl
        rwa [hone, one_mul, one_mul] at hvalue
  · -- a reading that returns `ESP_OK` is determined, so its one value is compared
    rintro ⟨hrange, hrate⟩ bus timerUs out
    rcases sensorRead_exists hinit hactive hrate bus timerUs out with ⟨res, hres⟩
    refine ⟨res, hres, fun hok => ?_⟩
    rcases sensorRead_ok hinit hactive hres hok with ⟨ms, hwritten, hms, hread⟩
    have heq := sensorRead_of_answered hinit hactive hwritten hms hread timerUs out
    rw [Option.some.inj (hres.symm.trans heq)]
    refine ⟨_, _, _, rfl, configured_log _ _ _ _, ?_⟩
    rw [hfield, ← (lsbVolts_eq_iff _).2 hrange, ← hactive.lsbVolts]
    rfl

end Reading

/-- An adapter that is not initialised reports nothing. -/
theorem scales_of_not_initialized {sensor : Ads1115Sensor Unit UInt8}
    (h : sensor.initialized = false) : ScalesByProgrammedGain sensor := by
  intro bus timerUs out
  refine ⟨(espErrInvalidState, some out, ⟨sensor, bus⟩), ?_, ?_⟩
  · simp only [ads1115SensorRead, h, if_true]
  · exact fun hok => absurd hok espErrInvalidState_ne_ok

/-! ## Runs of the adapter -/

abbrev AdapterWorld := SensorWorld Unit UInt8 AdcBus

/-- A call of the sensor contract, or whatever else happens on the bus. -/
inductive SensorCall
  | init (cfg : Option (SensorConfig Unit))
  | read (timerUs : Int64) (out : Option (SensorReading ℚ))
  | deinit
  | bus (state : AdcBus)

/-- An undefined read leaves the world as it is here. -/
def sensorStep (w : AdapterWorld) : SensorCall → AdapterWorld
  | .init cfg => (ads1115SensorInit adcApi cfg w).2
  | .read timerUs out =>
      match ads1115SensorRead adcApi AdcBus.vTaskDelay timerUs out w with
      | some res => res.2.2
      | none => w
  | .deinit => ads1115SensorDeinit w
  | .bus state => ⟨w.sensor, state⟩

/-- A configuration that is taken has, in the entry of its channel, a gain on which both sides agree
and a data rate inside the table of conversion times. -/
def TakesSameRange (w : AdapterWorld) : SensorCall → Prop
  | .init (some cfg) =>
      w.sensor.initialized = false → (ads1115SensorInit adcApi (some cfg) w).1 = espOk →
        ∀ table, cfg.extra = some table → (table (Fin.ofNat 4 cfg.channel.toNat)).Scales
  | _ => True

/-- An adapter that is initialised is active, and scales by the gain it programs. -/
structure SensorInv (w : AdapterWorld) : Prop where
  active : w.sensor.initialized = true → Active w.sensor
  scales : ScalesByProgrammedGain w.sensor

/-- The channel of a configuration, as the driver counts channels. -/
theorem channelValid_of_le {channel : UInt8} (h : ¬ 3 < channel) :
    ads1115ChannelValid (ads1115Channel0 + channel.toUInt32) = true := by
  have hle : channel.toNat ≤ 3 := UInt8.not_lt.1 h
  simp [ads1115ChannelValid, ads1115Channel0, ads1115Channel3, UInt32.le_iff_toNat_le]
  omega

theorem configOf_channel (dev : Ads1115Dev Unit UInt8) (channel : UInt8) :
    dev.configOf (ads1115Channel0 + channel.toUInt32) =
      dev.channelConfig (Fin.ofNat 4 channel.toNat) := by
  have hback : ads1115Channel0 + channel.toUInt32 - ads1115Channel0 = channel.toUInt32 := by
    grind
  rw [Ads1115Dev.configOf, hback]
  rfl

/-- An init that returns `ESP_OK`, if it was not the adapter's second, had its arguments accepted and
the driver initialised. -/
theorem sensorInit_taken {cfg : Option (SensorConfig Unit)} {w : AdapterWorld}
    (hinit : w.sensor.initialized = false) (hok : (ads1115SensorInit adcApi cfg w).1 = espOk) :
    ∃ c bus table, cfg = some c ∧ c.extra = some table ∧ ¬ 3 < c.channel ∧
      let ads := ads1115Init adcApi (some ())
        (some ⟨some bus, c.i2cAddr.toUInt32, sensorAds1115SclHz, table⟩) ⟨w.sensor.dev, w.bus⟩
      ads.1 = espOk ∧ (ads1115SensorInit adcApi cfg w).2.sensor =
        ⟨true, ads.2.dev, ads1115Channel0 + c.channel.toUInt32, c.channel,
          ads1115LsbVolts (table (Fin.ofNat 4 c.channel.toNat)).pga, true⟩ := by
  cases cfg with
  | none =>
      simp [ads1115SensorInit, hinit] at hok
  | some c =>
      cases hbus : c.bus with
      | none =>
          simp [ads1115SensorInit, hinit, hbus] at hok
      | some bus =>
          cases hextra : c.extra with
          | none =>
              simp [ads1115SensorInit, hinit, hbus, hextra] at hok
          | some table =>
              by_cases hchannel : 3 < c.channel
              · simp [ads1115SensorInit, hinit, hbus, hextra, hchannel] at hok
              refine ⟨c, bus, table, rfl, hextra, hchannel, ?_⟩
              simp only [ads1115SensorInit, hinit, Bool.false_eq_true, if_false, hbus, hextra,
                hchannel] at hok ⊢
              split at hok
              · rename_i hdriver
                exact absurd hok hdriver
              · rename_i hdriver
                rw [if_neg hdriver]
                exact ⟨not_not.1 hdriver, rfl⟩

/-- What it leaves: an active adapter, and in the context of the driver the entry of the channel. -/
theorem sensorInit_ok {cfg : Option (SensorConfig Unit)} {w : AdapterWorld}
    (hinit : w.sensor.initialized = false) (hok : (ads1115SensorInit adcApi cfg w).1 = espOk) :
    ∃ c table, cfg = some c ∧ c.extra = some table ∧
      (ads1115SensorInit adcApi cfg w).2.sensor.initialized = true ∧
      Active (ads1115SensorInit adcApi cfg w).2.sensor ∧
      (ads1115SensorInit adcApi cfg w).2.sensor.dev.configOf
          (ads1115SensorInit adcApi cfg w).2.sensor.activeChannel =
        table (Fin.ofNat 4 c.channel.toNat) := by
  rcases sensorInit_taken hinit hok with ⟨c, bus, table, rfl, hextra, hchannel, hdriver, hsensor⟩
  rcases init_ok_dev hdriver with ⟨hbus, hdev⟩
  have hentry := configOf_channel (ads1115Init adcApi (some ())
    (some ⟨some bus, c.i2cAddr.toUInt32, sensorAds1115SclHz, table⟩) ⟨w.sensor.dev, w.bus⟩).2.dev
    c.channel
  rw [hsensor]
  refine ⟨c, table, rfl, hextra, rfl, ⟨?_, channelValid_of_le hchannel, ?_⟩, ?_⟩
  · dsimp only
    rw [hdev]
    exact ⟨rfl, hbus, by simp⟩
  · dsimp only
    rw [hentry, hdev]
  · dsimp only
    rw [hentry, hdev]

/-- An init that fails leaves the adapter uninitialised. -/
theorem sensorInit_failed {cfg : Option (SensorConfig Unit)} {w : AdapterWorld}
    (hinit : w.sensor.initialized = false) (hfail : (ads1115SensorInit adcApi cfg w).1 ≠ espOk) :
    (ads1115SensorInit adcApi cfg w).2.sensor.initialized = false := by
  unfold ads1115SensorInit at hfail ⊢
  rw [if_neg (by simp [hinit])] at hfail ⊢
  cases cfg with
  | none =>
      exact hinit
  | some c =>
      dsimp only at hfail ⊢
      split
      · split
        · exact hinit
        · split
          · exact hinit
          · -- the driver accepted the configuration, so this is not a failure
            rename_i hbus hextra hchannel hdriver
            simp only [hbus, hextra, if_neg hchannel, if_neg hdriver, ne_eq, not_true_eq_false]
              at hfail
      · exact hinit

theorem sensorInit_again (cfg : Option (SensorConfig Unit)) {w : AdapterWorld}
    (hinit : w.sensor.initialized = true) : ads1115SensorInit adcApi cfg w = (espOk, w) := by
  simp [ads1115SensorInit, hinit]

/-- A read of the driver writes nothing into its context. -/
theorem read_dev {dev : Option Unit} {channel : UInt32} {out : Option UInt16} {w : AdcWorld} {res}
    (h : ads1115Read adcApi AdcBus.vTaskDelay dev channel out w = some res) :
    res.2.2.dev = w.dev := by
  have hwrite : ∀ (reg : UInt8) (value : UInt16) (v : AdcWorld),
      (ads1115WriteRegister adcApi reg value v).2.dev = v.dev := by
    intro reg value v
    rfl
  have hread : ∀ (reg : UInt8) (old : UInt16) (v : AdcWorld),
      (ads1115ReadRegister adcApi reg old v).2.2.dev = v.dev := by
    intro reg old v
    unfold ads1115ReadRegister
    dsimp only
    split <;> rfl
  unfold ads1115Read at h
  dsimp only at h
  split at h
  · rw [← Option.some.inj h]
  split at h
  · rw [← Option.some.inj h]
  split at h
  · rw [← Option.some.inj h]
  split at h
  · rw [← Option.some.inj h]
    exact hwrite _ _ _
  split at h
  · exact absurd h (by simp)
  split at h
  · rw [← Option.some.inj h]
    exact hread _ _ _
  · rw [← Option.some.inj h]
    exact hread _ _ _

/-- A reading changes nothing but the bus. -/
theorem sensorStep_read_sensor (w : AdapterWorld) (timerUs : Int64)
    (out : Option (SensorReading ℚ)) : (sensorStep w (.read timerUs out)).sensor = w.sensor := by
  simp only [sensorStep, ads1115SensorRead]
  split
  · rename_i res hres
    split at hres
    · rw [← Option.some.inj hres]
    split at hres
    · rw [← Option.some.inj hres]
    split at hres
    · exact absurd hres (by simp)
    · rename_i err raw ads hraw
      have hdev : ads.dev = w.sensor.dev := read_dev hraw
      split at hres
      · rw [← Option.some.inj hres]
        simp only [hdev]
      · rw [← Option.some.inj hres]
        simp only [hdev]
  · rfl

theorem deinit_not_initialized (w : AdapterWorld) :
    (ads1115SensorDeinit w).sensor.initialized = false := by
  unfold ads1115SensorDeinit
  dsimp only
  split <;> rfl

/-- A call keeps the invariant exactly if it takes no configuration on whose gain the sides differ. -/
theorem sensorStep_scales_iff (w : AdapterWorld) (call : SensorCall) (hw : SensorInv w) :
    ScalesByProgrammedGain (sensorStep w call).sensor ↔ TakesSameRange w call := by
  cases call with
  | init cfg =>
      cases hinit : w.sensor.initialized with
      | true =>
          simp only [sensorStep, sensorInit_again cfg hinit]
          refine ⟨fun _ => ?_, fun _ => hw.scales⟩
          cases cfg with
          | none => trivial
          | some c => exact fun hfresh => absurd (hinit.symm.trans hfresh) (by simp)
      | false =>
          by_cases hok : (ads1115SensorInit adcApi cfg w).1 = espOk
          · rcases sensorInit_ok hinit hok with ⟨c, table, rfl, hextra, hup, hactive, hentry⟩
            have hiff := scales_iff_of_active hup hactive
            rw [hentry] at hiff
            simp only [sensorStep, hiff, TakesSameRange]
            constructor
            · intro hrange _ _ table' htable'
              rw [Option.some.inj (htable'.symm.trans hextra)]
              exact hrange
            · intro htakes
              exact htakes hinit hok table hextra
          · -- nothing is taken and nothing is reported
            have hdown := scales_of_not_initialized (sensorInit_failed hinit hok)
            refine ⟨fun _ => ?_, fun _ => hdown⟩
            cases cfg with
            | none => trivial
            | some c => exact fun _ hok' => absurd hok' hok
  | read timerUs out =>
      rw [sensorStep_read_sensor]
      exact ⟨fun _ => trivial, fun _ => hw.scales⟩
  | deinit =>
      exact ⟨fun _ => trivial, fun _ => scales_of_not_initialized (deinit_not_initialized w)⟩
  | bus state =>
      exact ⟨fun _ => trivial, fun _ => hw.scales⟩

theorem sensorStep_inv (w : AdapterWorld) (call : SensorCall) (hw : SensorInv w)
    (htakes : TakesSameRange w call) : SensorInv (sensorStep w call) := by
  refine ⟨?_, (sensorStep_scales_iff w call hw).2 htakes⟩
  cases call with
  | init cfg =>
      intro hup
      cases hinit : w.sensor.initialized with
      | true =>
          simp only [sensorStep, sensorInit_again cfg hinit]
          exact hw.active hinit
      | false =>
          by_cases hok : (ads1115SensorInit adcApi cfg w).1 = espOk
          · rcases sensorInit_ok hinit hok with ⟨_, _, _, _, _, hactive, _⟩
            exact hactive
          · have hdown := sensorInit_failed hinit hok
            exact absurd (hdown.symm.trans hup) (by simp)
  | read timerUs out =>
      rw [sensorStep_read_sensor]
      exact hw.active
  | deinit =>
      intro hup
      exact absurd ((deinit_not_initialized w).symm.trans hup) (by simp)
  | bus state =>
      exact hw.active

/-- The adapter as it is linked, on any bus. -/
def SensorWorld.start (bus : AdcBus) : AdapterWorld :=
  ⟨Ads1115Sensor.static, bus⟩

theorem start_inv (bus : AdcBus) : SensorInv (SensorWorld.start bus) :=
  ⟨fun h => Bool.noConfusion h, scales_of_not_initialized rfl⟩

/-- In every run of the adapter, every reading is defined and scaled by the gain that it programs
exactly if every configuration taken has a gain on which the adapter and the chip agree, and a data rate
that the driver has a conversion time for. -/
theorem value_scaled_by_programmed_gain_iff (bus : AdcBus) (calls : List SensorCall) :
    (∀ w ∈ states sensorStep (SensorWorld.start bus) calls, ScalesByProgrammedGain w.sensor) ↔
      ∀ move ∈ moves sensorStep (SensorWorld.start bus) calls, TakesSameRange move.1 move.2 :=
  forall_states_iff sensorStep_scales_iff sensorStep_inv (start_inv bus) (start_inv bus).scales calls

/-- Channel 0 at 128 samples per second with the gain 6, which the chip takes for 0.256 V. -/
def gainSixConfig : SensorConfig Unit :=
  ⟨some (), 0x48, 0, some fun _ => ⟨4, 6, 4⟩⟩

/-- The adapter takes it for 4.096 V. -/
theorem gain_six_scaled_by_fallback :
    let w := run sensorStep (SensorWorld.start oneCode) [.init (some gainSixConfig)]
    w.sensor.initialized = true ∧ w.sensor.activeLsbVolts = 4.096 / 32768 ∧
      fullScale (configField (ads1115BuildConfigWord (w.sensor.dev.configOf w.sensor.activeChannel))
        9 3) = 0.256 ∧
      ¬ ∀ bus calls, ∀ w ∈ states sensorStep (SensorWorld.start bus) calls,
        ScalesByProgrammedGain w.sensor := by
  have hfield : configField (ads1115BuildConfigWord ⟨4, 6, 4⟩) 9 3 = 6 := by
    decide
  refine ⟨by decide, rfl, congrArg fullScale hfield, fun hall => ?_⟩
  have hlast := hall oneCode [.init (some gainSixConfig)]
    (sensorStep (SensorWorld.start oneCode) (.init (some gainSixConfig))) (by simp)
  have htakes := (sensorStep_scales_iff _ _ (start_inv oneCode)).1 hlast
  exact absurd (htakes rfl (by decide) _ rfl) (by decide)

end MainboardFirmware
