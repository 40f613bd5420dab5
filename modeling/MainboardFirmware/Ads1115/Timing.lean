import Mathlib.Data.Rat.Floor
import Mathlib.Tactic.Linarith
import Mathlib.Tactic.NormNum
import MainboardFirmware.Ads1115.Driver
import MainboardFirmware.Library.Ticks

/-!
# Timing — does `ads1115_read` wait for its conversion?

The converter and the tick of the scheduler on one clock in milliseconds, with tick boundaries at the
multiples of ten. Bus transfers take no time of their own: all the time between the start of a
conversion and its read-out is the delay the driver asks for, which is rounded down to whole ticks.
-/

namespace MainboardFirmware

/-! ## The converter -/

/-- Samples per second by the DR field of the config register. -/
def samplesPerSecond (field : Nat) : ℚ :=
  [8, 16, 32, 64, 128, 250, 475, 860].getD field 860

/-- Duration of one conversion in milliseconds. -/
def conversionTime (field : Nat) : ℚ :=
  1000 / samplesPerSecond field

/-- The DR field of a config word. -/
def drField (word : UInt16) : Nat :=
  ((word >>> 5) &&& 7).toNat

/-- The converter: the result of the last finished conversion, and the latest conversion started,
with the instant it is finished and its result. -/
structure Adc where
  conversion : UInt16
  running : Option (ℚ × UInt16)

/-- The conversion register at instant `now`. -/
def Adc.result (adc : Adc) (now : ℚ) : UInt16 :=
  match adc.running with
  | some (done, code) => if done ≤ now then code else adc.conversion
  | none => adc.conversion

/-- A bus with the converter on it. A conversion started at instant `t` finds the code `signal t` on
its input. -/
structure AdcBus where
  now : ℚ
  adc : Adc
  signal : ℚ → UInt16
  addDevice : EspErr
  xfer : Nat → EspErr
  /-- the transfers made, with their instants -/
  log : List (ℚ × BusOp)

namespace AdcBus

/-- The answer to the next transfer. -/
def answer (s : AdcBus) : EspErr :=
  s.xfer s.log.length

/-- What a successful write does to the converter: a config word with OS set starts a conversion. -/
def written (s : AdcBus) : List UInt8 → Adc
  | [reg, high, low] =>
      let word := high.toUInt16 <<< 8 ||| low.toUInt16
      if reg = ads1115RegConfig ∧ word &&& 0x8000 ≠ 0 then
        ⟨s.adc.result s.now, some (s.now + conversionTime (drField word), s.signal s.now)⟩
      else s.adc
  | _ => s.adc

def write (bus : Option Unit) (dev : Option UInt8) (data : List UInt8) (s : AdcBus) :
    EspErr × AdcBus :=
  if bus = none ∨ dev = none then
    (espErrInvalidState, s)
  else
    (s.answer,
      { s with
        adc := if s.answer = espOk then s.written data else s.adc
        log := s.log ++ [(s.now, .write data)] })

def writeRead (bus : Option Unit) (dev : Option UInt8) (wrData : List UInt8) (rdLen : Nat)
    (s : AdcBus) : EspErr × List UInt8 × AdcBus :=
  if bus = none ∨ dev = none then
    (espErrInvalidState, [], s)
  else
    let code := s.adc.result s.now
    (s.answer, [((code >>> 8) &&& 0xFF).toUInt8, (code &&& 0xFF).toUInt8],
      { s with log := s.log ++ [(s.now, .writeRead wrData rdLen)] })

/-- `vTaskDelay`: one tick is ten milliseconds. -/
def vTaskDelay (ticks : UInt32) (s : AdcBus) : AdcBus :=
  { s with now := Ticks.wake 10 s.now ticks.toNat }

end AdcBus

/-- The bus functions on the converter; the device is registered under its address. -/
def adcApi : I2cBusApi Unit UInt8 AdcBus where
  addDevice := fun _ addr _ _ old s =>
    (s.addDevice, if s.addDevice = espOk then some addr else old, s)
  write := AdcBus.write
  writeRead := AdcBus.writeRead

abbrev AdcWorld := Ads1115World Unit UInt8 AdcBus

/-! ## The config word -/

theorem testBit_seven (k : Nat) : Nat.testBit 7 k = decide (k < 3) :=
  Nat.testBit_two_pow_sub_one 3 k

theorem testBit_three (k : Nat) : Nat.testBit 3 k = decide (k < 2) :=
  Nat.testBit_two_pow_sub_one 2 k

theorem testBit_os (k : Nat) : Nat.testBit 32768 k = decide (15 = k) :=
  @Nat.testBit_two_pow 15 k

theorem testBit_255 (k : Nat) : Nat.testBit 255 k = decide (k < 8) :=
  Nat.testBit_two_pow_sub_one 8 k

/-- The DR field of the word is the low three bits of the data rate, whatever the other fields. -/
theorem drField_buildConfigWord (config : Ads1115ChannelConfig) :
    drField (ads1115BuildConfigWord config) = (config.dataRate &&& 7).toNat := by
  have hbyte : (256 : Nat) = 2 ^ 8 := rfl
  rcases config with ⟨channel, pga, dataRate⟩
  apply Nat.eq_of_testBit_eq
  intro i
  rcases Nat.lt_or_ge i 3 with hi | hi
  · -- bits 5, 6 and 7 of the word are not touched by the other fields
    have hsplit : i = 0 ∨ i = 1 ∨ i = 2 := by omega
    rcases hsplit with rfl | rfl | rfl <;>
      simp [drField, ads1115BuildConfigWord, hbyte, Nat.testBit_mod_two_pow, -Nat.reducePow,
        testBit_seven, testBit_three, testBit_os]
  · simp [drField, ads1115BuildConfigWord, testBit_seven, Nat.not_lt.2 hi]

theorem os_buildConfigWord (config : Ads1115ChannelConfig) :
    ads1115BuildConfigWord config &&& 0x8000 ≠ 0 := by
  intro hzero
  have hbit := congrArg (fun w : UInt16 => w.toNat.testBit 15) hzero
  simp [ads1115BuildConfigWord, testBit_os] at hbit

/-- A 16-bit value survives being sent as two bytes. -/
theorem bytes_roundTrip (value : UInt16) :
    ((value >>> 8) &&& 0xFF).toUInt8.toUInt16 <<< 8 ||| (value &&& 0xFF).toUInt8.toUInt16 = value := by
  have hbyte : (256 : Nat) = 2 ^ 8 := rfl
  apply UInt16.toNat_inj.1
  apply Nat.eq_of_testBit_eq
  intro i
  rcases Nat.lt_or_ge i 8 with hlow | hhigh
  · simp [hbyte, Nat.testBit_mod_two_pow, -Nat.reducePow, testBit_255, hlow, Nat.not_le.2 hlow]
  rcases Nat.lt_or_ge i 16 with hmid | hbeyond
  · have hshift : i - 8 < 8 := by omega
    have hback : 8 + (i - 8) = i := by omega
    simp [hbyte, Nat.testBit_mod_two_pow, -Nat.reducePow, testBit_255, hhigh, hmid, hshift, hback,
      Nat.not_lt.2 hhigh]
  · have hpow : value.toNat < 2 ^ i :=
      lt_of_lt_of_le value.toNat_lt (Nat.pow_le_pow_right (by omega) hbeyond)
    have hzero : value.toNat.testBit i = false := Nat.testBit_lt_two_pow hpow
    simp [hbyte, Nat.testBit_mod_two_pow, -Nat.reducePow, hzero, Nat.not_lt.2 hhigh,
      Nat.not_lt.2 hbeyond]

/-! ## One read -/

/-- How many ticks the driver waits. -/
def Ads1115DataRate.ticks (rate : Ads1115DataRate) : UInt32 :=
  pdMsToTicks (conversionToMs.getD rate.value.toNat 0 + ads1115ConversionMarginMs)

/-- How long the converter needs. -/
def Ads1115DataRate.period (rate : Ads1115DataRate) : ℚ :=
  conversionTime rate.value.toNat

/-- A driver as a completed `init` leaves it, on a bus where both transfers of a read succeed. -/
structure ReadyToRead (w : AdcWorld) : Prop where
  initialized : w.dev.initialized = true
  bus : w.dev.bus ≠ none
  dev : w.dev.dev ≠ none
  log : w.bus.log = []
  ok : ∀ k, w.bus.xfer k = espOk

section Read

variable {w : AdcWorld} {channel : UInt32} {rate : Ads1115DataRate}

/-- The bytes of a register write. -/
def registerBytes (reg : UInt8) (value : UInt16) : List UInt8 :=
  [reg, ((value >>> 8) &&& 0xFF).toUInt8, (value &&& 0xFF).toUInt8]

/-- The bus once a conversion is started by the config word. -/
def AdcBus.converting (s : AdcBus) (word : UInt16) : AdcBus :=
  { s with
    adc := ⟨s.adc.result s.now, some (s.now + conversionTime (drField word), s.signal s.now)⟩
    log := [(s.now, .write (registerBytes ads1115RegConfig word))] }

/-- Writing a config word with OS set starts a conversion at the rate of its DR field. -/
theorem writeConfig_spec (hready : ReadyToRead w) {word : UInt16} (hos : word &&& 0x8000 ≠ 0) :
    ads1115WriteRegister adcApi ads1115RegConfig word w = (espOk, ⟨w.dev, w.bus.converting word⟩) := by
  have hans : w.bus.answer = espOk := hready.ok _
  have hwired : ¬(w.dev.bus = none ∨ w.dev.dev = none) := by
    simp [hready.bus, hready.dev]
  simp only [ads1115WriteRegister, adcApi, AdcBus.write, if_neg hwired, hans, if_true,
    AdcBus.written, bytes_roundTrip, hready.log, List.nil_append, hos, ne_eq, not_false_eq_true,
    and_self]
  rfl

/-- The bus once the conversion register is read. -/
def AdcBus.readOut (s : AdcBus) : AdcBus :=
  { s with log := s.log ++ [(s.now, .writeRead [ads1115RegConversion] 2)] }

/-- Reading the conversion register gives the result the converter has at that instant. -/
theorem readConversion_spec {bus : AdcBus} (hready : ReadyToRead w) (hok : bus.answer = espOk)
    (old : UInt16) :
    ads1115ReadRegister adcApi ads1115RegConversion old ⟨w.dev, bus⟩ =
      (espOk, bus.adc.result bus.now, ⟨w.dev, bus.readOut⟩) := by
  have hwired : ¬(w.dev.bus = none ∨ w.dev.dev = none) := by
    simp [hready.bus, hready.dev]
  simp only [ads1115ReadRegister, adcApi, AdcBus.writeRead, if_neg hwired, hok, ne_eq,
    not_true_eq_false, if_false, List.getD_cons_zero, List.getD_cons_succ, bytes_roundTrip]
  rfl

theorem conversionToMs_value (rate : Ads1115DataRate) :
    conversionToMs[rate.value.toNat]? = some (conversionToMs.getD rate.value.toNat 0) ∧
      (rate.value &&& 7).toNat = rate.value.toNat := by
  cases rate <;> exact ⟨rfl, rfl⟩

/-- The bus when the delay of a read is over. -/
def AdcBus.delayed (s : AdcBus) (config : Ads1115ChannelConfig) (rate : Ads1115DataRate) : AdcBus :=
  AdcBus.vTaskDelay rate.ticks (s.converting (ads1115BuildConfigWord config))

/-- A read is the config write, the delay and the read-out of the conversion register. -/
theorem read_eq (hready : ReadyToRead w) (hchannel : ads1115ChannelValid channel = true)
    (hrate : (w.dev.configOf channel).dataRate = rate.value) (out : UInt16) :
    let bus := w.bus.delayed (w.dev.configOf channel) rate
    ads1115Read adcApi AdcBus.vTaskDelay (some ()) channel (some out) w =
      some (espOk, some (bus.adc.result bus.now), ⟨w.dev, bus.readOut⟩) := by
  dsimp only
  have hwrite := writeConfig_spec hready (os_buildConfigWord (w.dev.configOf channel))
  have hread := @readConversion_spec w (w.bus.delayed (w.dev.configOf channel) rate) hready
    (hready.ok _) 0
  have hticks : pdMsToTicks (conversionToMs.getD rate.value.toNat 0 + ads1115ConversionMarginMs) =
      rate.ticks := rfl
  simp only [Ads1115Dev.configOf, AdcBus.delayed] at hwrite hread hrate ⊢
  simp only [ads1115Read, reduceCtorEq, or_self, if_false, hready.initialized, hchannel, hwrite,
    ne_eq, not_true_eq_false, hrate, (conversionToMs_value rate).1, hticks, hread,
    Bool.true_eq_false]

/-- What is read is the new conversion if it is finished when the delay is over, and the previous one
if not. -/
theorem read_spec (hready : ReadyToRead w) (hchannel : ads1115ChannelValid channel = true)
    (hrate : (w.dev.configOf channel).dataRate = rate.value) (out : UInt16) :
    ∃ bus data, ads1115Read adcApi AdcBus.vTaskDelay (some ()) channel (some out) w =
        some (espOk,
          some (if w.bus.now + rate.period ≤ Ticks.wake 10 w.bus.now rate.ticks.toNat then
            w.bus.signal w.bus.now else w.bus.adc.result w.bus.now),
          ⟨w.dev, bus⟩) ∧
      bus.log = [(w.bus.now, .write data),
        (Ticks.wake 10 w.bus.now rate.ticks.toNat, .writeRead [ads1115RegConversion] 2)] := by
  have hfield : drField (ads1115BuildConfigWord (w.dev.configOf channel)) = rate.value.toNat := by
    rw [drField_buildConfigWord, hrate, (conversionToMs_value rate).2]
  -- the register holds the new code if the conversion is over when it is read
  have hresult : (w.bus.delayed (w.dev.configOf channel) rate).adc.result
        (w.bus.delayed (w.dev.configOf channel) rate).now =
      if w.bus.now + rate.period ≤ Ticks.wake 10 w.bus.now rate.ticks.toNat then
        w.bus.signal w.bus.now else w.bus.adc.result w.bus.now := by
    rw [Ads1115DataRate.period, ← hfield]
    rfl
  refine ⟨(w.bus.delayed (w.dev.configOf channel) rate).readOut,
    registerBytes ads1115RegConfig (ads1115BuildConfigWord (w.dev.configOf channel)), ?_, rfl⟩
  rw [← hresult]
  exact read_eq hready hchannel hrate out

end Read

/-! ## Ticks against conversion times -/

/-- The delay of each data rate in ticks: the millisecond table and its margin, rounded down. -/
theorem ticks_eq (rate : Ads1115DataRate) :
    rate.ticks.toNat = match rate with
      | .dr16Sps => 6
      | .dr32Sps => 3
      | .dr64Sps => 1
      | .dr128Sps => 1
      | .dr250Sps => 0
      | .dr475Sps => 0
      | .dr860Sps => 0 := by
  cases rate <;> rfl

theorem period_eq (rate : Ads1115DataRate) :
    rate.period = match rate with
      | .dr16Sps => 1000 / 16
      | .dr32Sps => 1000 / 32
      | .dr64Sps => 1000 / 64
      | .dr128Sps => 1000 / 128
      | .dr250Sps => 1000 / 250
      | .dr475Sps => 1000 / 475
      | .dr860Sps => 1000 / 860 := by
  cases rate <;> rfl

/-- All rates but 128 samples per second need longer than the longest wait for their ticks. -/
theorem ticks_lt_period {rate : Ads1115DataRate} (hrate : rate ≠ .dr128Sps) :
    10 * (rate.ticks.toNat : ℚ) < rate.period := by
  rw [ticks_eq, period_eq]
  cases rate with
  | dr128Sps =>
      exact absurd rfl hrate
  | _ =>
      norm_num

/-- The delay covers the conversion for 128 samples per second early in a tick, and never else. -/
theorem period_le_wake_iff (rate : Ads1115DataRate) (now : ℚ) :
    rate.period ≤ Ticks.wake 10 now rate.ticks.toNat - now ↔
      rate = .dr128Sps ∧ Ticks.phase 10 now ≤ 10 - rate.period := by
  by_cases hrate : rate = .dr128Sps
  · subst hrate
    have hsub := Ticks.wake_sub (10 : ℚ) now one_ne_zero
    have hticks := ticks_eq .dr128Sps
    simp only [hticks, hsub, true_and]
    constructor <;> intro h <;> push_cast at * <;> linarith
  · have hwait := Ticks.wake_sub_le (by norm_num : (0 : ℚ) < 10) now rate.ticks.toNat
    have hshort := ticks_lt_period hrate
    simp only [hrate, false_and, iff_false]
    exact not_le.2 (lt_of_le_of_lt hwait hshort)

/-- The read waits at least the conversion time between the config write and the read-out, and
returns the conversion it started. -/
def WaitsForConversion (w : AdcWorld) (channel : UInt32) (rate : Ads1115DataRate) (out : UInt16) :
    Prop :=
  ∃ started data readAt bus,
    ads1115Read adcApi AdcBus.vTaskDelay (some ()) channel (some out) w =
        some (espOk, some (w.bus.signal started), ⟨w.dev, bus⟩) ∧
      bus.log = [(started, .write data), (readAt, .writeRead [ads1115RegConversion] 2)] ∧
      rate.period ≤ readAt - started

/-- A bus at instant `now` on which every transfer succeeds, with the converter in any state. -/
def AdcBus.ready (adc : Adc) (signal : ℚ → UInt16) (now : ℚ) : AdcBus :=
  ⟨now, adc, signal, espOk, fun _ => espOk, []⟩

/-- A successful `init` leaves a driver with a bus, a handle and the channel table it was given. -/
theorem init_ok_dev {w : AdcWorld} {config : Ads1115Config Unit}
    (hinit : (ads1115Init adcApi (some ()) (some config) w).1 = espOk) :
    config.bus ≠ none ∧ (ads1115Init adcApi (some ()) (some config) w).2.dev =
      ⟨config.bus, some config.addr.toUInt8, config.channelConfig, true⟩ := by
  by_cases hbus : config.bus = none
  · simp [ads1115Init, hbus] at hinit
  refine ⟨hbus, ?_⟩
  by_cases hadd : w.bus.addDevice = espOk
  · by_cases hans : w.bus.answer = espOk
    · simp [ads1115Init, ads1115WriteRegister, adcApi, AdcBus.write, hbus, hadd, hans]
    · simp [ads1115Init, ads1115WriteRegister, adcApi, AdcBus.write, hbus, hadd, hans] at hinit
  · simp [ads1115Init, adcApi, hbus, hadd] at hinit

/-- For every driver a successful `init` leaves, every state of the converter, every instant, every
valid channel and every data rate: a read waits for its conversion exactly if the rate is 128 samples
per second and the call comes at most `10 - 1000 / 128` milliseconds after a tick. -/
theorem read_waits_for_conversion_iff (w : AdcWorld) (config : Ads1115Config Unit)
    (hinit : (ads1115Init adcApi (some ()) (some config) w).1 = espOk) (adc : Adc)
    (signal : ℚ → UInt16) (now : ℚ) (channel : UInt32)
    (hchannel : ads1115ChannelValid channel = true) (rate : Ads1115DataRate) (out : UInt16)
    (hrate : (config.channelConfig (Fin.ofNat 4 (channel - ads1115Channel0).toNat)).dataRate =
      rate.value) :
    WaitsForConversion
        ⟨(ads1115Init adcApi (some ()) (some config) w).2.dev, AdcBus.ready adc signal now⟩
        channel rate out ↔
      rate = .dr128Sps ∧ Ticks.phase 10 now ≤ 10 - 1000 / 128 := by
  rcases init_ok_dev hinit with ⟨hbus, hdev⟩
  rw [hdev]
  have hready : ReadyToRead ⟨⟨config.bus, some config.addr.toUInt8, config.channelConfig, true⟩,
      AdcBus.ready adc signal now⟩ :=
    ⟨rfl, hbus, by simp, rfl, fun _ => rfl⟩
  rcases read_spec hready hchannel hrate out with ⟨bus, data, hread, hlog⟩
  have hiff := period_le_wake_iff rate now
  have hperiod : rate = .dr128Sps → rate.period = 1000 / 128 := by
    rintro rfl
    exact period_eq .dr128Sps
  -- of all the rates only this one's period is compared with the phase
  have hcond : (rate = .dr128Sps ∧ Ticks.phase 10 now ≤ 10 - 1000 / 128) ↔
      rate = .dr128Sps ∧ Ticks.phase 10 now ≤ 10 - rate.period :=
    and_congr_right fun h => by rw [hperiod h]
  rw [hcond, ← hiff]
  constructor
  · -- the record of the read fixes both instants
    rintro ⟨started, data', readAt, bus', hread', hlog', hwait⟩
    have hres := hread.symm.trans hread'
    simp only [Option.some.injEq, Prod.mk.injEq, Ads1115World.mk.injEq, true_and] at hres
    rw [← hres.2, hlog] at hlog'
    simp only [List.cons.injEq, Prod.mk.injEq, and_true] at hlog'
    rw [← hlog'.1.1, ← hlog'.2] at hwait
    exact hwait
  · intro hwait
    have hdone : now + rate.period ≤ Ticks.wake 10 now rate.ticks.toNat := by
      linarith
    refine ⟨now, data, _, bus, hread.trans ?_, hlog, hwait⟩
    simp only [AdcBus.ready, hdone, if_true]

/-- The channel table of the board: 128 and 64 samples per second in turn. -/
def boardConfig : Ads1115Config Unit :=
  ⟨some (), 0x48, 100000, fun i => ⟨4 + UInt32.ofNat i, 1, if i.val % 2 = 0 then 4 else 3⟩⟩

/-- A board with a powered-up converter whose input gives the code `0x2222`. -/
def boardWorld : AdcWorld :=
  ⟨Ads1115Dev.zero, AdcBus.ready ⟨0x1111, none⟩ (fun _ => 0x2222) 0⟩

/-- Called five milliseconds after a tick, the read of channel 0 at 128 samples per second waits for
the other half of the tick only, and returns the previous conversion. -/
theorem read_returns_previous_conversion :
    let dev := (ads1115Init adcApi (some ()) (some boardConfig) boardWorld).2.dev
    let w : AdcWorld := ⟨dev, AdcBus.ready ⟨0x1111, none⟩ (fun _ => 0x2222) 5⟩
    (ads1115Init adcApi (some ()) (some boardConfig) boardWorld).1 = espOk ∧
      ads1115ChannelValid ads1115Channel0 = true ∧
      (dev.configOf ads1115Channel0).dataRate = Ads1115DataRate.dr128Sps.value ∧
      (ads1115Read adcApi AdcBus.vTaskDelay (some ()) ads1115Channel0 (some 0) w).map
        (fun r => (r.1, r.2.1)) = some (espOk, some 0x1111) ∧
      ¬ WaitsForConversion w ads1115Channel0 .dr128Sps 0 := by
  dsimp only
  rcases @init_ok_dev boardWorld boardConfig (by decide) with ⟨hbus, hdev⟩
  rw [hdev]
  have hready : ReadyToRead ⟨⟨boardConfig.bus, some boardConfig.addr.toUInt8,
      boardConfig.channelConfig, true⟩, AdcBus.ready ⟨0x1111, none⟩ (fun _ => 0x2222) 5⟩ :=
    ⟨rfl, hbus, by simp, rfl, fun _ => rfl⟩
  rcases @read_spec _ ads1115Channel0 .dr128Sps hready (by decide) (by decide) 0 with
    ⟨bus, data, hread, _⟩
  -- half of the tick is over, and 10 - 5 is less than 1000 / 128
  have hfloor : ⌊(5 : ℚ) / 10⌋ = 0 := by
    norm_num
  have hlate : ¬((5 : ℚ) + Ads1115DataRate.dr128Sps.period ≤
      Ticks.wake 10 5 Ads1115DataRate.dr128Sps.ticks.toNat) := by
    rw [ticks_eq, period_eq, Ticks.wake, hfloor]
    norm_num
  have hvalue : (ads1115Read adcApi AdcBus.vTaskDelay (some ()) ads1115Channel0 (some 0)
      ⟨⟨boardConfig.bus, some boardConfig.addr.toUInt8, boardConfig.channelConfig, true⟩,
        AdcBus.ready ⟨0x1111, none⟩ (fun _ => 0x2222) 5⟩).map (fun r => (r.1, r.2.1)) =
      some (espOk, some 0x1111) := by
    rw [hread]
    simp [AdcBus.ready, Adc.result, hlate]
  refine ⟨by decide, by decide, by decide, hvalue, ?_⟩
  rintro ⟨started, data', readAt, bus', heq, _, _⟩
  rw [heq] at hvalue
  simp [AdcBus.ready] at hvalue

/-- The same read one millisecond after a tick waits long enough. -/
theorem read_waits_for_conversion_early :
    WaitsForConversion
      ⟨(ads1115Init adcApi (some ()) (some boardConfig) boardWorld).2.dev,
        AdcBus.ready ⟨0x1111, none⟩ (fun _ => 0x2222) 1⟩ ads1115Channel0 .dr128Sps 0 := by
  have hfloor : ⌊(1 : ℚ) / 10⌋ = 0 := by
    norm_num
  refine (read_waits_for_conversion_iff boardWorld boardConfig (by decide) ⟨0x1111, none⟩
    (fun _ => 0x2222) 1 ads1115Channel0 (by decide) .dr128Sps 0 (by decide)).2 ⟨rfl, ?_⟩
  rw [Ticks.phase, hfloor]
  norm_num

end MainboardFirmware
