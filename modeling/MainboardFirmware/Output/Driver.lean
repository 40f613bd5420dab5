import MainboardFirmware.Esp.Err
import MainboardFirmware.Library.Machine

/-!
# Driver — `firmware/main/drivers/output/`

The two output drivers, `actuator_dummy.c` and `status_led.c`, on the pins of the chip. Both manage one
channel and remember the state they wrote last; what they read back is this state, not the pin. In
every run of calls of both, on different pins, each pin carries what its driver remembers, whatever
writes fail.
-/

namespace MainboardFirmware

open Machine

/-! ## Pins -/

structure GpioPin where
  output : Bool
  level : Bool
  deriving DecidableEq, Repr

abbrev GpioPins := ℤ → GpioPin

/-- What the calls of one operation answer. -/
structure GpioAnswers where
  config : EspErr
  setLevel : EspErr
  deriving DecidableEq, Repr

/-- `gpio_config` of one pin as an output; the level stays. -/
def gpioConfig (answer : EspErr) (pin : ℤ) (pins : GpioPins) : GpioPins :=
  if answer = espOk then Function.update pins pin { pins pin with output := true } else pins

def gpioSetLevel (answer : EspErr) (pin : ℤ) (level : Bool) (pins : GpioPins) : GpioPins :=
  if answer = espOk then Function.update pins pin { pins pin with level := level } else pins

def gpioResetPin (pin : ℤ) (pins : GpioPins) : GpioPins :=
  Function.update pins pin { pins pin with output := false }

/-! ## What the drivers share -/

/-- The static variables that both have. -/
structure OutputChannel where
  isInitialized : Bool
  channelState : Bool
  deriving DecidableEq, Repr

/-- `DUMMY_NUM_CHANNELS` and `STATUS_LED_NUM_CHANNELS` -/
def numChannels : UInt8 := 1

/-- `dummy_output_set` and `status_led_set`, on the pin and with the level of the one or the other. -/
def channelSet (pin : ℤ) (level : Bool → Bool) (channel : UInt8) (state : Bool) (answer : EspErr)
    (c : OutputChannel) (pins : GpioPins) : EspErr × OutputChannel × GpioPins :=
  if c.isInitialized = false then (espFail, c, pins)
  else if numChannels ≤ channel then (espErrInvalidArg, c, pins)
  else
    (answer, if answer = espOk then { c with channelState := state } else c,
      gpioSetLevel answer pin (level state) pins)

/-- `dummy_output_get` and `status_led_get`; the pointer for the result is present or `NULL`. -/
def channelGet (channel : UInt8) (out : Bool) (c : OutputChannel) : EspErr × Option Bool :=
  if c.isInitialized = false ∨ out = false then (espFail, none)
  else if numChannels ≤ channel then (espErrInvalidArg, none)
  else (espOk, some c.channelState)

/-- `dummy_output_set_all` and `status_led_set_all` -/
def channelSetAll (pin : ℤ) (level : Bool → Bool) (bitmask : UInt8) (answer : EspErr)
    (c : OutputChannel) (pins : GpioPins) : EspErr × OutputChannel × GpioPins :=
  if c.isInitialized = false then (espFail, c, pins)
  else channelSet pin level 0 (bitmask &&& 1 ≠ 0) answer c pins

/-! ## `actuator_dummy.c` -/

def dummyLedGpio : ℤ := 2

def dummyOutputInit (answers : GpioAnswers) (c : OutputChannel) (pins : GpioPins) :
    EspErr × OutputChannel × GpioPins :=
  if c.isInitialized = true then (espOk, c, pins)
  else if answers.config ≠ espOk then (answers.config, c, pins)
  else
    -- nobody looks at what the write answers
    (espOk, ⟨true, false⟩,
      gpioSetLevel answers.setLevel dummyLedGpio false (gpioConfig answers.config dummyLedGpio pins))

def dummyOutputSet : UInt8 → Bool → EspErr → OutputChannel → GpioPins →
    EspErr × OutputChannel × GpioPins :=
  channelSet dummyLedGpio id

def dummyOutputGet : UInt8 → Bool → OutputChannel → EspErr × Option Bool :=
  channelGet

def dummyOutputSetAll : UInt8 → EspErr → OutputChannel → GpioPins →
    EspErr × OutputChannel × GpioPins :=
  channelSetAll dummyLedGpio id

def dummyOutputDeinit (c : OutputChannel) (pins : GpioPins) : OutputChannel × GpioPins :=
  if c.isInitialized = false then (c, pins)
  else (⟨false, false⟩, gpioResetPin dummyLedGpio pins)

/-! ## `status_led.c` -/

/-- `status_led_config_t` -/
structure StatusLedConfig where
  gpio : ℤ
  activeLow : Bool
  deriving DecidableEq, Repr

/-- `STATUS_LED_DEFAULT_GPIO`, active high. -/
def statusLedDefault : StatusLedConfig :=
  ⟨4, false⟩

/-- The static variables of the module. -/
structure StatusLed where
  channel : OutputChannel
  cfg : StatusLedConfig
  deriving DecidableEq, Repr

/-- `_status_led_level` -/
def StatusLedConfig.level (cfg : StatusLedConfig) (state : Bool) : Bool :=
  state ≠ cfg.activeLow

/-- `status_led_init`; `extra` is what `cfg->extra` points to, if there is a `cfg` and an `extra`.
`validOutput` is `GPIO_IS_VALID_OUTPUT_GPIO`. -/
def statusLedInit (validOutput : ℤ → Bool) (extra : Option StatusLedConfig) (answers : GpioAnswers)
    (led : StatusLed) (pins : GpioPins) : EspErr × StatusLed × GpioPins :=
  if led.channel.isInitialized = true then (espOk, led, pins)
  else
    let cfg := extra.getD statusLedDefault
    if validOutput cfg.gpio = false then (espErrInvalidArg, led, pins)
    else if answers.config ≠ espOk then (answers.config, led, pins)
    else
      (espOk, ⟨⟨true, false⟩, cfg⟩,
        gpioSetLevel answers.setLevel cfg.gpio (cfg.level false)
          (gpioConfig answers.config cfg.gpio pins))

def statusLedSet (channel : UInt8) (state : Bool) (answer : EspErr) (led : StatusLed)
    (pins : GpioPins) : EspErr × StatusLed × GpioPins :=
  let r := channelSet led.cfg.gpio led.cfg.level channel state answer led.channel pins
  (r.1, { led with channel := r.2.1 }, r.2.2)

def statusLedGet (channel : UInt8) (out : Bool) (led : StatusLed) : EspErr × Option Bool :=
  channelGet channel out led.channel

def statusLedSetAll (bitmask : UInt8) (answer : EspErr) (led : StatusLed) (pins : GpioPins) :
    EspErr × StatusLed × GpioPins :=
  let r := channelSetAll led.cfg.gpio led.cfg.level bitmask answer led.channel pins
  (r.1, { led with channel := r.2.1 }, r.2.2)

def statusLedDeinit (answer : EspErr) (led : StatusLed) (pins : GpioPins) : StatusLed × GpioPins :=
  if led.channel.isInitialized = false then (led, pins)
  else
    ({ led with channel := ⟨false, false⟩ },
      gpioResetPin led.cfg.gpio (gpioSetLevel answer led.cfg.gpio (led.cfg.level false) pins))

/-! ## Both on one chip -/

/-- A call through `output_driver_t`. -/
inductive OutputCall
  | init (extra : Option StatusLedConfig)
  | set (channel : UInt8) (state : Bool)
  | get (channel : UInt8) (out : Bool)
  | setAll (bitmask : UInt8)
  | deinit
  deriving DecidableEq, Repr

structure OutputBoard where
  dummy : OutputChannel
  led : StatusLed
  pins : GpioPins

/-- After the reset of the chip. -/
def OutputBoard.initial (pins : GpioPins) : OutputBoard :=
  ⟨⟨false, false⟩, ⟨⟨false, false⟩, statusLedDefault⟩, pins⟩

inductive OutputMove
  | dummy (call : OutputCall) (answers : GpioAnswers)
  | led (call : OutputCall) (answers : GpioAnswers)
  deriving DecidableEq, Repr

def dummyStep (call : OutputCall) (answers : GpioAnswers) (s : OutputBoard) : OutputBoard :=
  match call with
  | .init _ =>
      let r := dummyOutputInit answers s.dummy s.pins
      { s with dummy := r.2.1, pins := r.2.2 }
  | .set channel state =>
      let r := dummyOutputSet channel state answers.setLevel s.dummy s.pins
      { s with dummy := r.2.1, pins := r.2.2 }
  | .get _ _ => s
  | .setAll bitmask =>
      let r := dummyOutputSetAll bitmask answers.setLevel s.dummy s.pins
      { s with dummy := r.2.1, pins := r.2.2 }
  | .deinit =>
      let r := dummyOutputDeinit s.dummy s.pins
      { s with dummy := r.1, pins := r.2 }

def ledStep (validOutput : ℤ → Bool) (call : OutputCall) (answers : GpioAnswers) (s : OutputBoard) :
    OutputBoard :=
  match call with
  | .init extra =>
      let r := statusLedInit validOutput extra answers s.led s.pins
      { s with led := r.2.1, pins := r.2.2 }
  | .set channel state =>
      let r := statusLedSet channel state answers.setLevel s.led s.pins
      { s with led := r.2.1, pins := r.2.2 }
  | .get _ _ => s
  | .setAll bitmask =>
      let r := statusLedSetAll bitmask answers.setLevel s.led s.pins
      { s with led := r.2.1, pins := r.2.2 }
  | .deinit =>
      let r := statusLedDeinit answers.setLevel s.led s.pins
      { s with led := r.1, pins := r.2 }

def outputStep (validOutput : ℤ → Bool) (s : OutputBoard) : OutputMove → OutputBoard
  | .dummy call answers => dummyStep call answers s
  | .led call answers => ledStep validOutput call answers s

/-! ## What the pins carry -/

/-- The pin of an initialised channel is an output and carries the level of the state. -/
def OutputChannel.On (c : OutputChannel) (pin : ℤ) (level : Bool → Bool) (pins : GpioPins) : Prop :=
  c.isInitialized = true → pins pin = ⟨true, level c.channelState⟩

/-- Both drivers have their pin, and not the same one. -/
structure OutputBoard.PinsShow (s : OutputBoard) : Prop where
  dummy : s.dummy.On dummyLedGpio id s.pins
  led : s.led.channel.On s.led.cfg.gpio s.led.cfg.level s.pins
  apart : s.led.channel.isInitialized = true → s.led.cfg.gpio ≠ dummyLedGpio

/-- An initialisation whose write to the pin is carried out, of the status LED not on the pin of the
other. -/
def OutputMove.Apart : OutputMove → Prop
  | .dummy (.init _) answers => answers.setLevel = espOk
  | .led (.init extra) answers =>
      answers.setLevel = espOk ∧ (extra.getD statusLedDefault).gpio ≠ dummyLedGpio
  | _ => True

section Pins

variable {pins : GpioPins} {pin other : ℤ} {level : Bool → Bool} {c : OutputChannel}

theorem gpioSetLevel_other (hother : other ≠ pin) (answer : EspErr) (b : Bool) :
    gpioSetLevel answer pin b pins other = pins other := by
  unfold gpioSetLevel
  split
  · exact Function.update_of_ne hother _ _
  · rfl

theorem gpioConfig_other (hother : other ≠ pin) (answer : EspErr) :
    gpioConfig answer pin pins other = pins other := by
  unfold gpioConfig
  split
  · exact Function.update_of_ne hother _ _
  · rfl

theorem gpioResetPin_other (hother : other ≠ pin) : gpioResetPin pin pins other = pins other :=
  Function.update_of_ne hother _ _

/-- A pin that is set up and written. -/
theorem gpioSetup_pin (pins : GpioPins) (pin : ℤ) (b : Bool) :
    gpioSetLevel espOk pin b (gpioConfig espOk pin pins) pin = ⟨true, b⟩ := by
  simp [gpioSetLevel, gpioConfig]

theorem gpioSetup_other (hother : other ≠ pin) (b : Bool) :
    gpioSetLevel espOk pin b (gpioConfig espOk pin pins) other = pins other :=
  (gpioSetLevel_other hother espOk b).trans (gpioConfig_other hother espOk)

/-- What does not touch a pin leaves its driver where it was. -/
theorem OutputChannel.On.of_eq {pins' : GpioPins} (h : c.On pin level pins)
    (hpin : pins' pin = pins pin) : c.On pin level pins' :=
  fun hc => hpin.trans (h hc)

theorem OutputChannel.On.of_off (hc : c.isInitialized = false) : c.On pin level pins :=
  fun h => absurd (hc.symm.trans h) (by decide)

/-- What one write can do: the state and the pin change together or not at all, and no other pin
does. -/
structure ChannelWrite (pin : ℤ) (level : Bool → Bool) (c : OutputChannel) (pins : GpioPins)
    (r : EspErr × OutputChannel × GpioPins) : Prop where
  initialized : r.2.1.isInitialized = c.isInitialized
  shows : c.On pin level pins → r.2.1.On pin level r.2.2
  others : ∀ other ≠ pin, r.2.2 other = pins other
  idle : c.isInitialized = false → r.2.2 = pins

theorem channelSet_write (channel : UInt8) (state : Bool) (answer : EspErr) :
    ChannelWrite pin level c pins (channelSet pin level channel state answer c pins) := by
  unfold channelSet
  split
  next =>
    exact ⟨rfl, fun h => h, fun _ _ => rfl, fun _ => rfl⟩
  next hinit =>
    have hready : c.isInitialized = true := by simpa using hinit
    split
    next =>
      exact ⟨rfl, fun h => h, fun _ _ => rfl, fun _ => rfl⟩
    next =>
      refine ⟨?_, fun h _ => ?_, fun other hother => gpioSetLevel_other hother answer _,
        fun hidle => absurd hidle hinit⟩
      · split <;> rfl
      · by_cases hok : answer = espOk
        · simp [gpioSetLevel, hok, h hready]
        · simp [gpioSetLevel, hok, h hready]

/-- A write to channel 0 of an initialised driver. -/
theorem channelSet_ready (hc : c.isInitialized = true) (state : Bool) (answer : EspErr) :
    channelSet pin level 0 state answer c pins =
      (answer, if answer = espOk then { c with channelState := state } else c,
        gpioSetLevel answer pin (level state) pins) := by
  have hchannel : ¬ numChannels ≤ 0 := by decide
  simp [channelSet, hc, hchannel]

theorem channelSetAll_write (bitmask : UInt8) (answer : EspErr) :
    ChannelWrite pin level c pins (channelSetAll pin level bitmask answer c pins) := by
  unfold channelSetAll
  split
  next =>
    exact ⟨rfl, fun h => h, fun _ _ => rfl, fun _ => rfl⟩
  next =>
    exact channelSet_write 0 _ answer

end Pins

section Board

variable {validOutput : ℤ → Bool} {s : OutputBoard}

/-- A write of the actuator driver. -/
theorem pinsShow_dummyWrite {r : EspErr × OutputChannel × GpioPins}
    (hr : ChannelWrite dummyLedGpio id s.dummy s.pins r) (hs : s.PinsShow) :
    ({ s with dummy := r.2.1, pins := r.2.2 } : OutputBoard).PinsShow := by
  refine ⟨hr.shows hs.dummy, ?_, hs.apart⟩
  intro hled
  exact (hr.others _ (hs.apart hled)).trans (hs.led hled)

/-- A write of the status LED. -/
theorem pinsShow_ledWrite {r : EspErr × OutputChannel × GpioPins}
    (hr : ChannelWrite s.led.cfg.gpio s.led.cfg.level s.led.channel s.pins r) (hs : s.PinsShow) :
    ({ s with led := { s.led with channel := r.2.1 }, pins := r.2.2 } : OutputBoard).PinsShow := by
  refine ⟨?_, hr.shows hs.led, fun hled => hs.apart (hr.initialized ▸ hled)⟩
  cases hled : s.led.channel.isInitialized with
  | true =>
      exact hs.dummy.of_eq (hr.others _ (hs.apart hled).symm)
  | false =>
      exact hs.dummy.of_eq (by rw [hr.idle hled])

theorem dummyStep_pinsShow {call : OutputCall} {answers : GpioAnswers}
    (hmove : (OutputMove.dummy call answers).Apart) (hs : s.PinsShow) :
    (dummyStep call answers s).PinsShow := by
  cases call with
  | init extra =>
      have hwrite : answers.setLevel = espOk := hmove
      simp only [dummyStep, dummyOutputInit]
      split
      next =>
        exact hs
      next =>
        split
        next =>
          exact hs
        next hconfig =>
          have hconfig' : answers.config = espOk := by simpa using hconfig
          rw [hwrite, hconfig']
          refine ⟨fun _ => gpioSetup_pin s.pins dummyLedGpio false, fun hled => ?_, hs.apart⟩
          exact (gpioSetup_other (hs.apart hled) false).trans (hs.led hled)
  | set channel state =>
      exact pinsShow_dummyWrite (channelSet_write channel state answers.setLevel) hs
  | get channel out =>
      exact hs
  | setAll bitmask =>
      exact pinsShow_dummyWrite (channelSetAll_write bitmask answers.setLevel) hs
  | deinit =>
      simp only [dummyStep, dummyOutputDeinit]
      split
      next =>
        exact hs
      next =>
        refine ⟨OutputChannel.On.of_off rfl, fun hled => ?_, hs.apart⟩
        exact (gpioResetPin_other (hs.apart hled)).trans (hs.led hled)

theorem ledStep_pinsShow {call : OutputCall} {answers : GpioAnswers}
    (hmove : (OutputMove.led call answers).Apart) (hs : s.PinsShow) :
    (ledStep validOutput call answers s).PinsShow := by
  cases call with
  | init extra =>
      rcases hmove with ⟨hwrite, hapart⟩
      simp only [ledStep, statusLedInit]
      split
      next =>
        exact hs
      next =>
        split
        next =>
          exact hs
        next =>
          split
          next =>
            exact hs
          next hconfig =>
            have hconfig' : answers.config = espOk := by simpa using hconfig
            rw [hwrite, hconfig']
            exact ⟨hs.dummy.of_eq (gpioSetup_other hapart.symm _), fun _ => gpioSetup_pin s.pins _ _,
              fun _ => hapart⟩
  | set channel state =>
      exact pinsShow_ledWrite (channelSet_write channel state answers.setLevel) hs
  | get channel out =>
      exact hs
  | setAll bitmask =>
      exact pinsShow_ledWrite (channelSetAll_write bitmask answers.setLevel) hs
  | deinit =>
      simp only [ledStep, statusLedDeinit]
      split
      next =>
        exact hs
      next hinit =>
        have hother := (hs.apart (by simpa using hinit)).symm
        have hpin : gpioResetPin s.led.cfg.gpio (gpioSetLevel answers.setLevel s.led.cfg.gpio
            (s.led.cfg.level false) s.pins) dummyLedGpio = s.pins dummyLedGpio :=
          (gpioResetPin_other hother).trans (gpioSetLevel_other hother _ _)
        exact ⟨hs.dummy.of_eq hpin, OutputChannel.On.of_off rfl, fun hled => by cases hled⟩

theorem outputStep_pinsShow {move : OutputMove} (hs : s.PinsShow) (hmove : move.Apart) :
    (outputStep validOutput s move).PinsShow := by
  cases move with
  | dummy call answers =>
      exact dummyStep_pinsShow hmove hs
  | led call answers =>
      exact ledStep_pinsShow hmove hs

end Board

theorem outputBoard_initial_pinsShow (pins : GpioPins) : (OutputBoard.initial pins).PinsShow :=
  ⟨OutputChannel.On.of_off rfl, OutputChannel.On.of_off rfl, fun h => by cases h⟩

/-- What a read that succeeds returns is the state. -/
theorem channelGet_eq_ok {channel : UInt8} {out b : Bool} {c : OutputChannel}
    (h : channelGet channel out c = (espOk, some b)) : c.isInitialized = true ∧ c.channelState = b := by
  unfold channelGet at h
  split at h
  next =>
    cases h
  next hready =>
    split at h
    next =>
      cases h
    next =>
      cases h
      refine ⟨?_, rfl⟩
      cases hc : c.isInitialized with
      | true =>
          rfl
      | false =>
          exact absurd (.inl hc) hready

/-- For every interleaving of calls on both drivers, initialised and released any number of times and
with any writes refused: what either driver reads back is what its own pin carries, as long as the
status LED is not put on the other's pin and the first write of an initialisation is carried out. -/
theorem outputs_keep_apart (validOutput : ℤ → Bool) (pins : GpioPins) (as : List OutputMove)
    (has : ∀ a ∈ as, a.Apart) :
    let s := run (outputStep validOutput) (OutputBoard.initial pins) as
    (∀ channel out b, dummyOutputGet channel out s.dummy = (espOk, some b) →
        s.pins dummyLedGpio = ⟨true, b⟩) ∧
      ∀ channel out b, statusLedGet channel out s.led = (espOk, some b) →
        s.pins s.led.cfg.gpio = ⟨true, s.led.cfg.level b⟩ := by
  intro s
  have hstep : ∀ t (move : OutputMove), t.PinsShow → move.Apart →
      (outputStep validOutput t move).PinsShow := fun _ _ ht hmove => outputStep_pinsShow ht hmove
  have hs : s.PinsShow := inv_run_of_labels hstep (outputBoard_initial_pinsShow pins) has
  constructor
  · intro channel out b hget
    rcases channelGet_eq_ok hget with ⟨hinit, rfl⟩
    exact hs.dummy hinit
  · intro channel out b hget
    rcases channelGet_eq_ok hget with ⟨hinit, rfl⟩
    exact hs.led hinit

/-- Both are set up and lit, and the second write of the active-low LED is refused. -/
theorem outputs_keep_apart_two :
    let ok : GpioAnswers := ⟨espOk, espOk⟩
    let as : List OutputMove := [.dummy (.init none) ok, .led (.init (some ⟨5, true⟩)) ok,
      .dummy (.setAll 3) ok, .led (.set 0 true) ok, .led (.set 0 false) ⟨espOk, espFail⟩]
    let s := run (outputStep fun _ => true) (OutputBoard.initial fun _ => ⟨false, false⟩) as
    s.pins 2 = ⟨true, true⟩ ∧ s.pins 5 = ⟨true, false⟩ := by
  intro ok as s
  have has : ∀ a ∈ as, a.Apart := by
    simp [as, ok, OutputMove.Apart, dummyLedGpio]
  rcases outputs_keep_apart (fun _ => true) (fun _ => ⟨false, false⟩) as has with ⟨hdummy, hled⟩
  exact ⟨hdummy 0 true true (by decide), hled 0 true true (by decide)⟩

end MainboardFirmware
