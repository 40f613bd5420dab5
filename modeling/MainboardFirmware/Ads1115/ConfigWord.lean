import MainboardFirmware.Ads1115.Timing

/-!
# ConfigWord — does `ads1115_read` program the channel it is asked for?

The requested channel selects an entry of the channel table; the MUX bits, the gain, the data rate
and the index into the conversion time table all come from that entry, which `ads1115_init` copies as
it is. So a read programs the requested channel exactly if its entry names that channel, and has a
gain and a data rate that fit their three bits.
-/

namespace MainboardFirmware

/-! ## The fields of a config word -/

/-- The `width` bits of a config word from bit `shift` on. -/
def configField (word : UInt16) (shift width : Nat) : Nat :=
  word.toNat / 2 ^ shift % 2 ^ width

/-- The word starts a single-shot conversion of `channel`, without the comparator, with the gain and
the data rate of `entry`. -/
structure ProgramsChannel (word : UInt16) (channel : UInt32) (entry : Ads1115ChannelConfig) :
    Prop where
  os : configField word 15 1 = 1
  mux : configField word 12 3 = channel.toNat
  pga : configField word 9 3 = entry.pga.toNat
  mode : configField word 8 1 = 1
  dataRate : configField word 5 3 = entry.dataRate.toNat
  compQue : configField word 0 2 = 3

/-- Three 3-bit fields and the constant bits between them do not overlap. -/
theorem packed_fields : ∀ mux pga dataRate : Fin 8,
    32768 ||| mux.val <<< 12 % 65536 ||| pga.val <<< 9 % 65536 ||| 256 |||
        dataRate.val <<< 5 % 65536 ||| 3 =
      2 ^ 15 + mux.val * 2 ^ 12 + pga.val * 2 ^ 9 + 2 ^ 8 + dataRate.val * 2 ^ 5 + 3 := by
  decide +kernel

/-- The config word as the sum of its fields: the low three bits of each value, and nothing else. -/
theorem buildConfigWord_toNat (entry : Ads1115ChannelConfig) :
    (ads1115BuildConfigWord entry).toNat = 2 ^ 15 + entry.channel.toNat % 8 * 2 ^ 12 +
      entry.pga.toNat % 8 * 2 ^ 9 + 2 ^ 8 + entry.dataRate.toNat % 8 * 2 ^ 5 + 3 := by
  have hlow : ∀ n : Nat, n &&& 7 = n % 8 := by
    intro n
    exact Nat.and_two_pow_sub_one_eq_mod n 3
  have hlt : ∀ n : Nat, n % 8 < 8 := by
    intro n
    exact Nat.mod_lt n (by decide)
  have hpacked := packed_fields ⟨entry.channel.toNat % 8, hlt _⟩ ⟨entry.pga.toNat % 8, hlt _⟩
    ⟨entry.dataRate.toNat % 8, hlt _⟩
  simpa [ads1115BuildConfigWord, hlow] using hpacked

/-- What the word built from an entry programs. -/
theorem buildConfigWord_programs_iff (entry : Ads1115ChannelConfig) (channel : UInt32) :
    ProgramsChannel (ads1115BuildConfigWord entry) channel entry ↔
      entry.channel.toNat % 8 = channel.toNat ∧ entry.pga.toNat < 8 ∧ entry.dataRate.toNat < 8 := by
  have hword := buildConfigWord_toNat entry
  have hchannel := Nat.mod_lt entry.channel.toNat (show 8 > 0 by decide)
  have hpga := Nat.mod_lt entry.pga.toNat (show 8 > 0 by decide)
  have hrate := Nat.mod_lt entry.dataRate.toNat (show 8 > 0 by decide)
  -- OS, MODE and COMP_QUE are constants of the sum, the other fields are the low bits of the entry
  constructor
  · rintro ⟨_, hmux, hgain, _, hdr, _⟩
    simp only [configField] at hmux hgain hdr
    omega
  · rintro ⟨hmux, hgain, hdr⟩
    constructor <;> simp only [configField] <;> omega

/-! ## One read -/

section Read

variable {dev : Ads1115Dev Unit UInt8} {channel : UInt32} {bus : AdcBus}

/-- A context that a completed `ads1115_init` leaves. -/
structure Wired (dev : Ads1115Dev Unit UInt8) : Prop where
  initialized : dev.initialized = true
  bus : dev.bus ≠ none
  dev : dev.dev ≠ none

/-- The bus after the config word of a channel was written. -/
def AdcBus.configured (bus : AdcBus) (dev : Ads1115Dev Unit UInt8) (channel : UInt32) : AdcBus :=
  let data := registerBytes ads1115RegConfig (ads1115BuildConfigWord (dev.configOf channel))
  { bus with
    adc := if bus.answer = espOk then bus.written data else bus.adc
    log := bus.log ++ [(bus.now, .write data)] }

/-- The bus after the delay that the conversion time table has at `ms`. -/
def AdcBus.waited (bus : AdcBus) (ms : UInt32) : AdcBus :=
  AdcBus.vTaskDelay (pdMsToTicks (ms + ads1115ConversionMarginMs)) bus

/-- A read whose config word is refused ends there. -/
theorem read_of_config_refused (hwired : Wired dev) (hchannel : ads1115ChannelValid channel = true)
    (hrefused : bus.answer ≠ espOk) (out : UInt16) :
    ads1115Read adcApi AdcBus.vTaskDelay (some ()) channel (some out) ⟨dev, bus⟩ =
      some (bus.answer, some out, ⟨dev, bus.configured dev channel⟩) := by
  have hup : ¬(dev.bus = none ∨ dev.dev = none) := by
    simp [hwired.bus, hwired.dev]
  simp [ads1115Read, hwired.initialized, hchannel, ads1115WriteRegister, adcApi, AdcBus.write,
    hup, hrefused, AdcBus.configured, registerBytes, Ads1115Dev.configOf]

/-- A read whose data rate is outside the conversion time table looks a time up there. -/
theorem read_of_rate_outside (hwired : Wired dev) (hchannel : ads1115ChannelValid channel = true)
    (hwritten : bus.answer = espOk)
    (hrate : conversionToMs[(dev.configOf channel).dataRate.toNat]? = none) (out : UInt16) :
    ads1115Read adcApi AdcBus.vTaskDelay (some ()) channel (some out) ⟨dev, bus⟩ = none := by
  have hup : ¬(dev.bus = none ∨ dev.dev = none) := by
    simp [hwired.bus, hwired.dev]
  simp only [Ads1115Dev.configOf] at hrate
  simp only [ads1115Read, reduceCtorEq, or_self, if_false, hwired.initialized, Bool.true_eq_false,
    hchannel, ads1115WriteRegister, adcApi, AdcBus.write, hup, hwritten, ne_eq, not_true_eq_false,
    hrate]

/-- A read whose config word is taken waits as the conversion time table has it for the data rate, and
reads the conversion register. -/
theorem read_of_configured (hwired : Wired dev) (hchannel : ads1115ChannelValid channel = true)
    (hwritten : bus.answer = espOk) {ms : UInt32}
    (hrate : conversionToMs[(dev.configOf channel).dataRate.toNat]? = some ms) (out : UInt16) :
    let waited := (bus.configured dev channel).waited ms
    ads1115Read adcApi AdcBus.vTaskDelay (some ()) channel (some out) ⟨dev, bus⟩ =
      some (waited.answer,
        some (if waited.answer = espOk then waited.adc.result waited.now else out),
        ⟨dev, waited.readOut⟩) := by
  have hup : ¬(dev.bus = none ∨ dev.dev = none) := by
    simp [hwired.bus, hwired.dev]
  have hwrite : ads1115WriteRegister adcApi ads1115RegConfig
      (ads1115BuildConfigWord (dev.configOf channel)) ⟨dev, bus⟩ =
        (espOk, ⟨dev, bus.configured dev channel⟩) := by
    simp only [ads1115WriteRegister, adcApi, AdcBus.write, hup, if_false, hwritten]
    simp only [AdcBus.configured, hwritten, registerBytes]
  -- the register is read big-endian, as it was written
  have hread : ads1115ReadRegister adcApi ads1115RegConversion 0
      ⟨dev, (bus.configured dev channel).waited ms⟩ =
        (((bus.configured dev channel).waited ms).answer,
          if ((bus.configured dev channel).waited ms).answer = espOk then
            ((bus.configured dev channel).waited ms).adc.result
              ((bus.configured dev channel).waited ms).now else 0,
          ⟨dev, ((bus.configured dev channel).waited ms).readOut⟩) := by
    by_cases hok : ((bus.configured dev channel).waited ms).answer = espOk
    · simp only [ads1115ReadRegister, adcApi, AdcBus.writeRead, hup, if_false, hok, ne_eq,
        not_true_eq_false, List.getD_cons_zero, List.getD_cons_succ, bytes_roundTrip, if_true]
      rfl
    · simp only [ads1115ReadRegister, adcApi, AdcBus.writeRead, hup, if_false, hok, ne_eq,
        not_false_eq_true, if_true]
      rfl
  dsimp only
  simp only [Ads1115Dev.configOf] at hrate hwrite
  simp only [AdcBus.waited] at hread ⊢
  simp only [ads1115Read, reduceCtorEq, or_self, if_false, hwired.initialized, Bool.true_eq_false,
    hchannel, hwrite, ne_eq, not_true_eq_false, hrate, hread]
  split
  · rename_i hfail
    simp [hfail]
  · rename_i hok
    simp [not_not.1 hok]

end Read

theorem registerBytes_injective (reg : UInt8) : Function.Injective (registerBytes reg) := by
  intro a b h
  simp only [registerBytes, List.cons.injEq, and_true, true_and] at h
  rw [← bytes_roundTrip a, ← bytes_roundTrip b, h.1, h.2]

/-- A config word with OS set starts a conversion. -/
theorem written_config (bus : AdcBus) {word : UInt16} (hos : word &&& 0x8000 ≠ 0) :
    bus.written (registerBytes ads1115RegConfig word) =
      ⟨bus.adc.result bus.now, some (bus.now + conversionTime (drField word), bus.signal bus.now)⟩ := by
  simp only [AdcBus.written, registerBytes, bytes_roundTrip, hos, ne_eq, not_false_eq_true, and_self,
    if_true]

/-! ## The channel that is programmed -/

/-- Whatever the bus answers, a read of the channel looks its conversion time up inside the table, and
if it returns `ESP_OK` the config word it wrote programs that channel with the stored values, and the
time looked up is that of the data rate programmed. -/
def ReadProgramsChannel (dev : Ads1115Dev Unit UInt8) (channel : UInt32) : Prop :=
  ∀ (bus : AdcBus) (out : UInt16), ∃ res,
    ads1115Read adcApi AdcBus.vTaskDelay (some ()) channel (some out) ⟨dev, bus⟩ = some res ∧
      (res.1 = espOk → ∃ word readAt ms,
        res.2.2.bus.log = bus.log ++ [(bus.now, .write (registerBytes ads1115RegConfig word)),
          (readAt, .writeRead [ads1115RegConversion] 2)] ∧
        ProgramsChannel word channel (dev.configOf channel) ∧
        conversionToMs[configField word 5 3]? = some ms ∧
        readAt = Ticks.wake 10 bus.now (pdMsToTicks (ms + ads1115ConversionMarginMs)).toNat)

theorem conversionToMs_some_iff (index : Nat) :
    (∃ ms, conversionToMs[index]? = some ms) ↔ index < 8 := by
  constructor
  · rintro ⟨ms, hms⟩
    exact (List.getElem?_eq_some_iff.1 hms).1
  · intro hlt
    exact ⟨_, List.getElem?_eq_getElem hlt⟩

/-- A completed read leaves the config write and the read-out in the log. -/
theorem configured_log (dev : Ads1115Dev Unit UInt8) (channel : UInt32) (bus : AdcBus)
    (ms : UInt32) :
    ((bus.configured dev channel).waited ms).readOut.log =
      bus.log ++ [(bus.now, .write (registerBytes ads1115RegConfig
          (ads1115BuildConfigWord (dev.configOf channel)))),
        (Ticks.wake 10 bus.now (pdMsToTicks (ms + ads1115ConversionMarginMs)).toNat,
          .writeRead [ads1115RegConversion] 2)] := by
  simp [AdcBus.readOut, AdcBus.waited, AdcBus.configured, AdcBus.vTaskDelay]

theorem readProgramsChannel_iff {dev : Ads1115Dev Unit UInt8} (hwired : Wired dev)
    {channel : UInt32} (hchannel : ads1115ChannelValid channel = true) :
    ReadProgramsChannel dev channel ↔
      (dev.configOf channel).channel.toNat % 8 = channel.toNat ∧
        (dev.configOf channel).pga.toNat < 8 ∧ (dev.configOf channel).dataRate.toNat < 8 := by
  rw [← buildConfigWord_programs_iff]
  constructor
  · -- it is enough to look at a bus on which both transfers succeed
    intro hread
    rcases hread (AdcBus.ready ⟨0, none⟩ (fun _ => 0) 0) 0 with ⟨res, hres, hright⟩
    cases hms : conversionToMs[(dev.configOf channel).dataRate.toNat]? with
    | none =>
        rw [read_of_rate_outside hwired hchannel rfl hms] at hres
        exact absurd hres (by simp)
    | some ms =>
        rw [read_of_configured hwired hchannel rfl hms] at hres
        rw [← Option.some.inj hres] at hright
        rcases hright rfl with ⟨word, readAt, _, hlog, hprograms, _, _⟩
        dsimp only at hlog
        rw [configured_log] at hlog
        have hbytes := List.append_cancel_left hlog
        simp only [List.cons.injEq, Prod.mk.injEq, BusOp.write.injEq, true_and] at hbytes
        rw [registerBytes_injective ads1115RegConfig hbytes.1]
        exact hprograms
  · intro hprograms bus out
    by_cases hwritten : bus.answer = espOk
    · -- the data rate fits its field, so it is inside the table
      have hfield := hprograms.dataRate
      have hinside : (dev.configOf channel).dataRate.toNat < 8 := by
        rw [← hfield]
        exact Nat.mod_lt _ (by decide)
      rcases (conversionToMs_some_iff _).2 hinside with ⟨ms, hms⟩
      refine ⟨_, read_of_configured hwired hchannel hwritten hms out, fun _ => ?_⟩
      exact ⟨_, _, ms, configured_log dev channel bus ms, hprograms, by rw [hfield, hms], rfl⟩
    · refine ⟨_, read_of_config_refused hwired hchannel hwritten out, fun hok => ?_⟩
      exact absurd hok hwritten

/-- For every channel table and address that `ads1115_init` accepts and every valid channel: a read
programs the channel it was asked for, with the values stored for it, and waits by the data rate it
programmed, exactly if the entry of that channel names it and has a gain and a data rate below 8. -/
theorem read_programs_channel_iff (w : AdcWorld) (config : Ads1115Config Unit)
    (hinit : (ads1115Init adcApi (some ()) (some config) w).1 = espOk) (channel : UInt32)
    (hchannel : ads1115ChannelValid channel = true) :
    let entry := config.channelConfig (Fin.ofNat 4 (channel - ads1115Channel0).toNat)
    ReadProgramsChannel (ads1115Init adcApi (some ()) (some config) w).2.dev channel ↔
      entry.channel.toNat % 8 = channel.toNat ∧ entry.pga.toNat < 8 ∧ entry.dataRate.toNat < 8 := by
  rcases init_ok_dev hinit with ⟨hbus, hdev⟩
  rw [hdev]
  have hwired : Wired (⟨config.bus, some config.addr.toUInt8, config.channelConfig, true⟩ :
      Ads1115Dev Unit UInt8) :=
    ⟨rfl, hbus, by simp⟩
  exact readProgramsChannel_iff hwired hchannel

theorem read_programs_channel_iff_board :
    ReadProgramsChannel (ads1115Init adcApi (some ()) (some boardConfig) boardWorld).2.dev
        ads1115Channel0 ↔
      (boardConfig.channelConfig 0).channel.toNat % 8 = ads1115Channel0.toNat ∧
        (boardConfig.channelConfig 0).pga.toNat < 8 ∧
        (boardConfig.channelConfig 0).dataRate.toNat < 8 :=
  read_programs_channel_iff boardWorld boardConfig (by decide) ads1115Channel0 (by decide)

/-- A channel table with its first entry filled in. -/
def firstChannelConfig : Ads1115Config Unit :=
  ⟨some (), 0x48, 100000, fun i => if i.val = 0 then ⟨4, 5, 4⟩ else ⟨0, 0, 0⟩⟩

/-- Channel 1 of that table is accepted and read, and the config word selects input pair 0 at 8 samples
per second. -/
theorem unfilled_entry_reads_other_channel :
    let dev := (ads1115Init adcApi (some ()) (some firstChannelConfig) boardWorld).2.dev
    (ads1115Init adcApi (some ()) (some firstChannelConfig) boardWorld).1 = espOk ∧
      ads1115ChannelValid 5 = true ∧
      (ads1115Read adcApi AdcBus.vTaskDelay (some ()) 5 (some 0)
        ⟨dev, AdcBus.ready ⟨0x1111, none⟩ (fun _ => 0x2222) 0⟩).map (fun r => r.1) = some espOk ∧
      configField (ads1115BuildConfigWord (dev.configOf 5)) 12 3 = 0 ∧
      ¬ ReadProgramsChannel dev 5 := by
  dsimp only
  rcases @init_ok_dev boardWorld firstChannelConfig (by decide) with ⟨hbus, hdev⟩
  rw [hdev]
  have hwired : Wired (⟨firstChannelConfig.bus, some firstChannelConfig.addr.toUInt8,
      firstChannelConfig.channelConfig, true⟩ : Ads1115Dev Unit UInt8) :=
    ⟨rfl, hbus, by simp⟩
  have hread := @read_of_configured _ 5 (AdcBus.ready ⟨0x1111, none⟩ (fun _ => 0x2222) 0) hwired
    (by decide) rfl 0 (by decide) 0
  refine ⟨by decide, by decide, ?_, by decide, ?_⟩
  · rw [hread]
    rfl
  · rw [readProgramsChannel_iff hwired (by decide)]
    decide

end MainboardFirmware
