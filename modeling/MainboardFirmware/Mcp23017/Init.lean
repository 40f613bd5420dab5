import Mathlib.Data.List.Forall2
import Mathlib.Tactic.IntervalCases
import MainboardFirmware.Mcp23017.Operations

/-!
# Init — what `mcp23017_init` does to the chip

`init` finds a chip with any registers in it: only the MCU may have restarted. Its first two writes
bring the chip back to the `BANK = 0` layout, the other six set directions, pull-ups and latches in
this order. Between the direction and the latch of a port, every pin that just became an output
shows what its latch held before: `init_drives_no_pin_iff` says exactly when that drives a pin high.
-/

namespace MainboardFirmware

open Mcp23017Chip

/-! ## The register file during the sequence -/

/-- Register updates without the detour through addresses. -/
def updateAll (chip : RegFile) (regs : List (Reg × UInt8)) : RegFile :=
  regs.foldl (fun chip reg => Function.update chip reg.1 reg.2) chip

/-- With `BANK = 0` the address is that of a register which stores what is written to it. -/
def Plain (addr : UInt8) (reg : Reg) : Prop :=
  regAt false addr = some reg ∧ written reg = some reg ∧ reg ≠ .iocon

theorem plain_iodir :
    Plain mcp23017RegIodira (.iodir .a) ∧ Plain mcp23017RegIodirb (.iodir .b) :=
  ⟨⟨rfl, rfl, by simp⟩, ⟨rfl, rfl, by simp⟩⟩

theorem plain_ipol : Plain mcp23017RegIpola (.ipol .a) ∧ Plain mcp23017RegIpolb (.ipol .b) :=
  ⟨⟨rfl, rfl, by simp⟩, ⟨rfl, rfl, by simp⟩⟩

theorem plain_gppu : Plain mcp23017RegGppua (.gppu .a) ∧ Plain mcp23017RegGppub (.gppu .b) :=
  ⟨⟨rfl, rfl, by simp⟩, ⟨rfl, rfl, by simp⟩⟩

theorem plain_olat : Plain mcp23017RegOlata (.olat .a) ∧ Plain mcp23017RegOlatb (.olat .b) :=
  ⟨⟨rfl, rfl, by simp⟩, ⟨rfl, rfl, by simp⟩⟩

theorem write_plain {chip : RegFile} {addr : UInt8} {reg : Reg} (hb : bank chip = false)
    (h : Plain addr reg) (value : UInt8) :
    Mcp23017Chip.write chip [addr, value] = Function.update chip reg value :=
  write_of_regAt (by rw [hb]; exact h.1) h.2.1 value

/-- Writes to plain registers of a chip with `BANK = 0` are updates of these registers. -/
theorem writeAll_eq_updateAll {chip : RegFile} (hb : bank chip = false)
    {writes : List (UInt8 × UInt8)} {updates : List (Reg × UInt8)}
    (h : List.Forall₂ (fun w u => Plain w.1 u.1 ∧ w.2 = u.2) writes updates) :
    writeAll chip writes = updateAll chip updates ∧ bank (updateAll chip updates) = false := by
  induction h generalizing chip with
  | nil =>
      exact ⟨rfl, hb⟩
  | @cons write update _ _ hhead _ ih =>
      rcases write with ⟨addr, value⟩
      rcases update with ⟨reg, value'⟩
      rcases hhead with ⟨hplain, hvalue⟩
      have hvalue' : value = value' := hvalue
      have hb' : bank (Function.update chip reg value') = false := by
        rw [bank_update hplain.2.2, hb]
      have hwrite : Mcp23017Chip.write chip [addr, value] = Function.update chip reg value' := by
        rw [write_plain hb hplain, hvalue']
      simpa [writeAll, updateAll, hwrite] using ih hb'

/-- The chip after step A. -/
def unbanked (chip : RegFile) : RegFile :=
  writeAll chip [(mcp23017RegIoconBank1, 0x00), (mcp23017RegIocon, 0x00)]

/-- The first write reaches `IOCON` if the chip has `BANK = 1`, and `GPINTENB` if not. -/
theorem write_ioconBank1 (chip : RegFile) :
    Mcp23017Chip.write chip [mcp23017RegIoconBank1, 0x00] =
      Function.update chip (if bank chip = true then .iocon else .gpinten .b) 0 := by
  cases hb : bank chip with
  | false =>
      exact write_of_regAt (by rw [hb]; rfl) rfl 0
  | true =>
      exact write_of_regAt (by rw [hb]; rfl) rfl 0

theorem bank_write_ioconBank1 (chip : RegFile) :
    bank (Mcp23017Chip.write chip [mcp23017RegIoconBank1, 0x00]) = false := by
  rw [write_ioconBank1]
  -- with `BANK = 0` the write goes to `GPINTENB`, which does not hold the bit
  cases hb : bank chip with
  | false =>
      rw [if_neg (by simp), bank_update (by simp), hb]
  | true =>
      rw [if_pos rfl, bank_update_iocon_zero]

theorem unbanked_eq (chip : RegFile) :
    unbanked chip =
      Function.update (Mcp23017Chip.write chip [mcp23017RegIoconBank1, 0x00]) .iocon 0 :=
  write_of_regAt (by rw [bank_write_ioconBank1]; rfl) rfl 0

/-- Step A leaves the chip in the `BANK = 0` layout, whatever it was in. -/
theorem bank_unbanked (chip : RegFile) : bank (unbanked chip) = false := by
  rw [unbanked_eq, bank_update_iocon_zero]

/-- Step A changes `IOCON` and at most one register more. -/
theorem unbanked_apply (chip : RegFile) {reg : Reg} (hiocon : reg ≠ .iocon)
    (hgpinten : reg ≠ .gpinten .b) :
    Mcp23017Chip.write chip [mcp23017RegIoconBank1, 0x00] reg = chip reg ∧
      unbanked chip reg = chip reg := by
  have hfirst : Mcp23017Chip.write chip [mcp23017RegIoconBank1, 0x00] reg = chip reg := by
    rw [write_ioconBank1]
    split <;> simp [hiocon, hgpinten]
  rw [unbanked_eq, Function.update_of_ne hiocon]
  exact ⟨hfirst, hfirst⟩

/-- Steps B to D as register updates. -/
def initUpdates (config : Mcp23017Config Nat) : List (Reg × UInt8) :=
  [(.iodir .a, config.dirA), (.iodir .b, config.dirB),
    (.gppu .a, config.pullupA), (.gppu .b, config.pullupB),
    (.olat .a, mcp23017DefaultOlat), (.olat .b, mcp23017DefaultOlat)]

theorem initUpdates_plain (config : Mcp23017Config Nat) :
    List.Forall₂ (fun w u => Plain w.1 u.1 ∧ w.2 = u.2) ((mcp23017InitSequence config).drop 2)
      (initUpdates config) := by
  simp only [mcp23017InitSequence, initUpdates, List.drop_succ_cons, List.drop_zero,
    List.forall₂_cons, List.forall₂_nil_left_iff, and_true]
  exact ⟨plain_iodir.1, plain_iodir.2, plain_gppu.1, plain_gppu.2, plain_olat.1, plain_olat.2⟩

/-- The register file after the first `n + 2` writes. -/
theorem writeAll_initSequence_take (chip : RegFile) (config : Mcp23017Config Nat) (n : Nat) :
    writeAll chip ((mcp23017InitSequence config).take (n + 2)) =
        updateAll (unbanked chip) ((initUpdates config).take n) ∧
      bank (updateAll (unbanked chip) ((initUpdates config).take n)) = false := by
  have hsplit : writeAll chip ((mcp23017InitSequence config).take (n + 2)) =
      writeAll (unbanked chip) (((mcp23017InitSequence config).drop 2).take n) := rfl
  rw [hsplit]
  exact writeAll_eq_updateAll (bank_unbanked chip)
    (List.forall₂_take n (initUpdates_plain config))

theorem writeAll_initSequence (chip : RegFile) (config : Mcp23017Config Nat) :
    writeAll chip (mcp23017InitSequence config) =
        updateAll (unbanked chip) (initUpdates config) ∧
      bank (updateAll (unbanked chip) (initUpdates config)) = false :=
  writeAll_initSequence_take chip config 6

/-- The register file a completed `init` leaves. -/
def configured (config : Mcp23017Config Nat) (chip : RegFile) : RegFile :=
  updateAll (unbanked chip) (initUpdates config)

theorem bank_configured (config : Mcp23017Config Nat) (chip : RegFile) :
    bank (configured config chip) = false :=
  (writeAll_initSequence chip config).2

/-! ## The operation -/

/-- The chip a configuration selects. -/
def Mcp23017Config.slot (config : Mcp23017Config Nat) : Slot :=
  (config.bus.getD 0, config.address)

/-- The driver and the bus once the device is registered. -/
def deviceAdded (config : Mcp23017Config Nat) (w : ChipWorld) : ChipWorld :=
  ⟨{ w.dev.transferConfig config with devHandle := some config.slot },
    { w.bus with
      traffic := w.bus.traffic ++ [⟨config.slot, .addDevice, espOk, w.bus.chips⟩] }⟩

@[simp] theorem deviceAdded_chips (config : Mcp23017Config Nat) (w : ChipWorld) :
    (deviceAdded config w).bus.chips = w.bus.chips := rfl

@[simp] theorem deviceAdded_answers (config : Mcp23017Config Nat) (w : ChipWorld) :
    (deviceAdded config w).bus.answers = w.bus.answers := rfl

@[simp] theorem deviceAdded_xfers (config : Mcp23017Config Nat) (w : ChipWorld) :
    (deviceAdded config w).bus.xfers = w.bus.xfers := rfl

/-- The driver and the bus when the device could not be registered. -/
def deviceRefused (config : Mcp23017Config Nat) (w : ChipWorld) : ChipWorld :=
  ⟨w.dev.transferConfig config,
    { w.bus with
      traffic := w.bus.traffic ++
        [⟨config.slot, .addDevice, w.bus.answers.addDevice, w.bus.chips⟩] }⟩

section Init

variable {config : Mcp23017Config Nat} {w : ChipWorld}

theorem Mcp23017Config.Valid.bus_eq (hvalid : config.Valid) : config.bus = some config.slot.1 := by
  rcases Option.ne_none_iff_exists'.1 hvalid.1 with ⟨bus, hbus⟩
  simp [slot, hbus]

theorem deviceAdded_attached (hvalid : config.Valid) :
    (deviceAdded config w).dev.Attached config.slot :=
  ⟨hvalid.bus_eq, rfl, rfl⟩

theorem init_rejected {dev : Option Unit} {config : Option (Mcp23017Config Nat)}
    (h : ¬(dev = some () ∧ ∃ c, config = some c ∧ c.Valid)) :
    ∃ err, err ≠ espOk ∧ mcp23017Init chipApi dev config w = (err, w) :=
  ⟨_, espErrInvalidArg_ne_ok, init_turnedAway h⟩

theorem Mcp23017Config.Valid.range (hvalid : config.Valid) :
    ¬(config.address < mcp23017AddrBase ∨ mcp23017AddrMax < config.address) := by
  rintro (hlow | hhigh)
  · exact UInt8.not_lt.2 hvalid.2.1 hlow
  · exact UInt8.not_lt.2 hvalid.2.2 hhigh

/-- When the bus refuses the device, no register is written. -/
theorem init_refused (hvalid : config.Valid) (hadd : w.bus.answers.addDevice ≠ espOk) :
    mcp23017Init chipApi (some ()) (some config) w =
      (w.bus.answers.addDevice, deviceRefused config w) := by
  have hbus := hvalid.bus_eq
  simp only [mcp23017Init, if_neg hvalid.range, chipApi, ChipBus.addDevice, hbus,
    if_neg hadd, if_pos hadd]
  rfl

/-- When the bus accepts the device, the eight writes follow. -/
theorem init_granted (hvalid : config.Valid) (hadd : w.bus.answers.addDevice = espOk) :
    mcp23017Init chipApi (some ()) (some config) w =
      (let r := mcp23017WriteRegs chipApi (mcp23017InitSequence config) (deviceAdded config w)
       if r.1 ≠ espOk then r else (espOk, ⟨r.2.dev.synchronize config, r.2.bus⟩)) := by
  have hbus := hvalid.bus_eq
  simp only [mcp23017Init, if_neg hvalid.range, chipApi, ChipBus.addDevice, hbus,
    hadd, ne_eq, not_true_eq_false, if_true, if_false]
  rfl

/-- When all eight writes succeed, the driver is ready and its chip configured. -/
theorem init_completed (hvalid : config.Valid) (hadd : w.bus.answers.addDevice = espOk)
    (hret : (mcp23017WriteRegs chipApi (mcp23017InitSequence config) (deviceAdded config w)).1 =
      espOk) :
    ∃ bus, mcp23017Init chipApi (some ()) (some config) w =
        (espOk, ⟨(deviceAdded config w).dev.synchronize config, bus⟩) ∧
      bus.chips =
        Function.update w.bus.chips config.slot (configured config (w.bus.chips config.slot)) := by
  have hat := @deviceAdded_attached config w hvalid
  rcases writeRegs_spec hat (mcp23017InitSequence config) with ⟨hdev, hchips⟩
  refine ⟨_, ?_, (hchips hret).trans ?_⟩
  · rw [init_granted hvalid hadd]
    simp only [hret, ne_eq, not_true_eq_false, if_false, hdev]
  · rw [deviceAdded_chips, (writeAll_initSequence _ config).1]
    rfl

theorem init_bus_of_granted (hvalid : config.Valid) (hadd : w.bus.answers.addDevice = espOk) :
    (mcp23017Init chipApi (some ()) (some config) w).2.bus =
      (mcp23017WriteRegs chipApi (mcp23017InitSequence config) (deviceAdded config w)).2.bus := by
  rw [init_granted hvalid hadd]
  dsimp only
  split <;> rfl

end Init

/-! ## Pins driven during init -/

def Mcp23017Config.dir (config : Mcp23017Config Nat) : Port → UInt8
  | .a => config.dirA
  | .b => config.dirB

/-- How many writes of the sequence have been made when the direction of a port is set. -/
def dirWritten : Port → Nat
  | .a => 3
  | .b => 4

/-- How many have been made when its latch is cleared. -/
def latchWritten : Port → Nat
  | .a => 7
  | .b => 8

/-- No pin is driven high in `after` that was not in `before`. -/
def NoNewDrive (before after : RegFile) : Prop :=
  ∀ port i, DrivenHigh after port i → DrivenHigh before port i

/-- Every pin of the port that the configuration makes an output was one already or has its latch
clear. -/
def OutputsPrepared (before : RegFile) (config : Mcp23017Config Nat) (port : Port) : Prop :=
  ∀ i, Bits.bit (config.dir port) i = false → Bits.bit (before (.olat port)) i = true →
    Bits.bit (before (.iodir port)) i = false

section Drive

variable (chip : RegFile) (config : Mcp23017Config Nat)

/-- Direction and latch of a port after the first `n` writes. -/
theorem writeAll_iodir_olat (port : Port) {n : Nat} (hn : n ≤ 8) :
    writeAll chip ((mcp23017InitSequence config).take n) (.iodir port) =
        (if dirWritten port ≤ n then config.dir port else chip (.iodir port)) ∧
      writeAll chip ((mcp23017InitSequence config).take n) (.olat port) =
        (if latchWritten port ≤ n then mcp23017DefaultOlat else chip (.olat port)) := by
  have hiodir := fun p => @unbanked_apply chip (.iodir p) (by simp) (by simp)
  have holat := fun p => @unbanked_apply chip (.olat p) (by simp) (by simp)
  -- the first two writes do not reach either register, whatever the layout
  match n with
  | 0 =>
      cases port <;> exact ⟨rfl, rfl⟩
  | 1 =>
      cases port <;> exact ⟨(hiodir _).1, (holat _).1⟩
  | k + 2 =>
      have hk : k ≤ 6 := by omega
      rw [(writeAll_initSequence_take chip config k).1]
      interval_cases k <;> cases port <;>
        simp [updateAll, initUpdates, dirWritten, latchWritten, Mcp23017Config.dir, hiodir,
          holat]

/-- The port gets a new driven pin between its direction and its latch write, if at all. -/
theorem noNewDrive_port_iff (port : Port) {n : Nat} (hn : n ≤ 8) :
    (∀ i, DrivenHigh (writeAll chip ((mcp23017InitSequence config).take n)) port i →
        DrivenHigh chip port i) ↔
      (dirWritten port ≤ n → n < latchWritten port → OutputsPrepared chip config port) := by
  rcases writeAll_iodir_olat chip config port hn with ⟨hiodir, holat⟩
  simp only [DrivenHigh, hiodir, holat, OutputsPrepared]
  by_cases hlatch : latchWritten port ≤ n
  · -- the latch is clear already, so nothing is driven
    simp [hlatch, Nat.not_lt.2 hlatch, mcp23017DefaultOlat]
  by_cases hdir : dirWritten port ≤ n
  · -- in between, the new outputs show the old latches
    simp only [hlatch, hdir, if_true, if_false, Nat.lt_of_not_le hlatch, true_implies]
    constructor
    · intro h i hout hset
      exact (h i ⟨hout, hset⟩).1
    · rintro h i ⟨hout, hset⟩
      exact ⟨h i hout hset, hset⟩
  · simp [hlatch, hdir]

/-- Over all prefixes of the sequence that succeed, the first state with the new directions of a
port decides. -/
theorem noNewDrive_prefixes_iff (ok : Nat → Prop) :
    (∀ n ≤ 8, (∀ i < n, ok i) →
        NoNewDrive chip (writeAll chip ((mcp23017InitSequence config).take n))) ↔
      ∀ port, (∀ i < dirWritten port, ok i) → OutputsPrepared chip config port := by
  have hbound : ∀ port, dirWritten port ≤ 8 ∧ dirWritten port < latchWritten port := by
    intro port
    cases port <;> decide
  constructor
  · -- the prefix that ends with the direction write is the one to look at
    intro h port hok
    have hport := h (dirWritten port) (hbound port).1 hok port
    exact (noNewDrive_port_iff chip config port (hbound port).1).1 hport le_rfl (hbound port).2
  · intro h n hn hok port
    refine (noNewDrive_port_iff chip config port hn).2 fun hdir _ => ?_
    exact h port fun i hi => hok i (Nat.lt_of_lt_of_le hi hdir)

end Drive

/-- For every register file `init` can find and every pattern of answers: no state of the chip during
`init`, nor the one it is left in, drives a pin high that was not driven high before, exactly if, for
either port whose direction write is reached, each pin configured as an output was one already or
has its latch clear. -/
theorem init_drives_no_pin_iff (w : ChipWorld) (config : Mcp23017Config Nat)
    (hvalid : config.Valid) (answers : Answers) :
    (let after := (mcp23017Init chipApi (some ()) (some config) ⟨w.dev, w.bus.arm answers⟩).2.bus
     (∀ t ∈ after.traffic, NoNewDrive (w.bus.chips config.slot) (t.chips config.slot)) ∧
       NoNewDrive (w.bus.chips config.slot) (after.chips config.slot)) ↔
      (answers.addDevice = espOk → ∀ port, (∀ i < dirWritten port, answers.xfer i = espOk) →
        OutputsPrepared (w.bus.chips config.slot) config port) := by
  dsimp only
  have hrefl : NoNewDrive (w.bus.chips config.slot) (w.bus.chips config.slot) := fun _ _ h => h
  by_cases hadd : answers.addDevice = espOk
  · -- the states of the chip are those after the prefixes of the sequence that succeed
    have hat := @deviceAdded_attached config ⟨w.dev, w.bus.arm answers⟩ hvalid
    have hafter := init_bus_of_granted (w := ⟨w.dev, w.bus.arm answers⟩) hvalid hadd
    have hstates := @writeRegs_traffic_iff _ _ (NoNewDrive (w.bus.chips config.slot)) hat
      (mcp23017InitSequence config)
    have hprefixes := noNewDrive_prefixes_iff (w.bus.chips config.slot) config
      fun i => answers.xfer i = espOk
    rcases writeRegs_chip hat (mcp23017InitSequence config) with ⟨n, hn, hok, hfinal⟩
    have hstart : ∀ t ∈ (deviceAdded config ⟨w.dev, w.bus.arm answers⟩).bus.traffic,
        NoNewDrive (w.bus.chips config.slot) (t.chips config.slot) := by
      intro t ht
      have ht' := List.mem_singleton.1 ht
      exact ht' ▸ hrefl
    simp only [deviceAdded_chips, deviceAdded_answers, deviceAdded_xfers, ChipBus.arm_chips,
      ChipBus.arm_answers, ChipBus.arm_xfers, Nat.zero_add] at hstates hok hfinal
    rw [hafter, hfinal]
    have hmain := hstates.trans ⟨fun h => h.2, fun h => ⟨hstart, h⟩⟩
    rw [and_iff_left hrefl] at hmain
    rw [hmain]
    constructor
    · rintro ⟨hall, _⟩ _
      exact hprefixes.1 hall
    · intro h
      have hall := hprefixes.2 (h hadd)
      exact ⟨hall, hall n hn hok⟩
  · -- without the device there is no write at all
    have hafter := init_refused (w := ⟨w.dev, w.bus.arm answers⟩) hvalid hadd
    rw [hafter]
    simp [deviceRefused, ChipBus.arm, hadd, hrefl]

/-- A chip at power-on defaults but for one latch: pin A0 is an input with its latch set. -/
def latchedInput : RegFile
  | .iodir _ => 0xFF
  | .olat .a => 0x01
  | _ => 0x00

/-- Pin A0 becomes an output. -/
def latchedConfig : Mcp23017Config Nat :=
  ⟨some 0, 0x20, 400000, 0xFE, 0xFF, 0, 0⟩

/-- Every transfer before the `n`-th succeeds and every one from it on fails. -/
def failFrom (n : Nat) : Answers :=
  ⟨espOk, fun k => if k < n then espOk else espFail, fun _ _ => 0⟩

def latchedWorld (answers : Answers) : ChipWorld :=
  ⟨Mcp23017.zero, fun _ => latchedInput, answers, 0, []⟩

/-- Pin A0 is driven high after the third write; if the seventh write, the one that would clear the
latch, fails, `init` returns an error and leaves the pin driven. -/
theorem init_leaves_pin_driven :
    (let r := mcp23017Init chipApi (some ()) (some latchedConfig) (latchedWorld (failFrom 6))
     r.1 = espFail ∧ ¬ DrivenHigh latchedInput .a 0 ∧
       DrivenHigh (r.2.bus.chips latchedConfig.slot) .a 0) ∧
      (let r := mcp23017Init chipApi (some ()) (some latchedConfig) (latchedWorld (failFrom 8))
       r.1 = espOk ∧ ∃ t ∈ r.2.bus.traffic, DrivenHigh (t.chips latchedConfig.slot) .a 0) := by
  decide

/-- With all pins left inputs nothing is driven, whatever the latches hold. -/
theorem init_drives_no_pin_iff_inputs :
    (let config : Mcp23017Config Nat := { latchedConfig with dirA := 0xFF }
     let after := (mcp23017Init chipApi (some ()) (some config)
       ⟨Mcp23017.zero, (latchedWorld (failFrom 8)).bus.arm (failFrom 8)⟩).2.bus
     (∀ t ∈ after.traffic, NoNewDrive latchedInput (t.chips config.slot)) ∧
       NoNewDrive latchedInput (after.chips config.slot)) := by
  refine (init_drives_no_pin_iff (latchedWorld (failFrom 8))
    { latchedConfig with dirA := 0xFF } (by decide) (failFrom 8)).2 fun _ port _ => ?_
  cases port <;> unfold OutputsPrepared <;> decide

end MainboardFirmware
