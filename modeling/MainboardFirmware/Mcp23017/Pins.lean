import MainboardFirmware.Mcp23017.Shadow

/-!
# Pins — the driver refines sixteen independent pins

What the driver is for, in its own terms: each pin of an expander has a direction, a latch and a
pull-up, a port operation sets one of the three for the eight pins of a port, a pin operation for one
pin. As long as the bus transfers succeed, the registers of the chips are these pins, whatever the
chips held before the first `init` and in whichever layout they held it.
-/

namespace MainboardFirmware

open Mcp23017Chip Machine

/-! ## The abstract expander -/

structure Pin where
  input : Bool
  latch : Bool
  pullup : Bool
  deriving DecidableEq, Repr

/-- The sixteen pins of a chip. -/
abbrev Pins := Port → Fin 8 → Pin

namespace Pins

/-- Change all pins of one port. -/
def setPort (pins : Pins) (port : Port) (change : Fin 8 → Pin → Pin) : Pins :=
  fun p i => if p = port then change i (pins p i) else pins p i

/-- Change one pin. -/
def setPin (pins : Pins) (port : Port) (pin : UInt8) (change : Pin → Pin) : Pins :=
  fun p i => if p = port ∧ i.val = pin.toNat then change (pins p i) else pins p i

end Pins

/-- All chips on the buses, and the one the driver is ready for. -/
structure Expander where
  ready : Option Slot
  pins : Slot → Pins

/-- Change the pins of the chip the driver is ready for, if it is. -/
def Expander.onReady (s : Expander) (change : Pins → Pins) : Expander :=
  match s.ready with
  | some slot => ⟨s.ready, Function.update s.pins slot (change (s.pins slot))⟩
  | none => s

/-- The pins of a chip after `init`: as configured, all latches low. -/
def Mcp23017Config.pins (config : Mcp23017Config Nat) : Pins
  | .a => fun i => ⟨Bits.bit config.dirA i, false, Bits.bit config.pullupA i⟩
  | .b => fun i => ⟨Bits.bit config.dirB i, false, Bits.bit config.pullupB i⟩

/-- What an operation other than `init` and `deinit` does to the pins. -/
def Mcp23017Call.change : Mcp23017Call Nat → Pins → Pins
  | .setPortDirection _ port dirMask, pins =>
      pins.setPort (sideOf port) fun i pin => { pin with input := Bits.bit dirMask i }
  | .writePort _ port value, pins =>
      pins.setPort (sideOf port) fun i pin => { pin with latch := Bits.bit value i }
  | .setPortPullup _ port pullupMask, pins =>
      pins.setPort (sideOf port) fun i pin => { pin with pullup := Bits.bit pullupMask i }
  | .setPinDirection _ port pin direction, pins =>
      pins.setPin (sideOf port) pin fun pin => { pin with input := direction == mcp23017DirInput }
  | .writePin _ port pin value, pins =>
      pins.setPin (sideOf port) pin fun pin => { pin with latch := value }
  | .togglePin _ port pin, pins =>
      pins.setPin (sideOf port) pin fun pin => { pin with latch := !pin.latch }
  | _, pins => pins

/-- One call on the abstract expander. Whether the bus has room for the device is up to the bus. -/
def expanderStep (s : Expander) (m : ChipMove) : Expander :=
  if m.call.ArgsOk then
    match m.call with
    | .init _ (some config) =>
        if m.answers.addDevice = espOk then
          ⟨some config.slot, Function.update s.pins config.slot config.pins⟩
        else ⟨none, s.pins⟩
    | .init _ none => s
    | .deinit _ => ⟨none, s.pins⟩
    | call => s.onReady call.change
  else s

/-! ## Abstraction -/

/-- The pins a register file holds. -/
def absPins (chip : RegFile) : Pins :=
  fun port i => ⟨Bits.bit (chip (.iodir port)) i, Bits.bit (chip (.olat port)) i,
    Bits.bit (chip (.gppu port)) i⟩

def absExpander (w : ChipWorld) : Expander :=
  ⟨if w.dev.isInitialized = true then some w.dev.home else none,
    fun slot => absPins (w.bus.chips slot)⟩

theorem absPins_configured (config : Mcp23017Config Nat) (chip : RegFile) :
    absPins (configured config chip) = config.pins := by
  funext port i
  cases port <;>
    simp [absPins, configured, updateAll, initUpdates, Mcp23017Config.pins, mcp23017DefaultOlat]

/-! ## Register writes as pin changes -/

section Registers

variable (chip : RegFile) (side : Port) (value : UInt8)

theorem absPins_update_iodir :
    absPins (Function.update chip (.iodir side) value) =
      (absPins chip).setPort side fun i pin => { pin with input := Bits.bit value i } := by
  funext port i
  by_cases hport : port = side <;> simp [absPins, Pins.setPort, hport]

theorem absPins_update_olat :
    absPins (Function.update chip (.olat side) value) =
      (absPins chip).setPort side fun i pin => { pin with latch := Bits.bit value i } := by
  funext port i
  by_cases hport : port = side <;> simp [absPins, Pins.setPort, hport]

theorem absPins_update_gppu :
    absPins (Function.update chip (.gppu side) value) =
      (absPins chip).setPort side fun i pin => { pin with pullup := Bits.bit value i } := by
  funext port i
  by_cases hport : port = side <;> simp [absPins, Pins.setPort, hport]

theorem absPins_update_ipol :
    absPins (Function.update chip (.ipol side) value) = absPins chip := by
  funext port i
  simp [absPins]

end Registers

/-- A byte with one bit updated, as a change of one pin. -/
theorem setPort_update_eq_setPin (pins : Pins) (side : Port) {pin : UInt8}
    (hpin : pin ≤ mcp23017PinMax) {byte : Fin 8 → Bool} {bit : Bool} (put : Bool → Pin → Pin)
    {change : Pin → Pin}
    (hkeep : ∀ i, put (byte i) (pins side i) = pins side i)
    (hchange : put bit (pins side (Bits.index pin hpin)) = change (pins side (Bits.index pin hpin))) :
    (pins.setPort side fun i p => put (Function.update byte (Bits.index pin hpin) bit i) p) =
      pins.setPin side pin change := by
  funext port i
  by_cases hport : port = side
  · subst hport
    by_cases hi : i = Bits.index pin hpin
    · -- the pin that is meant
      subst hi
      simpa [Pins.setPort, Pins.setPin, Bits.index] using hchange
    · have hval : i.val ≠ pin.toNat := fun h => hi (Fin.ext h)
      simp [Pins.setPort, Pins.setPin, hi, hval, hkeep]
  · simp [Pins.setPort, Pins.setPin, hport]

section PinBits

variable (chip : RegFile) (side : Port) {pin : UInt8} (hpin : pin ≤ mcp23017PinMax)

theorem absPins_modify_iodir {byte : UInt8} {value : Bool} {change : Pin → Pin}
    (hbyte : Bits.bit byte =
      Function.update (Bits.bit (chip (.iodir side))) (Bits.index pin hpin) value)
    (hchange : ∀ p : Pin, p.input = Bits.bit (chip (.iodir side)) (Bits.index pin hpin) →
      { p with input := value } = change p) :
    absPins (Function.update chip (.iodir side) byte) =
      (absPins chip).setPin side pin change := by
  rw [absPins_update_iodir, hbyte]
  exact setPort_update_eq_setPin (absPins chip) side hpin (fun b p => { p with input := b })
    (fun _ => rfl) (hchange _ rfl)

theorem absPins_modify_olat {byte : UInt8} {value : Bool} {change : Pin → Pin}
    (hbyte : Bits.bit byte =
      Function.update (Bits.bit (chip (.olat side))) (Bits.index pin hpin) value)
    (hchange : ∀ p : Pin, p.latch = Bits.bit (chip (.olat side)) (Bits.index pin hpin) →
      { p with latch := value } = change p) :
    absPins (Function.update chip (.olat side) byte) =
      (absPins chip).setPin side pin change := by
  rw [absPins_update_olat, hbyte]
  exact setPort_update_eq_setPin (absPins chip) side hpin (fun b p => { p with latch := b })
    (fun _ => rfl) (hchange _ rfl)

include hpin in
theorem absPins_flip_olat :
    absPins (Function.update chip (.olat side) (Bits.flipBit (chip (.olat side)) pin)) =
      (absPins chip).setPin side pin fun p => { p with latch := !p.latch } :=
  absPins_modify_olat chip side hpin (Bits.bit_flipBit _ pin hpin) fun p hlatch => by
    rw [hlatch]

end PinBits

/-! ## One call -/

section Rejected

variable {w : ChipWorld} {dev : Option Unit} {port : UInt32} {pin : UInt8}

theorem writePortReg_rejected_args (regA regB : UInt8)
    (store : Mcp23017 Nat Slot → UInt32 → UInt8 → Mcp23017 Nat Slot) (value : UInt8)
    (hargs : ¬(dev = some () ∧ PortOk port)) :
    (writePortReg chipApi regA regB store dev port value w).2 = w := by
  have hacc : ¬(mcp23017IsReady dev w = true ∧ PortOk port) := by
    rintro ⟨hready, hport⟩
    exact hargs ⟨(mcp23017IsReady_iff.1 hready).1, hport⟩
  rcases writePortReg_rejected regA regB store value hacc with ⟨err, _, heq⟩
  rw [heq]

theorem modifyPin_rejected_args (kind : Mcp23017Shadow) (regA regB : UInt8) (argOk : Bool)
    (modify : UInt8 → UInt8)
    (hargs : ¬(dev = some () ∧ PortOk port ∧ pin ≤ mcp23017PinMax ∧ argOk = true)) :
    (modifyPin chipApi kind regA regB argOk modify dev port pin w).2 = w := by
  have hacc : ¬(mcp23017IsReady dev w = true ∧ PortOk port ∧ pin ≤ mcp23017PinMax ∧
      argOk = true) := by
    rintro ⟨hready, hrest⟩
    exact hargs ⟨(mcp23017IsReady_iff.1 hready).1, hrest⟩
  rcases modifyPin_rejected kind regA regB argOk modify hacc with ⟨err, _, heq⟩
  rw [heq]

end Rejected

/-- A call rejected for its arguments does nothing at all. -/
theorem chipStep_rejected {w : ChipWorld} {m : ChipMove} (hargs : ¬ m.call.ArgsOk) :
    chipStep w m = armed w m := by
  rcases m with ⟨call, answers⟩
  cases call with
  | init dev config =>
      rcases @init_rejected (armed w ⟨.init dev config, answers⟩) dev config hargs with ⟨err, _, heq⟩
      exact congrArg Prod.snd heq
  | deinit dev =>
      cases dev with
      | none =>
          rfl
      | some u =>
          exact absurd rfl hargs
  | setPortDirection dev port dirMask =>
      exact writePortReg_rejected_args mcp23017RegIodira mcp23017RegIodirb
        (fun dev => dev.setShadow .dir) dirMask hargs
  | writePort dev port value =>
      exact writePortReg_rejected_args mcp23017RegOlata mcp23017RegOlatb
        (fun dev => dev.setShadow .olat) value hargs
  | readPort dev port out =>
      have hacc : ¬(mcp23017IsReady dev (armed w ⟨.readPort dev port out, answers⟩) = true ∧
          PortOk port ∧ out ≠ none) := by
        rintro ⟨hready, hrest⟩
        exact hargs ⟨(mcp23017IsReady_iff.1 hready).1, hrest⟩
      rcases readPort_rejected hacc with ⟨err, _, heq⟩
      exact congrArg (fun r => r.2.2) heq
  | setPortPullup dev port pullupMask =>
      exact writePortReg_rejected_args mcp23017RegGppua mcp23017RegGppub (fun dev _ _ => dev)
        pullupMask hargs
  | setPortPolarity dev port polarityMask =>
      exact writePortReg_rejected_args mcp23017RegIpola mcp23017RegIpolb (fun dev _ _ => dev)
        polarityMask hargs
  | setPinDirection dev port pin direction =>
      exact modifyPin_rejected_args .dir mcp23017RegIodira mcp23017RegIodirb
        (direction == mcp23017DirInput || direction == mcp23017DirOutput)
        (fun b => Bits.writeBit b pin (direction == mcp23017DirInput))
        (by simpa [Mcp23017Call.ArgsOk] using hargs)
  | writePin dev port pin value =>
      exact modifyPin_rejected_args .olat mcp23017RegOlata mcp23017RegOlatb true
        (fun b => Bits.writeBit b pin value) (by simpa [Mcp23017Call.ArgsOk] using hargs)
  | readPin dev port pin out =>
      have hacc : ¬(mcp23017IsReady dev (armed w ⟨.readPin dev port pin out, answers⟩) = true ∧
          PortOk port ∧ pin ≤ mcp23017PinMax ∧ out ≠ none) := by
        rintro ⟨hready, hrest⟩
        exact hargs ⟨(mcp23017IsReady_iff.1 hready).1, hrest⟩
      rcases readPin_rejected hacc with ⟨err, _, heq⟩
      exact congrArg (fun r => r.2.2) heq
  | togglePin dev port pin =>
      exact modifyPin_rejected_args .olat mcp23017RegOlata mcp23017RegOlatb true
        (fun b => Bits.flipBit b pin) (by simpa [Mcp23017Call.ArgsOk] using hargs)

section Refines

variable {w : ChipWorld} {dev : Option Unit} {port : UInt32} {pin : UInt8} {change : Pins → Pins}

/-- A driver that is not ready leaves the abstract expander alone. -/
theorem onReady_of_not_ready (h : w.dev.isInitialized = false) :
    (absExpander w).onReady change = absExpander w := by
  simp [absExpander, Expander.onReady, h]

/-- A successful write of one register is the change of the pins it stands for. -/
theorem absExpander_of_written {slot : Slot} {ctx : Mcp23017 Nat Slot} {addr value : UInt8}
    {reg : Reg} (hat : w.dev.Attached slot) (hready : w.dev.isInitialized = true)
    (hat' : ctx.Attached slot) (hready' : ctx.isInitialized = true)
    (hb : bank (w.bus.chips slot) = false) (hplain : Plain addr reg) (hok : w.bus.answer = espOk)
    (hchange : absPins (Function.update (w.bus.chips slot) reg value) =
      change (absPins (w.bus.chips slot))) :
    absExpander ⟨ctx, w.bus.afterWrite slot [addr, value]⟩ = (absExpander w).onReady change := by
  simp only [absExpander, Expander.onReady, hready, hready', if_true, hat.home_eq, hat'.home_eq,
    ← hchange, ChipBus.afterWrite, hok, write_plain hb hplain, Expander.mk.injEq, true_and]
  -- the chips of the other slots are not touched
  funext other
  by_cases hother : other = slot
  · subst hother
    simp
  · simp [hother]

theorem writePortReg_refines (regA regB : UInt8) (reg : Port → Reg)
    (store : Mcp23017 Nat Slot → UInt32 → UInt8 → Mcp23017 Nat Slot) {value : UInt8}
    (hinv : DriverInv w) (hok : w.bus.answer = espOk) (hplain : Plain regA (reg .a) ∧ Plain regB (reg .b))
    (hstore : Mirrors store port value (reg (sideOf port)))
    (hready : ∀ dev, (store dev port value).isInitialized = dev.isInitialized)
    (hchange : ∀ chip, absPins (Function.update chip (reg (sideOf port)) value) =
      change (absPins chip)) (hargs : dev = some () ∧ PortOk port) :
    absExpander (writePortReg chipApi regA regB store dev port value w).2 =
      (absExpander w).onReady change := by
  rcases hargs with ⟨rfl, hport⟩
  cases hinit : w.dev.isInitialized with
  | false =>
      have hacc : ¬(mcp23017IsReady (some ()) w = true ∧ PortOk port) := by
        simp [mcp23017IsReady_iff, hinit]
      rcases writePortReg_rejected regA regB store value hacc with ⟨err, _, heq⟩
      rw [heq, onReady_of_not_ready hinit]
  | true =>
      rcases hinv hinit with ⟨slot, hat, hb, hmatch⟩
      rcases hstore w.dev slot _ hat hmatch with ⟨hat', _⟩
      have hacc := mcp23017IsReady_iff.2 ⟨rfl, hinit⟩
      rw [writePortReg_accepted regA regB store value hat hacc hport]
      simp only [hok, if_true]
      exact absExpander_of_written hat hinit hat' ((hready w.dev).trans hinit) hb
        (plain_ofPort hplain.1 hplain.2 port) hok (hchange _)

theorem modifyPin_refines (kind : Mcp23017Shadow) (regA regB : UInt8) (argOk : Bool)
    (modify : UInt8 → UInt8) (hinv : DriverInv w) (hok : w.bus.answer = espOk)
    (hplain : Plain regA (kind.reg .a) ∧ Plain regB (kind.reg .b))
    (hchange : ∀ chip, absPins (Function.update chip (kind.reg (sideOf port))
      (modify (chip (kind.reg (sideOf port))))) = change (absPins chip))
    (hargs : dev = some () ∧ PortOk port ∧ pin ≤ mcp23017PinMax ∧ argOk = true) :
    absExpander (modifyPin chipApi kind regA regB argOk modify dev port pin w).2 =
      (absExpander w).onReady change := by
  rcases hargs with ⟨rfl, hport, hpin, harg⟩
  cases hinit : w.dev.isInitialized with
  | false =>
      have hacc : ¬(mcp23017IsReady (some ()) w = true ∧ PortOk port ∧ pin ≤ mcp23017PinMax ∧
          argOk = true) := by
        simp [mcp23017IsReady_iff, hinit]
      rcases modifyPin_rejected kind regA regB argOk modify hacc with ⟨err, _, heq⟩
      rw [heq, onReady_of_not_ready hinit]
  | true =>
      rcases hinv hinit with ⟨slot, hat, hb, hmatch⟩
      have hacc := mcp23017IsReady_iff.2 ⟨rfl, hinit⟩
      -- the byte modified is the register's, because the shadow mirrors it
      have hbyte : w.dev.shadow kind port = w.bus.chips slot (kind.reg (sideOf port)) := by
        rw [Mcp23017.shadow_eq, shadowsMatch_iff.1 hmatch]
      have hat' := Mcp23017.setShadow_attached kind port (modify (w.dev.shadow kind port)) hat
      have hready' := (w.dev.setShadow_fields kind port (modify (w.dev.shadow kind port))).2.2.2
      rw [modifyPin_accepted kind regA regB argOk modify hat hacc hport hpin harg]
      refine absExpander_of_written hat hinit hat' (hready'.trans hinit) hb
        (plain_ofPort hplain.1 hplain.2 port) hok ?_
      rw [hbyte]
      exact hchange _

theorem Expander.onReady_id (s : Expander) : s.onReady id = s := by
  rcases s with ⟨ready, pins⟩
  cases ready with
  | none =>
      rfl
  | some slot =>
      simp [Expander.onReady]

/-- The same context and the same chips are the same expander. -/
theorem absExpander_congr {w' : ChipWorld} (h : w'.dev = w.dev ∧ w'.bus.chips = w.bus.chips) :
    absExpander w' = absExpander w := by
  rw [absExpander, absExpander, h.1, h.2]

/-- A completed `init` selects the chip and sets its pins as configured. -/
theorem absExpander_init_completed {config : Mcp23017Config Nat} (hvalid : config.Valid)
    (hadd : w.bus.answers.addDevice = espOk)
    (hret : (mcp23017WriteRegs chipApi (mcp23017InitSequence config) (deviceAdded config w)).1 =
      espOk) :
    absExpander (mcp23017Init chipApi (some ()) (some config) w).2 =
      ⟨some config.slot, Function.update (absExpander w).pins config.slot config.pins⟩ := by
  have hat : ((deviceAdded config w).dev.synchronize config).Attached config.slot :=
    ⟨hvalid.bus_eq, rfl, rfl⟩
  rcases init_completed hvalid hadd hret with ⟨bus, heq, hchips⟩
  have hready : ((deviceAdded config w).dev.synchronize config).isInitialized = true := rfl
  rw [heq]
  simp only [absExpander, hat.home_eq, hchips, hready, if_true, Expander.mk.injEq, true_and]
  funext other
  by_cases hother : other = config.slot
  · subst hother
    simp [absPins_configured]
  · simp [hother]

theorem init_refines {config : Mcp23017Config Nat} {answers : Answers} (hvalid : config.Valid)
    (hok : ∀ k, answers.xfer k = espOk) :
    absExpander (mcp23017Init chipApi (some ()) (some config) ⟨w.dev, w.bus.arm answers⟩).2 =
      if answers.addDevice = espOk then
        ⟨some config.slot, Function.update (absExpander w).pins config.slot config.pins⟩
      else ⟨none, (absExpander w).pins⟩ := by
  by_cases hadd : answers.addDevice = espOk
  · rw [if_pos hadd]
    have hret := @writeRegs_ok (deviceAdded config ⟨w.dev, w.bus.arm answers⟩) config.slot
      (deviceAdded_attached hvalid) hok (mcp23017InitSequence config)
    exact absExpander_init_completed hvalid hadd hret
  · -- the driver gave up its old chip before it asked for the new one
    rw [if_neg hadd, init_refused hvalid hadd]
    rfl

end Refines

/-- Where the transfers succeed, one call of the driver is one call of the abstract expander. -/
theorem chipStep_refines {w : ChipWorld} {m : ChipMove} (hinv : DriverInv w)
    (hok : ∀ k, m.answers.xfer k = espOk) :
    absExpander (chipStep w m) = expanderStep (absExpander w) m := by
  have hinv' : DriverInv (armed w m) := hinv
  have hans : (armed w m).bus.answer = espOk := hok 0
  by_cases hargs : m.call.ArgsOk
  · rw [expanderStep, if_pos hargs]
    rcases m with ⟨call, answers⟩
    -- a port operation stores one register, a pin operation one bit, a read nothing
    cases call with
    | init dev config =>
        rcases hargs with ⟨rfl, config, rfl, hvalid⟩
        exact init_refines hvalid hok
    | deinit dev =>
        have hdev : dev = some () := hargs
        subst hdev
        rfl
    | setPortDirection dev port dirMask =>
        exact writePortReg_refines mcp23017RegIodira mcp23017RegIodirb .iodir
          (fun dev => dev.setShadow .dir) hinv' hans plain_iodir
          (mirrors_setShadow .dir port dirMask) (fun _ => (Mcp23017.setShadow_fields _ _ _ _).2.2.2)
          (fun chip => absPins_update_iodir chip _ _) hargs
    | writePort dev port value =>
        exact writePortReg_refines mcp23017RegOlata mcp23017RegOlatb .olat
          (fun dev => dev.setShadow .olat) hinv' hans plain_olat
          (mirrors_setShadow .olat port value) (fun _ => (Mcp23017.setShadow_fields _ _ _ _).2.2.2)
          (fun chip => absPins_update_olat chip _ _) hargs
    | readPort dev port out =>
        exact (absExpander_congr (readPort_same hinv'.attached)).trans (Expander.onReady_id _).symm
    | setPortPullup dev port pullupMask =>
        exact writePortReg_refines mcp23017RegGppua mcp23017RegGppub .gppu (fun dev _ _ => dev)
          hinv' hans plain_gppu
          (mirrors_gppu port pullupMask)
          (fun _ => rfl) (fun chip => absPins_update_gppu chip _ _) hargs
    | setPortPolarity dev port polarityMask =>
        -- the abstract expander has no polarity
        have hkeep : ∀ chip : RegFile, absPins (Function.update chip (.ipol (sideOf port))
            polarityMask) = id (absPins chip) :=
          fun chip => absPins_update_ipol chip _ _
        exact writePortReg_refines mcp23017RegIpola mcp23017RegIpolb .ipol (fun dev _ _ => dev)
          hinv' hans plain_ipol
          (mirrors_ipol port polarityMask)
          (fun _ => rfl) hkeep hargs
    | setPinDirection dev port pin direction =>
        have hpin : pin ≤ mcp23017PinMax := hargs.2.2.1
        exact modifyPin_refines .dir mcp23017RegIodira mcp23017RegIodirb
          (direction == mcp23017DirInput || direction == mcp23017DirOutput)
          (fun b => Bits.writeBit b pin (direction == mcp23017DirInput)) hinv' hans
          plain_iodir
          (fun chip => absPins_modify_iodir chip _ hpin (Bits.bit_writeBit _ pin hpin _)
            fun _ _ => rfl)
          (by simpa [Mcp23017Call.ArgsOk] using hargs)
    | writePin dev port pin value =>
        have hpin : pin ≤ mcp23017PinMax := hargs.2.2
        exact modifyPin_refines .olat mcp23017RegOlata mcp23017RegOlatb true
          (fun b => Bits.writeBit b pin value) hinv' hans
          plain_olat
          (fun chip => absPins_modify_olat chip _ hpin (Bits.bit_writeBit _ pin hpin _)
            fun _ _ => rfl)
          (by simpa [Mcp23017Call.ArgsOk] using hargs)
    | readPin dev port pin out =>
        exact (absExpander_congr (readPin_same hinv'.attached)).trans (Expander.onReady_id _).symm
    | togglePin dev port pin =>
        have hpin : pin ≤ mcp23017PinMax := hargs.2.2
        exact modifyPin_refines .olat mcp23017RegOlata mcp23017RegOlatb true
          (fun b => Bits.flipBit b pin) hinv' hans
          plain_olat
          (fun chip => absPins_flip_olat chip (sideOf port) hpin)
          (by simpa [Mcp23017Call.ArgsOk] using hargs)
  · rw [chipStep_rejected hargs, expanderStep, if_neg hargs]
    rfl

/-! ## Runs -/

/-- An `init` that returns `ESP_OK` had a valid configuration, a bus with room for the device and
eight successful writes. -/
theorem init_ok_inv {w : ChipWorld} {config : Mcp23017Config Nat}
    (h : (mcp23017Init chipApi (some ()) (some config) w).1 = espOk) :
    config.Valid ∧ w.bus.answers.addDevice = espOk ∧
      (mcp23017WriteRegs chipApi (mcp23017InitSequence config) (deviceAdded config w)).1 = espOk := by
  have hvalid : config.Valid := by
    by_contra hinvalid
    have hargs : ¬(some () = some () ∧ ∃ c, some config = some c ∧ c.Valid) := by
      simpa using hinvalid
    rcases @init_rejected w (some ()) (some config) hargs with ⟨err, herr, heq⟩
    rw [heq] at h
    exact herr h
  -- each way to fail contradicts the result
  have hadd : w.bus.answers.addDevice = espOk := by
    by_contra hrefused
    rw [init_refused hvalid hrefused] at h
    exact hrefused h
  refine ⟨hvalid, hadd, ?_⟩
  by_contra hret
  rw [init_granted hvalid hadd] at h
  simp only [ne_eq, hret, not_false_eq_true, if_true] at h

/-- A call whose transfers succeed keeps the invariant. -/
theorem chipStep_driverInv {w : ChipWorld} {m : ChipMove} (hinv : DriverInv w)
    (hok : m.answers.xfer 0 = espOk) : DriverInv (chipStep w m) := by
  refine (chipStep_keepsSync w m hinv).2 fun _ _ => ?_
  split
  · exact .inl hok
  · exact .inl hok
  · exact hok
  · trivial

/-- From any register files, in either address layout, once an `init` has succeeded: over every
sequence of calls whose transfers succeed the registers of all chips are the pins of the abstract
expander after the same calls, and a call rejected for its arguments changes nothing and causes no
bus traffic. -/
theorem driver_refines_pins (w : ChipWorld) (config : Mcp23017Config Nat) (answers : Answers)
    (hinit : (chipExec w ⟨.init (some ()) (some config), answers⟩).1.ret = espOk)
    (ms : List ChipMove) (hms : ∀ m ∈ ms, ∀ k, m.answers.xfer k = espOk) :
    let start := chipStep w ⟨.init (some ()) (some config), answers⟩
    absExpander (run chipStep start ms) =
        run expanderStep
          ⟨some config.slot, Function.update (absExpander w).pins config.slot config.pins⟩ ms ∧
      ∀ m ∈ moves chipStep start ms, ¬ m.2.call.ArgsOk →
        (chipStep m.1 m.2).dev = m.1.dev ∧ (chipStep m.1 m.2).bus.chips = m.1.bus.chips ∧
          (chipStep m.1 m.2).bus.traffic = [] := by
  dsimp only
  have hinit' : (mcp23017Init chipApi (some ()) (some config) ⟨w.dev, w.bus.arm answers⟩).1 =
      espOk := hinit
  rcases init_ok_inv hinit' with ⟨hvalid, hadd, hret⟩
  have habs : absExpander (chipStep w ⟨.init (some ()) (some config), answers⟩) =
      ⟨some config.slot, Function.update (absExpander w).pins config.slot config.pins⟩ :=
    absExpander_init_completed hvalid hadd hret
  -- a completed init establishes the invariant whatever was there before
  have hinv : DriverInv (chipStep w ⟨.init (some ()) (some config), answers⟩) := by
    rcases init_completed hvalid hadd hret with ⟨bus, heq, hchips⟩
    have hstep : chipStep w ⟨.init (some ()) (some config), answers⟩ =
        ⟨(deviceAdded config ⟨w.dev, w.bus.arm answers⟩).dev.synchronize config, bus⟩ :=
      congrArg Prod.snd heq
    rw [hstep]
    exact driverInv_of_completed hvalid hchips
  refine ⟨?_, fun m _ hargs => ?_⟩
  · -- both sides take the same labels, and the abstraction relates them after each
    have hsim := @sim_run _ _ _ chipStep expanderStep
      (fun w s => DriverInv w ∧ absExpander w = s) (fun m => ∀ k, m.answers.xfer k = espOk)
      (fun w s m hok hrel => ⟨chipStep_driverInv hrel.1 (hok 0), by
        rw [chipStep_refines hrel.1 hok, hrel.2]⟩) _ _ ⟨hinv, habs⟩ ms hms
    exact hsim.2
  · rw [chipStep_rejected hargs]
    exact ⟨rfl, rfl, rfl⟩

/-- Chips that an earlier program left in the `BANK = 1` layout with all latches set. -/
def leftBanked : ChipWorld :=
  ⟨Mcp23017.zero, fun _ reg => match reg with
      | .iocon => 0x80
      | .olat _ => 0xFF
      | _ => 0x00, healthy, 0, []⟩

/-- From such a chip: `init`, then a toggle of pin A0 and a write to a port that does not exist. -/
theorem driver_refines_pins_banked :
    let config : Mcp23017Config Nat := ⟨some 0, 0x20, 400000, 0x00, 0xFF, 0, 0⟩
    let start := chipStep leftBanked ⟨.init (some ()) (some config), healthy⟩
    let ms : List ChipMove := [⟨.togglePin (some ()) mcp23017PortA 0, healthy⟩,
      ⟨.writePort (some ()) 7 0xFF, healthy⟩]
    (absExpander (run chipStep start ms)).ready = some (0, 0x20) ∧
      (absExpander (run chipStep start ms)).pins (0, 0x20) .a 0 = ⟨false, true, false⟩ := by
  have hrefines := (driver_refines_pins leftBanked ⟨some 0, 0x20, 400000, 0x00, 0xFF, 0, 0⟩ healthy
    (by decide) [⟨.togglePin (some ()) mcp23017PortA 0, healthy⟩,
      ⟨.writePort (some ()) 7 0xFF, healthy⟩] (by simp [healthy])).1
  dsimp only
  rw [hrefines]
  decide

end MainboardFirmware
