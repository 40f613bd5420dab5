import MainboardFirmware.Mcp23017.Chip
import MainboardFirmware.Mcp23017.Driver

/-!
# Operations — what each driver operation does to the chip

The driver runs on a bus of simulated chips. A call is either turned away before it touches anything,
or makes one transfer to the chip the driver is attached to; `init` makes up to eight. Each operation
gets one lemma that says all it can do, and the later modules use these lemmas only.
-/

namespace MainboardFirmware

open Mcp23017Chip

/-- The driver instance and its bus of simulated chips. -/
abbrev ChipWorld := Mcp23017World Nat Slot ChipBus

/-- The chip a driver instance was configured for. -/
def Mcp23017.home (dev : Mcp23017 Nat Slot) : Slot :=
  (dev.busHandle.getD 0, dev.devAddr)

/-- The registers of that chip. -/
def Mcp23017World.chip (w : ChipWorld) : RegFile :=
  w.bus.chips w.dev.home

/-- The driver holds a bus and the handle of its own chip. -/
structure Mcp23017.Attached (dev : Mcp23017 Nat Slot) (slot : Slot) : Prop where
  busHandle : dev.busHandle = some slot.1
  devHandle : dev.devHandle = some slot
  devAddr : dev.devAddr = slot.2

/-! ## Argument checks -/

def PortOk (port : UInt32) : Prop :=
  port = mcp23017PortA ∨ port = mcp23017PortB

instance (port : UInt32) : Decidable (PortOk port) :=
  inferInstanceAs (Decidable (_ ∨ _))

/-- The check of the source is the negation of this one. -/
theorem portOk_iff {port : UInt32} :
    PortOk port ↔ ¬(port ≠ mcp23017PortA ∧ port ≠ mcp23017PortB) := by
  simp [PortOk, or_iff_not_imp_left]

/-- What `init` requires of its configuration. -/
def Mcp23017Config.Valid (config : Mcp23017Config Nat) : Prop :=
  config.bus ≠ none ∧ mcp23017AddrBase ≤ config.address ∧ config.address ≤ mcp23017AddrMax

instance (config : Mcp23017Config Nat) : Decidable config.Valid :=
  inferInstanceAs (Decidable (_ ∧ _))

/-- The arguments pass the checks of the operation. -/
def Mcp23017Call.ArgsOk : Mcp23017Call Nat → Prop
  | .init dev config => dev = some () ∧ ∃ c ∈ config, c.Valid
  | .deinit dev => dev = some ()
  | .setPortDirection dev port _ => dev = some () ∧ PortOk port
  | .writePort dev port _ => dev = some () ∧ PortOk port
  | .readPort dev port out => dev = some () ∧ PortOk port ∧ out ≠ none
  | .setPortPullup dev port _ => dev = some () ∧ PortOk port
  | .setPortPolarity dev port _ => dev = some () ∧ PortOk port
  | .setPinDirection dev port pin direction =>
      dev = some () ∧ PortOk port ∧ pin ≤ mcp23017PinMax ∧
        (direction = mcp23017DirInput ∨ direction = mcp23017DirOutput)
  | .writePin dev port pin _ => dev = some () ∧ PortOk port ∧ pin ≤ mcp23017PinMax
  | .readPin dev port pin out =>
      dev = some () ∧ PortOk port ∧ pin ≤ mcp23017PinMax ∧ out ≠ none
  | .togglePin dev port pin => dev = some () ∧ PortOk port ∧ pin ≤ mcp23017PinMax

instance (call : Mcp23017Call Nat) : Decidable call.ArgsOk :=
  match call with
  | .init _ _ => inferInstanceAs (Decidable (_ ∧ _))
  | .deinit _ => inferInstanceAs (Decidable (_ = _))
  | .setPortDirection _ _ _ => inferInstanceAs (Decidable (_ ∧ _))
  | .writePort _ _ _ => inferInstanceAs (Decidable (_ ∧ _))
  | .readPort _ _ _ => inferInstanceAs (Decidable (_ ∧ _))
  | .setPortPullup _ _ _ => inferInstanceAs (Decidable (_ ∧ _))
  | .setPortPolarity _ _ _ => inferInstanceAs (Decidable (_ ∧ _))
  | .setPinDirection _ _ _ _ => inferInstanceAs (Decidable (_ ∧ _))
  | .writePin _ _ _ _ => inferInstanceAs (Decidable (_ ∧ _))
  | .readPin _ _ _ _ => inferInstanceAs (Decidable (_ ∧ _))
  | .togglePin _ _ _ => inferInstanceAs (Decidable (_ ∧ _))

theorem mcp23017IsReady_iff {β η σ : Type} {dev : Option Unit} {w : Mcp23017World β η σ} :
    mcp23017IsReady dev w = true ↔ dev = some () ∧ w.dev.isInitialized = true := by
  cases dev with
  | none =>
      simp [mcp23017IsReady]
  | some u =>
      simp [mcp23017IsReady]

/-! ## Calls that are turned away -/

section TurnedAway

variable {β η σ : Type} {api : I2cBusApi β η σ} {w : Mcp23017World β η σ} {dev : Option Unit}
  {port : UInt32} {pin : UInt8}

/-- The flag is looked at first, so it decides about the code. -/
theorem turnedAway_ne_ok (ready : Bool) :
    (if ready = true then espErrInvalidArg else espErrInvalidState) ≠ espOk := by
  cases ready with
  | false =>
      exact espErrInvalidState_ne_ok
  | true =>
      exact espErrInvalidArg_ne_ok

theorem writePortReg_turnedAway (regA regB : UInt8)
    (store : Mcp23017 β η → UInt32 → UInt8 → Mcp23017 β η) (value : UInt8)
    (h : ¬(mcp23017IsReady dev w = true ∧ PortOk port)) :
    writePortReg api regA regB store dev port value w =
      (if mcp23017IsReady dev w = true then espErrInvalidArg else espErrInvalidState, w) := by
  cases hready : mcp23017IsReady dev w with
  | false =>
      simp [writePortReg, hready]
  | true =>
      have hport : port ≠ mcp23017PortA ∧ port ≠ mcp23017PortB := by
        simpa [PortOk, hready] using h
      simp [writePortReg, hready, hport]

theorem modifyPin_turnedAway (kind : Mcp23017Shadow) (regA regB : UInt8) (argOk : Bool)
    (modify : UInt8 → UInt8)
    (h : ¬(mcp23017IsReady dev w = true ∧ PortOk port ∧ pin ≤ mcp23017PinMax ∧ argOk = true)) :
    modifyPin api kind regA regB argOk modify dev port pin w =
      (if mcp23017IsReady dev w = true then espErrInvalidArg else espErrInvalidState, w) := by
  cases hready : mcp23017IsReady dev w with
  | false =>
      simp [modifyPin, hready]
  | true =>
      simp only [if_true]
      unfold modifyPin
      split
      · rename_i hdown
        simp [hready] at hdown
      -- port, pin and the operation's own argument, in this order
      split
      · rfl
      split
      · rfl
      split
      · rfl
      rename_i hport hpin harg
      exact absurd ⟨hready, portOk_iff.2 hport, UInt8.not_lt.1 hpin, by simpa using harg⟩ h

theorem readPort_turnedAway {out : Option UInt8}
    (h : ¬(mcp23017IsReady dev w = true ∧ PortOk port ∧ out ≠ none)) :
    mcp23017ReadPort api dev port out w =
      (if mcp23017IsReady dev w = true then espErrInvalidArg else espErrInvalidState, out, w) := by
  cases hready : mcp23017IsReady dev w with
  | false =>
      simp [mcp23017ReadPort, hready]
  | true =>
      by_cases hport : PortOk port
      · have hout : out = none := by
          by_contra hsome
          exact h ⟨hready, hport, hsome⟩
        simp [mcp23017ReadPort, hready, portOk_iff.1 hport, hout]
      · have hbad : port ≠ mcp23017PortA ∧ port ≠ mcp23017PortB :=
          not_not.1 fun hnot => hport (portOk_iff.2 hnot)
        simp [mcp23017ReadPort, hready, hbad]

theorem readPin_turnedAway {out : Option Bool}
    (h : ¬(mcp23017IsReady dev w = true ∧ PortOk port ∧ pin ≤ mcp23017PinMax ∧ out ≠ none)) :
    mcp23017ReadPin api dev port pin out w =
      (if mcp23017IsReady dev w = true then espErrInvalidArg else espErrInvalidState, out, w) := by
  cases hready : mcp23017IsReady dev w with
  | false =>
      simp [mcp23017ReadPin, hready]
  | true =>
      simp only [if_true]
      unfold mcp23017ReadPin
      split
      · rename_i hdown
        simp [hready] at hdown
      -- port, pin and the output pointer, in this order
      split
      · rfl
      split
      · rfl
      split
      · rfl
      rename_i hport hpin hout
      exact absurd ⟨hready, portOk_iff.2 hport, UInt8.not_lt.1 hpin, hout⟩ h

theorem init_turnedAway {config : Option (Mcp23017Config β)}
    (h : ¬(dev = some () ∧ ∃ c, config = some c ∧ c.bus ≠ none ∧
      mcp23017AddrBase ≤ c.address ∧ c.address ≤ mcp23017AddrMax)) :
    mcp23017Init api dev config w = (espErrInvalidArg, w) := by
  cases dev with
  | none =>
      rfl
  | some u =>
      cases config with
      | none =>
          rfl
      | some c =>
          simp only [mcp23017Init]
          split
          · rfl
          rename_i hbus
          split
          · rfl
          -- past both checks the configuration is a valid one
          rename_i haddr
          rcases not_or.1 haddr with ⟨hlow, hhigh⟩
          exact absurd ⟨rfl, c, rfl, hbus, UInt8.not_lt.1 hlow, UInt8.not_lt.1 hhigh⟩ h

end TurnedAway

/-! ## Shadow bytes -/

/-- The side of the port argument: anything that is not port A is taken for port B. -/
def sideOf (port : UInt32) : Port :=
  ofPort port .a .b

/-- The register a shadow byte mirrors. -/
def Mcp23017Shadow.reg : Mcp23017Shadow → Port → Reg
  | .dir => .iodir
  | .olat => .olat

namespace Mcp23017

/-- The shadow byte of a port. -/
def shadowAt (dev : Mcp23017 Nat Slot) : Mcp23017Shadow → Port → UInt8
  | .dir, .a => dev.dirA
  | .dir, .b => dev.dirB
  | .olat, .a => dev.olatA
  | .olat, .b => dev.olatB

variable (dev : Mcp23017 Nat Slot) (kind kind' : Mcp23017Shadow) (port : UInt32) (value : UInt8)

theorem shadow_eq : dev.shadow kind port = dev.shadowAt kind (sideOf port) := by
  by_cases hport : port = mcp23017PortA
  · cases kind <;> simp [shadow, sideOf, ofPort, shadowAt, hport]
  · cases kind <;> simp [shadow, sideOf, ofPort, shadowAt, hport]

/-- Storing a shadow byte changes that byte and no other one. -/
theorem shadowAt_setShadow (side : Port) :
    (dev.setShadow kind port value).shadowAt kind' side =
      if kind' = kind ∧ side = sideOf port then value else dev.shadowAt kind' side := by
  by_cases hport : port = mcp23017PortA
  · cases kind <;> cases kind' <;> cases side <;>
      simp [setShadow, sideOf, ofPort, shadowAt, hport]
  · cases kind <;> cases kind' <;> cases side <;>
      simp [setShadow, sideOf, ofPort, shadowAt, hport]

/-- Storing the byte that is there already changes nothing. -/
theorem setShadow_shadow : dev.setShadow kind port (dev.shadow kind port) = dev := by
  by_cases hport : port = mcp23017PortA
  · cases kind <;> simp [setShadow, shadow, ofPort, hport]
  · cases kind <;> simp [setShadow, shadow, ofPort, hport]

/-- Storing a shadow byte leaves the other fields of the context alone. -/
theorem setShadow_fields :
    (dev.setShadow kind port value).busHandle = dev.busHandle ∧
      (dev.setShadow kind port value).devHandle = dev.devHandle ∧
      (dev.setShadow kind port value).devAddr = dev.devAddr ∧
      (dev.setShadow kind port value).isInitialized = dev.isInitialized := by
  by_cases hport : port = mcp23017PortA
  · cases kind <;> simp [setShadow, ofPort, hport]
  · cases kind <;> simp [setShadow, ofPort, hport]

theorem setShadow_attached {dev : Mcp23017 Nat Slot} {slot : Slot} (h : dev.Attached slot) :
    (dev.setShadow kind port value).Attached slot := by
  rcases h with ⟨hbus, hdev, haddr⟩
  rcases dev.setShadow_fields kind port value with ⟨hbus', hdev', haddr', _⟩
  exact ⟨hbus'.trans hbus, hdev'.trans hdev, haddr'.trans haddr⟩

theorem Attached.home_eq {dev : Mcp23017 Nat Slot} {slot : Slot} (h : dev.Attached slot) :
    dev.home = slot := by
  simp [home, h.busHandle, h.devAddr]

end Mcp23017

/-! ## One transfer -/

section Transfer

variable {w : ChipWorld} {slot : Slot} {dev : Option Unit} {port : UInt32}

theorem writeReg_chip (hat : w.dev.Attached slot) (reg data : UInt8) :
    mcp23017WriteReg chipApi reg data w =
      (w.bus.answer, ⟨w.dev, w.bus.afterWrite slot [reg, data]⟩) := by
  simp [mcp23017WriteReg, chipApi, ChipBus.write, hat.busHandle, hat.devHandle]

theorem readReg_chip (hat : w.dev.Attached slot) (reg old : UInt8) :
    ∃ value, mcp23017ReadReg chipApi reg old w =
      (w.bus.answer, value, ⟨w.dev, w.bus.afterRead slot [reg] 1⟩) := by
  simp [mcp23017ReadReg, chipApi, ChipBus.writeRead, hat.busHandle, hat.devHandle]

end Transfer

/-! ## Port-level writes -/

section PortWrites

variable (regA regB : UInt8) (store : Mcp23017 Nat Slot → UInt32 → UInt8 → Mcp23017 Nat Slot)
variable {w : ChipWorld} {slot : Slot} {dev : Option Unit} {port : UInt32}

theorem writePortReg_rejected (value : UInt8)
    (h : ¬(mcp23017IsReady dev w = true ∧ PortOk port)) :
    ∃ err, err ≠ espOk ∧ writePortReg chipApi regA regB store dev port value w = (err, w) :=
  ⟨_, turnedAway_ne_ok _, writePortReg_turnedAway regA regB store value h⟩

theorem writePortReg_accepted (value : UInt8) (hat : w.dev.Attached slot)
    (hready : mcp23017IsReady dev w = true) (hport : PortOk port) :
    writePortReg chipApi regA regB store dev port value w =
      (w.bus.answer,
        ⟨if w.bus.answer = espOk then store w.dev port value else w.dev,
          w.bus.afterWrite slot [ofPort port regA regB, value]⟩) := by
  have hnot := portOk_iff.1 hport
  unfold writePortReg
  rw [if_neg (by simp [hready]), if_neg hnot, writeReg_chip hat]
  by_cases hans : w.bus.answer = espOk
  · simp [hans]
  · simp [hans]

end PortWrites

/-! ## Pin-level writes -/

section PinWrites

variable (kind : Mcp23017Shadow) (regA regB : UInt8) (argOk : Bool) (modify : UInt8 → UInt8)
variable {w : ChipWorld} {slot : Slot} {dev : Option Unit} {port : UInt32} {pin : UInt8}

theorem modifyPin_rejected
    (h : ¬(mcp23017IsReady dev w = true ∧ PortOk port ∧ pin ≤ mcp23017PinMax ∧ argOk = true)) :
    ∃ err, err ≠ espOk ∧
      modifyPin chipApi kind regA regB argOk modify dev port pin w = (err, w) :=
  ⟨_, turnedAway_ne_ok _, modifyPin_turnedAway kind regA regB argOk modify h⟩

theorem modifyPin_accepted (hat : w.dev.Attached slot) (hready : mcp23017IsReady dev w = true)
    (hport : PortOk port) (hpin : pin ≤ mcp23017PinMax) (harg : argOk = true) :
    modifyPin chipApi kind regA regB argOk modify dev port pin w =
      (w.bus.answer,
        ⟨w.dev.setShadow kind port (modify (w.dev.shadow kind port)),
          w.bus.afterWrite slot [ofPort port regA regB, modify (w.dev.shadow kind port)]⟩) := by
  have hnot := portOk_iff.1 hport
  -- the byte sent is read back from the shadow that was just stored
  have hsent : (w.dev.setShadow kind port (modify (w.dev.shadow kind port))).shadow kind port =
      modify (w.dev.shadow kind port) := by
    simp [Mcp23017.shadow_eq, Mcp23017.shadowAt_setShadow]
  unfold modifyPin
  rw [if_neg (by simp [hready]), if_neg hnot, if_neg (UInt8.not_lt.2 hpin), if_neg (by simp [harg])]
  simp only [hsent]
  exact writeReg_chip (w := ⟨_, w.bus⟩) (Mcp23017.setShadow_attached kind port _ hat) _ _

end PinWrites

/-! ## Reads -/

section Reads

variable {w : ChipWorld} {slot : Slot} {dev : Option Unit} {port : UInt32} {pin : UInt8}

theorem readPort_rejected {out : Option UInt8}
    (h : ¬(mcp23017IsReady dev w = true ∧ PortOk port ∧ out ≠ none)) :
    ∃ err, err ≠ espOk ∧ mcp23017ReadPort chipApi dev port out w = (err, out, w) :=
  ⟨_, turnedAway_ne_ok _, readPort_turnedAway h⟩

theorem readPort_accepted {out : Option UInt8} (hat : w.dev.Attached slot)
    (hready : mcp23017IsReady dev w = true) (hport : PortOk port) (hout : out ≠ none) :
    ∃ value, mcp23017ReadPort chipApi dev port out w =
      (w.bus.answer, some value,
        ⟨w.dev, w.bus.afterRead slot [ofPort port mcp23017RegGpioa mcp23017RegGpiob] 1⟩) := by
  have hnot := portOk_iff.1 hport
  rcases Option.ne_none_iff_exists'.1 hout with ⟨old, rfl⟩
  rcases readReg_chip hat (ofPort port mcp23017RegGpioa mcp23017RegGpiob) old with ⟨value, hread⟩
  refine ⟨value, ?_⟩
  simp [mcp23017ReadPort, hready, hnot, hread]

theorem readPin_rejected {out : Option Bool}
    (h : ¬(mcp23017IsReady dev w = true ∧ PortOk port ∧ pin ≤ mcp23017PinMax ∧ out ≠ none)) :
    ∃ err, err ≠ espOk ∧ mcp23017ReadPin chipApi dev port pin out w = (err, out, w) :=
  ⟨_, turnedAway_ne_ok _, readPin_turnedAway h⟩

theorem readPin_accepted {out : Option Bool} (hat : w.dev.Attached slot)
    (hready : mcp23017IsReady dev w = true) (hport : PortOk port) (hpin : pin ≤ mcp23017PinMax)
    (hout : out ≠ none) :
    ∃ out', mcp23017ReadPin chipApi dev port pin out w =
      (w.bus.answer, out',
        ⟨w.dev, w.bus.afterRead slot [ofPort port mcp23017RegGpioa mcp23017RegGpiob] 1⟩) := by
  have hnot := portOk_iff.1 hport
  rcases readReg_chip hat (ofPort port mcp23017RegGpioa mcp23017RegGpiob) 0 with ⟨raw, hread⟩
  by_cases hans : w.bus.answer = espOk
  · refine ⟨some (Bits.testBit raw pin), ?_⟩
    simp [mcp23017ReadPin, hready, hnot, UInt8.not_lt.2 hpin, hout, hread, hans]
  · refine ⟨out, ?_⟩
    simp [mcp23017ReadPin, hready, hnot, UInt8.not_lt.2 hpin, hout, hread, hans]

/-- A read leaves the context and the chips as they were. -/
theorem readPort_same {out : Option UInt8}
    (hat : w.dev.isInitialized = true → ∃ slot, w.dev.Attached slot) :
    (mcp23017ReadPort chipApi dev port out w).2.2.dev = w.dev ∧
      (mcp23017ReadPort chipApi dev port out w).2.2.bus.chips = w.bus.chips := by
  by_cases hacc : mcp23017IsReady dev w = true ∧ PortOk port ∧ out ≠ none
  · rcases hat (mcp23017IsReady_iff.1 hacc.1).2 with ⟨slot, hslot⟩
    rcases readPort_accepted hslot hacc.1 hacc.2.1 hacc.2.2 with ⟨value, heq⟩
    rw [heq]
    exact ⟨rfl, rfl⟩
  · rcases readPort_rejected hacc with ⟨err, _, heq⟩
    rw [heq]
    exact ⟨rfl, rfl⟩

theorem readPin_same {out : Option Bool}
    (hat : w.dev.isInitialized = true → ∃ slot, w.dev.Attached slot) :
    (mcp23017ReadPin chipApi dev port pin out w).2.2.dev = w.dev ∧
      (mcp23017ReadPin chipApi dev port pin out w).2.2.bus.chips = w.bus.chips := by
  by_cases hacc : mcp23017IsReady dev w = true ∧ PortOk port ∧ pin ≤ mcp23017PinMax ∧ out ≠ none
  · rcases hat (mcp23017IsReady_iff.1 hacc.1).2 with ⟨slot, hslot⟩
    rcases readPin_accepted hslot hacc.1 hacc.2.1 hacc.2.2.1 hacc.2.2.2 with ⟨out', heq⟩
    rw [heq]
    exact ⟨rfl, rfl⟩
  · rcases readPin_rejected hacc with ⟨err, _, heq⟩
    rw [heq]
    exact ⟨rfl, rfl⟩

end Reads

/-! ## Sequences of register writes -/

/-- The register file after the writes `regs`. -/
def writeAll (chip : RegFile) (regs : List (UInt8 × UInt8)) : RegFile :=
  regs.foldl (fun chip reg => Mcp23017Chip.write chip [reg.1, reg.2]) chip

section WriteRegs

variable {w : ChipWorld} {slot : Slot}

theorem writeRegs_cons (hat : w.dev.Attached slot) (reg data : UInt8)
    (rest : List (UInt8 × UInt8)) :
    mcp23017WriteRegs chipApi ((reg, data) :: rest) w =
      if w.bus.answer = espOk then
        mcp23017WriteRegs chipApi rest ⟨w.dev, w.bus.afterWrite slot [reg, data]⟩
      else (w.bus.answer, ⟨w.dev, w.bus.afterWrite slot [reg, data]⟩) := by
  rw [mcp23017WriteRegs, writeReg_chip hat]
  by_cases hans : w.bus.answer = espOk
  · simp [hans]
  · simp [hans]

/-- A sequence of register writes leaves the context alone, and if all of them succeed the chip has
the registers written, one after the other. -/
theorem writeRegs_spec (hat : w.dev.Attached slot) (regs : List (UInt8 × UInt8)) :
    (mcp23017WriteRegs chipApi regs w).2.dev = w.dev ∧
      ((mcp23017WriteRegs chipApi regs w).1 = espOk →
        (mcp23017WriteRegs chipApi regs w).2.bus.chips =
          Function.update w.bus.chips slot (writeAll (w.bus.chips slot) regs)) := by
  induction regs generalizing w with
  | nil =>
      simp [mcp23017WriteRegs, writeAll]
  | cons head rest ih =>
      rcases head with ⟨reg, data⟩
      have htail := @ih ⟨w.dev, w.bus.afterWrite slot [reg, data]⟩ hat
      rw [writeRegs_cons hat]
      by_cases hans : w.bus.answer = espOk
      · -- the tail starts from the chip this write left
        rw [if_pos hans]
        refine ⟨htail.1, fun hret => (htail.2 hret).trans ?_⟩
        simp [ChipBus.afterWrite, hans, writeAll]
      · rw [if_neg hans]
        exact ⟨rfl, fun hret => absurd hret hans⟩

/-- A sequence of register writes on a bus that answers every transfer well succeeds. -/
theorem writeRegs_ok (hat : w.dev.Attached slot) (hall : ∀ k, w.bus.answers.xfer k = espOk)
    (regs : List (UInt8 × UInt8)) : (mcp23017WriteRegs chipApi regs w).1 = espOk := by
  induction regs generalizing w with
  | nil =>
      rfl
  | cons head rest ih =>
      rcases head with ⟨reg, data⟩
      have hans : w.bus.answer = espOk := hall w.bus.xfers
      rw [writeRegs_cons hat, if_pos hans]
      exact @ih ⟨w.dev, w.bus.afterWrite slot [reg, data]⟩ hat hall

/-- However the sequence ends, the chip has the writes of a prefix that succeeded. -/
theorem writeRegs_chip (hat : w.dev.Attached slot) (regs : List (UInt8 × UInt8)) :
    ∃ n ≤ regs.length, (∀ i < n, w.bus.answers.xfer (w.bus.xfers + i) = espOk) ∧
      (mcp23017WriteRegs chipApi regs w).2.bus.chips slot =
        writeAll (w.bus.chips slot) (regs.take n) := by
  induction regs generalizing w with
  | nil =>
      exact ⟨0, le_rfl, by simp, rfl⟩
  | cons head rest ih =>
      rcases head with ⟨reg, data⟩
      rw [writeRegs_cons hat]
      by_cases hans : w.bus.answer = espOk
      · -- one write more than the prefix of the tail
        rcases @ih ⟨w.dev, w.bus.afterWrite slot [reg, data]⟩ hat with ⟨n, hn, hok, hchip⟩
        refine ⟨n + 1, Nat.succ_le_succ hn, fun i hi => ?_, ?_⟩
        · cases i with
          | zero =>
              exact hans
          | succ i =>
              have hi' := hok i (Nat.lt_of_succ_lt_succ hi)
              rwa [Nat.add_comm i 1, ← Nat.add_assoc]
        · rw [if_pos hans, hchip]
          simp [ChipBus.afterWrite, hans, writeAll]
      · -- the first write fails, so the prefix is empty
        refine ⟨0, Nat.zero_le _, by simp, ?_⟩
        rw [if_neg hans]
        simp [ChipBus.afterWrite, hans, writeAll]

theorem writeRegs_traffic_mono (hat : w.dev.Attached slot) (regs : List (UInt8 × UInt8)) :
    w.bus.traffic ⊆ (mcp23017WriteRegs chipApi regs w).2.bus.traffic := by
  induction regs generalizing w with
  | nil =>
      simp [mcp23017WriteRegs]
  | cons head rest ih =>
      have hgrow : w.bus.traffic ⊆ (w.bus.afterWrite slot [head.1, head.2]).traffic :=
        List.subset_append_left _ _
      have htail := @ih ⟨w.dev, w.bus.afterWrite slot [head.1, head.2]⟩ hat
      rw [writeRegs_cons hat]
      split
      · exact List.Subset.trans hgrow htail
      · exact hgrow

/-- A property of every prefix that `ok` admits: the empty prefix has it, and if the first element is
admitted, so do the longer ones. -/
theorem forall_prefix_succ_iff {ok Q : Nat → Prop} (len : Nat) :
    (∀ n ≤ len + 1, (∀ i < n, ok i) → Q n) ↔
      Q 0 ∧ (ok 0 → ∀ n ≤ len, (∀ i < n, ok (i + 1)) → Q (n + 1)) := by
  constructor
  · intro h
    refine ⟨h 0 (by omega) (by simp), fun h0 n hn hrest => h (n + 1) (by omega) fun i hi => ?_⟩
    cases i with
    | zero =>
        exact h0
    | succ i =>
        exact hrest i (by omega)
  · rintro ⟨h0, hsucc⟩ n hn hall
    cases n with
    | zero =>
        exact h0
    | succ n =>
        exact hsucc (hall 0 (by omega)) n (by omega) fun i hi => hall (i + 1) (by omega)

/-- The registers the chip goes through during a sequence of writes: those after each prefix of the
sequence whose writes all succeed. -/
theorem writeRegs_traffic_iff {P : RegFile → Prop} (hat : w.dev.Attached slot)
    (regs : List (UInt8 × UInt8)) :
    ((∀ t ∈ (mcp23017WriteRegs chipApi regs w).2.bus.traffic, P (t.chips slot)) ∧
        P (w.bus.chips slot)) ↔
      (∀ t ∈ w.bus.traffic, P (t.chips slot)) ∧
        ∀ n ≤ regs.length, (∀ i < n, w.bus.answers.xfer (w.bus.xfers + i) = espOk) →
          P (writeAll (w.bus.chips slot) (regs.take n)) := by
  induction regs generalizing w with
  | nil =>
      simp [mcp23017WriteRegs, writeAll]
  | cons head rest ih =>
      rcases head with ⟨reg, data⟩
      have htail := @ih ⟨w.dev, w.bus.afterWrite slot [reg, data]⟩ hat
      have hmono := @writeRegs_traffic_mono ⟨w.dev, w.bus.afterWrite slot [reg, data]⟩ slot hat rest
      rw [writeRegs_cons hat, List.length_cons, forall_prefix_succ_iff]
      by_cases hans : w.bus.answer = espOk
      · -- the first write arrives, and the tail starts from the chip it leaves
        have hans' : w.bus.answers.xfer w.bus.xfers = espOk := hans
        simp only [ChipBus.afterWrite, hans, if_true, Function.update_self, List.forall_mem_append,
          List.forall_mem_singleton, Nat.add_assoc, Nat.add_comm 1] at htail hmono ⊢
        have hfirst := hmono (List.mem_append_right _ (List.mem_singleton_self _))
        simp only [Nat.add_zero, hans', true_implies, List.take_succ_cons, List.take_zero]
        constructor
        · -- the state after the first write is among those the call passes through
          rintro ⟨hall, h0⟩
          have hnew : P (Mcp23017Chip.write (w.bus.chips slot) [reg, data]) := by
            simpa using hall _ hfirst
          rcases htail.1 ⟨hall, hnew⟩ with ⟨⟨hold, _⟩, hrest⟩
          exact ⟨hold, h0, hrest⟩
        · -- and it is the one the tail's shortest prefix stands for
          rintro ⟨hold, h0, hrest⟩
          have hnew : P (Mcp23017Chip.write (w.bus.chips slot) [reg, data]) :=
            hrest 0 (Nat.zero_le _) (by simp)
          exact ⟨(htail.2 ⟨⟨hold, hnew⟩, hrest⟩).1, h0⟩
      · -- the first write fails, and the chip stays as it was
        have hans' : w.bus.answers.xfer w.bus.xfers ≠ espOk := hans
        simp only [ChipBus.afterWrite, hans, hans', if_false, List.forall_mem_append,
          List.forall_mem_singleton, Nat.add_zero, false_implies, and_true, List.take_zero]
        exact ⟨fun h => ⟨h.1.1, h.2⟩, fun h => ⟨⟨h.1, h.2⟩, h.2⟩⟩

end WriteRegs

end MainboardFirmware
