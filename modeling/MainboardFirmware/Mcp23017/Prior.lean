import MainboardFirmware.Mcp23017.Pins

/-!
# Prior — what the chip held before `init` and what the caller sees of it

After a reset of the MCU alone the chip keeps its registers, and `init` finds them. Two runs of the
driver are put side by side, on chips with any two contents, with the same calls and the same answers.
`init` overwrites the directions, the pull-ups, the latches and `IOCON`, but not the polarity, so a
read shows what was left there until `set_port_polarity` stores a new one.
-/

namespace MainboardFirmware

open Mcp23017Chip Machine

/-! ## Two runs -/

/-- Two runs side by side, and the polarity registers that a call has stored since. -/
structure Twins where
  first : ChipWorld
  second : ChipWorld
  stored : Slot → Port → Bool

/-- The call stores the polarity register of this chip and port. -/
def storesPolarity (w : ChipWorld) (m : ChipMove) (slot : Slot) (port : Port) : Bool :=
  match m.call with
  | .setPortPolarity dev p _ =>
      mcp23017IsReady dev w &&
        decide (PortOk p ∧ m.answers.xfer 0 = espOk ∧ w.dev.home = slot ∧ sideOf p = port)
  | _ => false

def twinStep (s : Twins) (m : ChipMove) : Twins where
  first := chipStep s.first m
  second := chipStep s.second m
  stored slot port := s.stored slot port || storesPolarity s.first m slot port

/-! ## The properties and the conditions -/

/-- The caller gets the same back in both runs. -/
def SameResult (s : Twins) (m : ChipMove) : Prop :=
  (chipExec s.first m).1 = (chipExec s.second m).1

/-- The call is a read of this pin, among others perhaps, that the driver accepts and the bus
completes. -/
def ReadsPin (w : ChipWorld) (m : ChipMove) (port : Port) (i : Fin 8) : Prop :=
  w.dev.isInitialized = true ∧ m.call.ArgsOk ∧ m.answers.xfer 0 = espOk ∧
    match m.call with
    | .readPort _ p _ => sideOf p = port
    | .readPin _ p pin _ => sideOf p = port ∧ pin.toNat = i
    | _ => False

/-- The pin as the caller sees it in the result of a read. -/
def Mcp23017Result.level (r : Mcp23017Result) (i : Fin 8) : Option Bool :=
  r.pin <|> r.port.map fun value => Bits.bit value i

/-- A read of a port whose polarity nobody has stored shows the live levels of its pins. -/
def ReadsLive (s : Twins) (m : ChipMove) : Prop :=
  ∀ port i, ReadsPin s.first m port i → s.stored s.first.dev.home port = false →
    (chipExec s.first m).1.level i =
      some (Bits.bit (pinLevels s.first.chip (m.answers.outside s.first.dev.home) port) i)

/-- Every pin read has the same polarity bit in both prior contents, or the polarity of its port has
been stored since. -/
def PolarityAgrees (prior₁ prior₂ : Slot → RegFile) (s : Twins) (m : ChipMove) : Prop :=
  ∀ port i, ReadsPin s.first m port i → s.stored s.first.dev.home port = false →
    Bits.bit (prior₁ s.first.dev.home (.ipol port)) i =
      Bits.bit (prior₂ s.first.dev.home (.ipol port)) i

/-- Every pin read has a clear polarity bit in the prior content, or the polarity of its port has been
stored since. -/
def PolarityClear (prior : Slot → RegFile) (s : Twins) (m : ChipMove) : Prop :=
  ∀ port i, ReadsPin s.first m port i → s.stored s.first.dev.home port = false →
    Bits.bit (prior s.first.dev.home (.ipol port)) i = false

/-! ## The invariant -/

/-- Two chips in the `BANK = 0` layout with the same directions and latches. -/
structure Alike (chip₁ chip₂ : RegFile) : Prop where
  bank₁ : bank chip₁ = false
  bank₂ : bank chip₂ = false
  iodir : ∀ port, chip₁ (.iodir port) = chip₂ (.iodir port)
  olat : ∀ port, chip₁ (.olat port) = chip₂ (.olat port)

/-- Both drivers are in the same state, on chips that are alike, and a polarity register holds in
both runs what was stored, or in each what it held before. -/
structure TwinInv (prior₁ prior₂ : Slot → RegFile) (w₁ w₂ : ChipWorld)
    (stored : Slot → Port → Bool) : Prop where
  dev : w₂.dev = w₁.dev
  ready : w₁.dev.isInitialized = true →
    ∃ slot, w₁.dev.Attached slot ∧ Alike (w₁.bus.chips slot) (w₂.bus.chips slot)
  kept : ∀ slot port, stored slot port = false →
    w₁.bus.chips slot (.ipol port) = prior₁ slot (.ipol port) ∧
      w₂.bus.chips slot (.ipol port) = prior₂ slot (.ipol port)
  stored : ∀ slot port, stored slot port = true →
    w₁.bus.chips slot (.ipol port) = w₂.bus.chips slot (.ipol port)

theorem Alike.update {chip₁ chip₂ : RegFile} {reg : Reg} (h : Alike chip₁ chip₂)
    (hreg : reg ≠ .iocon) (value : UInt8) :
    Alike (Function.update chip₁ reg value) (Function.update chip₂ reg value) where
  bank₁ := (bank_update hreg value).trans h.bank₁
  bank₂ := (bank_update hreg value).trans h.bank₂
  iodir port := by
    by_cases hport : Reg.iodir port = reg
    · simp [← hport]
    · simpa [hport] using h.iodir port
  olat port := by
    by_cases hport : Reg.olat port = reg
    · simp [← hport]
    · simpa [hport] using h.olat port

/-- The pins of two chips that are alike have the same levels. -/
theorem Alike.pinLevels_eq {chip₁ chip₂ : RegFile} (h : Alike chip₁ chip₂) (outside : Port → UInt8)
    (port : Port) : pinLevels chip₁ outside port = pinLevels chip₂ outside port := by
  simp [pinLevels, h.iodir port, h.olat port]

section Steps

variable {prior₁ prior₂ : Slot → RegFile} {w₁ w₂ : ChipWorld} {stored stored' : Slot → Port → Bool}

/-- Both runs do the same write to a plain register of the chip the driver is attached to. -/
theorem TwinInv.write {dev : Mcp23017 Nat Slot} {slot : Slot} {addr value : UInt8} {reg : Reg}
    (hinv : TwinInv prior₁ prior₂ w₁ w₂ stored)
    (halike : Alike (w₁.bus.chips slot) (w₂.bus.chips slot))
    (hans : w₂.bus.answer = w₁.bus.answer) (hplain : Plain addr reg) (hat : dev.Attached slot)
    (hstored : ∀ slot' port, stored' slot' port =
      (stored slot' port || decide (w₁.bus.answer = espOk ∧ slot' = slot ∧ reg = .ipol port))) :
    TwinInv prior₁ prior₂ ⟨dev, w₁.bus.afterWrite slot [addr, value]⟩
      ⟨dev, w₂.bus.afterWrite slot [addr, value]⟩ stored' := by
  by_cases hok : w₁.bus.answer = espOk
  · have hchips₁ : (w₁.bus.afterWrite slot [addr, value]).chips =
        Function.update w₁.bus.chips slot (Function.update (w₁.bus.chips slot) reg value) := by
      simp [ChipBus.afterWrite, hok, write_plain halike.bank₁ hplain]
    have hchips₂ : (w₂.bus.afterWrite slot [addr, value]).chips =
        Function.update w₂.bus.chips slot (Function.update (w₂.bus.chips slot) reg value) := by
      simp [ChipBus.afterWrite, hans, hok, write_plain halike.bank₂ hplain]
    refine ⟨rfl, fun _ => ⟨slot, hat, ?_⟩, fun slot' port hnot => ?_, fun slot' port hset => ?_⟩
    · simpa [hchips₁, hchips₂] using halike.update hplain.2.2 value
    · -- not this register, so both runs have what they had
      rw [hstored, Bool.or_eq_false_iff, decide_eq_false_iff_not] at hnot
      have hold := hinv.kept slot' port hnot.1
      rw [hchips₁, hchips₂]
      by_cases hslot : slot' = slot
      · have hreg : Reg.ipol port ≠ reg := fun h => hnot.2 ⟨hok, hslot, h.symm⟩
        subst hslot
        simpa [hreg] using hold
      · simpa [hslot] using hold
    · -- this register holds the same value in both runs now, any other one did before
      rw [hchips₁, hchips₂]
      by_cases hslot : slot' = slot
      · subst hslot
        by_cases hreg : Reg.ipol port = reg
        · simp [← hreg]
        · have hset' : stored slot' port = true := by
            simpa [hstored, Ne.symm hreg] using hset
          simpa [hreg] using hinv.stored slot' port hset'
      · have hset' : stored slot' port = true := by
          simpa [hstored, hslot] using hset
        simpa [hslot] using hinv.stored slot' port hset'
  · -- a write that fails reaches neither chip
    have hchips₁ := chips_afterWrite_failed hok slot [addr, value]
    have hchips₂ := chips_afterWrite_failed (w := w₂) (hans ▸ hok) slot [addr, value]
    have hsame : stored' = stored := by
      funext slot' port
      simp [hstored, hok]
    rw [hsame]
    refine ⟨rfl, fun _ => ⟨slot, hat, ?_⟩, fun slot' port hnot => ?_, fun slot' port hset => ?_⟩
    · simpa only [hchips₁, hchips₂] using halike
    · simpa only [hchips₁, hchips₂] using hinv.kept slot' port hnot
    · simpa only [hchips₁, hchips₂] using hinv.stored slot' port hset

/-- Neither run changes a chip, and both drivers end up in the same state. -/
theorem TwinInv.same {w₁' w₂' : ChipWorld} (hinv : TwinInv prior₁ prior₂ w₁ w₂ stored)
    (hdev : w₂'.dev = w₁'.dev) (hchips₁ : w₁'.bus.chips = w₁.bus.chips)
    (hchips₂ : w₂'.bus.chips = w₂.bus.chips)
    (hready : w₁'.dev.isInitialized = true → w₁'.dev = w₁.dev) :
    TwinInv prior₁ prior₂ w₁' w₂' stored where
  dev := hdev
  ready h := by
    have hsame := hready h
    simpa only [hsame, hchips₁, hchips₂] using hinv.ready (hsame ▸ h)
  kept slot port hnot := by
    simpa only [hchips₁, hchips₂] using hinv.kept slot port hnot
  stored slot port hset := by
    simpa only [hchips₁, hchips₂] using hinv.stored slot port hset

end Steps

/-! ## Operations that write -/

section Writes

variable {prior₁ prior₂ : Slot → RegFile} {w₁ w₂ : ChipWorld} {stored stored' : Slot → Port → Bool}
variable {dev : Option Unit} {port : UInt32} {pin : UInt8}

theorem TwinInv.ready_eq (hinv : TwinInv prior₁ prior₂ w₁ w₂ stored) (dev : Option Unit) :
    mcp23017IsReady dev w₂ = mcp23017IsReady dev w₁ := by
  simp [mcp23017IsReady, hinv.dev]

/-- The result is the same and so is everything the invariant speaks of. -/
def Matched (prior₁ prior₂ : Slot → RegFile) (stored : Slot → Port → Bool)
    (r₁ r₂ : EspErr × ChipWorld) : Prop :=
  r₁.1 = r₂.1 ∧ TwinInv prior₁ prior₂ r₁.2 r₂.2 stored

theorem writePortReg_matched {regA regB : UInt8} {reg : Port → Reg}
    {store : Mcp23017 Nat Slot → UInt32 → UInt8 → Mcp23017 Nat Slot} {value : UInt8}
    (hinv : TwinInv prior₁ prior₂ w₁ w₂ stored) (hans : w₂.bus.answer = w₁.bus.answer)
    (hplain : Plain regA (reg .a) ∧ Plain regB (reg .b))
    (hstore : ∀ dev slot, dev.Attached slot → (store dev port value).Attached slot)
    (hstored : ∀ slot side, stored' slot side =
      (stored slot side || mcp23017IsReady dev w₁ && decide (PortOk port ∧
        w₁.bus.answer = espOk ∧ w₁.dev.home = slot ∧ reg (sideOf port) = .ipol side))) :
    Matched prior₁ prior₂ stored' (writePortReg chipApi regA regB store dev port value w₁)
      (writePortReg chipApi regA regB store dev port value w₂) := by
  -- both drivers are in one state, so both accept the call or neither does
  by_cases hacc : mcp23017IsReady dev w₁ = true ∧ PortOk port
  · rcases hinv.ready (mcp23017IsReady_iff.1 hacc.1).2 with ⟨slot, hat, halike⟩
    have hready₂ := (hinv.ready_eq dev).trans hacc.1
    rw [writePortReg_accepted regA regB store value hat hacc.1 hacc.2,
      writePortReg_accepted regA regB store value (hinv.dev ▸ hat) hready₂ hacc.2, hinv.dev, hans]
    have hat' : (if w₁.bus.answer = espOk then store w₁.dev port value else w₁.dev).Attached slot := by
      split
      · exact hstore _ _ hat
      · exact hat
    refine ⟨rfl, hinv.write halike hans (plain_ofPort hplain.1 hplain.2 port) hat' ?_⟩
    intro slot' side
    simp [hstored, hacc, hat.home_eq, eq_comm]
  · have hacc₂ : ¬(mcp23017IsReady dev w₂ = true ∧ PortOk port) := by
      rwa [hinv.ready_eq dev]
    have hsame : stored' = stored := by
      funext slot side
      by_cases hready : mcp23017IsReady dev w₁ = true
      · have hport : ¬PortOk port := fun hport => hacc ⟨hready, hport⟩
        simp [hstored, hport]
      · simp [hstored, hready]
    rw [writePortReg_turnedAway regA regB store value hacc,
      writePortReg_turnedAway regA regB store value hacc₂, hinv.ready_eq dev, hsame]
    exact ⟨rfl, hinv⟩

theorem modifyPin_matched {kind : Mcp23017Shadow} {regA regB : UInt8} {argOk : Bool}
    {modify : UInt8 → UInt8} (hinv : TwinInv prior₁ prior₂ w₁ w₂ stored)
    (hans : w₂.bus.answer = w₁.bus.answer)
    (hplain : Plain regA (kind.reg .a) ∧ Plain regB (kind.reg .b)) :
    Matched prior₁ prior₂ stored
      (modifyPin chipApi kind regA regB argOk modify dev port pin w₁)
      (modifyPin chipApi kind regA regB argOk modify dev port pin w₂) := by
  by_cases hacc : mcp23017IsReady dev w₁ = true ∧ PortOk port ∧ pin ≤ mcp23017PinMax ∧ argOk = true
  · rcases hacc with ⟨hready, hport, hpin, harg⟩
    rcases hinv.ready (mcp23017IsReady_iff.1 hready).2 with ⟨slot, hat, halike⟩
    have hready₂ := (hinv.ready_eq dev).trans hready
    rw [modifyPin_accepted kind regA regB argOk modify hat hready hport hpin harg,
      modifyPin_accepted kind regA regB argOk modify (hinv.dev ▸ hat) hready₂ hport hpin harg,
      hinv.dev, hans]
    have hat' := Mcp23017.setShadow_attached kind port (modify (w₁.dev.shadow kind port)) hat
    -- a pin-level write goes to a direction or a latch register, never to a polarity
    refine ⟨rfl, hinv.write halike hans (plain_ofPort hplain.1 hplain.2 port) hat' ?_⟩
    intro slot' side
    cases kind <;> simp [Mcp23017Shadow.reg]
  · have hacc₂ : ¬(mcp23017IsReady dev w₂ = true ∧ PortOk port ∧ pin ≤ mcp23017PinMax ∧
        argOk = true) := by
      rwa [hinv.ready_eq dev]
    rw [modifyPin_turnedAway kind regA regB argOk modify hacc,
      modifyPin_turnedAway kind regA regB argOk modify hacc₂, hinv.ready_eq dev]
    exact ⟨rfl, hinv⟩

end Writes

/-! ## The init sequence -/

theorem updateAll_of_ne {updates : List (Reg × UInt8)} {reg : Reg} (h : ∀ u ∈ updates, u.1 ≠ reg)
    (chip : RegFile) : updateAll chip updates reg = chip reg := by
  induction updates generalizing chip with
  | nil =>
      rfl
  | cons u rest ih =>
      have hhead : u.1 ≠ reg := h u (by simp)
      have htail := ih (fun v hv => h v (by simp [hv])) (Function.update chip u.1 u.2)
      exact htail.trans (Function.update_of_ne hhead.symm _ _)

/-- No prefix of the sequence reaches a polarity register. -/
theorem writeAll_ipol (chip : RegFile) (config : Mcp23017Config Nat) (port : Port) (n : Nat) :
    writeAll chip ((mcp23017InitSequence config).take n) (.ipol port) = chip (.ipol port) := by
  have hfirst := @unbanked_apply chip (.ipol port) (by simp) (by simp)
  match n with
  | 0 =>
      rfl
  | 1 =>
      exact hfirst.1
  | k + 2 =>
      rw [(writeAll_initSequence_take chip config k).1, updateAll_of_ne ?_, hfirst.2]
      intro u hu
      have hmem : u ∈ initUpdates config := List.mem_of_mem_take hu
      simp only [initUpdates, List.mem_cons, List.not_mem_nil, or_false] at hmem
      rcases hmem with rfl | rfl | rfl | rfl | rfl | rfl <;> simp

theorem configured_ipol (chip : RegFile) (config : Mcp23017Config Nat) (port : Port) :
    configured config chip (.ipol port) = chip (.ipol port) := by
  rw [configured, ← (writeAll_initSequence chip config).1]
  exact writeAll_ipol chip config port 8

/-- Two chips a completed `init` leaves are alike, whatever they held before. -/
theorem configured_alike (chip₁ chip₂ : RegFile) (config : Mcp23017Config Nat) :
    Alike (configured config chip₁) (configured config chip₂) where
  bank₁ := bank_configured config chip₁
  bank₂ := bank_configured config chip₂
  iodir port := by
    cases port <;> rfl
  olat port := by
    cases port <;> rfl

section WriteRegs

variable {w w₁ w₂ : ChipWorld} {slot : Slot}

/-- A sequence of register writes leaves the other chips alone. -/
theorem writeRegs_other (hat : w.dev.Attached slot) {slot' : Slot} (hslot : slot' ≠ slot)
    (regs : List (UInt8 × UInt8)) :
    (mcp23017WriteRegs chipApi regs w).2.bus.chips slot' = w.bus.chips slot' := by
  induction regs generalizing w with
  | nil =>
      rfl
  | cons head rest ih =>
      rcases head with ⟨reg, data⟩
      have hone : (w.bus.afterWrite slot [reg, data]).chips slot' = w.bus.chips slot' := by
        by_cases hok : w.bus.answer = espOk
        · simp [ChipBus.afterWrite, hok, hslot]
        · simp [ChipBus.afterWrite, hok]
      rw [writeRegs_cons hat]
      split
      · exact (@ih ⟨w.dev, w.bus.afterWrite slot [reg, data]⟩ hat).trans hone
      · exact hone

/-- The result of a sequence of register writes is up to the answers. -/
theorem writeRegs_ret_eq (hat₁ : w₁.dev.Attached slot) (hat₂ : w₂.dev.Attached slot)
    (hans : w₂.bus.answers = w₁.bus.answers) (hxfers : w₂.bus.xfers = w₁.bus.xfers)
    (regs : List (UInt8 × UInt8)) :
    (mcp23017WriteRegs chipApi regs w₁).1 = (mcp23017WriteRegs chipApi regs w₂).1 := by
  induction regs generalizing w₁ w₂ with
  | nil =>
      rfl
  | cons head rest ih =>
      rcases head with ⟨reg, data⟩
      have hanswer : w₂.bus.answer = w₁.bus.answer := by
        simp [ChipBus.answer, hans, hxfers]
      have htail := @ih ⟨w₁.dev, w₁.bus.afterWrite slot [reg, data]⟩
        ⟨w₂.dev, w₂.bus.afterWrite slot [reg, data]⟩ hat₁ hat₂ hans (congrArg (· + 1) hxfers)
      rw [writeRegs_cons hat₁, writeRegs_cons hat₂, hanswer]
      split
      · exact htail
      · rfl

/-- However the init sequence ends, the polarity registers of all chips are as they were. -/
theorem writeRegs_ipol (hat : w.dev.Attached slot) (config : Mcp23017Config Nat) (slot' : Slot)
    (port : Port) :
    (mcp23017WriteRegs chipApi (mcp23017InitSequence config) w).2.bus.chips slot' (.ipol port) =
      w.bus.chips slot' (.ipol port) := by
  by_cases hslot : slot' = slot
  · subst hslot
    rcases writeRegs_chip hat (mcp23017InitSequence config) with ⟨n, _, _, hchip⟩
    rw [hchip]
    exact writeAll_ipol _ config port n
  · rw [writeRegs_other hat hslot]

end WriteRegs

section Init

variable {prior₁ prior₂ : Slot → RegFile} {w₁ w₂ : ChipWorld} {stored : Slot → Port → Bool}

/-- A completed `init` brings two drivers together, whatever state they and their chips were in. -/
theorem init_completed_twin {config : Mcp23017Config Nat} (hvalid : config.Valid)
    (hadd : w₁.bus.answers.addDevice = espOk) (hans : w₂.bus.answers = w₁.bus.answers)
    (hxfers : w₂.bus.xfers = w₁.bus.xfers)
    (hret : (mcp23017WriteRegs chipApi (mcp23017InitSequence config) (deviceAdded config w₁)).1 =
      espOk)
    (hkept : ∀ slot port, stored slot port = false →
      w₁.bus.chips slot (.ipol port) = prior₁ slot (.ipol port) ∧
        w₂.bus.chips slot (.ipol port) = prior₂ slot (.ipol port))
    (hstored : ∀ slot port, stored slot port = true →
      w₁.bus.chips slot (.ipol port) = w₂.bus.chips slot (.ipol port)) :
    Matched prior₁ prior₂ stored (mcp23017Init chipApi (some ()) (some config) w₁)
      (mcp23017Init chipApi (some ()) (some config) w₂) := by
  have hat := fun w => @deviceAdded_attached config w hvalid
  have hadd₂ : w₂.bus.answers.addDevice = espOk := by
    rw [hans, hadd]
  have hret₂ := (writeRegs_ret_eq (hat w₁) (hat w₂) hans hxfers (mcp23017InitSequence config)).symm.trans
    hret
  rcases init_completed hvalid hadd hret with ⟨bus₁, heq₁, hchips₁⟩
  rcases init_completed hvalid hadd₂ hret₂ with ⟨bus₂, heq₂, hchips₂⟩
  rw [heq₁, heq₂]
  -- the sequence has no write to a polarity register, on this chip or another
  have hipol₁ : ∀ slot port, bus₁.chips slot (.ipol port) = w₁.bus.chips slot (.ipol port) := by
    intro slot port
    by_cases hslot : slot = config.slot
    · simp [hchips₁, hslot, configured_ipol]
    · simp [hchips₁, hslot]
  have hipol₂ : ∀ slot port, bus₂.chips slot (.ipol port) = w₂.bus.chips slot (.ipol port) := by
    intro slot port
    by_cases hslot : slot = config.slot
    · simp [hchips₂, hslot, configured_ipol]
    · simp [hchips₂, hslot]
  refine ⟨rfl, rfl, fun _ => ⟨config.slot, ⟨hvalid.bus_eq, rfl, rfl⟩, ?_⟩, ?_, ?_⟩
  · simpa [hchips₁, hchips₂] using configured_alike _ _ config
  · intro slot port hnot
    simpa only [hipol₁, hipol₂] using hkept slot port hnot
  · intro slot port hset
    simpa only [hipol₁, hipol₂] using hstored slot port hset

theorem init_matched (hinv : TwinInv prior₁ prior₂ w₁ w₂ stored)
    (hans : w₂.bus.answers = w₁.bus.answers) (hxfers : w₂.bus.xfers = w₁.bus.xfers)
    (dev : Option Unit) (config : Option (Mcp23017Config Nat)) :
    Matched prior₁ prior₂ stored (mcp23017Init chipApi dev config w₁)
      (mcp23017Init chipApi dev config w₂) := by
  by_cases hargs : dev = some () ∧ ∃ c, config = some c ∧ c.Valid
  · rcases hargs with ⟨rfl, c, rfl, hvalid⟩
    by_cases hadd : w₁.bus.answers.addDevice = espOk
    · by_cases hret : (mcp23017WriteRegs chipApi (mcp23017InitSequence c) (deviceAdded c w₁)).1 =
          espOk
      · exact init_completed_twin hvalid hadd hans hxfers hret hinv.kept hinv.stored
      · -- some write fails in both runs, and both drivers stay down
        have hat := fun w => @deviceAdded_attached c w hvalid
        have hsame := writeRegs_ret_eq (hat w₁) (hat w₂) hans hxfers (mcp23017InitSequence c)
        have hdev := fun w => (writeRegs_spec (hat w) (mcp23017InitSequence c)).1
        have hipol := fun w => writeRegs_ipol (hat w) c
        rw [init_granted hvalid hadd, init_granted hvalid (hans ▸ hadd)]
        simp only [ne_eq, ← hsame, hret, not_false_eq_true, if_true]
        refine ⟨hsame, ?_, ?_, ?_, ?_⟩
        · rw [hdev w₁, hdev w₂]
          simp [deviceAdded, hinv.dev]
        · rw [hdev w₁]
          exact fun hready => Bool.noConfusion hready
        · intro slot port hnot
          simpa only [hipol, deviceAdded_chips] using hinv.kept slot port hnot
        · intro slot port hset
          simpa only [hipol, deviceAdded_chips] using hinv.stored slot port hset
    · rw [init_refused hvalid hadd, init_refused hvalid (hans ▸ hadd), hans]
      exact ⟨rfl, hinv.same (by simp [deviceRefused, hinv.dev]) rfl rfl
        fun hready => Bool.noConfusion hready⟩
  · rw [init_turnedAway hargs, init_turnedAway hargs]
    exact ⟨rfl, hinv⟩

end Init

/-! ## Operations that read -/

/-- The byte a read of the `GPIO` register of a port puts on the wire. -/
def portRead (chip : RegFile) (outside : Port → UInt8) (port : Port) : UInt8 :=
  pinLevels chip outside port ^^^ chip (.ipol port)

/-- Bit by bit it is the level of the pin, inverted where the polarity bit is set. -/
theorem bit_portRead (chip : RegFile) (outside : Port → UInt8) (port : Port) (i : Fin 8) :
    Bits.bit (portRead chip outside port) i =
      (Bits.bit (pinLevels chip outside port) i ^^ Bits.bit (chip (.ipol port)) i) :=
  Bits.bit_xor _ _ i

theorem read_gpio {chip : RegFile} (hb : bank chip = false) (outside : Port → UInt8) (port : UInt32) :
    Mcp23017Chip.read chip outside (ofPort port mcp23017RegGpioa mcp23017RegGpiob) =
      portRead chip outside (sideOf port) := by
  have ha : regAt false mcp23017RegGpioa = some (.gpio .a) := rfl
  have hb' : regAt false mcp23017RegGpiob = some (.gpio .b) := rfl
  by_cases hport : port = mcp23017PortA
  · simp [Mcp23017Chip.read, hb, ofPort, sideOf, hport, ha, portRead]
  · simp [Mcp23017Chip.read, hb, ofPort, sideOf, hport, hb', portRead]

section Reads

variable {w : ChipWorld} {slot : Slot} {dev : Option Unit} {port : UInt32} {pin : UInt8}

theorem readReg_value (hat : w.dev.Attached slot) (reg old : UInt8) :
    mcp23017ReadReg chipApi reg old w =
      (w.bus.answer,
        if w.bus.answer = espOk then
          Mcp23017Chip.read (w.bus.chips slot) (w.bus.answers.outside slot) reg
        else old,
        ⟨w.dev, w.bus.afterRead slot [reg] 1⟩) := by
  by_cases hok : w.bus.answer = espOk <;>
    simp [mcp23017ReadReg, chipApi, ChipBus.writeRead, hat.busHandle, hat.devHandle, hok]

/-- An accepted `read_port`: the port as it is read, or the caller's byte as it was. -/
theorem readPort_value (hat : w.dev.Attached slot) (hb : bank (w.bus.chips slot) = false)
    (hready : mcp23017IsReady dev w = true) (hport : PortOk port) (old : UInt8) :
    mcp23017ReadPort chipApi dev port (some old) w =
      (w.bus.answer,
        some (if w.bus.answer = espOk then
          portRead (w.bus.chips slot) (w.bus.answers.outside slot) (sideOf port) else old),
        ⟨w.dev, w.bus.afterRead slot [ofPort port mcp23017RegGpioa mcp23017RegGpiob] 1⟩) := by
  have hnot := portOk_iff.1 hport
  simp [mcp23017ReadPort, hready, hnot, readReg_value hat, read_gpio hb]

/-- An accepted `read_pin`: one bit of the same byte, or the caller's variable as it was. -/
theorem readPin_value (hat : w.dev.Attached slot) (hb : bank (w.bus.chips slot) = false)
    (hready : mcp23017IsReady dev w = true) (hport : PortOk port) (hpin : pin ≤ mcp23017PinMax)
    {out : Option Bool} (hout : out ≠ none) :
    mcp23017ReadPin chipApi dev port pin out w =
      (w.bus.answer,
        if w.bus.answer = espOk then
          some (Bits.testBit
            (portRead (w.bus.chips slot) (w.bus.answers.outside slot) (sideOf port)) pin)
        else out,
        ⟨w.dev, w.bus.afterRead slot [ofPort port mcp23017RegGpioa mcp23017RegGpiob] 1⟩) := by
  have hnot := portOk_iff.1 hport
  by_cases hok : w.bus.answer = espOk
  · simp [mcp23017ReadPin, hready, hnot, UInt8.not_lt.2 hpin, hout, readReg_value hat, read_gpio hb,
      hok]
  · simp [mcp23017ReadPin, hready, hnot, UInt8.not_lt.2 hpin, hout, readReg_value hat, hok]

end Reads

/-- What the caller sees of a pin that is read. -/
theorem level_of_readsPin {w : ChipWorld} {m : ChipMove} {slot : Slot} (hat : w.dev.Attached slot)
    (hb : bank (w.bus.chips slot) = false) {port : Port} {i : Fin 8} (hread : ReadsPin w m port i) :
    (chipExec w m).1.level i =
      some (Bits.bit (portRead (w.bus.chips slot) (m.answers.outside slot) port) i) := by
  rcases m with ⟨call, answers⟩
  rcases hread with ⟨hready, hargs, hok, hcall⟩
  have hans : (armed w ⟨call, answers⟩).bus.answer = espOk := hok
  have hat' : (armed w ⟨call, answers⟩).dev.Attached slot := hat
  cases call with
  | readPort dev p out =>
      have hready' := mcp23017IsReady_iff.2 ⟨hargs.1, hready⟩
      rcases Option.ne_none_iff_exists'.1 hargs.2.2 with ⟨old, rfl⟩
      have hvalue := readPort_value (w := armed w ⟨.readPort dev p (some old), answers⟩) hat' hb
        hready' hargs.2.1 old
      have hside : sideOf p = port := hcall
      simp only [chipExec, Mcp23017Call.exec, hvalue, hans, if_true, hside, Mcp23017Result.level]
      rfl
  | readPin dev p pin out =>
      have hready' := mcp23017IsReady_iff.2 ⟨hargs.1, hready⟩
      have hpin : pin ≤ mcp23017PinMax := hargs.2.2.1
      have hvalue := readPin_value (w := armed w ⟨.readPin dev p pin out, answers⟩) hat' hb
        hready' hargs.2.1 hpin hargs.2.2.2
      have hindex : Bits.index pin hpin = i := Fin.ext hcall.2
      simp only [chipExec, Mcp23017Call.exec, hvalue, hans, if_true, hcall.1, Mcp23017Result.level,
        Bits.testBit_eq _ pin hpin, hindex]
      rfl
  | _ =>
      exact hcall.elim

/-! ## One call in both runs -/

section Calls

variable {prior₁ prior₂ : Slot → RegFile} {s : Twins} {m : ChipMove}

/-- The two chips have the same polarity where the call reads. -/
def PolarityEq (s : Twins) (m : ChipMove) : Prop :=
  ∀ port i, ReadsPin s.first m port i →
    Bits.bit (s.first.bus.chips s.first.dev.home (.ipol port)) i =
      Bits.bit (s.second.bus.chips s.first.dev.home (.ipol port)) i

/-- The invariant survives the call, and its results are the same exactly if the polarities are. -/
def CallMatched (prior₁ prior₂ : Slot → RegFile) (s : Twins) (m : ChipMove) : Prop :=
  TwinInv prior₁ prior₂ (chipStep s.first m) (chipStep s.second m) (twinStep s m).stored ∧
    (SameResult s m ↔ PolarityEq s m)

/-- A call that reads nothing, as the operation `op` on the armed world. -/
theorem callMatched_of_matched (stored : Slot → Port → Bool) (op : ChipWorld → EspErr × ChipWorld)
    (hmatched : Matched prior₁ prior₂ stored (op (armed s.first m)) (op (armed s.second m)))
    (hstored : (twinStep s m).stored = stored)
    (hexec : ∀ w, chipExec w m = (⟨(op (armed w m)).1, none, none⟩, (op (armed w m)).2))
    (hno : ∀ port i, ¬ReadsPin s.first m port i) : CallMatched prior₁ prior₂ s m := by
  refine ⟨?_, fun _ port i hread => absurd hread (hno port i), fun _ => ?_⟩
  · rw [chipStep, chipStep, hexec, hexec, hstored]
    exact hmatched.2
  · rw [SameResult, hexec, hexec, hmatched.1]

theorem twinStep_stored_of_not (h : ∀ slot port, storesPolarity s.first m slot port = false) :
    (twinStep s m).stored = s.stored := by
  funext slot port
  simp [twinStep, h slot port]

/-- Such a call when it stores no polarity either. -/
theorem callMatched_of_plain (op : ChipWorld → EspErr × ChipWorld)
    (hmatched : Matched prior₁ prior₂ s.stored (op (armed s.first m)) (op (armed s.second m)))
    (hstores : ∀ slot port, storesPolarity s.first m slot port = false)
    (hexec : ∀ w, chipExec w m = (⟨(op (armed w m)).1, none, none⟩, (op (armed w m)).2))
    (hno : ∀ port i, ¬ReadsPin s.first m port i) : CallMatched prior₁ prior₂ s m :=
  callMatched_of_matched s.stored op hmatched (twinStep_stored_of_not hstores) hexec hno

/-- A call that leaves drivers and chips alone and gives the same result. -/
theorem callMatched_of_same (hinv : TwinInv prior₁ prior₂ s.first s.second s.stored)
    (hstored : (twinStep s m).stored = s.stored)
    (h₁ : (chipStep s.first m).dev = s.first.dev ∧
      (chipStep s.first m).bus.chips = s.first.bus.chips)
    (h₂ : (chipStep s.second m).dev = s.second.dev ∧
      (chipStep s.second m).bus.chips = s.second.bus.chips)
    (hiff : SameResult s m ↔ PolarityEq s m) : CallMatched prior₁ prior₂ s m := by
  refine ⟨?_, hiff⟩
  rw [hstored]
  have hdev : (chipStep s.second m).dev = (chipStep s.first m).dev := by
    rw [h₁.1, h₂.1, hinv.dev]
  exact hinv.same hdev h₁.2 h₂.2 fun _ => h₁.1

/-- A call that gives the same result and reads nothing. -/
theorem sameResult_iff_of_none (heq : SameResult s m) (hno : ∀ port i, ¬ReadsPin s.first m port i) :
    SameResult s m ↔ PolarityEq s m :=
  ⟨fun _ port i hread => absurd hread (hno port i), fun _ => heq⟩

/-- A call whose result is the byte read from the chip, seen through `view`, which shows the pins
`shown` of it. -/
theorem sameResult_iff_of_read {slot : Slot} (side : Port) (view : UInt8 → Mcp23017Result)
    (shown : Fin 8 → Prop) (hhome : s.first.dev.home = slot)
    (halike : Alike (s.first.bus.chips slot) (s.second.bus.chips slot))
    (h₁ : (chipExec s.first m).1 =
      view (portRead (s.first.bus.chips slot) (m.answers.outside slot) side))
    (h₂ : (chipExec s.second m).1 =
      view (portRead (s.second.bus.chips slot) (m.answers.outside slot) side))
    (hview : ∀ a b, view a = view b ↔ ∀ i, shown i → Bits.bit a i = Bits.bit b i)
    (hreads : ∀ port i, ReadsPin s.first m port i ↔ side = port ∧ shown i) :
    SameResult s m ↔ PolarityEq s m := by
  have hlevels := halike.pinLevels_eq (m.answers.outside slot) side
  -- the levels are the same, so what differs is the polarity
  have hbits : ∀ i, Bits.bit (portRead (s.first.bus.chips slot) (m.answers.outside slot) side) i =
        Bits.bit (portRead (s.second.bus.chips slot) (m.answers.outside slot) side) i ↔
      Bits.bit (s.first.bus.chips slot (.ipol side)) i =
        Bits.bit (s.second.bus.chips slot (.ipol side)) i := by
    intro i
    rw [bit_portRead, bit_portRead, hlevels, Bool.xor_right_inj]
  rw [SameResult, h₁, h₂, hview, PolarityEq, hhome]
  constructor
  · intro h port i hread
    rcases (hreads port i).1 hread with ⟨rfl, hshown⟩
    exact (hbits i).1 (h i hshown)
  · intro h i hshown
    exact (hbits i).2 (h side i ((hreads side i).2 ⟨rfl, hshown⟩))

theorem TwinInv.attached (hinv : TwinInv prior₁ prior₂ s.first s.second s.stored) :
    s.first.dev.isInitialized = true → ∃ slot, s.first.dev.Attached slot := by
  intro hready
  rcases hinv.ready hready with ⟨slot, hat, _⟩
  exact ⟨slot, hat⟩

theorem TwinInv.armed (hinv : TwinInv prior₁ prior₂ s.first s.second s.stored) (m : ChipMove) :
    TwinInv prior₁ prior₂ (armed s.first m) (armed s.second m) s.stored :=
  ⟨hinv.dev, hinv.ready, hinv.kept, hinv.stored⟩

theorem answer_armed (w : ChipWorld) (m : ChipMove) : (armed w m).bus.answer = m.answers.xfer 0 :=
  rfl

theorem readPort_callMatched {dev : Option Unit} {port : UInt32} {out : Option UInt8}
    {answers : Answers} (hinv : TwinInv prior₁ prior₂ s.first s.second s.stored) :
    CallMatched prior₁ prior₂ s ⟨.readPort dev port out, answers⟩ := by
  have hinv' := hinv.armed ⟨.readPort dev port out, answers⟩
  have hsame := fun (w : ChipWorld) hat => @readPort_same ⟨w.dev, w.bus.arm answers⟩ dev port out hat
  refine callMatched_of_same hinv (twinStep_stored_of_not fun _ _ => rfl)
    (hsame s.first hinv.attached) (hsame s.second (by rw [hinv.dev]; exact hinv.attached)) ?_
  by_cases hacc : mcp23017IsReady dev (armed s.first ⟨.readPort dev port out, answers⟩) = true ∧
      PortOk port ∧ out ≠ none
  · rcases hacc with ⟨hready, hport, hout⟩
    rcases Option.ne_none_iff_exists'.1 hout with ⟨old, rfl⟩
    have hready' := mcp23017IsReady_iff.1 hready
    rcases hinv.ready hready'.2 with ⟨slot, hat, halike⟩
    have hat₂ : s.second.dev.Attached slot := hinv.dev ▸ hat
    have hvalue₁ := readPort_value (w := armed s.first ⟨.readPort dev port (some old), answers⟩) hat
      halike.bank₁ hready hport old
    have hvalue₂ := readPort_value (w := armed s.second ⟨.readPort dev port (some old), answers⟩)
      hat₂ halike.bank₂ ((hinv'.ready_eq dev).trans hready) hport old
    by_cases hok : answers.xfer 0 = espOk
    · refine sameResult_iff_of_read (sideOf port) (fun value => ⟨espOk, some value, none⟩)
        (fun _ => True) hat.home_eq halike ?_ ?_ ?_ ?_
      · simp only [chipExec, Mcp23017Call.exec, hvalue₁, answer_armed, hok, if_true]
        rfl
      · simp only [chipExec, Mcp23017Call.exec, hvalue₂, answer_armed, hok, if_true]
        rfl
      · intro a b
        simp [← Bits.bit_injective.eq_iff, funext_iff]
      · intro port' i
        have hup : s.first.dev.isInitialized = true := hready'.2
        simp [ReadsPin, Mcp23017Call.ArgsOk, hready'.1, hup, hport, hok]
    · refine sameResult_iff_of_none ?_ fun _ _ hread => hok hread.2.2.1
      simp only [SameResult, chipExec, Mcp23017Call.exec, hvalue₁, hvalue₂, answer_armed, hok, if_false]
  · refine sameResult_iff_of_none ?_ fun _ _ hread => hacc
      ⟨mcp23017IsReady_iff.2 ⟨hread.2.1.1, hread.1⟩, hread.2.1.2⟩
    simp only [SameResult, chipExec, Mcp23017Call.exec, readPort_turnedAway hacc,
      readPort_turnedAway (hinv'.ready_eq dev ▸ hacc), hinv'.ready_eq dev]

theorem readPin_callMatched {dev : Option Unit} {port : UInt32} {pin : UInt8} {out : Option Bool}
    {answers : Answers} (hinv : TwinInv prior₁ prior₂ s.first s.second s.stored) :
    CallMatched prior₁ prior₂ s ⟨.readPin dev port pin out, answers⟩ := by
  have hinv' := hinv.armed ⟨.readPin dev port pin out, answers⟩
  have hsame := fun (w : ChipWorld) hat =>
    @readPin_same ⟨w.dev, w.bus.arm answers⟩ dev port pin out hat
  refine callMatched_of_same hinv (twinStep_stored_of_not fun _ _ => rfl)
    (hsame s.first hinv.attached) (hsame s.second (by rw [hinv.dev]; exact hinv.attached)) ?_
  by_cases hacc : mcp23017IsReady dev (armed s.first ⟨.readPin dev port pin out, answers⟩) = true ∧
      PortOk port ∧ pin ≤ mcp23017PinMax ∧ out ≠ none
  · rcases hacc with ⟨hready, hport, hpin, hout⟩
    have hready' := mcp23017IsReady_iff.1 hready
    rcases hinv.ready hready'.2 with ⟨slot, hat, halike⟩
    have hat₂ : s.second.dev.Attached slot := hinv.dev ▸ hat
    have hvalue₁ := readPin_value (w := armed s.first ⟨.readPin dev port pin out, answers⟩) hat
      halike.bank₁ hready hport hpin hout
    have hvalue₂ := readPin_value (w := armed s.second ⟨.readPin dev port pin out, answers⟩) hat₂
      halike.bank₂ ((hinv'.ready_eq dev).trans hready) hport hpin hout
    by_cases hok : answers.xfer 0 = espOk
    · refine sameResult_iff_of_read (sideOf port)
        (fun value => ⟨espOk, none, some (Bits.testBit value pin)⟩) (fun i => pin.toNat = i)
        hat.home_eq halike ?_ ?_ ?_ ?_
      · simp only [chipExec, Mcp23017Call.exec, hvalue₁, answer_armed, hok, if_true]
        rfl
      · simp only [chipExec, Mcp23017Call.exec, hvalue₂, answer_armed, hok, if_true]
        rfl
      · intro a b
        -- of the byte read the caller sees one bit
        have hone : (∀ i : Fin 8, pin.toNat = i → Bits.bit a i = Bits.bit b i) ↔
            Bits.bit a (Bits.index pin hpin) = Bits.bit b (Bits.index pin hpin) := by
          refine ⟨fun h => h _ rfl, fun h i hi => ?_⟩
          have hindex : Bits.index pin hpin = i := Fin.ext hi
          exact hindex ▸ h
        simp [hone, Bits.testBit_eq _ pin hpin]
      · intro port' i
        have hup : s.first.dev.isInitialized = true := hready'.2
        simp [ReadsPin, Mcp23017Call.ArgsOk, hready'.1, hup, hport, hpin, hout, hok]
    · refine sameResult_iff_of_none ?_ fun _ _ hread => hok hread.2.2.1
      simp only [SameResult, chipExec, Mcp23017Call.exec, hvalue₁, hvalue₂, answer_armed, hok, if_false]
  · refine sameResult_iff_of_none ?_ fun _ _ hread => hacc
      ⟨mcp23017IsReady_iff.2 ⟨hread.2.1.1, hread.1⟩, hread.2.1.2⟩
    simp only [SameResult, chipExec, Mcp23017Call.exec, readPin_turnedAway hacc,
      readPin_turnedAway (hinv'.ready_eq dev ▸ hacc), hinv'.ready_eq dev]

/-- One call, in both runs. -/
theorem call_matched (hinv : TwinInv prior₁ prior₂ s.first s.second s.stored) (m : ChipMove) :
    CallMatched prior₁ prior₂ s m := by
  have hinv' := hinv.armed m
  rcases m with ⟨call, answers⟩
  cases call with
  | init dev config =>
      exact callMatched_of_plain (mcp23017Init chipApi dev config)
        (init_matched hinv' rfl rfl dev config) (fun _ _ => rfl) (fun _ => rfl)
        fun _ _ h => h.2.2.2
  | deinit dev =>
      refine callMatched_of_plain (fun w => (espOk, mcp23017Deinit dev w)) ?_
        (fun _ _ => rfl) (fun _ => rfl) fun _ _ h => h.2.2.2
      cases dev with
      | none =>
          exact ⟨rfl, hinv'⟩
      | some u =>
          exact ⟨rfl, hinv'.same rfl rfl rfl fun hready => Bool.noConfusion hready⟩
  | setPortDirection dev port dirMask =>
      exact callMatched_of_plain (mcp23017SetPortDirection chipApi dev port dirMask)
        (writePortReg_matched hinv' rfl plain_iodir
          (fun _ _ => Mcp23017.setShadow_attached .dir port dirMask) (by simp))
        (fun _ _ => rfl) (fun _ => rfl) fun _ _ h => h.2.2.2
  | writePort dev port value =>
      exact callMatched_of_plain (mcp23017WritePort chipApi dev port value)
        (writePortReg_matched hinv' rfl plain_olat
          (fun _ _ => Mcp23017.setShadow_attached .olat port value) (by simp))
        (fun _ _ => rfl) (fun _ => rfl) fun _ _ h => h.2.2.2
  | readPort dev port out =>
      exact readPort_callMatched hinv
  | setPortPullup dev port pullupMask =>
      exact callMatched_of_plain (mcp23017SetPortPullup chipApi dev port pullupMask)
        (writePortReg_matched hinv' rfl plain_gppu (fun _ _ hat => hat) (by simp))
        (fun _ _ => rfl) (fun _ => rfl) fun _ _ h => h.2.2.2
  | setPortPolarity dev port polarityMask =>
      -- the one operation after which the two chips agree on a polarity register
      exact callMatched_of_matched _ (mcp23017SetPortPolarity chipApi dev port polarityMask)
        (writePortReg_matched hinv' rfl plain_ipol (fun _ _ hat => hat) (fun slot side => by
          simp [twinStep, storesPolarity, armed, ChipBus.answer, mcp23017IsReady]))
        rfl (fun _ => rfl) fun _ _ h => h.2.2.2
  | setPinDirection dev port pin direction =>
      exact callMatched_of_plain (mcp23017SetPinDirection chipApi dev port pin direction)
        (modifyPin_matched hinv' rfl plain_iodir)
        (fun _ _ => rfl) (fun _ => rfl) fun _ _ h => h.2.2.2
  | writePin dev port pin value =>
      exact callMatched_of_plain (mcp23017WritePin chipApi dev port pin value)
        (modifyPin_matched hinv' rfl plain_olat)
        (fun _ _ => rfl) (fun _ => rfl) fun _ _ h => h.2.2.2
  | readPin dev port pin out =>
      exact readPin_callMatched hinv
  | togglePin dev port pin =>
      exact callMatched_of_plain (mcp23017TogglePin chipApi dev port pin)
        (modifyPin_matched hinv' rfl plain_olat)
        (fun _ _ => rfl) (fun _ => rfl) fun _ _ h => h.2.2.2

/-- What was stored is the same in both runs, the rest is as it was before. -/
theorem polarityEq_iff_agrees (hinv : TwinInv prior₁ prior₂ s.first s.second s.stored)
    (m : ChipMove) : PolarityEq s m ↔ PolarityAgrees prior₁ prior₂ s m := by
  constructor
  · intro heq port i hread hnot
    have hkept := hinv.kept s.first.dev.home port hnot
    rw [← hkept.1, ← hkept.2]
    exact heq port i hread
  · intro hagrees port i hread
    cases hstored : s.stored s.first.dev.home port with
    | false =>
        have hkept := hinv.kept s.first.dev.home port hstored
        rw [hkept.1, hkept.2]
        exact hagrees port i hread hstored
    | true =>
        rw [hinv.stored s.first.dev.home port hstored]

theorem readsLive_iff_clear (hinv : TwinInv prior₁ prior₂ s.first s.second s.stored)
    (m : ChipMove) : ReadsLive s m ↔ PolarityClear prior₁ s m := by
  refine forall_congr' fun port => forall_congr' fun i => forall_congr' fun hread =>
    forall_congr' fun hnot => ?_
  rcases hinv.ready hread.1 with ⟨slot, hat, halike⟩
  have hkept := (hinv.kept s.first.dev.home port hnot).1
  rw [hat.home_eq] at hkept
  rw [level_of_readsPin hat halike.bank₁ hread, Option.some_inj, bit_portRead, hkept,
    Mcp23017World.chip, hat.home_eq]
  cases Bits.bit (prior₁ slot (.ipol port)) i <;> simp

end Calls

/-! ## The run after an `init` -/

/-- Both runs just after `init`, before anything else is stored. -/
def initialised (w₁ w₂ : ChipWorld) (config : Mcp23017Config Nat) (answers : Answers) : Twins :=
  ⟨chipStep w₁ ⟨.init (some ()) (some config), answers⟩,
    chipStep w₂ ⟨.init (some ()) (some config), answers⟩, fun _ _ => false⟩

/-- A completed `init` establishes the invariant for what the chips held before it. -/
theorem initialised_inv {w₁ w₂ : ChipWorld} {config : Mcp23017Config Nat} {answers : Answers}
    (hinit : (chipExec w₁ ⟨.init (some ()) (some config), answers⟩).1.ret = espOk) :
    TwinInv w₁.bus.chips w₂.bus.chips (initialised w₁ w₂ config answers).first
      (initialised w₁ w₂ config answers).second (initialised w₁ w₂ config answers).stored := by
  rcases init_ok_inv hinit with ⟨hvalid, hadd, hret⟩
  have hmatched : Matched w₁.bus.chips w₂.bus.chips (fun _ _ => false)
      (mcp23017Init chipApi (some ()) (some config)
        (armed w₁ ⟨.init (some ()) (some config), answers⟩))
      (mcp23017Init chipApi (some ()) (some config)
        (armed w₂ ⟨.init (some ()) (some config), answers⟩)) := by
    refine init_completed_twin hvalid hadd rfl rfl hret (fun _ _ _ => ⟨rfl, rfl⟩) ?_
    exact fun _ _ hset => Bool.noConfusion hset
  exact hmatched.2

/-- For any two driver contexts and chips before the same successful `init`, and any calls and answers
after it: every result is the same in both runs exactly if every pin read has the same polarity bit
in both prior contents or a polarity stored since, and every read of a port without a stored polarity
shows the live levels exactly if the polarity bits read were clear before. -/
theorem results_independent_of_prior_iff (w₁ w₂ : ChipWorld) (config : Mcp23017Config Nat)
    (answers : Answers) (ms : List ChipMove)
    (hinit : (chipExec w₁ ⟨.init (some ()) (some config), answers⟩).1.ret = espOk) :
    ((∀ m ∈ moves twinStep (initialised w₁ w₂ config answers) ms, SameResult m.1 m.2) ↔
        ∀ m ∈ moves twinStep (initialised w₁ w₂ config answers) ms,
          PolarityAgrees w₁.bus.chips w₂.bus.chips m.1 m.2) ∧
      ((∀ m ∈ moves twinStep (initialised w₁ w₂ config answers) ms, ReadsLive m.1 m.2) ↔
        ∀ m ∈ moves twinStep (initialised w₁ w₂ config answers) ms,
          PolarityClear w₁.bus.chips m.1 m.2) := by
  have hstart := @initialised_inv w₁ w₂ config answers hinit
  have hstep : ∀ (s : Twins) (m : ChipMove),
      TwinInv w₁.bus.chips w₂.bus.chips s.first s.second s.stored →
        TwinInv w₁.bus.chips w₂.bus.chips (twinStep s m).first (twinStep s m).second
          (twinStep s m).stored :=
    fun s m hinv => (call_matched hinv m).1
  constructor
  · refine forall_moves_iff (fun s m hinv => ?_) (fun s m hinv _ => hstep s m hinv) hstart ms
    exact (call_matched hinv m).2.trans (polarityEq_iff_agrees hinv m)
  · exact forall_moves_iff (fun s m hinv => readsLive_iff_clear hinv m)
      (fun s m hinv _ => hstep s m hinv) hstart ms

/-- A chip whose port A was inverted before the MCU was reset. -/
def leftInverted : ChipWorld :=
  ⟨Mcp23017.zero, fun _ reg => match reg with
      | .iodir _ => 0xFF
      | .ipol .a => 0xFF
      | _ => 0x00, healthy, 0, []⟩

/-- All pins as inputs. -/
def inputsConfig : Mcp23017Config Nat :=
  ⟨some 0, 0x20, 400000, 0xFF, 0xFF, 0, 0⟩

/-- All pins are low; after a successful `init` the same read gives `0x00` on a chip that was powered
on and `0xFF` on one whose port A was left inverted. -/
theorem init_leaves_port_inverted :
    (chipExec powerOn ⟨.init (some ()) (some inputsConfig), healthy⟩).1.ret = espOk ∧
      (chipExec leftInverted ⟨.init (some ()) (some inputsConfig), healthy⟩).1.ret = espOk ∧
      (let s := initialised powerOn leftInverted inputsConfig healthy
       let m : ChipMove := ⟨.readPort (some ()) mcp23017PortA (some 0), healthy⟩
       (chipExec s.first m).1 = ⟨espOk, some 0x00, none⟩ ∧
         (chipExec s.second m).1 = ⟨espOk, some 0xFF, none⟩ ∧ ¬ SameResult s m) := by
  refine ⟨by decide, by decide, by decide, by decide, ?_⟩
  intro hsame
  exact absurd (congrArg (fun r => r.port) hsame) (by decide)

/-- The next read after `init`, on the two chips. -/
def nextRead : List ChipMove :=
  [⟨.readPort (some ()) mcp23017PortA (some 0), healthy⟩]

theorem results_independent_of_prior_iff_inverted :
    (chipExec leftInverted ⟨.init (some ()) (some inputsConfig), healthy⟩).1.ret = espOk ∧
      ((∀ m ∈ moves twinStep (initialised leftInverted powerOn inputsConfig healthy) nextRead,
          SameResult m.1 m.2) ↔
        ∀ m ∈ moves twinStep (initialised leftInverted powerOn inputsConfig healthy) nextRead,
          PolarityAgrees leftInverted.bus.chips powerOn.bus.chips m.1 m.2) := by
  have hinit : (chipExec leftInverted ⟨.init (some ()) (some inputsConfig), healthy⟩).1.ret =
      espOk := by
    decide
  exact ⟨hinit,
    (results_independent_of_prior_iff leftInverted powerOn inputsConfig healthy nextRead hinit).1⟩

end MainboardFirmware
