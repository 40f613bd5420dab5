import MainboardFirmware.Library.Machine
import MainboardFirmware.Mcp23017.Init

/-!
# Shadow — do the shadow bytes mirror the chip?

The context keeps copies of `IODIRA/B` and `OLATA/B`. The port-level operations store a new copy
after the write to the chip has succeeded, the pin-level ones before they try it. Over every run the
copies and the registers agree, and failed calls change neither, exactly as long as no pin-level
call that would change its byte meets a failing write.
-/

namespace MainboardFirmware

open Mcp23017Chip Machine

/-! ## Runs of the driver -/

/-- A driver call with what the hardware answers during it. -/
structure ChipMove where
  call : Mcp23017Call Nat
  answers : Answers

/-- The state in which the body of a call runs. -/
def armed (w : ChipWorld) (m : ChipMove) : ChipWorld :=
  ⟨w.dev, w.bus.arm m.answers⟩

def chipExec (w : ChipWorld) (m : ChipMove) : Mcp23017Result × ChipWorld :=
  m.call.exec chipApi (armed w m)

def chipStep (w : ChipWorld) (m : ChipMove) : ChipWorld :=
  (chipExec w m).2

/-! ## The property and the condition -/

/-- The shadow bytes equal the registers. -/
structure ShadowsMatch (dev : Mcp23017 Nat Slot) (chip : RegFile) : Prop where
  dirA : dev.dirA = chip (.iodir .a)
  dirB : dev.dirB = chip (.iodir .b)
  olatA : dev.olatA = chip (.olat .a)
  olatB : dev.olatB = chip (.olat .b)

/-- In a ready driver the shadow bytes equal the registers of its chip. -/
def Synced (w : ChipWorld) : Prop :=
  w.dev.isInitialized = true → ShadowsMatch w.dev w.chip

/-- A call that leaves the driver ready although it failed has changed neither a shadow byte nor a
chip. -/
def FailedWithoutTrace (w : ChipWorld) (ret : EspErr) (w' : ChipWorld) : Prop :=
  ret ≠ espOk → w'.dev.isInitialized = true →
    (∀ kind side, w'.dev.shadowAt kind side = w.dev.shadowAt kind side) ∧
      w'.bus.chips = w.bus.chips

/-- What is asked of one call. -/
def KeepsSync (w : ChipWorld) (m : ChipMove) : Prop :=
  Synced (chipStep w m) ∧ FailedWithoutTrace w (chipExec w m).1.ret (chipStep w m)

/-- A pin-level write that is accepted either succeeds on the bus or finds the pin as it wants it. -/
def NoChangeLost (w : ChipWorld) (m : ChipMove) : Prop :=
  w.dev.isInitialized = true → m.call.ArgsOk →
    match m.call with
    | .setPinDirection _ port pin direction =>
        m.answers.xfer 0 = espOk ∨
          Bits.testBit (w.dev.shadow .dir port) pin = (direction == mcp23017DirInput)
    | .writePin _ port pin value =>
        m.answers.xfer 0 = espOk ∨ Bits.testBit (w.dev.shadow .olat port) pin = value
    | .togglePin _ _ _ => m.answers.xfer 0 = espOk
    | _ => True

/-! ## The invariant -/

/-- A ready driver holds the handle of its chip, the chip has the `BANK = 0` layout, and the shadow
bytes equal its registers. -/
def DriverInv (w : ChipWorld) : Prop :=
  w.dev.isInitialized = true →
    ∃ slot, w.dev.Attached slot ∧ bank (w.bus.chips slot) = false ∧
      ShadowsMatch w.dev (w.bus.chips slot)

theorem shadowsMatch_iff {dev : Mcp23017 Nat Slot} {chip : RegFile} :
    ShadowsMatch dev chip ↔ ∀ kind side, dev.shadowAt kind side = chip (kind.reg side) := by
  constructor
  · rintro ⟨hdirA, hdirB, holatA, holatB⟩ kind side
    cases kind <;> cases side <;> assumption
  · intro h
    exact ⟨h .dir .a, h .dir .b, h .olat .a, h .olat .b⟩

theorem DriverInv.synced {w : ChipWorld} (hinv : DriverInv w) : Synced w := by
  intro hready
  rcases hinv hready with ⟨slot, hat, _, hmatch⟩
  simpa [Mcp23017World.chip, hat.home_eq] using hmatch

/-- The result of a call keeps the invariant and meets the property. -/
def Kept (w : ChipWorld) (ret : EspErr) (w' : ChipWorld) : Prop :=
  DriverInv w' ∧ FailedWithoutTrace w ret w'

theorem kept_self {w : ChipWorld} (hinv : DriverInv w) (ret : EspErr) : Kept w ret w :=
  ⟨hinv, fun _ _ => ⟨fun _ _ => rfl, rfl⟩⟩

theorem kept_down {w w' : ChipWorld} (hdown : w'.dev.isInitialized = false) (ret : EspErr) :
    Kept w ret w' := by
  constructor
  · intro hready
    simp [hdown] at hready
  · intro _ hready
    simp [hdown] at hready

/-! ## Storing a shadow byte together with its register -/

/-- Storing `value` with `store` mirrors writing it to `reg`. -/
def Mirrors (store : Mcp23017 Nat Slot → UInt32 → UInt8 → Mcp23017 Nat Slot) (port : UInt32)
    (value : UInt8) (reg : Reg) : Prop :=
  ∀ dev slot chip, dev.Attached slot → ShadowsMatch dev chip →
    (store dev port value).Attached slot ∧
      ShadowsMatch (store dev port value) (Function.update chip reg value)

theorem mirrors_setShadow (kind : Mcp23017Shadow) (port : UInt32) (value : UInt8) :
    Mirrors (fun dev => dev.setShadow kind) port value (kind.reg (sideOf port)) := by
  intro dev slot chip hat hmatch
  refine ⟨Mcp23017.setShadow_attached kind port value hat, shadowsMatch_iff.2 fun kind' side => ?_⟩
  have hother := shadowsMatch_iff.1 hmatch kind' side
  rw [Mcp23017.shadowAt_setShadow, hother]
  cases kind <;> cases kind' <;> simp [Mcp23017Shadow.reg, Function.update_apply]

theorem mirrors_nothing {reg : Reg} (hreg : ∀ kind : Mcp23017Shadow, ∀ side, kind.reg side ≠ reg)
    (port : UInt32) (value : UInt8) : Mirrors (fun dev _ _ => dev) port value reg := by
  intro dev slot chip hat hmatch
  refine ⟨hat, shadowsMatch_iff.2 fun kind side => ?_⟩
  rw [Function.update_of_ne (hreg kind side), shadowsMatch_iff.1 hmatch kind side]

/-- Pull-ups and polarity have no shadow. -/
theorem mirrors_gppu (port : UInt32) (value : UInt8) :
    Mirrors (fun dev _ _ => dev) port value (.gppu (sideOf port)) :=
  mirrors_nothing (fun kind side => by cases kind <;> simp [Mcp23017Shadow.reg]) port value

theorem mirrors_ipol (port : UInt32) (value : UInt8) :
    Mirrors (fun dev _ _ => dev) port value (.ipol (sideOf port)) :=
  mirrors_nothing (fun kind side => by cases kind <;> simp [Mcp23017Shadow.reg]) port value

/-- The address for the selected port is that of the register on its side. -/
theorem plain_ofPort {regA regB : UInt8} {reg : Port → Reg} (hA : Plain regA (reg .a))
    (hB : Plain regB (reg .b)) (port : UInt32) : Plain (ofPort port regA regB) (reg (sideOf port)) := by
  by_cases hport : port = mcp23017PortA
  · simpa [ofPort, sideOf, hport] using hA
  · simpa [ofPort, sideOf, hport] using hB

/-! ## Each kind of operation -/

section Operations

variable {w : ChipWorld} {dev : Option Unit} {port : UInt32} {pin : UInt8}

/-- A write that succeeded, with the shadow stored, keeps the invariant. -/
theorem kept_of_written {slot : Slot} {ctx : Mcp23017 Nat Slot} {addr value : UInt8} {reg : Reg}
    (hb : bank (w.bus.chips slot) = false) (hplain : Plain addr reg)
    (hok : w.bus.answer = espOk) (hat : ctx.Attached slot)
    (hmatch : ShadowsMatch ctx (Function.update (w.bus.chips slot) reg value)) :
    Kept w w.bus.answer ⟨ctx, w.bus.afterWrite slot [addr, value]⟩ := by
  have hchip : (w.bus.afterWrite slot [addr, value]).chips slot =
      Function.update (w.bus.chips slot) reg value := by
    simp [ChipBus.afterWrite, hok, write_plain hb hplain]
  refine ⟨fun _ => ⟨slot, hat, ?_, ?_⟩, fun hfail => absurd hok hfail⟩
  · rw [hchip, bank_update hplain.2.2, hb]
  · rw [hchip]
    exact hmatch

theorem chips_afterWrite_failed (hfail : w.bus.answer ≠ espOk) (slot : Slot) (data : List UInt8) :
    (w.bus.afterWrite slot data).chips = w.bus.chips := by
  simp [ChipBus.afterWrite, hfail]

/-- A write that failed, with the context as it was, keeps the invariant. -/
theorem kept_of_failed (hinv : DriverInv w) (hfail : w.bus.answer ≠ espOk) (slot : Slot)
    (data : List UInt8) : Kept w w.bus.answer ⟨w.dev, w.bus.afterWrite slot data⟩ := by
  have hchips := chips_afterWrite_failed hfail slot data
  refine ⟨?_, fun _ _ => ⟨fun _ _ => rfl, hchips⟩⟩
  simpa only [DriverInv, hchips] using hinv

theorem writePortReg_kept (hinv : DriverInv w) {regA regB : UInt8} {reg : Port → Reg}
    {store : Mcp23017 Nat Slot → UInt32 → UInt8 → Mcp23017 Nat Slot} {value : UInt8}
    (hA : Plain regA (reg .a)) (hB : Plain regB (reg .b))
    (hstore : Mirrors store port value (reg (sideOf port))) :
    Kept w (writePortReg chipApi regA regB store dev port value w).1
      (writePortReg chipApi regA regB store dev port value w).2 := by
  by_cases hacc : mcp23017IsReady dev w = true ∧ PortOk port
  · rcases hinv (mcp23017IsReady_iff.1 hacc.1).2 with ⟨slot, hat, hb, hmatch⟩
    rw [writePortReg_accepted regA regB store value hat hacc.1 hacc.2]
    by_cases hok : w.bus.answer = espOk
    · -- chip and shadow take the new byte together
      rcases hstore w.dev slot _ hat hmatch with ⟨hat', hmatch'⟩
      simpa [hok] using kept_of_written hb (plain_ofPort hA hB port) hok hat' hmatch'
    · simpa [hok] using kept_of_failed hinv hok slot [ofPort port regA regB, value]
  · rcases writePortReg_rejected regA regB store value hacc with ⟨err, _, heq⟩
    rw [heq]
    exact kept_self hinv err

theorem modifyPin_kept (hinv : DriverInv w) {kind : Mcp23017Shadow} {regA regB : UInt8}
    {argOk : Bool} {modify : UInt8 → UInt8} (hA : Plain regA (kind.reg .a))
    (hB : Plain regB (kind.reg .b))
    (hharmless : mcp23017IsReady dev w = true ∧ PortOk port ∧ pin ≤ mcp23017PinMax ∧
      argOk = true → w.bus.answer = espOk ∨
        modify (w.dev.shadow kind port) = w.dev.shadow kind port) :
    Kept w (modifyPin chipApi kind regA regB argOk modify dev port pin w).1
      (modifyPin chipApi kind regA regB argOk modify dev port pin w).2 := by
  by_cases hacc : mcp23017IsReady dev w = true ∧ PortOk port ∧ pin ≤ mcp23017PinMax ∧ argOk = true
  · rcases hinv (mcp23017IsReady_iff.1 hacc.1).2 with ⟨slot, hat, hb, hmatch⟩
    rw [modifyPin_accepted kind regA regB argOk modify hat hacc.1 hacc.2.1 hacc.2.2.1 hacc.2.2.2]
    by_cases hok : w.bus.answer = espOk
    · rcases mirrors_setShadow kind port (modify (w.dev.shadow kind port)) w.dev slot _ hat hmatch
        with ⟨hat', hmatch'⟩
      exact kept_of_written hb (plain_ofPort hA hB port) hok hat' hmatch'
    · -- the write fails, but the byte stored is the one that was there
      have hsame : modify (w.dev.shadow kind port) = w.dev.shadow kind port :=
        (hharmless hacc).resolve_left hok
      rw [hsame, Mcp23017.setShadow_shadow]
      exact kept_of_failed hinv hok slot _
  · rcases modifyPin_rejected kind regA regB argOk modify hacc with ⟨err, _, heq⟩
    rw [heq]
    exact kept_self hinv err

/-- A change of a shadow byte whose write fails is seen: the byte and its register differ. -/
theorem modifyPin_breaks (hinv : DriverInv w) {kind : Mcp23017Shadow} {regA regB : UInt8}
    {argOk : Bool} {modify : UInt8 → UInt8}
    (hacc : mcp23017IsReady dev w = true ∧ PortOk port ∧ pin ≤ mcp23017PinMax ∧ argOk = true)
    (hfail : w.bus.answer ≠ espOk)
    (hchange : modify (w.dev.shadow kind port) ≠ w.dev.shadow kind port) :
    ¬ Synced (modifyPin chipApi kind regA regB argOk modify dev port pin w).2 := by
  have hready : w.dev.isInitialized = true := (mcp23017IsReady_iff.1 hacc.1).2
  rcases hinv hready with ⟨slot, hat, hb, hmatch⟩
  rw [modifyPin_accepted kind regA regB argOk modify hat hacc.1 hacc.2.1 hacc.2.2.1 hacc.2.2.2]
  intro hsynced
  have hat' := Mcp23017.setShadow_attached kind port (modify (w.dev.shadow kind port)) hat
  have hready' := (w.dev.setShadow_fields kind port (modify (w.dev.shadow kind port))).2.2.2
  have hmatch' := hsynced (hready'.trans hready)
  simp only [Mcp23017World.chip, hat'.home_eq, chips_afterWrite_failed hfail] at hmatch'
  -- the register still has the old byte, the shadow the new one
  have hnew := shadowsMatch_iff.1 hmatch' kind (sideOf port)
  have hold := shadowsMatch_iff.1 hmatch kind (sideOf port)
  rw [Mcp23017.shadowAt_setShadow, if_pos ⟨rfl, rfl⟩, ← hold, ← Mcp23017.shadow_eq] at hnew
  exact hchange hnew

/-- A pin-level operation meets the property exactly if its change is not lost. -/
theorem modifyPin_kept_iff (hinv : DriverInv w) {kind : Mcp23017Shadow} {regA regB : UInt8}
    {argOk : Bool} {modify : UInt8 → UInt8} (hA : Plain regA (kind.reg .a))
    (hB : Plain regB (kind.reg .b)) :
    let r := modifyPin chipApi kind regA regB argOk modify dev port pin w
    let harmless := mcp23017IsReady dev w = true ∧ PortOk port ∧ pin ≤ mcp23017PinMax ∧
      argOk = true → w.bus.answer = espOk ∨
        modify (w.dev.shadow kind port) = w.dev.shadow kind port
    (Synced r.2 ∧ FailedWithoutTrace w r.1 r.2 ↔ harmless) ∧ (harmless → DriverInv r.2) := by
  dsimp only
  refine ⟨⟨?_, fun h => ?_⟩, fun h => (modifyPin_kept hinv hA hB h).1⟩
  · rintro ⟨hsynced, _⟩ hacc
    by_contra hlost
    rcases not_or.1 hlost with ⟨hfail, hchange⟩
    exact modifyPin_breaks hinv hacc hfail hchange hsynced
  · have hkept := modifyPin_kept hinv hA hB h
    exact ⟨hkept.1.synced, hkept.2⟩

/-- A completed `init` establishes the invariant. -/
theorem driverInv_of_completed {c : Mcp23017Config Nat} (hvalid : c.Valid) {chip : RegFile}
    {bus : ChipBus} (hchips : bus.chips = Function.update w.bus.chips c.slot (configured c chip)) :
    DriverInv ⟨(deviceAdded c w).dev.synchronize c, bus⟩ := by
  intro _
  refine ⟨c.slot, ⟨hvalid.bus_eq, rfl, rfl⟩, ?_, ?_⟩
  · rw [hchips, Function.update_self]
    exact bank_configured c _
  · rw [hchips, Function.update_self]
    exact ⟨rfl, rfl, rfl, rfl⟩

theorem init_kept (hinv : DriverInv w) (config : Option (Mcp23017Config Nat)) :
    Kept w (mcp23017Init chipApi dev config w).1 (mcp23017Init chipApi dev config w).2 := by
  by_cases hargs : dev = some () ∧ ∃ c, config = some c ∧ c.Valid
  · rcases hargs with ⟨rfl, c, rfl, hvalid⟩
    by_cases hadd : w.bus.answers.addDevice = espOk
    · by_cases hret : (mcp23017WriteRegs chipApi (mcp23017InitSequence c) (deviceAdded c w)).1 = espOk
      · rcases init_completed hvalid hadd hret with ⟨bus, heq, hchips⟩
        rw [heq]
        exact ⟨driverInv_of_completed hvalid hchips, fun h => absurd rfl h⟩
      · rcases writeRegs_spec (deviceAdded_attached hvalid) (mcp23017InitSequence c) with ⟨hdev, _⟩
        -- the context was taken down before the first write
        rw [init_granted hvalid hadd]
        simp only [ne_eq, hret, not_false_eq_true, if_true]
        exact kept_down (by rw [hdev]; rfl) _
    · rw [init_refused hvalid hadd]
      exact kept_down rfl _
  · rcases init_rejected hargs with ⟨err, _, heq⟩
    rw [heq]
    exact kept_self hinv err

theorem DriverInv.attached (hinv : DriverInv w) :
    w.dev.isInitialized = true → ∃ slot, w.dev.Attached slot := by
  intro hready
  rcases hinv hready with ⟨slot, hat, _⟩
  exact ⟨slot, hat⟩

/-- A result with the same context and the same chips. -/
theorem kept_of_same (hinv : DriverInv w) {w' : ChipWorld}
    (h : w'.dev = w.dev ∧ w'.bus.chips = w.bus.chips) (ret : EspErr) : Kept w ret w' := by
  rcases h with ⟨hdev, hchips⟩
  refine ⟨?_, fun _ _ => ⟨fun _ _ => by rw [hdev], hchips⟩⟩
  simpa only [DriverInv, hdev, hchips] using hinv

theorem deinit_kept (hinv : DriverInv w) (ret : EspErr) :
    Kept w ret (mcp23017Deinit dev w) := by
  cases dev with
  | none =>
      exact kept_self hinv ret
  | some u =>
      exact kept_down rfl ret

end Operations

/-! ## Runs -/

/-- An operation that keeps the invariant and the property whatever happens on the bus. -/
theorem keepsSync_of_kept {w : ChipWorld} {m : ChipMove}
    (hkept : Kept (armed w m) (chipExec w m).1.ret (chipStep w m)) (hcond : NoChangeLost w m) :
    (KeepsSync w m ↔ NoChangeLost w m) ∧ (NoChangeLost w m → DriverInv (chipStep w m)) :=
  ⟨⟨fun _ => hcond, fun _ => ⟨hkept.1.synced, hkept.2⟩⟩, fun _ => hkept.1⟩

/-- A pin-level operation, whose condition says that its change is not lost. -/
theorem keepsSync_of_modifyPin {w : ChipWorld} {m : ChipMove} (hinv : DriverInv w)
    (kind : Mcp23017Shadow) {regA regB : UInt8} (argOk : Bool) (modify : UInt8 → UInt8)
    (dev : Option Unit) (port : UInt32) (pin : UInt8)
    (hexec : (chipExec w m).1.ret =
        (modifyPin chipApi kind regA regB argOk modify dev port pin (armed w m)).1 ∧
      chipStep w m = (modifyPin chipApi kind regA regB argOk modify dev port pin (armed w m)).2)
    (hplain : Plain regA (kind.reg .a) ∧ Plain regB (kind.reg .b))
    (hargs : m.call.ArgsOk ↔
      dev = some () ∧ PortOk port ∧ pin ≤ mcp23017PinMax ∧ argOk = true)
    (hcond : NoChangeLost w m ↔ (w.dev.isInitialized = true → m.call.ArgsOk →
      m.answers.xfer 0 = espOk ∨ modify (w.dev.shadow kind port) = w.dev.shadow kind port)) :
    (KeepsSync w m ↔ NoChangeLost w m) ∧ (NoChangeLost w m → DriverInv (chipStep w m)) := by
  have hinv' : DriverInv (armed w m) := hinv
  have hkept := @modifyPin_kept_iff (armed w m) dev port pin hinv' kind regA regB argOk modify
    hplain.1 hplain.2
  have hharmless : NoChangeLost w m ↔
      (mcp23017IsReady dev (armed w m) = true ∧ PortOk port ∧ pin ≤ mcp23017PinMax ∧
        argOk = true → (armed w m).bus.answer = espOk ∨
          modify (w.dev.shadow kind port) = w.dev.shadow kind port) := by
    -- the same condition, with the readiness of the driver among the arguments
    rw [hcond, hargs, mcp23017IsReady_iff]
    constructor
    · rintro h ⟨⟨hdev, hready⟩, hrest⟩
      exact h hready ⟨hdev, hrest⟩
    · rintro h hready ⟨hdev, hrest⟩
      exact h ⟨⟨hdev, hready⟩, hrest⟩
  rw [hharmless, KeepsSync, hexec.1, hexec.2]
  exact hkept

/-- Under the invariant one call has the property exactly if it meets the condition, and then the
invariant survives it. -/
theorem chipStep_keepsSync (w : ChipWorld) (m : ChipMove) (hinv : DriverInv w) :
    (KeepsSync w m ↔ NoChangeLost w m) ∧ (NoChangeLost w m → DriverInv (chipStep w m)) := by
  have hinv' : DriverInv (armed w m) := hinv
  rcases m with ⟨call, answers⟩
  cases call with
  | init dev config =>
      exact keepsSync_of_kept (init_kept hinv' config) fun _ _ => trivial
  | deinit dev =>
      exact keepsSync_of_kept (deinit_kept hinv' espOk) fun _ _ => trivial
  | setPortDirection dev port dirMask =>
      exact keepsSync_of_kept (writePortReg_kept hinv' plain_iodir.1 plain_iodir.2
        (mirrors_setShadow .dir port dirMask)) fun _ _ => trivial
  | writePort dev port value =>
      exact keepsSync_of_kept (writePortReg_kept hinv' plain_olat.1 plain_olat.2
        (mirrors_setShadow .olat port value)) fun _ _ => trivial
  | readPort dev port out =>
      exact keepsSync_of_kept (kept_of_same hinv' (readPort_same hinv'.attached) _) fun _ _ => trivial
  | setPortPullup dev port pullupMask =>
      exact keepsSync_of_kept (writePortReg_kept hinv' plain_gppu.1 plain_gppu.2
        (mirrors_gppu port pullupMask)) fun _ _ => trivial
  | setPortPolarity dev port polarityMask =>
      exact keepsSync_of_kept (writePortReg_kept hinv' plain_ipol.1 plain_ipol.2
        (mirrors_ipol port polarityMask)) fun _ _ => trivial
  | setPinDirection dev port pin direction =>
      refine keepsSync_of_modifyPin hinv .dir
        (direction == mcp23017DirInput || direction == mcp23017DirOutput)
        (fun b => Bits.writeBit b pin (direction == mcp23017DirInput)) dev port pin ⟨rfl, rfl⟩
        plain_iodir
        (by simp [Mcp23017Call.ArgsOk]) ?_
      refine forall_congr' fun _ => forall_congr' fun hargs => ?_
      rw [Bits.writeBit_eq_self_iff _ _ hargs.2.2.1]
  | writePin dev port pin value =>
      refine keepsSync_of_modifyPin hinv .olat true (fun b => Bits.writeBit b pin value) dev port pin
        ⟨rfl, rfl⟩
        plain_olat
        (by simp [Mcp23017Call.ArgsOk]) ?_
      refine forall_congr' fun _ => forall_congr' fun hargs => ?_
      rw [Bits.writeBit_eq_self_iff _ _ hargs.2.2]
  | readPin dev port pin out =>
      exact keepsSync_of_kept (kept_of_same hinv' (readPin_same hinv'.attached) _) fun _ _ => trivial
  | togglePin dev port pin =>
      refine keepsSync_of_modifyPin hinv .olat true (fun b => Bits.flipBit b pin) dev port pin
        ⟨rfl, rfl⟩
        plain_olat
        (by simp [Mcp23017Call.ArgsOk]) ?_
      refine forall_congr' fun _ => forall_congr' fun hargs => ?_
      -- inverting a bit never leaves the byte as it was
      rw [or_iff_left (Bits.flipBit_ne _ _ hargs.2.2)]

/-- For every context no `init` has completed on, every bus of chips with any registers, and every
sequence of calls and answers: after every call the shadow bytes of a ready driver equal the
registers of its chip, and failed calls leave no trace, exactly if every accepted pin-level write
either succeeds on the bus or finds the pin as it wants it. -/
theorem shadows_in_sync_iff (dev : Mcp23017 Nat Slot) (bus : ChipBus) (ms : List ChipMove) :
    (∀ m ∈ moves chipStep ⟨{ dev with isInitialized := false }, bus⟩ ms, KeepsSync m.1 m.2) ↔
      ∀ m ∈ moves chipStep ⟨{ dev with isInitialized := false }, bus⟩ ms, NoChangeLost m.1 m.2 := by
  -- nothing is claimed of a driver that is not ready
  have hstart : DriverInv ⟨{ dev with isInitialized := false }, bus⟩ := by
    intro hready
    simp at hready
  exact forall_moves_iff (fun w m hinv => (chipStep_keepsSync w m hinv).1)
    (fun w m hinv => (chipStep_keepsSync w m hinv).2) hstart ms

/-- A bus that accepts every device and answers every transfer well. -/
def healthy : Answers :=
  ⟨espOk, fun _ => espOk, fun _ _ => 0⟩

/-- A healthy `init` at address `0x20` and a `toggle_pin` of pin A0 whose write is not acknowledged. -/
def failedToggle : List ChipMove :=
  [⟨.init (some ()) (some ⟨some 0, 0x20, 400000, 0x00, 0xFF, 0, 0⟩), healthy⟩,
    ⟨.togglePin (some ()) mcp23017PortA 0, ⟨espOk, fun _ => espFail, fun _ _ => 0⟩⟩]

/-- The driver before its first call, on a bus of chips in their power-on state. -/
def powerOn : ChipWorld :=
  ⟨Mcp23017.zero, fun _ reg => match reg with
      | .iodir _ => 0xFF
      | _ => 0x00, healthy, 0, []⟩

/-- After the failed toggle the shadow has the bit and the chip has not; a later write to pin A3
carries it to the chip, and toggling A0 again, successfully, leaves the pin low. -/
theorem failed_toggle_is_carried_along :
    ¬ Synced (run chipStep powerOn failedToggle) ∧
      (let w := run chipStep powerOn failedToggle
       w.dev.isInitialized = true ∧ w.dev.olatA = 0x01 ∧ w.chip (.olat .a) = 0x00 ∧
         (chipStep w ⟨.writePin (some ()) mcp23017PortA 3 true, healthy⟩).chip (.olat .a) = 0x09 ∧
         (chipStep w ⟨.togglePin (some ()) mcp23017PortA 0, healthy⟩).chip (.olat .a) = 0x00) := by
  refine ⟨fun hsynced => ?_, by decide⟩
  have hmatch := (hsynced (by decide)).olatA
  exact absurd hmatch (by decide)

end MainboardFirmware
