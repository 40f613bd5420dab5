import MainboardFirmware.Bus.DriverBus
import MainboardFirmware.Mcp23017.Driver
import MainboardFirmware.Ads1115.Driver
import MainboardFirmware.Ssd1306.Driver

/-!
# Lifecycle — a driver that is initialised and deinitialised again and again

`i2c_bus.c` has no function to remove a device, so every `init` that gets its device registered takes
one of the eight slots for good, whether it goes on to succeed or fails at one of its writes. Over
any number of cycles the registry has grown by the number of registrations, and a further `init` on a
healthy bus works as long as that leaves a slot.
-/

namespace MainboardFirmware

open Machine

/-! ## Cycles -/

/-- The two ends of a driver instance with a context in `C`. -/
structure Lifecycle (C : Type) where
  init : C → DriverBus → EspErr × C × DriverBus
  deinit : C → DriverBus → C × DriverBus

def mcp23017Lifecycle (config : Mcp23017Config Unit) : Lifecycle (Mcp23017 Unit MasterDev) where
  init ctx bus :=
    let (ret, w) := mcp23017Init driverApi (some ()) (some config) ⟨ctx, bus⟩
    (ret, w.dev, w.bus)
  deinit ctx bus :=
    let w := mcp23017Deinit (some ()) ⟨ctx, bus⟩
    (w.dev, w.bus)

def ads1115Lifecycle (config : Ads1115Config Unit) : Lifecycle (Ads1115Dev Unit MasterDev) where
  init ctx bus :=
    let (ret, w) := ads1115Init driverApi (some ()) (some config) ⟨ctx, bus⟩
    (ret, w.dev, w.bus)
  deinit ctx bus :=
    let w := ads1115Deinit (some ()) ⟨ctx, bus⟩
    (w.dev, w.bus)

def ssd1306Lifecycle (config : DisplayConfig Unit) : Lifecycle (Ssd1306 Unit MasterDev) where
  init ctx bus :=
    let (ret, w) := ssd1306Init driverApi (some config) ⟨ctx, bus⟩
    (ret, w.dev, w.bus)
  deinit ctx bus :=
    let w := ssd1306Deinit driverApi ⟨ctx, bus⟩
    (w.dev, w.bus)

/-- One of the three IC drivers, with a configuration that its `init` accepts. -/
inductive IcDriver
  | mcp23017 (config : Mcp23017Config Unit) (hbus : config.bus = some ())
      (hlow : mcp23017AddrBase ≤ config.address) (hhigh : config.address ≤ mcp23017AddrMax)
  | ads1115 (config : Ads1115Config Unit) (hbus : config.bus = some ())
  | ssd1306 (config : DisplayConfig Unit) (hbus : config.bus = some ())

namespace IcDriver

def Ctx : IcDriver → Type
  | .mcp23017 .. => Mcp23017 Unit MasterDev
  | .ads1115 .. => Ads1115Dev Unit MasterDev
  | .ssd1306 .. => Ssd1306 Unit MasterDev

def lifecycle : (d : IcDriver) → Lifecycle d.Ctx
  | .mcp23017 config _ _ _ => mcp23017Lifecycle config
  | .ads1115 config _ => ads1115Lifecycle config
  | .ssd1306 config _ => ssd1306Lifecycle config

end IcDriver

/-- The answers of one cycle: an `init`, and a `deinit` after it or not. -/
structure Cycle where
  addDevice : EspErr
  xfer : Nat → XferEnv
  deinit : Option (Nat → XferEnv)

/-- The bus at the start of the cycle. -/
def Cycle.bus (c : Cycle) (w : World) : DriverBus :=
  ⟨w, c.addDevice, c.xfer, 0⟩

/-- Every call of the cycle is answered well. -/
def Cycle.Healthy (c : Cycle) : Prop :=
  c.addDevice = espOk ∧ ∀ k, (c.xfer k).Healthy

structure DriverState (C : Type) where
  ctx : C
  world : World

namespace Lifecycle

variable {C : Type} (l : Lifecycle C)

def cycleStep (s : DriverState C) (c : Cycle) : DriverState C :=
  let (_, ctx, bus) := l.init s.ctx (c.bus s.world)
  match c.deinit with
  | none => ⟨ctx, bus.world⟩
  | some xfer =>
      let (ctx, bus) := l.deinit ctx ⟨bus.world, espOk, xfer, 0⟩
      ⟨ctx, bus.world⟩

/-- The cycles that begin on a bus that takes the device. -/
def registrations (s : DriverState C) (cycles : List Cycle) : Nat :=
  (moves l.cycleStep s cycles).countP fun move => (move.2.bus move.1.world).takes

/-- At most one more device is registered than before, and a further `init` on a bus that is up and
answers well succeeds. -/
def ReleasesWhatItTakes (before after : DriverState C) : Prop :=
  after.world.bus.deviceCount ≤ before.world.bus.deviceCount + 1 ∧
    (after.world.bus.initialized = true → ∀ c : Cycle, c.Healthy →
      (l.init after.ctx (c.bus after.world)).1 = espOk)

/-! ## What is asked of a driver -/

/-- One `init`: at most one registration, and success if all goes well. -/
structure InitSpec (s : DriverBus) (ret : EspErr) (s' : DriverBus) : Prop where
  deviceCount_eq : s'.world.bus.deviceCount = s.world.bus.deviceCount + if s.takes then 1 else 0
  inv : BusInv s'.world
  not_taken : s.takes = false → ret ≠ espOk
  healthy : s.takes = true → s.Healthy → ret = espOk

structure Spec : Prop where
  init : ∀ ctx s, BusInv s.world → InitSpec s (l.init ctx s).1 (l.init ctx s).2.2
  deinit : ∀ ctx s, DriverBus.Transferred s (l.deinit ctx s).2

/-- A driver that adds its device and goes on with transfers if it was taken. -/
theorem InitSpec.of_added {s s₁ s₂ : DriverBus} {ret₁ ret₂ : EspErr} (hadd : s.Added ret₁ s₁)
    (hrefused : ret₁ ≠ espOk → ret₂ = ret₁ ∧ s₂ = s₁)
    (htaken : ret₁ = espOk → s₁.Transferred s₂ ∧ (s₁.Healthy → ret₂ = espOk)) :
    InitSpec s ret₂ s₂ := by
  by_cases hret : ret₁ = espOk
  · rcases htaken hret with ⟨htransferred, hhealthy⟩
    have htakes := hadd.ret_eq_ok_iff.1 hret
    refine ⟨htransferred.deviceCount_eq.trans hadd.deviceCount_eq, htransferred.inv hadd.inv,
      fun hnot => ?_, fun _ hs => ?_⟩
    · rw [htakes] at hnot
      exact Bool.noConfusion hnot
    · exact hhealthy ⟨hadd.initialized_eq.trans hs.up, hadd.xfer_eq ▸ hs.answers⟩
  · rcases hrefused hret with ⟨rfl, rfl⟩
    refine ⟨hadd.deviceCount_eq, hadd.inv, fun _ => hret, fun htakes => ?_⟩
    exact absurd (hadd.ret_eq_ok_iff.2 htakes) hret

/-! ## Runs -/

variable {l}

theorem cycleStep_spec (hl : l.Spec) {s : DriverState C} (hs : BusInv s.world) (c : Cycle) :
    (l.cycleStep s c).world.bus.deviceCount =
        s.world.bus.deviceCount + (if (c.bus s.world).takes then 1 else 0) ∧
      BusInv (l.cycleStep s c).world := by
  have hinit := hl.init s.ctx (c.bus s.world) hs
  unfold cycleStep
  dsimp only
  cases c.deinit with
  | none =>
      exact ⟨hinit.deviceCount_eq, hinit.inv⟩
  | some xfer =>
      -- `deinit` has no way to give the slot back
      have hdeinit := hl.deinit (l.init s.ctx (c.bus s.world)).2.1
        ⟨(l.init s.ctx (c.bus s.world)).2.2.world, espOk, xfer, 0⟩
      exact ⟨hdeinit.deviceCount_eq.trans hinit.deviceCount_eq, hdeinit.inv hinit.inv⟩

theorem registrations_cons (s : DriverState C) (c : Cycle) (cycles : List Cycle) :
    l.registrations s (c :: cycles) =
      l.registrations (l.cycleStep s c) cycles + if (c.bus s.world).takes then 1 else 0 := by
  simp [registrations, List.countP_cons]

/-- The registry grows by the number of registrations. -/
theorem run_deviceCount (hl : l.Spec) {s : DriverState C} (hs : BusInv s.world)
    (cycles : List Cycle) :
    (run l.cycleStep s cycles).world.bus.deviceCount =
        s.world.bus.deviceCount + l.registrations s cycles ∧
      BusInv (run l.cycleStep s cycles).world := by
  induction cycles generalizing s with
  | nil =>
      exact ⟨rfl, hs⟩
  | cons c cycles ih =>
      rcases cycleStep_spec hl hs c with ⟨hcount, hinv⟩
      rcases ih hinv with ⟨hrest, hlast⟩
      refine ⟨?_, hlast⟩
      rw [run_cons, hrest, hcount, registrations_cons]
      omega

/-- On a healthy bus an `init` succeeds exactly if there is a slot left. -/
theorem healthy_init_iff (hl : l.Spec) {s : DriverState C} (hs : BusInv s.world)
    (hup : s.world.bus.initialized = true) :
    (∀ c : Cycle, c.Healthy → (l.init s.ctx (c.bus s.world)).1 = espOk) ↔
      s.world.bus.deviceCount < i2cBusMaxDevices := by
  have htakes : ∀ c : Cycle, c.Healthy →
      ((c.bus s.world).takes = true ↔ s.world.bus.deviceCount < i2cBusMaxDevices) := by
    intro c hc
    simp [DriverBus.takes, Cycle.bus, hup, hc.1]
  constructor
  · -- some cycle is healthy, and its `init` fails on a full registry
    intro hall
    have hgood : Cycle.Healthy ⟨espOk, fun _ => ⟨true, fun _ => (espOk, []), espOk, fun _ => false,
        espOk, fun _ => espOk, espOk⟩, none⟩ :=
      ⟨rfl, fun _ => ⟨rfl, rfl⟩⟩
    rw [← htakes _ hgood]
    by_contra hnot
    exact (hl.init s.ctx _ hs).not_taken (Bool.eq_false_iff.2 hnot) (hall _ hgood)
  · -- with a slot left the bus takes the device
    intro hroom c hc
    exact (hl.init s.ctx (c.bus s.world) hs).healthy ((htakes c hc).2 hroom) ⟨hup, hc.2⟩

theorem releasesWhatItTakes_iff (hl : l.Spec) {s : DriverState C} (hs : BusInv s.world)
    (cycles : List Cycle) :
    l.ReleasesWhatItTakes s (run l.cycleStep s cycles) ↔
      l.registrations s cycles ≤ 1 ∧
        ((run l.cycleStep s cycles).world.bus.initialized = true →
          s.world.bus.deviceCount + l.registrations s cycles < i2cBusMaxDevices) := by
  rcases run_deviceCount hl hs cycles with ⟨hcount, hinv⟩
  have hfurther := fun hup => healthy_init_iff hl (s := run l.cycleStep s cycles) hinv hup
  rw [ReleasesWhatItTakes, hcount, Nat.add_le_add_iff_left]
  refine and_congr_right fun _ => forall_congr' fun hup => ?_
  rw [hfurther hup, hcount]

end Lifecycle

/-! ## The three drivers -/

section Mcp23017

variable {w : Mcp23017World Unit MasterDev DriverBus} {config : Mcp23017Config Unit}

theorem mcp23017WriteReg_healthy (hbus : w.dev.busHandle = some ()) (h : w.bus.Healthy)
    (reg data : UInt8) : (mcp23017WriteReg driverApi reg data w).1 = espOk ∧
      (mcp23017WriteReg driverApi reg data w).2.bus.Healthy := by
  have hwrite := h.write w.dev.devHandle [reg, data]
  rw [← hbus] at hwrite
  exact hwrite

theorem mcp23017WriteRegs_transferred (regs : List (UInt8 × UInt8))
    (w : Mcp23017World Unit MasterDev DriverBus) :
    w.bus.Transferred (mcp23017WriteRegs driverApi regs w).2.bus := by
  induction regs generalizing w with
  | nil =>
      exact DriverBus.Transferred.refl w.bus
  | cons reg regs ih =>
      have hwrite : w.bus.Transferred (mcp23017WriteReg driverApi reg.1 reg.2 w).2.bus :=
        DriverBus.Transferred.write _ _ _ _
      unfold mcp23017WriteRegs
      dsimp only
      split
      · exact hwrite
      · exact hwrite.trans (ih _)

theorem mcp23017WriteRegs_healthy (hbus : w.dev.busHandle = some ()) (h : w.bus.Healthy)
    (regs : List (UInt8 × UInt8)) : (mcp23017WriteRegs driverApi regs w).1 = espOk := by
  induction regs generalizing w with
  | nil =>
      rfl
  | cons reg regs ih =>
      rcases mcp23017WriteReg_healthy hbus h reg.1 reg.2 with ⟨hret, hnext⟩
      unfold mcp23017WriteRegs
      dsimp only
      rw [if_neg (not_not.2 hret)]
      exact ih hbus hnext

/-- What `init` does with a configuration it accepts. -/
theorem mcp23017Init_eq {β η σ : Type} {api : I2cBusApi β η σ} {w : Mcp23017World β η σ} {b : β}
    {config : Mcp23017Config β} (hbus : config.bus = some b)
    (hlow : mcp23017AddrBase ≤ config.address) (hhigh : config.address ≤ mcp23017AddrMax)
    {ret : EspErr} {handle : Option η} {bus : σ}
    (hadd : api.addDevice (some b) config.address config.sclHz (some "mcp23017")
      w.dev.devHandle w.bus = (ret, handle, bus)) :
    let w₁ : Mcp23017World β η σ := ⟨{ w.dev.transferConfig config with devHandle := handle }, bus⟩
    let res := mcp23017WriteRegs api (mcp23017InitSequence config) w₁
    mcp23017Init api (some ()) (some config) w =
      if ret ≠ espOk then (ret, w₁)
      else if res.1 ≠ espOk then res else (espOk, ⟨res.2.dev.synchronize config, res.2.bus⟩) := by
  have hrange : ¬(config.address < mcp23017AddrBase ∨ mcp23017AddrMax < config.address) := by
    rw [not_or]
    exact ⟨UInt8.not_lt.2 hlow, UInt8.not_lt.2 hhigh⟩
  have hadd' : api.addDevice config.bus config.address config.sclHz (some "mcp23017")
      (w.dev.transferConfig config).devHandle w.bus = (ret, handle, bus) := by
    rw [hbus]
    exact hadd
  have hsome : config.bus ≠ none := by
    simp [hbus]
  simp only [mcp23017Init, if_neg hsome, if_neg hrange, hadd']

theorem mcp23017_spec (hbus : config.bus = some ()) (hlow : mcp23017AddrBase ≤ config.address)
    (hhigh : config.address ≤ mcp23017AddrMax) : (mcp23017Lifecycle config).Spec where
  init ctx s hs := by
    have hadd := DriverBus.added hs config.address config.sclHz (some "mcp23017") ctx.devHandle
    rcases hres : driverApi.addDevice (some ()) config.address config.sclHz (some "mcp23017")
      ctx.devHandle s with ⟨ret, handle, bus⟩
    rw [hres] at hadd
    have heq := mcp23017Init_eq (w := ⟨ctx, s⟩) hbus hlow hhigh hres
    simp only [mcp23017Lifecycle, heq]
    refine .of_added hadd (fun hrefused => ?_) fun htaken => ?_
    · rw [if_pos hrefused]
      exact ⟨rfl, rfl⟩
    · rw [if_neg (not_not.2 htaken)]
      -- the eight writes register nothing, whichever of them is the last
      have hwritten := mcp23017WriteRegs_transferred (mcp23017InitSequence config)
        ⟨{ ctx.transferConfig config with devHandle := handle }, bus⟩
      refine ⟨by split <;> exact hwritten, fun hhealthy => ?_⟩
      have hret := mcp23017WriteRegs_healthy
        (w := ⟨{ ctx.transferConfig config with devHandle := handle }, bus⟩) hbus hhealthy
        (mcp23017InitSequence config)
      rw [if_neg (not_not.2 hret)]
  deinit ctx s := DriverBus.Transferred.refl s

end Mcp23017

section Ads1115

variable {w : Ads1115World Unit MasterDev DriverBus} {config : Ads1115Config Unit}

theorem ads1115WriteRegister_healthy (hbus : w.dev.bus = some ()) (h : w.bus.Healthy) (reg : UInt8)
    (value : UInt16) : (ads1115WriteRegister driverApi reg value w).1 = espOk := by
  have hwrite := h.write w.dev.dev
    [reg, ((value >>> 8) &&& 0xFF).toUInt8, (value &&& 0xFF).toUInt8]
  rw [← hbus] at hwrite
  exact hwrite.1

/-- What `init` does with a configuration it accepts. -/
theorem ads1115Init_eq {β η σ : Type} {api : I2cBusApi β η σ} {w : Ads1115World β η σ} {b : β}
    {config : Ads1115Config β} (hbus : config.bus = some b) {ret : EspErr} {handle : Option η}
    {bus : σ}
    (hadd : api.addDevice (some b) config.addr.toUInt8 config.sclHz (some "ADS1115") none
      w.bus = (ret, handle, bus)) :
    let ctx : Ads1115Dev β η := { (Ads1115Dev.zero : Ads1115Dev β η) with dev := handle }
    let res := ads1115WriteRegister api ads1115RegConfig ads1115ConfigReset
      (⟨{ ctx with bus := config.bus, channelConfig := config.channelConfig }, bus⟩ :
        Ads1115World β η σ)
    ads1115Init api (some ()) (some config) w =
      if ret ≠ espOk then (ret, ⟨ctx, bus⟩)
      else if res.1 ≠ espOk then res
      else (espOk, ⟨{ res.2.dev with initialized := true }, res.2.bus⟩) := by
  have hadd' : api.addDevice config.bus config.addr.toUInt8 config.sclHz (some "ADS1115")
      (Ads1115Dev.zero : Ads1115Dev β η).dev w.bus = (ret, handle, bus) := by
    rw [hbus]
    exact hadd
  have hsome : config.bus ≠ none := by
    simp [hbus]
  simp only [ads1115Init, if_neg hsome, hadd']

theorem ads1115_spec (hbus : config.bus = some ()) : (ads1115Lifecycle config).Spec where
  init ctx s hs := by
    have hadd := DriverBus.added hs config.addr.toUInt8 config.sclHz (some "ADS1115") none
    rcases hres : driverApi.addDevice (some ()) config.addr.toUInt8 config.sclHz (some "ADS1115")
      none s with ⟨ret, handle, bus⟩
    rw [hres] at hadd
    have heq := ads1115Init_eq (w := ⟨ctx, s⟩) hbus hres
    simp only [ads1115Lifecycle, heq]
    refine .of_added hadd (fun hrefused => ?_) fun htaken => ?_
    · rw [if_pos hrefused]
      exact ⟨rfl, rfl⟩
    · rw [if_neg (not_not.2 htaken)]
      refine ⟨by split <;> exact DriverBus.Transferred.write _ _ _ _, fun hhealthy => ?_⟩
      rw [if_neg (not_not.2 (ads1115WriteRegister_healthy hbus hhealthy _ _))]
  deinit ctx s := DriverBus.Transferred.refl s

end Ads1115

section Ssd1306

variable {w : Ssd1306World Unit MasterDev DriverBus} {config : DisplayConfig Unit}

theorem ssd1306SendCmd_transferred (cmd : UInt8) (w : Ssd1306World Unit MasterDev DriverBus) :
    w.bus.Transferred (ssd1306SendCmd driverApi cmd w).2.bus :=
  DriverBus.Transferred.write _ _ _ _

theorem ssd1306SendData_transferred (stream : List UInt8)
    (w : Ssd1306World Unit MasterDev DriverBus) :
    w.bus.Transferred (ssd1306SendData driverApi stream w).2.bus :=
  DriverBus.Transferred.write _ _ _ _

theorem ssd1306SendCmd_healthy (hbus : w.dev.i2cBus = some ()) (h : w.bus.Healthy) (cmd : UInt8) :
    (ssd1306SendCmd driverApi cmd w).1 = espOk ∧ (ssd1306SendCmd driverApi cmd w).2.bus.Healthy := by
  have hwrite := h.write w.dev.devHandle [0x00, cmd]
  rw [← hbus] at hwrite
  exact hwrite

theorem ssd1306SendData_healthy (hbus : w.dev.i2cBus = some ()) (h : w.bus.Healthy)
    (stream : List UInt8) : (ssd1306SendData driverApi stream w).1 = espOk ∧
      (ssd1306SendData driverApi stream w).2.bus.Healthy := by
  have hwrite := h.write w.dev.devHandle stream
  rw [← hbus] at hwrite
  exact hwrite

theorem ssd1306SendCmds_transferred (cmds : List UInt8)
    (w : Ssd1306World Unit MasterDev DriverBus) :
    w.bus.Transferred (ssd1306SendCmds driverApi cmds w).2.bus ∧
      (ssd1306SendCmds driverApi cmds w).2.dev = w.dev := by
  induction cmds generalizing w with
  | nil =>
      exact ⟨DriverBus.Transferred.refl w.bus, rfl⟩
  | cons cmd cmds ih =>
      have hcmd := ssd1306SendCmd_transferred cmd w
      unfold ssd1306SendCmds
      dsimp only
      split
      · exact ⟨hcmd, rfl⟩
      · rcases ih (ssd1306SendCmd driverApi cmd w).2 with ⟨hrest, hdev⟩
        exact ⟨hcmd.trans hrest, hdev⟩

theorem ssd1306SendCmds_healthy (hbus : w.dev.i2cBus = some ()) (h : w.bus.Healthy)
    (cmds : List UInt8) : (ssd1306SendCmds driverApi cmds w).1 = espOk ∧
      (ssd1306SendCmds driverApi cmds w).2.bus.Healthy := by
  induction cmds generalizing w with
  | nil =>
      exact ⟨rfl, h⟩
  | cons cmd cmds ih =>
      rcases ssd1306SendCmd_healthy hbus h cmd with ⟨hret, hnext⟩
      unfold ssd1306SendCmds
      dsimp only
      rw [if_neg (not_not.2 hret)]
      exact ih hbus hnext

theorem ssd1306Address_transferred (page : UInt8) (w : Ssd1306World Unit MasterDev DriverBus) :
    w.bus.Transferred (ssd1306Address driverApi page w).bus :=
  (ssd1306SendCmd_transferred _ w).trans
    ((ssd1306SendCmd_transferred _ _).trans (ssd1306SendCmd_transferred _ _))

theorem ssd1306Address_healthy (hbus : w.dev.i2cBus = some ()) (h : w.bus.Healthy) (page : UInt8) :
    (ssd1306Address driverApi page w).bus.Healthy := by
  have hpage := (ssd1306SendCmd_healthy hbus h (0xB0 + page)).2
  generalize hw₁ : (ssd1306SendCmd driverApi (0xB0 + page) w).2 = w₁ at hpage
  have hbus₁ : w₁.dev.i2cBus = some () := by
    rw [← hw₁]
    exact hbus
  have hlow := (ssd1306SendCmd_healthy hbus₁ hpage 0x00).2
  have hhigh := (ssd1306SendCmd_healthy (w := (ssd1306SendCmd driverApi 0x00 w₁).2) hbus₁ hlow
    0x10).2
  rw [← hw₁] at hhigh
  exact hhigh

theorem ssd1306ClearPages_transferred (n : Nat) (page : UInt8)
    (w : Ssd1306World Unit MasterDev DriverBus) :
    w.bus.Transferred (ssd1306ClearPages driverApi n page w).2.bus := by
  induction n generalizing page w with
  | zero =>
      exact DriverBus.Transferred.refl w.bus
  | succ n ih =>
      have hround := (ssd1306Address_transferred page w).trans (ssd1306SendData_transferred
        (0x40 :: List.replicate 128 0x00) (ssd1306Address driverApi page w))
      unfold ssd1306ClearPages
      dsimp only
      split
      · exact hround
      · exact hround.trans (ih _ _)

theorem ssd1306ClearPages_healthy (hbus : w.dev.i2cBus = some ()) (h : w.bus.Healthy) (n : Nat)
    (page : UInt8) : (ssd1306ClearPages driverApi n page w).1 = espOk := by
  induction n generalizing page w with
  | zero =>
      rfl
  | succ n ih =>
      rcases ssd1306SendData_healthy (w := ssd1306Address driverApi page w) hbus
        (ssd1306Address_healthy hbus h page) (0x40 :: List.replicate 128 0x00) with ⟨hret, hnext⟩
      unfold ssd1306ClearPages
      dsimp only
      rw [if_neg (not_not.2 hret)]
      exact ih (w := (ssd1306SendData driverApi _ (ssd1306Address driverApi page w)).2) hbus hnext _

theorem ssd1306Clear_transferred (dev : Ssd1306 Unit MasterDev) (bus : DriverBus) :
    bus.Transferred (ssd1306Clear driverApi ⟨dev, bus⟩).2.bus := by
  unfold ssd1306Clear
  split
  · exact DriverBus.Transferred.refl bus
  · exact ssd1306ClearPages_transferred 8 0 ⟨dev, bus⟩

theorem ssd1306Clear_healthy (hinit : w.dev.isInitialized = true) (hbus : w.dev.i2cBus = some ())
    (h : w.bus.Healthy) : (ssd1306Clear driverApi w).1 = espOk := by
  unfold ssd1306Clear
  rw [if_neg (by simp [hinit])]
  exact ssd1306ClearPages_healthy hbus h 8 0

/-- What `init` does with a configuration it accepts. -/
theorem ssd1306Init_eq {β η σ : Type} {api : I2cBusApi β η σ} {w : Ssd1306World β η σ} {b : β}
    {config : DisplayConfig β} (hbus : config.bus = some b) {ret : EspErr} {handle : Option η}
    {bus : σ}
    (hadd : api.addDevice (some b) config.i2cAddr 400000 (some "SSD1306_OLED") w.dev.devHandle
      w.bus = (ret, handle, bus)) :
    let w₁ : Ssd1306World β η σ :=
      ⟨{ w.dev with
          i2cBus := config.bus
          scrWidth := config.width
          scrHeight := config.height
          devHandle := handle }, bus⟩
    let res := ssd1306SendCmds api ssd1306InitCmds w₁
    ssd1306Init api (some config) w =
      if ret ≠ espOk then (ret, w₁)
      else if res.1 ≠ espOk then res
      else ssd1306Clear api ⟨{ res.2.dev with isInitialized := true }, res.2.bus⟩ := by
  have hadd' : api.addDevice config.bus config.i2cAddr 400000 (some "SSD1306_OLED")
      w.dev.devHandle w.bus = (ret, handle, bus) := by
    rw [hbus]
    exact hadd
  have hsome : config.bus ≠ none := by
    simp [hbus]
  simp only [ssd1306Init, if_neg hsome, hadd']

theorem ssd1306_spec (hbus : config.bus = some ()) : (ssd1306Lifecycle config).Spec where
  init ctx s hs := by
    have hadd := DriverBus.added hs config.i2cAddr 400000 (some "SSD1306_OLED") ctx.devHandle
    rcases hres : driverApi.addDevice (some ()) config.i2cAddr 400000 (some "SSD1306_OLED")
      ctx.devHandle s with ⟨ret, handle, bus⟩
    rw [hres] at hadd
    have heq := ssd1306Init_eq (w := ⟨ctx, s⟩) hbus hres
    simp only [ssd1306Lifecycle, heq]
    refine .of_added hadd (fun hrefused => ?_) fun htaken => ?_
    · rw [if_pos hrefused]
      exact ⟨rfl, rfl⟩
    · rw [if_neg (not_not.2 htaken)]
      -- from here on only the bus matters, and that the handle fields stay
      generalize hw₁ : (⟨_, bus⟩ : Ssd1306World Unit MasterDev DriverBus) = w₁
      have hbus₁ : w₁.dev.i2cBus = some () := by
        rw [← hw₁]
        exact hbus
      have hw₁bus : w₁.bus = bus := by
        rw [← hw₁]
      rw [← hw₁bus]
      rcases ssd1306SendCmds_transferred ssd1306InitCmds w₁ with ⟨hcmds, hdev⟩
      refine ⟨?_, fun hhealthy => ?_⟩
      · split
        · exact hcmds
        · exact hcmds.trans (ssd1306Clear_transferred _ _)
      · rcases ssd1306SendCmds_healthy hbus₁ hhealthy ssd1306InitCmds with ⟨hret, hnext⟩
        rw [if_neg (not_not.2 hret)]
        refine ssd1306Clear_healthy rfl ?_ hnext
        rw [hdev]
        exact hbus₁
  deinit ctx s := by
    simp only [ssd1306Lifecycle, ssd1306Deinit]
    split
    · exact DriverBus.Transferred.refl s
    · exact ssd1306SendCmd_transferred 0xAE ⟨ctx, s⟩

end Ssd1306

/-! ## Any of them -/

theorem IcDriver.spec (d : IcDriver) : d.lifecycle.Spec := by
  cases d with
  | mcp23017 config hbus hlow hhigh =>
      exact mcp23017_spec hbus hlow hhigh
  | ads1115 config hbus =>
      exact ads1115_spec hbus
  | ssd1306 config hbus =>
      exact ssd1306_spec hbus

/-- From any state of a bus, any number of cycles of one driver instance, whatever its writes are
answered: the registry grows by at most one and a further `init` on a bus that is up and answers well
succeeds exactly if at most one cycle got its device registered and that left a slot. -/
theorem cycles_register_once_iff (d : IcDriver) (ctx : d.Ctx) (calls : List BusCall)
    (cycles : List Cycle) :
    let before : DriverState d.Ctx := ⟨ctx, run busStep World.initial calls⟩
    let after := run d.lifecycle.cycleStep before cycles
    d.lifecycle.ReleasesWhatItTakes before after ↔
      d.lifecycle.registrations before cycles ≤ 1 ∧
        (after.world.bus.initialized = true →
          before.world.bus.deviceCount + d.lifecycle.registrations before cycles <
            i2cBusMaxDevices) := by
  intro before after
  have hbus : BusInv before.world := inv_run busStep_inv BusInv.initial calls
  exact Lifecycle.releasesWhatItTakes_iff d.spec hbus cycles

/-! ## Eight failed inits -/

/-- A transfer that gets the mutex and is then answered with `ret` every time. -/
def answeredWith (ret : EspErr) : XferEnv :=
  ⟨true, fun _ => (ret, []), espOk, fun _ => true, espOk, fun _ => espOk, espOk⟩

/-- The device is taken and its chip acknowledges nothing. -/
def deafCycle : Cycle :=
  ⟨espOk, fun _ => answeredWith espFail, some fun _ => answeredWith espFail⟩

def healthyCycle : Cycle :=
  ⟨espOk, fun _ => answeredWith espOk, none⟩

/-- An MCP23017 at its first address. -/
def expander : IcDriver :=
  .mcp23017 ⟨some (), mcp23017AddrBase, 400000, 0xFF, 0xFF, 0x00, 0x00⟩ rfl (by decide) (by decide)

/-- The bus after its own `init`, the driver instance zeroed. -/
def freshBus : DriverState expander.Ctx :=
  ⟨(Mcp23017.zero : Mcp23017 Unit MasterDev),
    run busStep World.initial [.init (some ⟨21, 22, 0⟩) ⟨true, espOk⟩]⟩

/-- Two failed inits take two slots, and after eight of them an `init` on the healthy bus is refused. -/
theorem failed_inits_fill_registry :
    let after := fun n => run expander.lifecycle.cycleStep freshBus (List.replicate n deafCycle)
    freshBus.world.bus.deviceCount = 0 ∧ (after 2).world.bus.deviceCount = 2 ∧
      healthyCycle.Healthy ∧ (after 8).world.bus.initialized = true ∧
      (expander.lifecycle.init (after 8).ctx (healthyCycle.bus (after 8).world)).1 = espErrNoMem ∧
      ¬expander.lifecycle.ReleasesWhatItTakes freshBus (after 2) ∧
      ¬expander.lifecycle.ReleasesWhatItTakes freshBus (after 8) := by
  intro after
  have hhealthy : healthyCycle.Healthy := ⟨rfl, fun _ => ⟨rfl, rfl⟩⟩
  have htwo : (after 2).world.bus.deviceCount = 2 := by decide +kernel
  have height : (after 8).world.bus.deviceCount = 8 := by decide +kernel
  refine ⟨rfl, htwo, hhealthy, by decide +kernel, by decide +kernel, fun h => ?_, fun h => ?_⟩
  · have hgrown := h.1
    rw [htwo] at hgrown
    exact absurd hgrown (by decide)
  · have hgrown := h.1
    rw [height] at hgrown
    exact absurd hgrown (by decide)

end MainboardFirmware
