import MainboardFirmware.Bus.I2cBusApi
import MainboardFirmware.Library.Bits

/-!
# Driver — `firmware/main/drivers/ic/mcp23017.c`

The eleven operations of the driver, over any bus. One driver instance is followed: its context and
the bus make up the state, and a pointer to the context is an `Option Unit` (`none` is `NULL`). A
port and a direction are C enumerations, so any 32-bit value can be passed for them.
-/

namespace MainboardFirmware

/-! ## Constants -/

def mcp23017RegIodira : UInt8 := 0x00
def mcp23017RegIodirb : UInt8 := 0x01
def mcp23017RegIpola : UInt8 := 0x02
def mcp23017RegIpolb : UInt8 := 0x03
def mcp23017RegGppua : UInt8 := 0x0C
def mcp23017RegGppub : UInt8 := 0x0D
def mcp23017RegGpioa : UInt8 := 0x12
def mcp23017RegGpiob : UInt8 := 0x13
def mcp23017RegOlata : UInt8 := 0x14
def mcp23017RegOlatb : UInt8 := 0x15
def mcp23017RegIocon : UInt8 := 0x0A
def mcp23017RegIoconBank1 : UInt8 := 0x05

def mcp23017AddrBase : UInt8 := 0x20
def mcp23017AddrMax : UInt8 := 0x27
def mcp23017PinMax : UInt8 := 7
def mcp23017DefaultOlat : UInt8 := 0x00

def mcp23017PortA : UInt32 := 0
def mcp23017PortB : UInt32 := 1
def mcp23017DirOutput : UInt32 := 0
def mcp23017DirInput : UInt32 := 1

/-! ## Data -/

variable {β η σ : Type}

/-- `mcp23017_config_t` -/
structure Mcp23017Config (β : Type) where
  bus : Option β
  address : UInt8
  sclHz : UInt32
  dirA : UInt8
  dirB : UInt8
  pullupA : UInt8
  pullupB : UInt8
  deriving DecidableEq, Repr

/-- `mcp23017_t` -/
structure Mcp23017 (β η : Type) where
  busHandle : Option β
  devHandle : Option η
  devAddr : UInt8
  isInitialized : Bool
  dirA : UInt8
  dirB : UInt8
  olatA : UInt8
  olatB : UInt8
  deriving DecidableEq, Repr

/-- `memset(dev, 0, sizeof(mcp23017_t))` -/
def Mcp23017.zero : Mcp23017 β η :=
  ⟨none, none, 0, false, 0, 0, 0, 0⟩

/-- The driver instance and the bus it talks over. -/
structure Mcp23017World (β η σ : Type) where
  dev : Mcp23017 β η
  bus : σ

/-- The value for the selected port: `(port == MCP23017_PORT_A) ? a : b`. -/
def ofPort {α : Type} (port : UInt32) (a b : α) : α :=
  if port = mcp23017PortA then a else b

/-- The two pairs of shadow bytes. -/
inductive Mcp23017Shadow
  | dir
  | olat
  deriving DecidableEq, Repr

namespace Mcp23017

/-- The shadow byte `(port == MCP23017_PORT_A) ? &dev->x_a : &dev->x_b` points at. -/
def shadow (dev : Mcp23017 β η) : Mcp23017Shadow → UInt32 → UInt8
  | .dir, port => ofPort port dev.dirA dev.dirB
  | .olat, port => ofPort port dev.olatA dev.olatB

def setShadow (dev : Mcp23017 β η) : Mcp23017Shadow → UInt32 → UInt8 → Mcp23017 β η
  | .dir, port, value => ofPort port { dev with dirA := value } { dev with dirB := value }
  | .olat, port, value => ofPort port { dev with olatA := value } { dev with olatB := value }

end Mcp23017

/-! ## Private helpers -/

variable (api : I2cBusApi β η σ)

/-- `_mcp23017_is_ready` -/
def mcp23017IsReady (dev : Option Unit) (w : Mcp23017World β η σ) : Bool :=
  dev.isSome && w.dev.isInitialized

/-- `_mcp23017_write_reg` -/
def mcp23017WriteReg (reg data : UInt8) (w : Mcp23017World β η σ) :
    EspErr × Mcp23017World β η σ :=
  let (ret, bus) := api.write w.dev.busHandle w.dev.devHandle [reg, data] w.bus
  (ret, ⟨w.dev, bus⟩)

/-- `_mcp23017_read_reg`; `old` is what the output byte holds before. -/
def mcp23017ReadReg (reg old : UInt8) (w : Mcp23017World β η σ) :
    EspErr × UInt8 × Mcp23017World β η σ :=
  let (ret, bytes, bus) := api.writeRead w.dev.busHandle w.dev.devHandle [reg] 1 w.bus
  (ret, bytes.headD old, ⟨w.dev, bus⟩)

/-- The register writes of an init sequence, in order; the first one that fails ends it. -/
def mcp23017WriteRegs : List (UInt8 × UInt8) → Mcp23017World β η σ → EspErr × Mcp23017World β η σ
  | [], w => (espOk, w)
  | (reg, data) :: rest, w =>
      let (ret, w) := mcp23017WriteReg api reg data w
      if ret ≠ espOk then (ret, w) else mcp23017WriteRegs rest w

/-! ## Lifecycle -/

/-- Step [4] of `mcp23017_init`. -/
def mcp23017InitSequence (config : Mcp23017Config β) : List (UInt8 × UInt8) :=
  [ -- Step A: force IOCON.BANK = 0
    (mcp23017RegIoconBank1, 0x00),
    (mcp23017RegIocon, 0x00),
    -- Step B: direction
    (mcp23017RegIodira, config.dirA),
    (mcp23017RegIodirb, config.dirB),
    -- Step C: pull-ups
    (mcp23017RegGppua, config.pullupA),
    (mcp23017RegGppub, config.pullupB),
    -- Step D: output latches
    (mcp23017RegOlata, mcp23017DefaultOlat),
    (mcp23017RegOlatb, mcp23017DefaultOlat)]

/-- Step [2] of `mcp23017_init`: the context when the device is about to be registered. -/
def Mcp23017.transferConfig (dev : Mcp23017 β η) (config : Mcp23017Config β) : Mcp23017 β η :=
  { dev with busHandle := config.bus, devAddr := config.address, isInitialized := false }

/-- Steps [5] and [6] of `mcp23017_init`. -/
def Mcp23017.synchronize (dev : Mcp23017 β η) (config : Mcp23017Config β) : Mcp23017 β η :=
  { dev with
    dirA := config.dirA
    dirB := config.dirB
    olatA := mcp23017DefaultOlat
    olatB := mcp23017DefaultOlat
    isInitialized := true }

def mcp23017Init (dev : Option Unit) (config : Option (Mcp23017Config β))
    (w : Mcp23017World β η σ) : EspErr × Mcp23017World β η σ :=
  match dev, config with
  | some (), some config =>
      if config.bus = none then
        (espErrInvalidArg, w)
      else if config.address < mcp23017AddrBase ∨ mcp23017AddrMax < config.address then
        (espErrInvalidArg, w)
      else
        -- the context is down from here until the last write has succeeded
        let ctx := w.dev.transferConfig config
        let (ret, handle, bus) :=
          api.addDevice config.bus config.address config.sclHz (some "mcp23017") ctx.devHandle w.bus
        let w : Mcp23017World β η σ := ⟨{ ctx with devHandle := handle }, bus⟩
        if ret ≠ espOk then
          (ret, w)
        else
          let (ret, w) := mcp23017WriteRegs api (mcp23017InitSequence config) w
          if ret ≠ espOk then (ret, w) else (espOk, ⟨w.dev.synchronize config, w.bus⟩)
  | _, _ => (espErrInvalidArg, w)

def mcp23017Deinit (dev : Option Unit) (w : Mcp23017World β η σ) : Mcp23017World β η σ :=
  match dev with
  | none => w
  | some () => ⟨Mcp23017.zero, w.bus⟩

/-! ## Port-level operations -/

/-- The common body of the port-level writes: `store` is what happens to the shadow after a
confirmed hardware write. -/
def writePortReg (regA regB : UInt8) (store : Mcp23017 β η → UInt32 → UInt8 → Mcp23017 β η)
    (dev : Option Unit) (port : UInt32) (value : UInt8) (w : Mcp23017World β η σ) :
    EspErr × Mcp23017World β η σ :=
  if mcp23017IsReady dev w = false then
    (espErrInvalidState, w)
  else if port ≠ mcp23017PortA ∧ port ≠ mcp23017PortB then
    (espErrInvalidArg, w)
  else
    let (ret, w) := mcp23017WriteReg api (ofPort port regA regB) value w
    -- the shadow follows the chip
    if ret ≠ espOk then (ret, w) else (espOk, ⟨store w.dev port value, w.bus⟩)

def mcp23017SetPortDirection (dev : Option Unit) (port : UInt32) (dirMask : UInt8)
    (w : Mcp23017World β η σ) : EspErr × Mcp23017World β η σ :=
  writePortReg api mcp23017RegIodira mcp23017RegIodirb (fun dev => dev.setShadow .dir) dev port
    dirMask w

def mcp23017WritePort (dev : Option Unit) (port : UInt32) (value : UInt8)
    (w : Mcp23017World β η σ) : EspErr × Mcp23017World β η σ :=
  writePortReg api mcp23017RegOlata mcp23017RegOlatb (fun dev => dev.setShadow .olat) dev port
    value w

/-- Pull-ups have no shadow. -/
def mcp23017SetPortPullup (dev : Option Unit) (port : UInt32) (pullupMask : UInt8)
    (w : Mcp23017World β η σ) : EspErr × Mcp23017World β η σ :=
  writePortReg api mcp23017RegGppua mcp23017RegGppub (fun dev _ _ => dev) dev port pullupMask w

/-- Neither has the polarity. -/
def mcp23017SetPortPolarity (dev : Option Unit) (port : UInt32) (polarityMask : UInt8)
    (w : Mcp23017World β η σ) : EspErr × Mcp23017World β η σ :=
  writePortReg api mcp23017RegIpola mcp23017RegIpolb (fun dev _ _ => dev) dev port polarityMask w

/-- `out` is the caller's output byte (`none` for a `NULL` pointer), before and after. -/
def mcp23017ReadPort (dev : Option Unit) (port : UInt32) (out : Option UInt8)
    (w : Mcp23017World β η σ) : EspErr × Option UInt8 × Mcp23017World β η σ :=
  if mcp23017IsReady dev w = false then
    (espErrInvalidState, out, w)
  else if port ≠ mcp23017PortA ∧ port ≠ mcp23017PortB then
    (espErrInvalidArg, out, w)
  else
    match out with
    | none => (espErrInvalidArg, out, w)
    | some old =>
        -- a read that fails leaves the caller's byte to the bus driver
        let (ret, value, w) :=
          mcp23017ReadReg api (ofPort port mcp23017RegGpioa mcp23017RegGpiob) old w
        (ret, some value, w)

/-! ## Pin-level operations -/

/-- The common body of the pin-level writes: read-modify-write on the shadow byte, then the write.
`argOk` is the operation's own argument check. -/
def modifyPin (shadow : Mcp23017Shadow) (regA regB : UInt8) (argOk : Bool)
    (modify : UInt8 → UInt8) (dev : Option Unit) (port : UInt32) (pin : UInt8)
    (w : Mcp23017World β η σ) : EspErr × Mcp23017World β η σ :=
  if mcp23017IsReady dev w = false then
    (espErrInvalidState, w)
  else if port ≠ mcp23017PortA ∧ port ≠ mcp23017PortB then
    (espErrInvalidArg, w)
  else if mcp23017PinMax < pin then
    (espErrInvalidArg, w)
  else if argOk = false then
    (espErrInvalidArg, w)
  else
    -- the shadow is changed in place before the write is tried
    let ctx := w.dev.setShadow shadow port (modify (w.dev.shadow shadow port))
    mcp23017WriteReg api (ofPort port regA regB) (ctx.shadow shadow port) ⟨ctx, w.bus⟩

def mcp23017SetPinDirection (dev : Option Unit) (port : UInt32) (pin : UInt8) (direction : UInt32)
    (w : Mcp23017World β η σ) : EspErr × Mcp23017World β η σ :=
  modifyPin api .dir mcp23017RegIodira mcp23017RegIodirb
    (direction == mcp23017DirInput || direction == mcp23017DirOutput)
    (fun b => Bits.writeBit b pin (direction == mcp23017DirInput)) dev port pin w

def mcp23017WritePin (dev : Option Unit) (port : UInt32) (pin : UInt8) (value : Bool)
    (w : Mcp23017World β η σ) : EspErr × Mcp23017World β η σ :=
  modifyPin api .olat mcp23017RegOlata mcp23017RegOlatb true (fun b => Bits.writeBit b pin value)
    dev port pin w

def mcp23017TogglePin (dev : Option Unit) (port : UInt32) (pin : UInt8)
    (w : Mcp23017World β η σ) : EspErr × Mcp23017World β η σ :=
  modifyPin api .olat mcp23017RegOlata mcp23017RegOlatb true (fun b => Bits.flipBit b pin) dev port
    pin w

def mcp23017ReadPin (dev : Option Unit) (port : UInt32) (pin : UInt8) (out : Option Bool)
    (w : Mcp23017World β η σ) : EspErr × Option Bool × Mcp23017World β η σ :=
  if mcp23017IsReady dev w = false then
    (espErrInvalidState, out, w)
  else if port ≠ mcp23017PortA ∧ port ≠ mcp23017PortB then
    (espErrInvalidArg, out, w)
  else if mcp23017PinMax < pin then
    (espErrInvalidArg, out, w)
  else if out = none then
    (espErrInvalidArg, out, w)
  else
    -- the level of the pin, not its latch
    let (ret, raw, w) :=
      mcp23017ReadReg api (ofPort port mcp23017RegGpioa mcp23017RegGpiob) 0 w
    if ret ≠ espOk then (ret, out, w) else (espOk, some (Bits.testBit raw pin), w)

/-! ## Calls through the vtable -/

/-- A call of one of the eleven operations. -/
inductive Mcp23017Call (β : Type)
  | init (dev : Option Unit) (config : Option (Mcp23017Config β))
  | deinit (dev : Option Unit)
  | setPortDirection (dev : Option Unit) (port : UInt32) (dirMask : UInt8)
  | writePort (dev : Option Unit) (port : UInt32) (value : UInt8)
  | readPort (dev : Option Unit) (port : UInt32) (out : Option UInt8)
  | setPortPullup (dev : Option Unit) (port : UInt32) (pullupMask : UInt8)
  | setPortPolarity (dev : Option Unit) (port : UInt32) (polarityMask : UInt8)
  | setPinDirection (dev : Option Unit) (port : UInt32) (pin : UInt8) (direction : UInt32)
  | writePin (dev : Option Unit) (port : UInt32) (pin : UInt8) (value : Bool)
  | readPin (dev : Option Unit) (port : UInt32) (pin : UInt8) (out : Option Bool)
  | togglePin (dev : Option Unit) (port : UInt32) (pin : UInt8)

/-- What the caller gets back: the return code (`deinit` has none, which counts as `ESP_OK`) and the
output variable of a read. -/
structure Mcp23017Result where
  ret : EspErr
  port : Option UInt8
  pin : Option Bool
  deriving DecidableEq, Repr

def Mcp23017Call.exec (call : Mcp23017Call β) (w : Mcp23017World β η σ) :
    Mcp23017Result × Mcp23017World β η σ :=
  match call with
  | .init dev config =>
      let (ret, w) := mcp23017Init api dev config w
      (⟨ret, none, none⟩, w)
  | .deinit dev => (⟨espOk, none, none⟩, mcp23017Deinit dev w)
  | .setPortDirection dev port dirMask =>
      let (ret, w) := mcp23017SetPortDirection api dev port dirMask w
      (⟨ret, none, none⟩, w)
  | .writePort dev port value =>
      let (ret, w) := mcp23017WritePort api dev port value w
      (⟨ret, none, none⟩, w)
  | .readPort dev port out =>
      let (ret, out, w) := mcp23017ReadPort api dev port out w
      (⟨ret, out, none⟩, w)
  | .setPortPullup dev port pullupMask =>
      let (ret, w) := mcp23017SetPortPullup api dev port pullupMask w
      (⟨ret, none, none⟩, w)
  | .setPortPolarity dev port polarityMask =>
      let (ret, w) := mcp23017SetPortPolarity api dev port polarityMask w
      (⟨ret, none, none⟩, w)
  | .setPinDirection dev port pin direction =>
      let (ret, w) := mcp23017SetPinDirection api dev port pin direction w
      (⟨ret, none, none⟩, w)
  | .writePin dev port pin value =>
      let (ret, w) := mcp23017WritePin api dev port pin value w
      (⟨ret, none, none⟩, w)
  | .readPin dev port pin out =>
      let (ret, out, w) := mcp23017ReadPin api dev port pin out w
      (⟨ret, none, out⟩, w)
  | .togglePin dev port pin =>
      let (ret, w) := mcp23017TogglePin api dev port pin w
      (⟨ret, none, none⟩, w)

end MainboardFirmware
