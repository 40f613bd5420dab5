import MainboardFirmware.Bus.I2cBusApi
import MainboardFirmware.Library.Bits

/-!
# Chip — the MCP23017 on the wire

The register file of the expander with both address layouts (`IOCON.BANK` 0 and 1), and a bus with
such chips on it that answers every transfer as it is told to. A transfer that is not answered
`ESP_OK` has no effect on the chip.
-/

namespace MainboardFirmware
namespace Mcp23017Chip

inductive Port
  | a
  | b
  deriving DecidableEq, Repr

/-- The registers; `IOCON` is one register with two addresses. -/
inductive Reg
  | iodir (port : Port)
  | ipol (port : Port)
  | gpinten (port : Port)
  | defval (port : Port)
  | intcon (port : Port)
  | iocon
  | gppu (port : Port)
  | intf (port : Port)
  | intcap (port : Port)
  | gpio (port : Port)
  | olat (port : Port)
  deriving DecidableEq, Repr

/-- The stored bytes. `GPIO` stores nothing: it is read from the pins. -/
abbrev RegFile := Reg → UInt8

/-! ## Addresses -/

/-- The registers of one port in address order. -/
def layout : List (Port → Reg) :=
  [.iodir, .ipol, .gpinten, .defval, .intcon, fun _ => .iocon, .gppu, .intf, .intcap, .gpio, .olat]

/-- The register at an address: with `BANK = 0` the two ports alternate, with `BANK = 1` port B
starts at `0x10`. -/
def regAt (bank : Bool) (addr : UInt8) : Option Reg :=
  let row := if bank then addr % 16 else addr / 2
  let col := if bank then addr / 16 else addr % 2
  match col with
  | 0 => layout[row.toNat]?.map fun reg => reg .a
  | 1 => layout[row.toNat]?.map fun reg => reg .b
  | _ => none

/-- `IOCON.BANK` -/
def bank (chip : RegFile) : Bool :=
  Bits.bit (chip .iocon) 7

/-- The register a written byte ends up in: `GPIO` is an alias of the latch, and the interrupt flags
and captures are read-only. -/
def written : Reg → Option Reg
  | .gpio port => some (.olat port)
  | .intf _ => none
  | .intcap _ => none
  | reg => some reg

/-- A write transfer. The drivers send one register address and one byte. -/
def write (chip : RegFile) : List UInt8 → RegFile
  | [addr, value] =>
      match (regAt (bank chip) addr).bind written with
      | some reg => Function.update chip reg value
      | none => chip
  | _ => chip

/-! ## Pins -/

/-- Level of the pins of a port: an output pin follows its latch, an input pin the outside. -/
def pinLevels (chip : RegFile) (outside : Port → UInt8) (port : Port) : UInt8 :=
  (chip (.iodir port) &&& outside port) ||| (~~~chip (.iodir port) &&& chip (.olat port))

/-- A read transfer of one register; an address without a register reads as zero. -/
def read (chip : RegFile) (outside : Port → UInt8) (addr : UInt8) : UInt8 :=
  match regAt (bank chip) addr with
  | some (.gpio port) => pinLevels chip outside port ^^^ chip (.ipol port)
  | some reg => chip reg
  | none => 0

/-- A pin is driven high: output direction and latch set. -/
def DrivenHigh (chip : RegFile) (port : Port) (i : Fin 8) : Prop :=
  Bits.bit (chip (.iodir port)) i = false ∧ Bits.bit (chip (.olat port)) i = true

instance (chip : RegFile) (port : Port) (i : Fin 8) : Decidable (DrivenHigh chip port i) :=
  inferInstanceAs (Decidable (_ ∧ _))

/-! ## A bus with chips -/

/-- A bus and an address on it. -/
abbrev Slot := Nat × UInt8

/-- What the hardware answers during one driver call. -/
structure Answers where
  addDevice : EspErr
  xfer : Nat → EspErr
  outside : Slot → Port → UInt8

/-- A bus call that was made, with the chips as it left them. -/
structure Traffic where
  slot : Slot
  op : BusOp
  ret : EspErr
  chips : Slot → RegFile

structure ChipBus where
  chips : Slot → RegFile
  answers : Answers
  /-- transfers made in the current driver call -/
  xfers : Nat
  /-- bus calls made in the current driver call -/
  traffic : List Traffic

namespace ChipBus

/-- The bus at the start of a driver call. -/
def arm (s : ChipBus) (answers : Answers) : ChipBus :=
  ⟨s.chips, answers, 0, []⟩

@[simp] theorem arm_chips (s : ChipBus) (answers : Answers) : (s.arm answers).chips = s.chips := rfl

@[simp] theorem arm_answers (s : ChipBus) (answers : Answers) :
    (s.arm answers).answers = answers := rfl

@[simp] theorem arm_xfers (s : ChipBus) (answers : Answers) : (s.arm answers).xfers = 0 := rfl

/-- The answer to the next transfer. -/
def answer (s : ChipBus) : EspErr :=
  s.answers.xfer s.xfers

/-- The bus after a write transfer to `slot`. -/
def afterWrite (s : ChipBus) (slot : Slot) (data : List UInt8) : ChipBus :=
  let chips := if s.answer = espOk then
    Function.update s.chips slot (Mcp23017Chip.write (s.chips slot) data) else s.chips
  ⟨chips, s.answers, s.xfers + 1, s.traffic ++ [⟨slot, .write data, s.answer, chips⟩]⟩

/-- The bus after a combined transfer. -/
def afterRead (s : ChipBus) (slot : Slot) (wrData : List UInt8) (rdLen : Nat) : ChipBus :=
  ⟨s.chips, s.answers, s.xfers + 1,
    s.traffic ++ [⟨slot, .writeRead wrData rdLen, s.answer, s.chips⟩]⟩

def addDevice (bus : Option Nat) (addr : UInt8) (_sclHz : UInt32) (_label : Option String)
    (old : Option Slot) (s : ChipBus) : EspErr × Option Slot × ChipBus :=
  match bus with
  | none => (espErrInvalidArg, old, s)
  | some bus =>
      let ret := s.answers.addDevice
      let handle := if ret = espOk then some (bus, addr) else old
      (ret, handle,
        { s with traffic := s.traffic ++ [⟨(bus, addr), .addDevice, ret, s.chips⟩] })

def write (bus : Option Nat) (dev : Option Slot) (data : List UInt8) (s : ChipBus) :
    EspErr × ChipBus :=
  match bus, dev with
  | some _, some slot => (s.answer, s.afterWrite slot data)
  | none, _ => (espErrInvalidState, s)
  | some _, none => (espErrInvalidArg, s)

def writeRead (bus : Option Nat) (dev : Option Slot) (wrData : List UInt8) (rdLen : Nat)
    (s : ChipBus) : EspErr × List UInt8 × ChipBus :=
  match bus, dev with
  | some _, some slot =>
      let bytes := if s.answer = espOk then
        wrData.map (Mcp23017Chip.read (s.chips slot) (s.answers.outside slot)) else []
      (s.answer, bytes, s.afterRead slot wrData rdLen)
  | none, _ => (espErrInvalidState, [], s)
  | some _, none => (espErrInvalidArg, [], s)

end ChipBus

/-- The bus functions on simulated chips. -/
def chipApi : I2cBusApi Nat Slot ChipBus where
  addDevice := ChipBus.addDevice
  write := ChipBus.write
  writeRead := ChipBus.writeRead

/-! ## Writes by register -/

section Writes

variable {chip : RegFile} {addr : UInt8} {reg : Reg}

/-- A write to the address of a plain register replaces that register. -/
theorem write_of_regAt (haddr : regAt (bank chip) addr = some reg) (hreg : written reg = some reg)
    (value : UInt8) : write chip [addr, value] = Function.update chip reg value := by
  simp [write, haddr, hreg]

/-- A register other than `IOCON` can be written without changing the address layout. -/
theorem bank_update (hreg : reg ≠ .iocon) (value : UInt8) :
    bank (Function.update chip reg value) = bank chip := by
  simp [bank, Function.update_of_ne hreg.symm]

theorem bank_update_iocon_zero : bank (Function.update chip .iocon 0) = false := by
  simp [bank]

end Writes

end Mcp23017Chip
end MainboardFirmware
