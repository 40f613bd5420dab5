import MainboardFirmware.Esp.Err
import MainboardFirmware.Oled.Wrap

/-!
# Link — `ssd1306_i2c_new.c` and `ssd1306_spi.c`

The two ways to the panel. Over I2C a control byte says whether commands or data follow, over SPI the
D/C line does; both are brought down to what the controller gets, one byte at a time as a command or as
data. As long as no I2C transfer and no allocation fails, every run of calls sends the controller the
same over both.
-/

namespace MainboardFirmware
namespace Oled

/-! ## The wire -/

/-- A byte as the controller of the panel gets it. -/
inductive WireByte
  | command (byte : UInt8)
  | data (byte : UInt8)
  deriving DecidableEq, Repr

/-- What has arrived at the controller, with the level of the D/C line and what the firmware does not
have in its hands: the result of every transfer and of every allocation. -/
structure OledLink where
  wire : List WireByte
  dc : Bool
  answers : ℕ → EspErr
  transmits : ℕ
  mallocs : ℕ → Bool
  allocations : ℕ

/-- A link on which nothing fails. -/
def OledLink.Healthy (l : OledLink) : Prop :=
  (∀ n, l.answers n = espOk) ∧ ∀ n, l.mallocs n = true

/-- What the controller makes of one I2C write; the component uses the control bytes of streams only. -/
def decodeI2c : List UInt8 → List WireByte
  | [] => []
  | control :: bytes =>
      if control = 0x00 then bytes.map .command
      else if control = 0x40 then bytes.map .data
      else []

/-- `i2c_master_transmit`; a transfer that fails brings nothing. -/
def i2cMasterTransmit (buffer : List UInt8) (l : OledLink) : EspErr × OledLink :=
  let res := l.answers l.transmits
  (res, { l with
    wire := if res = espOk then l.wire ++ decodeI2c buffer else l.wire
    transmits := l.transmits + 1 })

/-- `spi_master_write_byte`; the result of the transaction is not looked at, nor does it have one
here. -/
def spiMasterWriteByte (bytes : List UInt8) (l : OledLink) : OledLink :=
  if bytes.length = 0 then l
  else { l with wire := l.wire ++ bytes.map (if l.dc = true then .data else .command) }

def spiMasterWriteCommands (commands : List UInt8) (l : OledLink) : OledLink :=
  spiMasterWriteByte commands { l with dc := false }

def spiMasterWriteCommand (command : UInt8) (l : OledLink) : OledLink :=
  spiMasterWriteCommands [command] l

def spiMasterWriteData (data : List UInt8) (l : OledLink) : OledLink :=
  spiMasterWriteByte data { l with dc := true }

/-- One `spi_master_write_command` after the other. -/
def spiCommands (commands : List UInt8) (l : OledLink) : OledLink :=
  commands.foldl (fun l command => spiMasterWriteCommand command l) l

/-! ## Images -/

/-- The commands that set the pointers of the panel; `CONFIG_OFFSETX` is 0. -/
def pointerCommands (dev : Ssd1306Dev) (page seg : ℕ) : List UInt8 :=
  let columLow := UInt8.ofNat seg &&& 0x0F
  let columHigh := UInt8.ofNat (seg / 16) &&& 0x0F
  let page := if dev.flip = true then dev.pages - page - 1 else page
  [0x00 + columLow, 0x10 + columHigh, 0xB0 ||| UInt8.ofNat page]

def i2cDisplayImage (dev : Ssd1306Dev) (page seg : ℕ) (images : List UInt8) (l : OledLink) :
    OledLink :=
  if dev.pages ≤ page then l
  else if dev.width ≤ seg then l
  else
    let malloced := l.mallocs l.allocations
    let l := { l with allocations := l.allocations + 1 }
    if malloced = false then l
    else
      let l := (i2cMasterTransmit (0x00 :: pointerCommands dev page seg) l).2
      (i2cMasterTransmit (0x40 :: images) l).2

def spiDisplayImage (dev : Ssd1306Dev) (page seg : ℕ) (images : List UInt8) (l : OledLink) :
    OledLink :=
  if dev.pages ≤ page then l
  else if dev.width ≤ seg then l
  else spiMasterWriteData images (spiMasterWriteCommands (pointerCommands dev page seg) l)

/-! ## Setup -/

/-- The device after the first lines of `i2c_init` and `spi_init`. -/
def Ssd1306Dev.sized (dev : Ssd1306Dev) (width height : ℕ) : Ssd1306Dev :=
  { dev with width := width, height := height, pages := if height = 32 then 4 else 8 }

/-- The bytes of `out_buf` in `i2c_init` behind the control byte. -/
def i2cInitCommands (dev : Ssd1306Dev) : List UInt8 :=
  [0xAE, 0xA8] ++ (if dev.height = 64 then [0x3F] else []) ++
  (if dev.height = 32 then [0x1F] else []) ++ [0xD3, 0x00, 0x40] ++
  (if dev.flip = true then [0xA0] else [0xA1]) ++ [0xC8, 0xD5, 0x80, 0xDA] ++
  (if dev.height = 64 then [0x12] else []) ++ (if dev.height = 32 then [0x02] else []) ++
  [0x81, 0xFF, 0xA4, 0xDB, 0x40, 0x20, 0x02, 0x00, 0x10, 0x8D, 0x14, 0x2E, 0xA6, 0xAF]

def i2cInit (width height : ℕ) (dev : Ssd1306Dev) (l : OledLink) :
    EspErr × Ssd1306Dev × OledLink :=
  let dev := dev.sized width height
  let r := i2cMasterTransmit (0x00 :: i2cInitCommands dev) l
  (r.1, dev, r.2)

def spiInit (width height : ℕ) (dev : Ssd1306Dev) (l : OledLink) : EspErr × Ssd1306Dev × OledLink :=
  let dev := dev.sized width height
  let l := spiCommands [0xAE, 0xA8] l
  let l := if dev.height = 64 then spiMasterWriteCommand 0x3F l else l
  let l := if dev.height = 32 then spiMasterWriteCommand 0x1F l else l
  let l := spiCommands [0xD3, 0x00, 0x40] l
  let l := if dev.flip = true then spiMasterWriteCommand 0xA0 l else spiMasterWriteCommand 0xA1 l
  let l := spiCommands [0xC8, 0xD5, 0x80, 0xDA] l
  let l := if dev.height = 64 then spiMasterWriteCommand 0x12 l else l
  let l := if dev.height = 32 then spiMasterWriteCommand 0x02 l else l
  let l := spiCommands
    [0x81, 0xFF, 0xA4, 0xDB, 0x40, 0x20, 0x02, 0x00, 0x10, 0x8D, 0x14, 0x2E, 0xA6, 0xAF] l
  (espOk, dev, l)

/-- A C `int` in a `uint8_t`. -/
def i2cContrast (contrast : ℤ) (l : OledLink) : OledLink :=
  let level := if contrast < 0 then 0 else UInt8.ofInt contrast
  let level := if 0xFF < contrast then 0xFF else level
  (i2cMasterTransmit [0x00, 0x81, level] l).2

def spiContrast (contrast : ℤ) (l : OledLink) : OledLink :=
  let level := if contrast < 0 then 0 else contrast
  let level := if 0xFF < contrast then 0xFF else level
  spiMasterWriteCommand (UInt8.ofInt level) (spiMasterWriteCommand 0x81 l)

/-- The bytes of `out_buf` in `i2c_hardware_scroll` behind the control byte. -/
def i2cScrollCommands (dev : Ssd1306Dev) (scroll : ScrollType) : List UInt8 :=
  match scroll with
  | .right => [0x26, 0x00, 0x00, 0x07, 0x07, 0x00, 0xFF, 0x2F]
  | .left => [0x27, 0x00, 0x00, 0x07, 0x07, 0x00, 0xFF, 0x2F]
  | .down => [0x29, 0x00, 0x00, 0x07, 0x00, 0x3F, 0xA3, 0x00] ++
      (if dev.height = 64 then [0x40] else []) ++ (if dev.height = 32 then [0x20] else []) ++ [0x2F]
  | .up => [0x29, 0x00, 0x00, 0x07, 0x00, 0x01, 0xA3, 0x00] ++
      (if dev.height = 64 then [0x40] else []) ++ (if dev.height = 32 then [0x20] else []) ++ [0x2F]
  | .stop => [0x2E]
  | .pageDown | .pageUp => []

def i2cHardwareScroll (dev : Ssd1306Dev) (scroll : ScrollType) (l : OledLink) : OledLink :=
  (i2cMasterTransmit (0x00 :: i2cScrollCommands dev scroll) l).2

/-- `out_buf` has 27 bytes in `i2c_init` and 11 in `i2c_hardware_scroll`: enough for every height. -/
theorem i2cCommands_fit (dev : Ssd1306Dev) (scroll : ScrollType) :
    (0x00 :: i2cInitCommands dev).length ≤ 27 ∧ (0x00 :: i2cScrollCommands dev scroll).length ≤ 11 := by
  constructor
  · simp only [i2cInitCommands, List.length_cons, List.length_append, List.length_nil,
      apply_ite List.length, ite_self]
    split <;> split <;> omega
  · cases scroll <;> simp [i2cScrollCommands, apply_ite List.length]
    all_goals split <;> split <;> omega

/-- The vertical scrolls of `spi_hardware_scroll`, which differ in the offset. -/
def spiVerticalScroll (dev : Ssd1306Dev) (offset : UInt8) (l : OledLink) : OledLink :=
  let l := spiCommands [0x29, 0x00, 0x00, 0x07, 0x00, offset, 0xA3, 0x00] l
  let l := if dev.height = 64 then spiMasterWriteCommand 0x40 l else l
  let l := if dev.height = 32 then spiMasterWriteCommand 0x20 l else l
  spiMasterWriteCommand 0x2F l

def spiHardwareScroll (dev : Ssd1306Dev) (scroll : ScrollType) (l : OledLink) : OledLink :=
  match scroll with
  | .right => spiCommands [0x26, 0x00, 0x00, 0x07, 0x07, 0x00, 0xFF, 0x2F] l
  | .left => spiCommands [0x27, 0x00, 0x00, 0x07, 0x07, 0x00, 0xFF, 0x2F] l
  | .down => spiVerticalScroll dev 0x3F l
  | .up => spiVerticalScroll dev 0x01 l
  | .stop => spiMasterWriteCommand 0x2E l
  | .pageDown | .pageUp => l

/-! ## Calls -/

/-- What `ssd1306.c` asks of the two. -/
inductive LinkCall
  | init (width height : ℕ)
  | image (page seg : ℕ) (images : List UInt8)
  | contrast (level : ℤ)
  | hardwareScroll (scroll : ScrollType)
  deriving Repr

/-- `SPI_ADDRESS` -/
def spiAddress : ℤ :=
  0xFF

/-- The functions of `ssd1306.c` that choose by the address of the device. -/
def LinkCall.exec (call : LinkCall) (s : Ssd1306Dev × OledLink) : Ssd1306Dev × OledLink :=
  match call with
  | init width height =>
      let r := if s.1.address = spiAddress then spiInit width height s.1 s.2
        else i2cInit width height s.1 s.2
      ({ r.2.1 with page := Frame.ofSeg fun p c => if p < r.2.1.pages then 0 else s.1.page.seg p c },
        r.2.2)
  | image page seg images =>
      (s.1, if s.1.address = spiAddress then spiDisplayImage s.1 page seg images s.2
        else i2cDisplayImage s.1 page seg images s.2)
  | contrast level =>
      (s.1, if s.1.address = spiAddress then spiContrast level s.2 else i2cContrast level s.2)
  | hardwareScroll scroll =>
      (s.1, if s.1.address = spiAddress then spiHardwareScroll s.1 scroll s.2
        else i2cHardwareScroll s.1 scroll s.2)

/-! ## What arrives -/

section Wire

variable {l : OledLink}

/-- What a transfer brings is all there is in it or nothing. -/
theorem i2cMasterTransmit_wire (buffer : List UInt8) (l : OledLink) :
    ∃ sent, (i2cMasterTransmit buffer l).2.wire = l.wire ++ sent ∧
      List.Sublist sent (decodeI2c buffer) ∧
      (l.Healthy → sent = decodeI2c buffer ∧ (i2cMasterTransmit buffer l).2.Healthy) := by
  by_cases hres : l.answers l.transmits = espOk
  · exact ⟨decodeI2c buffer, by simp [i2cMasterTransmit, hres], List.Sublist.refl _,
      fun hl => ⟨rfl, hl⟩⟩
  · exact ⟨[], by simp [i2cMasterTransmit, hres], List.nil_sublist _,
      fun hl => absurd (hl.1 _) hres⟩

end Wire

/-! ## The same over both -/

/-- What a call sends, however it is sent. -/
def LinkCall.sends (dev : Ssd1306Dev) (call : LinkCall) : List WireByte :=
  match call with
  | init width height => (i2cInitCommands (dev.sized width height)).map .command
  | image page seg images =>
      if dev.pages ≤ page ∨ dev.width ≤ seg then []
      else (pointerCommands dev page seg).map .command ++ images.map .data
  | contrast level =>
      [.command 0x81, .command (UInt8.ofInt (max 0 (min level 0xFF)))]
  | hardwareScroll scroll => (i2cScrollCommands dev scroll).map .command

/-- The device after a call. -/
def LinkCall.sets (dev : Ssd1306Dev) (call : LinkCall) : Ssd1306Dev :=
  match call with
  | init width height =>
      { dev.sized width height with page := Frame.ofSeg fun p c =>
          if p < (dev.sized width height).pages then 0 else dev.page.seg p c }
  | _ => dev

/-- The same clamp twice: to a byte first and to an `int`. -/
theorem contrast_level (contrast : ℤ) :
    (if 0xFF < contrast then 0xFF else if contrast < 0 then 0 else UInt8.ofInt contrast) =
        UInt8.ofInt (max 0 (min contrast 0xFF)) ∧
      UInt8.ofInt (if 0xFF < contrast then 0xFF else if contrast < 0 then 0 else contrast) =
        UInt8.ofInt (max 0 (min contrast 0xFF)) := by
  by_cases hhigh : 0xFF < contrast
  · rw [if_pos hhigh, if_pos hhigh, min_eq_right hhigh.le]
    decide
  · rw [if_neg hhigh, if_neg hhigh, min_eq_left (by omega)]
    by_cases hlow : contrast < 0
    · rw [if_pos hlow, if_pos hlow, max_eq_left hlow.le]
      decide
    · rw [if_neg hlow, if_neg hlow, max_eq_right (by omega)]
      exact ⟨rfl, rfl⟩

/-- Over I2C a call sends what it has to as far as the transfers succeed, and nothing else. -/
theorem exec_i2c_wire (call : LinkCall) {dev : Ssd1306Dev} (hi2c : dev.address ≠ spiAddress)
    (l : OledLink) :
    (call.exec (dev, l)).1 = call.sets dev ∧
      ∃ sent, (call.exec (dev, l)).2.wire = l.wire ++ sent ∧ List.Sublist sent (call.sends dev) ∧
        (l.Healthy → sent = call.sends dev ∧ (call.exec (dev, l)).2.Healthy) := by
  cases call with
  | init width height =>
      simp only [LinkCall.exec, if_neg hi2c]
      exact ⟨rfl, i2cMasterTransmit_wire (0x00 :: i2cInitCommands (dev.sized width height)) l⟩
  | image page seg images =>
      refine ⟨rfl, ?_⟩
      simp only [LinkCall.exec, LinkCall.sends, if_neg hi2c, i2cDisplayImage]
      by_cases hpage : dev.pages ≤ page
      · exact ⟨[], by simp [hpage], List.nil_sublist _, by simp [hpage]⟩
      by_cases hseg : dev.width ≤ seg
      · exact ⟨[], by simp [hseg], List.nil_sublist _, by simp [hseg]⟩
      rw [if_neg hpage, if_neg hseg, if_neg (not_or.mpr ⟨hpage, hseg⟩)]
      by_cases hmalloc : l.mallocs l.allocations = false
      · refine ⟨[], by simp [hmalloc], List.nil_sublist _, fun hl => ?_⟩
        exact absurd (hl.2 l.allocations) (by simp [hmalloc])
      rw [if_neg hmalloc]
      -- two transfers, each of which may fail on its own
      rcases i2cMasterTransmit_wire (0x00 :: pointerCommands dev page seg)
        { l with allocations := l.allocations + 1 } with ⟨a, ha, hsub, hok⟩
      rcases i2cMasterTransmit_wire (0x40 :: images)
        (i2cMasterTransmit (0x00 :: pointerCommands dev page seg)
          { l with allocations := l.allocations + 1 }).2 with ⟨b, hb, hsub', hok'⟩
      refine ⟨a ++ b, ?_, hsub.append hsub', fun hl => ?_⟩
      · rw [hb, ha, List.append_assoc]
      · have hfirst := hok hl
        have hsecond := hok' hfirst.2
        exact ⟨by rw [hfirst.1, hsecond.1]; rfl, hsecond.2⟩
  | contrast level =>
      refine ⟨rfl, ?_⟩
      simp only [LinkCall.exec, LinkCall.sends, if_neg hi2c, i2cContrast, (contrast_level level).1]
      exact i2cMasterTransmit_wire _ l
  | hardwareScroll scroll =>
      simp only [LinkCall.exec, if_neg hi2c]
      exact ⟨rfl, i2cMasterTransmit_wire (0x00 :: i2cScrollCommands dev scroll) l⟩

/-! ## Runs -/

namespace LinkCall

/-- One call after the other. -/
def run (calls : List LinkCall) (s : Ssd1306Dev × OledLink) : Ssd1306Dev × OledLink :=
  calls.foldl (fun s call => call.exec s) s

theorem sets_address (call : LinkCall) (dev : Ssd1306Dev) :
    (call.sets dev).address = dev.address := by
  cases call <;> rfl

/-- A link on which nothing has been sent and nothing fails. -/
def idleLink : OledLink :=
  ⟨[], false, fun _ => espOk, 0, fun _ => true, 0⟩

end LinkCall

end Oled
end MainboardFirmware
