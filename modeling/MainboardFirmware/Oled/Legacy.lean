import MainboardFirmware.Oled.Link

/-!
# Legacy — `ssd1306_i2c_legacy.c`

What ESP-IDF before 5.2 is built with. Each transfer is put together in a command link, START and STOP
and the address of the panel included, where `ssd1306_i2c_new.c` fills a buffer and leaves the rest to
the driver. Whatever transfers fail, the controller gets the same over both.
-/

namespace MainboardFirmware
namespace Oled

/-! ## Command links -/

/-- What is put into a command link. -/
inductive LinkOp
  | start
  | write (bytes : List UInt8)
  | stop
  deriving DecidableEq, Repr

/-- `i2c_cmd_handle_t`; `NULL` where there was no memory for it. -/
abbrev CmdLink := Option (List LinkOp)

def i2cCmdLinkCreate (l : OledLink) : CmdLink × OledLink :=
  (if l.mallocs l.allocations = true then some [] else none,
    { l with allocations := l.allocations + 1 })

def i2cMasterStart (cmd : CmdLink) : CmdLink :=
  cmd.map fun ops => ops ++ [.start]

def i2cMasterWriteByte (byte : UInt8) (cmd : CmdLink) : CmdLink :=
  cmd.map fun ops => ops ++ [.write [byte]]

/-- `i2c_master_write`; no bytes are an invalid argument, and the answer is not looked at. -/
def i2cMasterWrite (data : List UInt8) (cmd : CmdLink) : CmdLink :=
  if data.length = 0 then cmd else cmd.map fun ops => ops ++ [.write data]

def i2cMasterStop (cmd : CmdLink) : CmdLink :=
  cmd.map fun ops => ops ++ [.stop]

/-- One `i2c_master_write_byte` after the other. -/
def i2cMasterWriteBytes (bytes : List UInt8) (cmd : CmdLink) : CmdLink :=
  bytes.foldl (fun cmd byte => i2cMasterWriteByte byte cmd) cmd

/-- The messages of a link: what is written between a START and a STOP. -/
def LinkOp.messages : List LinkOp → Option (List UInt8) → List (List UInt8)
  | [], _ => []
  | .start :: ops, _ => messages ops (some [])
  | .write bytes :: ops, message => messages ops (message.map fun sent => sent ++ bytes)
  | .stop :: ops, none => messages ops none
  | .stop :: ops, some message => message :: messages ops none

/-- What the controller with a 7-bit address makes of a message; the bit behind the address is the one
of a write. -/
def heardAt (panel : ℕ) : List UInt8 → List WireByte
  | [] => []
  | address :: bytes => if address = UInt8.ofNat (panel * 2) then decodeI2c bytes else []

/-- `i2c_master_cmd_begin` to the controller with the address `panel`. -/
def i2cMasterCmdBegin (panel : ℕ) (cmd : CmdLink) (l : OledLink) : EspErr × OledLink :=
  match cmd with
  | none => (espErrInvalidArg, l)
  | some ops =>
      let res := l.answers l.transmits
      (res, { l with
        wire := if res = espOk then l.wire ++ (LinkOp.messages ops none).flatMap (heardAt panel)
          else l.wire
        transmits := l.transmits + 1 })

/-! ## The driver -/

/-- A command link as every function of the driver uses one: it is created and started, filled, stopped
and sent. -/
def legacyTransfer (panel : ℕ) (fill : CmdLink → CmdLink) (l : OledLink) : EspErr × OledLink :=
  let created := i2cCmdLinkCreate l
  i2cMasterCmdBegin panel (i2cMasterStop (fill (i2cMasterStart created.1))) created.2

/-- `(dev->_address << 1) | I2C_MASTER_WRITE`, as a byte. -/
def writeAddress (dev : Ssd1306Dev) : UInt8 :=
  UInt8.ofInt (dev.address * 2)

def legacyInit (panel width height : ℕ) (dev : Ssd1306Dev) (l : OledLink) :
    EspErr × Ssd1306Dev × OledLink :=
  let dev := dev.sized width height
  let r := legacyTransfer panel (fun cmd =>
    let cmd := i2cMasterWriteBytes [writeAddress dev, 0x00, 0xAE, 0xA8] cmd
    let cmd := if dev.height = 64 then i2cMasterWriteByte 0x3F cmd else cmd
    let cmd := if dev.height = 32 then i2cMasterWriteByte 0x1F cmd else cmd
    let cmd := i2cMasterWriteBytes [0xD3, 0x00, 0x40] cmd
    let cmd := if dev.flip = true then i2cMasterWriteByte 0xA0 cmd else i2cMasterWriteByte 0xA1 cmd
    let cmd := i2cMasterWriteBytes [0xC8, 0xD5, 0x80, 0xDA] cmd
    let cmd := if dev.height = 64 then i2cMasterWriteByte 0x12 cmd else cmd
    let cmd := if dev.height = 32 then i2cMasterWriteByte 0x02 cmd else cmd
    i2cMasterWriteBytes
      [0x81, 0xFF, 0xA4, 0xDB, 0x40, 0x20, 0x02, 0x00, 0x10, 0x8D, 0x14, 0x2E, 0xA6, 0xAF] cmd) l
  (r.1, dev, r.2)

def legacyDisplayImage (panel : ℕ) (dev : Ssd1306Dev) (page seg : ℕ) (images : List UInt8)
    (l : OledLink) : OledLink :=
  if dev.pages ≤ page then l
  else if dev.width ≤ seg then l
  else
    let columLow := UInt8.ofNat seg &&& 0x0F
    let columHigh := UInt8.ofNat (seg / 16) &&& 0x0F
    let page := if dev.flip = true then dev.pages - page - 1 else page
    let l := (legacyTransfer panel (fun cmd =>
      let cmd := i2cMasterWriteBytes [writeAddress dev, 0x00] cmd
      let cmd := i2cMasterWriteByte (0x00 + columLow) cmd
      let cmd := i2cMasterWriteByte (0x10 + columHigh) cmd
      i2cMasterWriteByte (0xB0 ||| UInt8.ofNat page) cmd) l).2
    (legacyTransfer panel (fun cmd =>
      i2cMasterWrite images (i2cMasterWriteBytes [writeAddress dev, 0x40] cmd)) l).2

def legacyContrast (panel : ℕ) (dev : Ssd1306Dev) (contrast : ℤ) (l : OledLink) : OledLink :=
  let level := if contrast < 0 then 0 else contrast
  let level := if 0xFF < contrast then 0xFF else level
  (legacyTransfer panel (fun cmd =>
    i2cMasterWriteBytes [writeAddress dev, 0x00, 0x81, UInt8.ofInt level] cmd) l).2

/-- The vertical scrolls, which differ in the offset. -/
def legacyVerticalScroll (dev : Ssd1306Dev) (offset : UInt8) (cmd : CmdLink) : CmdLink :=
  let cmd := i2cMasterWriteBytes [0x29, 0x00, 0x00, 0x07, 0x00, offset, 0xA3, 0x00] cmd
  let cmd := if dev.height = 64 then i2cMasterWriteByte 0x40 cmd else cmd
  let cmd := if dev.height = 32 then i2cMasterWriteByte 0x20 cmd else cmd
  i2cMasterWriteByte 0x2F cmd

def legacyHardwareScroll (panel : ℕ) (dev : Ssd1306Dev) (scroll : ScrollType) (l : OledLink) :
    OledLink :=
  (legacyTransfer panel (fun cmd =>
    let cmd := i2cMasterWriteBytes [writeAddress dev, 0x00] cmd
    match scroll with
    | .right => i2cMasterWriteBytes [0x26, 0x00, 0x00, 0x07, 0x07, 0x00, 0xFF, 0x2F] cmd
    | .left => i2cMasterWriteBytes [0x27, 0x00, 0x00, 0x07, 0x07, 0x00, 0xFF, 0x2F] cmd
    | .down => legacyVerticalScroll dev 0x3F cmd
    | .up => legacyVerticalScroll dev 0x01 cmd
    | .stop => i2cMasterWriteByte 0x2E cmd
    | .pageDown | .pageUp => cmd) l).2

/-- The functions of `ssd1306.c` that choose by the address of the device, in a build with
`ssd1306_i2c_legacy.c`. -/
def LinkCall.execLegacy (panel : ℕ) (call : LinkCall) (s : Ssd1306Dev × OledLink) :
    Ssd1306Dev × OledLink :=
  match call with
  | init width height =>
      let r := if s.1.address = spiAddress then spiInit width height s.1 s.2
        else legacyInit panel width height s.1 s.2
      ({ r.2.1 with page := Frame.ofSeg fun p c => if p < r.2.1.pages then 0 else s.1.page.seg p c },
        r.2.2)
  | image page seg images =>
      (s.1, if s.1.address = spiAddress then spiDisplayImage s.1 page seg images s.2
        else legacyDisplayImage panel s.1 page seg images s.2)
  | contrast level =>
      (s.1, if s.1.address = spiAddress then spiContrast level s.2
        else legacyContrast panel s.1 level s.2)
  | hardwareScroll scroll =>
      (s.1, if s.1.address = spiAddress then spiHardwareScroll s.1 scroll s.2
        else legacyHardwareScroll panel s.1 scroll s.2)

/-! ## What is in a link -/

/-- A link that has been started and holds these bytes, in whatever pieces. -/
def Writes (bytes : List UInt8) (cmd : CmdLink) : Prop :=
  ∃ pieces : List (List UInt8), pieces.flatten = bytes ∧ cmd = some (.start :: pieces.map .write)

namespace Writes

variable {held : List UInt8} {cmd : CmdLink}

theorem piece (h : Writes held cmd) (data : List UInt8) :
    Writes (held ++ data) (cmd.map fun ops => ops ++ [.write data]) := by
  rcases h with ⟨pieces, hheld, hcmd⟩
  refine ⟨pieces ++ [data], by simp [hheld], ?_⟩
  rw [hcmd, Option.map_some, List.map_append, List.cons_append, List.map_singleton]

theorem byte (h : Writes held cmd) (byte : UInt8) :
    Writes (held ++ [byte]) (i2cMasterWriteByte byte cmd) :=
  h.piece [byte]

theorem data (h : Writes held cmd) (data : List UInt8) :
    Writes (held ++ data) (i2cMasterWrite data cmd) := by
  unfold i2cMasterWrite
  split
  next hnone =>
    rwa [List.length_eq_zero_iff.1 hnone, List.append_nil]
  next =>
    exact h.piece data

theorem bytes (h : Writes held cmd) (more : List UInt8) :
    Writes (held ++ more) (i2cMasterWriteBytes more cmd) := by
  induction more generalizing held cmd with
  | nil =>
      rwa [List.append_nil]
  | cons byte more ih =>
      have hrest := ih (h.byte byte)
      rwa [List.append_assoc, List.singleton_append] at hrest

/-- A byte that is written under a condition. -/
theorem byte_if (h : Writes held cmd) (p : Prop) [Decidable p] (byte : UInt8) :
    Writes (held ++ if p then [byte] else []) (if p then i2cMasterWriteByte byte cmd else cmd) := by
  split
  · exact h.byte byte
  · rwa [List.append_nil]

/-- One of two bytes. -/
theorem byte_choice (h : Writes held cmd) (p : Prop) [Decidable p] (byte byte' : UInt8) :
    Writes (held ++ if p then [byte] else [byte'])
      (if p then i2cMasterWriteByte byte cmd else i2cMasterWriteByte byte' cmd) := by
  split
  · exact h.byte byte
  · exact h.byte byte'

theorem verticalScroll (h : Writes held cmd) (dev : Ssd1306Dev) (offset : UInt8) :
    Writes (held ++ ([0x29, 0x00, 0x00, 0x07, 0x00, offset, 0xA3, 0x00] ++
        (if dev.height = 64 then [0x40] else []) ++
        (if dev.height = 32 then [0x20] else []) ++ [0x2F])) (legacyVerticalScroll dev offset cmd) := by
  have hall := (((h.bytes [0x29, 0x00, 0x00, 0x07, 0x00, offset, 0xA3, 0x00]).byte_if
    (dev.height = 64) 0x40).byte_if (dev.height = 32) 0x20).byte 0x2F
  simpa only [legacyVerticalScroll, List.append_assoc] using hall

end Writes

/-- The pieces of a started link are one message with the bytes of all of them. -/
theorem messages_pieces (pieces : List (List UInt8)) (sent : List UInt8) :
    LinkOp.messages (pieces.map .write ++ [.stop]) (some sent) = [sent ++ pieces.flatten] := by
  induction pieces generalizing sent with
  | nil =>
      simp [LinkOp.messages]
  | cons piece pieces ih =>
      calc
        LinkOp.messages ((piece :: pieces).map .write ++ [.stop]) (some sent)
          = LinkOp.messages (pieces.map .write ++ [.stop]) (some (sent ++ piece)) := rfl
        _ = [(sent ++ piece) ++ pieces.flatten] := ih _
        _ = [sent ++ (piece :: pieces).flatten] := by rw [List.append_assoc, List.flatten_cons]

/-- A link that starts with the address of the panel is one transfer of what follows. -/
theorem cmdBegin_eq {panel : ℕ} {bytes : List UInt8} {cmd : CmdLink}
    (h : Writes (UInt8.ofNat (panel * 2) :: bytes) cmd) (l : OledLink) :
    i2cMasterCmdBegin panel (i2cMasterStop cmd) l = i2cMasterTransmit bytes l := by
  rcases h with ⟨pieces, hbytes, hcmd⟩
  have hmessages : LinkOp.messages (.start :: pieces.map .write ++ [.stop]) none =
      [UInt8.ofNat (panel * 2) :: bytes] := by
    rw [← hbytes]
    exact messages_pieces pieces []
  simp only [hcmd, i2cMasterStop, Option.map_some, i2cMasterCmdBegin, hmessages, i2cMasterTransmit,
    List.flatMap_singleton, heardAt, if_true]

/-! ## The same as with the new driver -/

/-- A link without the count of its allocations, which the two drivers do not share. -/
def OledLink.bare (l : OledLink) : OledLink :=
  { l with allocations := 0 }

theorem OledLink.bare_wire (l : OledLink) : l.bare.wire = l.wire :=
  rfl

theorem OledLink.bare_transmits (l : OledLink) : l.bare.transmits = l.transmits :=
  rfl

theorem OledLink.bare_mallocs (l : OledLink) : l.bare.mallocs = l.mallocs :=
  rfl

theorem transmit_bare (buffer : List UInt8) (l : OledLink) :
    (i2cMasterTransmit buffer l).2.bare = (i2cMasterTransmit buffer l.bare).2 :=
  rfl

section Calls

variable {panel : ℕ} {dev : Ssd1306Dev} {l : OledLink}

theorem writeAddress_eq (hdev : dev.address = panel) : writeAddress dev = UInt8.ofNat (panel * 2) := by
  have hbyte : ((panel : ℤ) * 2 % 2 ^ 8).toNat = panel * 2 % 2 ^ 8 := by
    omega
  rw [writeAddress, hdev, UInt8.ofInt, hbyte]
  exact UInt8.toNat.inj (by simp)

/-- As long as there is memory, a link is one transfer of what it is filled with. -/
theorem legacyTransfer_bare (hmalloc : ∀ n, l.mallocs n = true) (hdev : dev.address = panel)
    {fill : CmdLink → CmdLink} {bytes : List UInt8}
    (hfill : ∀ cmd, Writes [] cmd → Writes (writeAddress dev :: bytes) (fill cmd)) :
    (legacyTransfer panel fill l).2.bare = (i2cMasterTransmit bytes l.bare).2 := by
  have hstart : Writes [] (i2cMasterStart (i2cCmdLinkCreate l).1) :=
    ⟨[], rfl, by simp [i2cCmdLinkCreate, i2cMasterStart, hmalloc]⟩
  have hwrites := hfill _ hstart
  rw [writeAddress_eq hdev] at hwrites
  rw [legacyTransfer, cmdBegin_eq hwrites, transmit_bare]
  rfl

theorem legacyInit_bare (hmalloc : ∀ n, l.mallocs n = true) (hdev : dev.address = panel)
    (width height : ℕ) :
    (legacyInit panel width height dev l).2.2.bare =
      (i2cMasterTransmit (0x00 :: i2cInitCommands (dev.sized width height)) l.bare).2 := by
  have hdev' : (dev.sized width height).address = panel := hdev
  refine legacyTransfer_bare hmalloc hdev' fun cmd hcmd => ?_
  generalize dev.sized width height = dev
  have hmux := ((hcmd.bytes [writeAddress dev, 0x00, 0xAE, 0xA8]).byte_if
    (dev.height = 64) 0x3F).byte_if (dev.height = 32) 0x1F
  have hremap := (hmux.bytes [0xD3, 0x00, 0x40]).byte_choice (dev.flip = true) 0xA0 0xA1
  have hpins := ((hremap.bytes [0xC8, 0xD5, 0x80, 0xDA]).byte_if
    (dev.height = 64) 0x12).byte_if (dev.height = 32) 0x02
  have hall := hpins.bytes
    [0x81, 0xFF, 0xA4, 0xDB, 0x40, 0x20, 0x02, 0x00, 0x10, 0x8D, 0x14, 0x2E, 0xA6, 0xAF]
  simpa only [i2cInitCommands, List.append_assoc, List.nil_append, List.cons_append] using hall

theorem legacyDisplayImage_bare (hmalloc : ∀ n, l.mallocs n = true) (hdev : dev.address = panel)
    {page seg : ℕ} (hpage : page < dev.pages) (hseg : seg < dev.width) (images : List UInt8) :
    (legacyDisplayImage panel dev page seg images l).bare =
      (i2cMasterTransmit (0x40 :: images)
        (i2cMasterTransmit (0x00 :: pointerCommands dev page seg) l.bare).2).2 := by
  rw [legacyDisplayImage, if_neg (by omega), if_neg (by omega)]
  have hfill := fun cmd (hcmd : Writes [] cmd) =>
    (((hcmd.bytes [writeAddress dev, 0x00]).byte (0x00 + (UInt8.ofNat seg &&& 0x0F))).byte
      (0x10 + (UInt8.ofNat (seg / 16) &&& 0x0F))).byte
      (0xB0 ||| UInt8.ofNat (if dev.flip = true then dev.pages - page - 1 else page))
  have hpointers := legacyTransfer_bare hmalloc hdev hfill
  change _ = (i2cMasterTransmit (0x00 :: pointerCommands dev page seg) l.bare).2 at hpointers
  rw [← hpointers]
  refine legacyTransfer_bare (fun n => ?_) hdev fun cmd hcmd =>
    (hcmd.bytes [writeAddress dev, 0x40]).data images
  exact (congrArg (fun l : OledLink => l.mallocs n) hpointers).trans (hmalloc n)

theorem legacyContrast_bare (hmalloc : ∀ n, l.mallocs n = true) (hdev : dev.address = panel)
    (contrast : ℤ) :
    (legacyContrast panel dev contrast l).bare = i2cContrast contrast l.bare := by
  have hlevel := (contrast_level contrast).1.trans (contrast_level contrast).2.symm
  rw [i2cContrast, hlevel]
  exact legacyTransfer_bare hmalloc hdev fun cmd hcmd => hcmd.bytes [writeAddress dev, 0x00, 0x81, _]

theorem legacyHardwareScroll_bare (hmalloc : ∀ n, l.mallocs n = true) (hdev : dev.address = panel)
    (scroll : ScrollType) :
    (legacyHardwareScroll panel dev scroll l).bare = i2cHardwareScroll dev scroll l.bare := by
  refine legacyTransfer_bare hmalloc hdev fun cmd hcmd => ?_
  have hstarted := hcmd.bytes [writeAddress dev, 0x00]
  cases scroll with
  | right =>
      exact hstarted.bytes _
  | left =>
      exact hstarted.bytes _
  | down =>
      exact hstarted.verticalScroll dev 0x3F
  | up =>
      exact hstarted.verticalScroll dev 0x01
  | stop =>
      exact hstarted.byte 0x2E
  | pageDown =>
      exact hstarted
  | pageUp =>
      exact hstarted

end Calls

theorem exec_mallocs (call : LinkCall) {dev : Ssd1306Dev} (hi2c : dev.address ≠ spiAddress)
    (l : OledLink) : (call.exec (dev, l)).2.mallocs = l.mallocs := by
  cases call with
  | init width height =>
      simp only [LinkCall.exec, if_neg hi2c]
      rfl
  | image page seg images =>
      simp only [LinkCall.exec, if_neg hi2c, i2cDisplayImage]
      split
      · rfl
      · split
        · rfl
        · split <;> rfl
  | contrast level =>
      simp only [LinkCall.exec, if_neg hi2c]
      rfl
  | hardwareScroll scroll =>
      simp only [LinkCall.exec, if_neg hi2c]
      rfl

/-- The same device, which has the address of the panel, at links that differ in their allocations
only. -/
structure SameLink (panel : ℕ) (s s' : Ssd1306Dev × OledLink) : Prop where
  dev_eq : s.1 = s'.1
  bare_eq : s.2.bare = s'.2.bare
  address_eq : s.1.address = panel
  malloc : ∀ n, s.2.mallocs n = true

theorem exec_bare (call : LinkCall) {panel : ℕ} {dev : Ssd1306Dev} (hi2c : dev.address ≠ spiAddress)
    (hdev : dev.address = panel) {l l' : OledLink} (hmalloc : ∀ n, l.mallocs n = true)
    (hbare : l.bare = l'.bare) :
    (call.execLegacy panel (dev, l)).1 = (call.exec (dev, l')).1 ∧
      (call.execLegacy panel (dev, l)).2.bare = (call.exec (dev, l')).2.bare := by
  cases call with
  | init width height =>
      simp only [LinkCall.execLegacy, LinkCall.exec, if_neg hi2c]
      refine ⟨rfl, ?_⟩
      rw [legacyInit_bare hmalloc hdev, hbare]
      rfl
  | image page seg images =>
      simp only [LinkCall.execLegacy, LinkCall.exec, if_neg hi2c]
      refine ⟨trivial, ?_⟩
      by_cases hpage : dev.pages ≤ page
      · rw [legacyDisplayImage, i2cDisplayImage, if_pos hpage, if_pos hpage, hbare]
      by_cases hseg : dev.width ≤ seg
      · rw [legacyDisplayImage, i2cDisplayImage, if_neg hpage, if_neg hpage, if_pos hseg, if_pos hseg,
          hbare]
      have hmalloc' : l'.mallocs l'.allocations = true := by
        rw [← l'.bare_mallocs, ← hbare]
        exact hmalloc _
      rw [legacyDisplayImage_bare hmalloc hdev (not_le.1 hpage) (not_le.1 hseg), i2cDisplayImage,
        if_neg hpage, if_neg hseg, hbare, hmalloc']
      rfl
  | contrast level =>
      simp only [LinkCall.execLegacy, LinkCall.exec, if_neg hi2c]
      refine ⟨trivial, ?_⟩
      rw [legacyContrast_bare hmalloc hdev, hbare]
      rfl
  | hardwareScroll scroll =>
      simp only [LinkCall.execLegacy, LinkCall.exec, if_neg hi2c]
      refine ⟨trivial, ?_⟩
      rw [legacyHardwareScroll_bare hmalloc hdev, hbare]
      rfl

/-- What a call keeps. -/
theorem SameLink.exec {panel : ℕ} (hpanel : panel < 0x80) {s s' : Ssd1306Dev × OledLink}
    (h : SameLink panel s s') (call : LinkCall) :
    SameLink panel (call.execLegacy panel s) (call.exec s') := by
  rcases s with ⟨dev, l⟩
  rcases s' with ⟨dev', l'⟩
  have hsame : dev = dev' := h.dev_eq
  subst hsame
  have hi2c : dev.address ≠ spiAddress := by
    have hdev : dev.address = panel := h.address_eq
    rw [hdev, spiAddress]
    omega
  rcases exec_bare call hi2c h.address_eq h.malloc h.bare_eq with ⟨hdevice, hlink⟩
  refine ⟨hdevice, hlink, ?_, fun n => ?_⟩
  · rw [hdevice, (exec_i2c_wire call hi2c l').1, LinkCall.sets_address]
    exact h.address_eq
  · rw [← OledLink.bare_mallocs, hlink, OledLink.bare_mallocs, exec_mallocs call hi2c,
      ← OledLink.bare_mallocs, ← h.bare_eq]
    exact h.malloc n

namespace LinkCall

/-- One call after the other, in a build with `ssd1306_i2c_legacy.c`. -/
def runLegacy (panel : ℕ) (calls : List LinkCall) (s : Ssd1306Dev × OledLink) :
    Ssd1306Dev × OledLink :=
  calls.foldl (fun s call => call.execLegacy panel s) s

/-- The two drivers for the I2C bus agree: as long as there is memory, whatever is called and whatever
transfers fail, the device comes out the same and the controller gets the same. -/
theorem legacy_agrees (calls : List LinkCall) {panel : ℕ} (hpanel : panel < 0x80) {dev : Ssd1306Dev}
    (hdev : dev.address = panel) {l : OledLink} (hmalloc : ∀ n, l.mallocs n = true) :
    (runLegacy panel calls (dev, l)).1 = (run calls (dev, l)).1 ∧
      (runLegacy panel calls (dev, l)).2.wire = (run calls (dev, l)).2.wire ∧
      (runLegacy panel calls (dev, l)).2.transmits = (run calls (dev, l)).2.transmits := by
  have hrun : SameLink panel (runLegacy panel calls (dev, l)) (run calls (dev, l)) :=
    List.foldl_rel ⟨rfl, rfl, hdev, hmalloc⟩ fun call _ s s' hs => hs.exec hpanel call
  refine ⟨hrun.dev_eq, ?_, ?_⟩
  · rw [← OledLink.bare_wire, hrun.bare_eq, OledLink.bare_wire]
  · rw [← OledLink.bare_transmits, hrun.bare_eq, OledLink.bare_transmits]

/-- The second transfer fails: the pointers of the image do not arrive, its data does. -/
theorem legacy_agrees_lost :
    let calls : List LinkCall := [.contrast 300, .image 1 0 [0xF0]]
    let l : OledLink := { idleLink with answers := fun n => if n = 1 then espFail else espOk }
    (runLegacy 0x3C calls (Ssd1306Dev.panel128x64, l)).2.wire =
      [.command 0x81, .command 0xFF, .data 0xF0] := by
  intro calls l
  have hmalloc : ∀ n, l.mallocs n = true := fun _ => rfl
  exact (legacy_agrees calls (by decide) rfl hmalloc).2.1

end LinkCall

end Oled
end MainboardFirmware
